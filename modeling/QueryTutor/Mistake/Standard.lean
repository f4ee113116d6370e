import QueryTutor.Mistake.Basic

/-!
# Standard mistakes

The mistakes that every installation knows, in the order in which they are looked for.
-/

namespace QueryTutor.Mistake.Standard

/-- Selecting all columns. -/
def selectStar : Mistake where
  id := "select-star"
  name := "SELECT * Anti-pattern"
  patterns := [
      "SELECT\\s+\\*\\s+FROM",
      "SELECT\\s+\\*\\s*,"]
  issue := "Using SELECT * retrieves all columns, even those you don't need."
  correction := "Explicitly list only the columns you need: SELECT id, name, email FROM users"
  impact :=
    "In production, SELECT * can transfer megabytes of unnecessary data, slow down queries "
      ++ "by 10-100x, and break applications when schema changes add new columns."
  prevention := "Always specify column names explicitly. Create views for common column sets."
  wrong := "SELECT * FROM users WHERE active = true;"
  right := "SELECT id, name, email FROM users WHERE active = true;"
  severity := .medium
  category := .performance

/-- Changing or deleting rows without a condition. -/
def missingWhere : Mistake where
  id := "missing-where"
  name := "Missing WHERE Clause"
  patterns := [
      "^(?!.*\\bWHERE\\b)(?=.*\\bDELETE\\s+FROM\\b).*$",
      "^(?!.*\\bWHERE\\b)(?=.*\\bUPDATE\\s+[\\w.\"]+\\s+SET\\b).*$"]
  issue := "UPDATE or DELETE without WHERE affects ALL rows in the table."
  correction := "Always include a WHERE clause to target specific rows."
  impact :=
    "A missing WHERE clause in production once deleted 77 million user records at GitLab, "
      ++ "causing 6 hours of downtime. This is one of the most dangerous SQL mistakes."
  prevention :=
    "Use transactions, test with SELECT first, and implement database safeguards that reject "
      ++ "WHERE-less mutations."
  wrong := "DELETE FROM orders;"
  right := "DELETE FROM orders WHERE status = 'cancelled' AND created_at < '2024-01-01';"
  severity := .critical
  category := .dataIntegrity

/-- Text from outside spliced into a query. -/
def sqlInjectionRisk : Mistake where
  id := "sql-injection-risk"
  name := "Potential SQL Injection"
  patterns := [
      "'\\s*\\+\\s*\\w+\\s*\\+\\s*'",
      "'\\s*\\|\\|\\s*\\w+",
      "CONCAT\\s*\\(\\s*['\\\"]",
      "'\\s*OR\\s*'1'\\s*=\\s*'1'",
      "'\\s*;\\s*DROP",
      "--\\s*$"]
  issue := "String concatenation in queries can allow SQL injection attacks."
  correction := "Use parameterized queries or prepared statements instead."
  impact :=
    "SQL injection remains the #1 web vulnerability. In 2017, Equifax was breached via SQL "
      ++ "injection, exposing 147 million records and costing $700M+ in settlements."
  prevention :=
    "Never concatenate user input into queries. Use parameterized queries, ORMs, or prepared "
      ++ "statements."
  wrong := "SELECT * FROM users WHERE name = '\" + user_input + \"';"
  right := "SELECT * FROM users WHERE name = $1; -- with parameterized input"
  severity := .critical
  category := .security

/-- Tables joined by commas. -/
def implicitJoin : Mistake where
  id := "implicit-join"
  name := "Implicit JOIN (Comma Syntax)"
  patterns := ["\\bFROM\\s+\\w+(?:\\s+(?:AS\\s+)?\\w+)?\\s*,\\s*\\w+"]
  issue :=
    "Comma-separated tables create implicit CROSS JOINs, which are hard to read and error-prone."
  correction := "Use explicit JOIN syntax with ON conditions."
  impact :=
    "Implicit joins make code reviews harder and often hide missing join conditions, causing "
      ++ "incorrect results or massive Cartesian products that crash databases."
  prevention := "Always use explicit JOIN keywords. Configure linters to flag comma joins."
  wrong := "SELECT * FROM orders, customers WHERE orders.customer_id = customers.id;"
  right := "SELECT * FROM orders INNER JOIN customers ON orders.customer_id = customers.id;"
  severity := .medium
  category := .style

/-- Joins that spell out table names. -/
def notUsingAliases : Mistake where
  id := "not-using-aliases"
  name := "Missing Table Aliases"
  patterns := ["\\bJOIN\\s+\\w+\\s+ON\\s+\\w+\\.\\w+\\s*="]
  issue := "Long table names repeated throughout queries reduce readability."
  correction := "Use short, meaningful aliases for tables."
  impact :=
    "Without aliases, complex queries become unreadable and maintenance-prone. Teams waste "
      ++ "hours debugging ambiguous column references."
  prevention := "Establish naming conventions for aliases (first letter or short abbreviation)."
  wrong :=
    "SELECT orders.id, customers.name FROM orders JOIN customers ON orders.customer_id = "
      ++ "customers.id;"
  right := "SELECT o.id, c.name FROM orders o JOIN customers c ON o.customer_id = c.id;"
  severity := .low
  category := .style

/-- Rows fetched one at a time. -/
def nPlusOne : Mistake where
  id := "n-plus-one"
  name := "N+1 Query Pattern"
  patterns := [
      "^(?:(?!SELECT).)*SELECT.*WHERE\\s+\\w+\\s*=\\s*\\?",
      "^(?:(?!SELECT).)*SELECT.*WHERE\\s+id\\s*=\\s*\\d+"]
  issue := "Fetching related data one row at a time causes excessive database roundtrips."
  correction := "Use JOINs or batch queries with IN clauses."
  impact :=
    "N+1 queries are the #1 cause of slow page loads. A page showing 50 products with "
      ++ "categories makes 51 queries instead of 1-2, often adding 5-10 seconds to load time."
  prevention := "Use eager loading in ORMs. Monitor query counts per request. Use batch fetching."
  wrong :=
    "-- For each order:\nSELECT * FROM order_items WHERE order_id = 1;\nSELECT * FROM "
      ++ "order_items WHERE order_id = 2;\n-- ...repeated N times"
  right := "SELECT * FROM order_items WHERE order_id IN (1, 2, 3, ...);"
  severity := .high
  category := .performance
  heuristic := true

/-- A search pattern that begins with a wildcard. -/
def likeWildcardStart : Mistake where
  id := "like-wildcard-start"
  name := "Leading Wildcard in LIKE"
  patterns := ["LIKE\\s+[\\'\"]%"]
  issue := "LIKE patterns starting with % cannot use indexes, forcing full table scans."
  correction := "Restructure queries to avoid leading wildcards, or use full-text search."
  impact :=
    "A LIKE '%search%' on a million-row table can take 10+ seconds. Full-text search indexes "
      ++ "can return results in milliseconds."
  prevention :=
    "Use full-text search (PostgreSQL tsvector, MySQL FULLTEXT, Elasticsearch). Consider "
      ++ "search-optimized columns."
  wrong := "SELECT * FROM products WHERE name LIKE '%phone%';"
  right := "SELECT * FROM products WHERE to_tsvector('english', name) @@ to_tsquery('phone');"
  severity := .high
  category := .performance

/-- Comparing with NULL. -/
def nullComparison : Mistake where
  id := "null-comparison"
  name := "NULL Comparison Error"
  patterns := ["\\b(?:WHERE|AND|OR|ON|HAVING)\\s+[\\w.]+\\s*(?:=|!=|<>)\\s*NULL\\b"]
  issue := "NULL cannot be compared with = or !=. These comparisons always return NULL (unknown)."
  correction := "Use IS NULL or IS NOT NULL for NULL comparisons."
  impact :=
    "This logic error silently returns wrong results. WHERE status != 'deleted' won't return "
      ++ "rows where status is NULL, potentially hiding data."
  prevention := "Understand three-valued logic in SQL. Use COALESCE to handle NULLs explicitly."
  wrong := "SELECT * FROM users WHERE deleted_at = NULL;"
  right := "SELECT * FROM users WHERE deleted_at IS NULL;"
  severity := .high
  category := .correctness

/-- A grouped query that selects further columns. -/
def groupByNonAggregated : Mistake where
  id := "group-by-non-aggregated"
  name := "Non-aggregated Column in GROUP BY"
  patterns := [
      "^(?:(?!\\bSELECT\\s+\\w+(?:\\.\\w+)?\\s*,\\s*\\w+(?:\\.\\w+)?\\s*,).)*"
        ++ "\\bSELECT\\s+\\w+(?:\\.\\w+)?\\s*,\\s*\\w+(?:\\.\\w+)?\\s*,"
        ++ "(?:(?!\\b(?:COUNT|SUM|AVG|MIN|MAX)\\s*\\().)*\\b(?:COUNT|SUM|AVG|MIN|MAX)\\s*\\("
        ++ ".*\\bGROUP\\s+BY\\s+\\w+(?:\\.\\w+)?\\s*(?:;|$|\\bHAVING\\b|\\bORDER\\b|\\bLIMIT\\b)"]
  issue := "Selecting columns not in GROUP BY or aggregate functions returns unpredictable results."
  correction := "Include all selected columns in GROUP BY or wrap them in aggregate functions."
  impact :=
    "MySQL's permissive mode hides this error, causing silent data corruption. Results vary "
      ++ "between executions, making bugs extremely hard to track."
  prevention := "Enable ONLY_FULL_GROUP_BY mode in MySQL. PostgreSQL enforces this by default."
  wrong := "SELECT customer_id, order_date, SUM(amount) FROM orders GROUP BY customer_id;"
  right := "SELECT customer_id, MAX(order_date), SUM(amount) FROM orders GROUP BY customer_id;"
  severity := .high
  category := .correctness

/-- Sorting by a random number. -/
def orderByRand : Mistake where
  id := "order-by-rand"
  name := "ORDER BY RANDOM() Antipattern"
  patterns := [
      "ORDER\\s+BY\\s+RAND\\s*\\(\\s*\\)",
      "ORDER\\s+BY\\s+RANDOM\\s*\\(\\s*\\)",
      "ORDER\\s+BY\\s+NEWID\\s*\\(\\s*\\)"]
  issue := "ORDER BY RANDOM() scans and sorts the entire table, even for LIMIT 1."
  correction := "Use offset-based random selection or pre-generated random columns."
  impact :=
    "On a table with 1M rows, ORDER BY RANDOM() LIMIT 1 takes 2-5 seconds instead of "
      ++ "milliseconds, potentially crashing your database under load."
  prevention := "For random samples, use TABLESAMPLE or application-side random ID generation."
  wrong := "SELECT * FROM products ORDER BY RANDOM() LIMIT 5;"
  right :=
    "SELECT * FROM products WHERE id >= (SELECT FLOOR(RANDOM() * (SELECT MAX(id) FROM "
      ++ "products))) LIMIT 5;"
  severity := .medium
  category := .performance

/-- DISTINCT over a join. -/
def distinctOveruse : Mistake where
  id := "distinct-overuse"
  name := "DISTINCT as a Band-Aid"
  patterns := ["^(?:(?!\\bSELECT\\s+DISTINCT\\b).)*\\bSELECT\\s+DISTINCT\\b.*\\bJOIN\\b"]
  issue := "DISTINCT often masks underlying JOIN problems that create duplicates."
  correction := "Fix the root cause (incorrect joins) instead of hiding duplicates with DISTINCT."
  impact :=
    "DISTINCT sorts the entire result set, which is expensive. The hidden join bug may also "
      ++ "cause incorrect counts or aggregations elsewhere."
  prevention :=
    "If you need DISTINCT, ask why duplicates exist. Often it's a many-to-many join issue."
  wrong := "SELECT DISTINCT customer_name FROM customers c JOIN orders o ON c.id = o.customer_id;"
  right :=
    "SELECT customer_name FROM customers WHERE EXISTS (SELECT 1 FROM orders WHERE "
      ++ "customer_id = customers.id);"
  severity := .medium
  category := .correctness

/-- A query for each row inside the selection. -/
def subqueryInSelect : Mistake where
  id := "subquery-in-select"
  name := "Correlated Subquery in SELECT"
  patterns := [
      "\\bSELECT\\b"
        ++ "(?:(?!\\b(?:SELECT|FROM)\\b)[^;])*?\\(\\s*SELECT\\b"
        ++ "(?:(?!\\b(?:SELECT|FROM)\\b)[^;])*\\bFROM\\b"
        ++ "(?:(?!\\b(?:SELECT|FROM)\\b)[^;])*?\\bWHERE\\b"]
  issue := "Correlated subqueries in SELECT execute once per row, causing O(n^2) performance."
  correction := "Rewrite as a JOIN or use window functions."
  impact :=
    "A report with 10,000 rows and a correlated subquery runs 10,000+ queries. What should "
      ++ "take 100ms takes 30+ seconds."
  prevention := "Profile queries with EXPLAIN. Look for \"dependent subquery\" warnings."
  wrong := "SELECT name, (SELECT COUNT(*) FROM orders WHERE customer_id = c.id) FROM customers c;"
  right :=
    "SELECT c.name, COUNT(o.id) FROM customers c LEFT JOIN orders o ON c.id = o.customer_id "
      ++ "GROUP BY c.id, c.name;"
  severity := .high
  category := .performance

/-- One column compared with several values by OR. -/
def orVsUnion : Mistake where
  id := "or-vs-union"
  name := "Multiple OR Conditions"
  patterns := [
      "\\b(\\w+(?:\\.\\w+)?)\\s*=\\s*[^\\s=]+\\s+OR\\s+\\1\\s*=\\s*[^\\s=]+\\s+OR\\s+\\1\\s*="]
  issue := "Multiple OR conditions often prevent index usage and create complex execution plans."
  correction := "Use IN clause or UNION ALL for better index utilization."
  impact :=
    "OR conditions on different columns prevent index intersection in many databases, "
      ++ "causing full table scans."
  prevention := "Use IN for same-column conditions. Consider UNION ALL for cross-column OR logic."
  wrong := "SELECT * FROM products WHERE category = 'A' OR category = 'B' OR category = 'C';"
  right := "SELECT * FROM products WHERE category IN ('A', 'B', 'C');"
  severity := .medium
  category := .performance

/-- Counting a column. -/
def countStarVsColumn : Mistake where
  id := "count-star-vs-column"
  name := "COUNT(*) vs COUNT(column) Confusion"
  patterns := ["\\bCOUNT\\s*\\(\\s*(?!DISTINCT\\b)[A-Za-z_]\\w*\\s*\\)"]
  issue := "COUNT(column) ignores NULLs, which may not be intended. COUNT(*) counts all rows."
  correction :=
    "Use COUNT(*) for row counts, COUNT(column) only when NULL exclusion is intentional."
  impact :=
    "Reports showing \"500 orders\" when COUNT(discount_code) was used miss the 200 orders "
      ++ "without discounts, causing incorrect business decisions."
  prevention := "Be explicit about intent. Add comments explaining why COUNT(column) is used."
  wrong := "SELECT COUNT(email) FROM users; -- excludes users without email"
  right := "SELECT COUNT(*) FROM users; -- counts all users"
  severity := .medium
  category := .correctness

/-- Filtering on a column that often lacks an index. -/
def missingIndexHint : Mistake where
  id := "missing-index-hint"
  name := "Filtering on Non-indexed Column"
  patterns := [
      "WHERE\\s+(?:created_at|updated_at|status|type|"
        ++ "category|is_active|is_deleted)\\s*(?:=|>|<|LIKE)"]
  issue := "Frequently filtered columns without indexes cause full table scans."
  correction := "Create indexes on columns used in WHERE, JOIN, and ORDER BY clauses."
  impact :=
    "A missing index on a datetime filter can make a \"get recent orders\" query 1000x "
      ++ "slower as the table grows."
  prevention :=
    "Use EXPLAIN to check query plans. Monitor slow query logs. Create composite indexes for "
      ++ "common filter combinations."
  wrong := "-- No index on 'status'\nSELECT * FROM orders WHERE status = 'pending';"
  right :=
    "-- After: CREATE INDEX idx_orders_status ON orders(status);\nSELECT * FROM orders WHERE "
      ++ "status = 'pending';"
  severity := .high
  category := .performance
  heuristic := true

/-- HAVING without groups. -/
def havingWithoutGroupBy : Mistake where
  id := "having-without-group-by"
  name := "HAVING Without GROUP BY"
  patterns := ["^(?!.*\\bGROUP\\s+BY\\b).*\\bHAVING\\b"]
  issue := "HAVING filters groups, but the query never groups its rows."
  correction := "Use WHERE to filter rows, or add GROUP BY before HAVING."
  impact :=
    "Without GROUP BY the whole table becomes one group, so HAVING either returns every row "
      ++ "or nothing. Reports built on it silently show all-or-nothing totals."
  prevention := "Filter rows with WHERE and groups with HAVING. Write GROUP BY first, then HAVING."
  wrong := "SELECT customer_id, amount FROM orders HAVING amount > 100;"
  right := "SELECT customer_id, amount FROM orders WHERE amount > 100;"
  severity := .medium
  category := .correctness

/-- LIKE without a wildcard. -/
def likeWithoutWildcard : Mistake where
  id := "like-without-wildcard"
  name := "Inefficient LIKE Usage"
  patterns := ["\\bLIKE\\s+'[^'%_]*'"]
  issue := "LIKE without any wildcard is just an equality test written the slow way."
  correction := "Use = for exact matches, and LIKE only when the pattern contains % or _."
  impact :=
    "Some planners skip index lookups for LIKE, so an exact match written as LIKE can scan "
      ++ "the whole table."
  prevention := "Reach for LIKE only when you need pattern matching."
  wrong := "SELECT * FROM users WHERE email LIKE 'ann@example.com';"
  right := "SELECT * FROM users WHERE email = 'ann@example.com';"
  severity := .low
  category := .style

/-- AND and OR mixed without parentheses. -/
def andOrPrecedence : Mistake where
  id := "and-or-precedence"
  name := "Logic Error with AND/OR"
  patterns := [
      "\\bWHERE\\b(?:(?!\\b(?:AND|WHERE)\\b)[^();])*\\bAND\\b(?:(?!\\bWHERE\\b)[^();])*?\\bOR\\b",
      "\\bWHERE\\b(?:(?!\\b(?:OR|WHERE)\\b)[^();])*\\bOR\\b(?:(?!\\bWHERE\\b)[^();])*?\\bAND\\b"]
  issue := "Mixing AND and OR without parentheses relies on operator precedence (AND binds first)."
  correction := "Wrap OR branches in parentheses so the grouping is explicit."
  impact :=
    "WHERE status = 'active' AND role = 'admin' OR role = 'owner' returns inactive owners "
      ++ "too, a classic source of permission leaks."
  prevention := "Always parenthesize mixed AND/OR conditions."
  wrong := "SELECT * FROM users WHERE status = 'active' AND role = 'admin' OR role = 'owner';"
  right := "SELECT * FROM users WHERE status = 'active' AND (role = 'admin' OR role = 'owner');"
  severity := .medium
  category := .correctness

/-- A value in double quotes. -/
def doubleQuotedString : Mistake where
  id := "double-quoted-string"
  name := "Double-Quoted String Literal"
  patterns := ["(?:=|<>|!=|\\bLIKE|\\bIN\\s*\\()\\s*\"[^\"]*\""]
  issue := "Double quotes mark identifiers in standard SQL, not string values."
  correction := "Use single quotes for string literals: WHERE status = 'active'."
  impact :=
    "PostgreSQL reads \"active\" as a column name and fails, while MySQL accepts it, so the "
      ++ "query breaks when it moves between databases."
  prevention := "Single quotes for values, double quotes only for identifiers that need quoting."
  wrong := "SELECT * FROM users WHERE status = \"active\";"
  right := "SELECT * FROM users WHERE status = 'active';"
  severity := .medium
  category := .correctness

/-- A temporary table. -/
def unnecessaryTempTable : Mistake where
  id := "unnecessary-temp-table"
  name := "Creating Unnecessary Temporary Tables"
  patterns := ["\\bCREATE\\s+(?:LOCAL\\s+|GLOBAL\\s+)?TEMP(?:ORARY)?\\s+TABLE\\b"]
  issue := "Creating temp tables when subqueries or CTEs would suffice."
  correction := "Use subqueries, CTEs (WITH clause), or views instead."
  impact := "Unnecessary disk I/O, slower performance, more complexity."
  prevention :=
    "Use CTEs and subqueries. Only create temp tables for complex, multi-step operations."
  wrong := "CREATE TEMP TABLE active_users AS SELECT * FROM users WHERE status = 'active';"
  right :=
    "WITH active_users AS (SELECT * FROM users WHERE status = 'active') SELECT * FROM active_users;"
  severity := .low
  category := .style

/-- All of them. -/
def all : List Mistake :=
  [selectStar, missingWhere, sqlInjectionRisk, implicitJoin, notUsingAliases, nPlusOne,
    likeWildcardStart, nullComparison, groupByNonAggregated, orderByRand, distinctOveruse,
    subqueryInSelect, orVsUnion, countStarVsColumn, missingIndexHint, havingWithoutGroupBy,
    likeWithoutWildcard, andOrPrecedence, doubleQuotedString, unnecessaryTempTable]

end QueryTutor.Mistake.Standard
