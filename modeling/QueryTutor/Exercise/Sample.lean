import QueryTutor.Exercise.Basic

/-!
# Sample exercises

The exercises that come with every installation, under the names by which they are asked for.
-/

namespace QueryTutor.Exercise.Sample

/-- Two columns of one table. -/
def selectColumns : Exercise where
  title := "Select Specific Columns"
  description :=
    "Write a query to select only the name and email columns from the users table."
  starterCode := "-- Select name and email from users\nSELECT "
  solution :=
    "SELECT name, email FROM users;"
  hints :=
    ["Think about which columns you need",
     "You need to specify columns after SELECT",
     "The columns should be name and email",
     "SELECT name, email FROM users"]
  testCases := some
    [⟨"Contains SELECT keyword", (some ["select"]), none, none,
          some 0.2⟩,
      ⟨"Selects from users table", (some ["from users"]), none, none,
          some 0.2⟩,
      ⟨"Includes name column", none, none, (some ["name"]),
          some 0.3⟩,
      ⟨"Includes email column", none, none, (some ["email"]),
          some 0.3⟩]
  tables := some
    [⟨"users",
        [⟨"id", "INT", none⟩,
          ⟨"name", "VARCHAR(100)", none⟩,
          ⟨"email", "VARCHAR(100)", none⟩,
          ⟨"created_at", "TIMESTAMP", none⟩]⟩]
  forbiddenPatterns := some ["\\*"]
  expectedTables := some ["users"]
  expectedColumns := some ["name", "email"]

/-- Two tables joined. -/
def joinTables : Exercise where
  title := "Join Orders with Customers"
  description :=
    "Write a query that joins the orders table with customers to show order_id, customer_name, "
      ++ "and total_amount."
  starterCode := "-- Join orders with customers\nSELECT "
  solution :=
    "SELECT o.order_id, c.customer_name, o.total_amount\nFROM orders o\nINNER JOIN customers c "
      ++ "ON o.customer_id = c.id;"
  hints :=
    ["You need to combine data from two tables",
     "Use JOIN to connect orders and customers",
     "Join on the customer_id field",
     "SELECT o.order_id, c.customer_name, o.total_amount FROM orders o INNER JOIN customers c "
       ++ "ON o.customer_id = c.id"]
  testCases := some
    [⟨"Uses JOIN keyword", (some ["join"]), none, none,
          some 0.25⟩,
      ⟨"Includes ON condition", (some ["on"]), none, none,
          some 0.25⟩,
      ⟨"References orders table", (some ["orders"]), none, none,
          some 0.15⟩,
      ⟨"References customers table", (some ["customers"]), none, none,
          some 0.15⟩,
      ⟨"Does not use comma join", none,
          (some ["from orders, customers", "from customers, orders"]), none,
          some 0.2⟩]
  tables := some
    [⟨"orders",
        [⟨"order_id", "INT", none⟩,
          ⟨"customer_id", "INT", none⟩,
          ⟨"total_amount", "DECIMAL(10,2)", none⟩,
          ⟨"order_date", "DATE", none⟩]⟩,
      ⟨"customers",
        [⟨"id", "INT", none⟩,
          ⟨"customer_name", "VARCHAR(100)", none⟩,
          ⟨"email", "VARCHAR(100)", none⟩]⟩]
  requiredClauses := some ["JOIN", "ON"]
  expectedTables := some ["orders", "customers"]

/-- Rows counted by group. -/
def countByStatus : Exercise where
  title := "Count Orders by Status"
  description :=
    "Write a query to count the number of orders for each status, showing status and count."
  starterCode := "-- Count orders grouped by status\nSELECT "
  solution :=
    "SELECT status, COUNT(*) as order_count\nFROM orders\nGROUP BY status;"
  hints :=
    ["You need to group results by something",
     "Use GROUP BY to organize by status",
     "COUNT(*) will count rows in each group",
     "SELECT status, COUNT(*) FROM orders GROUP BY status"]
  testCases := some
    [⟨"Uses COUNT function", (some ["count("]), none, none,
          some 0.3⟩,
      ⟨"Uses GROUP BY", (some ["group by"]), none, none,
          some 0.3⟩,
      ⟨"Groups by status", (some ["group by status"]), none, none,
          some 0.2⟩,
      ⟨"Selects from orders", (some ["from orders"]), none, none,
          some 0.2⟩]
  requiredClauses := some ["GROUP BY"]
  expectedTables := some ["orders"]

/-- The samples with their names. -/
def all : List (String × Exercise) :=
  [("select-specific-columns", selectColumns),
    ("join-orders-customers", joinTables),
    ("count-orders-by-status", countByStatus)]

/-- The sample of a name. -/
def named? (slug : String) : Option Exercise :=
  all.lookup slug

end QueryTutor.Exercise.Sample
