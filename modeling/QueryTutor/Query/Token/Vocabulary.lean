import QueryTutor.Query.Token.Basic

/-!
# Vocabulary

The words that the query language keeps for itself, in the dialects that learners meet.  A word that
is none of them is a name.
-/

namespace QueryTutor.Query.Vocabulary

/-- The words with a given first letter by what they are for. -/
def entries : Char → List (Token.Kind × List String)
  | 'A' =>
    [(.keyword,
        ["ABORT", "ABS", "ABSOLUTE", "ACCESS", "ACCOUNT", "ADA", "ADD", "ADMIN", "AFTER",
          "AGGREGATE", "ALIAS", "ALL", "ALLOCATE", "ANALYSE", "ANALYZE", "AND", "ANY", "ARCHIVE",
          "ARCHIVELOG", "ARE", "ARRAYLEN", "ARRAY_CONTAINS", "ASENSITIVE", "ASSERTION",
          "ASSERT_ROWS_MODIFIED", "ASSIGNMENT", "ASYMMETRIC", "AT", "ATOMIC", "ATTACH", "AUDIT",
          "AUTHORIZATION", "AUTO_INCREMENT", "AVG"]),
      (.typeName, ["ARRAY"]),
      (.definition, ["ALTER"])]
  | 'B' =>
    [(.keyword,
        ["BACKUP", "BACKWARD", "BECOME", "BEFORE", "BEGIN", "BETWEEN", "BIGSERIAL", "BITVAR",
          "BIT_LENGTH", "BLOCK", "BODY", "BOTH", "BOX", "BREADTH", "BREAK", "BY", "BYTEA"]),
      (.typeName, ["BIGINT", "BIGNUMERIC", "BINARY", "BIT", "BLOB", "BOOLEAN"])]
  | 'C' =>
    [(.keyword,
        ["CACHE", "CALL", "CALLED", "CANCEL", "CARDINALITY", "CASCADE", "CASCADED", "CAST",
          "CATALOG", "CATALOG_NAME", "CHAIN", "CHANGE", "CHARACTER", "CHARACTERISTICS",
          "CHARACTER_LENGTH", "CHARACTER_SET_CATALOG", "CHARACTER_SET_NAME",
          "CHARACTER_SET_SCHEMA", "CHARSET", "CHAR_LENGTH", "CHECK", "CHECKED", "CHECKPOINT",
          "CIDR", "CIRCLE", "CLASS", "CLASS_ORIGIN", "CLOB", "CLOSE", "CLUSTER", "CMP",
          "COALESCE", "COBOL", "COLLATE", "COLLATION", "COLLATION_CATALOG", "COLLATION_NAME",
          "COLLATION_SCHEMA", "COLLECT", "COLLECT_LIST", "COLUMN", "COLUMN_NAME",
          "COMMAND_FUNCTION", "COMMAND_FUNCTION_CODE", "COMMENT", "COMMITTED", "COMPILE",
          "COMPLETION", "COMPRESS", "CONCAT", "CONCURRENTLY", "CONDITION", "CONDITION_NUMBER",
          "CONFLICT", "CONNECT", "CONNECTION", "CONNECTION_NAME", "CONSTRAINT", "CONSTRAINTS",
          "CONSTRAINT_CATALOG", "CONSTRAINT_NAME", "CONSTRAINT_SCHEMA", "CONSTRUCTOR",
          "CONTAINS", "CONTENTS", "CONTINUE", "CONTROLFILE", "CONVERSION", "CONVERT", "COPY",
          "CORRESPONDING", "COUNT", "CREATEDB", "CREATEUSER", "CROSS", "CUBE", "CURRENT",
          "CURRENT_DATE", "CURRENT_PATH", "CURRENT_ROLE", "CURRENT_TIME", "CURRENT_TIMESTAMP",
          "CURRENT_USER", "CURSOR", "CURSOR_NAME", "CYCLE"]),
      (.typeName, ["CHAR"]),
      (.manipulation, ["COMMIT"]),
      (.definition, ["CREATE"])]
  | 'D' =>
    [(.keyword,
        ["DATA", "DATABASE", "DATAFILE", "DATETIME_INTERVAL_CODE", "DATETIME_INTERVAL_PRECISION",
          "DATE_ADD", "DATE_SUB", "DAY", "DBA", "DBMS_OUTPUT", "DEALLOCATE", "DECLARE", "DECODE",
          "DEFAULT", "DEFAULTS", "DEFERRABLE", "DEFERRED", "DEFINE", "DEFINED", "DEFINER",
          "DELIMITER", "DELIMITERS", "DEREF", "DESCRIBE", "DESCRIPTOR", "DESTROY", "DESTRUCTOR",
          "DETACH", "DETERMINISTIC", "DIAGNOSTICS", "DICTIONARY", "DIRECTORY", "DISABLE",
          "DISCONNECT", "DISMOUNT", "DISPATCH", "DISTINCT", "DISTINCTROW", "DISTRIBUTE", "DO",
          "DOMAIN", "DOUBLE", "DUMP", "DYNAMIC", "DYNAMIC_FUNCTION", "DYNAMIC_FUNCTION_CODE"]),
      (.typeName, ["DATE", "DEC", "DECIMAL"]),
      (.manipulation, ["DELETE"]),
      (.definition, ["DROP"]),
      (.operator, ["DIV"])]
  | 'E' =>
    [(.keyword,
        ["EACH", "ELEMENTS", "ELSE", "ELSIF", "ENABLE", "ENCODING", "ENCRYPTED", "ENGINE",
          "ENUM", "EQUALS", "ESCAPE", "EVENTS", "EVERY", "EXCEPT", "EXCEPTION", "EXCEPTIONS",
          "EXCHANGE", "EXCLUDING", "EXCLUSIVE", "EXEC", "EXECUTE", "EXISTING", "EXISTS", "EXIT",
          "EXPLAIN", "EXPLODE", "EXTENDED", "EXTENSION", "EXTENT", "EXTERNAL", "EXTERNALLY",
          "EXTRACT"])]
  | 'F' =>
    [(.keyword,
        ["FALSE", "FETCH", "FILE", "FINAL", "FIRST", "FLOOR", "FLUSH", "FOLLOWING", "FOR",
          "FORCE", "FOREACH", "FOREIGN", "FORTRAN", "FORWARD", "FOUND", "FREE", "FREELIST",
          "FREELISTS", "FREEZE", "FROM_UNIXTIME", "FTP", "FULL", "FUNCTION"]),
      (.typeName, ["FILE_TYPE", "FLOAT"])]
  | 'G' =>
    [(.keyword,
        ["GENERAL", "GENERATED", "GET", "GLOBAL", "GO", "GOTO", "GRANTED", "GROUP", "GROUPING",
          "GSCLUSTER"]),
      (.control, ["GRANT"])]
  | 'H' =>
    [(.keyword, ["HASH", "HAVING", "HIERARCHY", "HOLD", "HOST", "HOUR"])]
  | 'I' =>
    [(.keyword,
        ["IDENTIFIED", "IDENTITY", "IF", "IGNORE", "IMMEDIATE", "IMMUTABLE", "IMPLEMENTATION",
          "IMPLICIT", "INCLUDE", "INCLUDING", "INCREMENT", "INDEX", "INDEXES", "INDICATOR",
          "INET", "INFIX", "INHERIT", "INHERITS", "INITIAL", "INITIALIZE", "INITIALLY",
          "INITRANS", "INLINE", "INNER", "INOUT", "INPUT", "INSENSITIVE", "INSTANCE",
          "INSTANTIABLE", "INSTEAD", "INSTR", "INTERSECT", "INTO", "INVOKER", "IS", "ISNULL",
          "ISOLATION", "ISSUE", "ITERATE"]),
      (.typeName, ["INT", "INT8", "INTEGER", "INTERVAL"]),
      (.manipulation, ["INSERT"])]
  | 'J' =>
    [(.keyword, ["JSON", "JSONB"])]
  | 'K' =>
    [(.keyword, ["KEY", "KEY_MEMBER", "KEY_TYPE"])]
  | 'L' =>
    [(.keyword,
        ["LANCOMPILER", "LANGUAGE", "LARGE", "LAST", "LATERAL", "LAYER", "LEADING", "LEAVE",
          "LEFT", "LEN", "LENGTH", "LESS", "LEVEL", "LIMIT", "LINE", "LINK", "LISTEN", "LISTS",
          "LOAD", "LOCAL", "LOCALTIME", "LOCALTIMESTAMP", "LOCATE", "LOCATION", "LOCATOR",
          "LOCK", "LOGFILE", "LOOKUP", "LOOP", "LOWER", "LSEG"]),
      (.typeName, ["LONG"])]
  | 'M' =>
    [(.keyword,
        ["MACADDR", "MANAGE", "MANUAL", "MATCH", "MAX", "MAXDATAFILES", "MAXELEMENT",
          "MAXEXTENTS", "MAXINDEX", "MAXINSTANCES", "MAXLOGFILES", "MAXLOGHISTORY",
          "MAXLOGMEMBERS", "MAXTRANS", "MAXVALUE", "MAX_PART_DATE", "MAX_PART_INT",
          "MAX_PART_STRING", "MESSAGE_LENGTH", "MESSAGE_OCTET_LENGTH", "MESSAGE_TEXT", "METHOD",
          "MIN", "MINELEMENT", "MINEXTENTS", "MININDEX", "MINUS", "MINUTE", "MINVALUE",
          "MIN_PART_DATE", "MIN_PART_INT", "MIN_PART_STRING", "MOD", "MODE", "MODIFIES",
          "MODIFY", "MODULE", "MONEY", "MONTH", "MORE", "MOUNT", "MOVE", "MUMPS"]),
      (.typeName, ["MAP"]),
      (.manipulation, ["MERGE"])]
  | 'N' =>
    [(.keyword,
        ["NAMES", "NATIONAL", "NATURAL", "NCHAR", "NCLOB", "NEW", "NEXT", "NO", "NOARCHIVELOG",
          "NOAUDIT", "NOCACHE", "NOCOMPRESS", "NOCREATEDB", "NOCREATEUSER", "NOCYCLE",
          "NOMAXVALUE", "NOMINVALUE", "NONE", "NOORDER", "NORESETLOGS", "NORMAL", "NOSORT",
          "NOT", "NOTFOUND", "NOTHING", "NOTICE", "NOTIFY", "NOTNULL", "NOW", "NOWAIT", "NULL",
          "NULLABLE", "NULLIF", "NVL", "NVL2"]),
      (.typeName, ["NATURALN", "NUMBER", "NUMERIC", "NVARCHAR"])]
  | 'O' =>
    [(.keyword,
        ["OBJECT", "OCTET_LENGTH", "OF", "OFF", "OFFLINE", "OFFSET", "OIDS", "OLD", "ON",
          "ONLINE", "ONLY", "ON_ERROR_STOP", "OPEN", "OPERATION", "OPERATOR", "OPTIMAL",
          "OPTION", "OPTIONS", "OR", "ORDER", "ORDINALITY", "ORGANIZATION", "OUT", "OUTER",
          "OUTPUT", "OVER", "OVERLAPS", "OVERLAY", "OVERRIDING", "OVERWRITE", "OWN", "OWNER"])]
  | 'P' =>
    [(.keyword,
        ["PACKAGE", "PAD", "PARALLEL", "PARAMETER", "PARAMETERS", "PARAMETER_MODE",
          "PARAMETER_NAME", "PARAMETER_ORDINAL_POSITION", "PARAMETER_SPECIFIC_CATALOG",
          "PARAMETER_SPECIFIC_NAME", "PARAMETER_SPECIFIC_SCHEMA", "PARSE_URL_TUPLE", "PARTIAL",
          "PARTITION", "PART_COUNT", "PART_COUNT_BY", "PART_LOC", "PASCAL", "PATH", "PCTFREE",
          "PCTINCREASE", "PCTUSED", "PENDANT", "PERFORM", "PG_LSN", "PIVOT", "PLACING", "PLAN",
          "PLI", "PLPGSQL", "POINT", "POLYGON", "POSEXPLODE", "POSITION", "POSTFIX", "PRECEDING",
          "PRECISION", "PREFIX", "PREORDER", "PREPARE", "PRESERVE", "PRIMARY", "PRINT", "PRIOR",
          "PRIVATE", "PRIVILEGES", "PROCEDURAL", "PROCEDURE", "PROFILE", "PROTO", "PUBLIC",
          "PUT_LINE"]),
      (.typeName, ["PLS_INTEGER", "POSITIVE", "POSITIVEN"])]
  | 'Q' =>
    [(.keyword, ["QUALIFY", "QUARTER", "QUOTA"])]
  | 'R' =>
    [(.keyword,
        ["RAISE", "RANGE", "RAW", "READ", "READS", "RECHECK", "RECOVER", "RECURSIVE", "REDUCE",
          "REF", "REFERENCES", "REFERENCING", "REGEXP_REPLACE", "REINDEX", "RELATIVE", "RENAME",
          "REPEATABLE", "RESET", "RESETLOGS", "RESIGNAL", "RESOURCE", "RESPECT", "RESTART",
          "RESTRICT", "RESTRICTED", "RESULT", "RETURN", "RETURNED_LENGTH",
          "RETURNED_OCTET_LENGTH", "RETURNED_SQLSTATE", "RETURNING", "RETURNS", "REUSE", "RIGHT",
          "ROLE", "ROLES", "ROLLUP", "ROUTINE", "ROUTINE_CATALOG", "ROUTINE_NAME",
          "ROUTINE_SCHEMA", "ROW", "ROWS", "ROW_COUNT", "RTRIM", "RULE"]),
      (.typeName, ["REAL", "ROWID", "ROWLABEL", "ROWNUM"]),
      (.manipulation, ["REPLACE", "ROLLBACK"]),
      (.control, ["REVOKE"])]
  | 'S' =>
    [(.keyword,
        ["SAMPLE", "SAVEPOINT", "SAVE_POINT", "SCALE", "SCHEMA", "SCHEMA_NAME", "SCN", "SCOPE",
          "SCROLL", "SEARCH", "SECOND", "SECTION", "SECURITY", "SEGMENT", "SELF", "SENSITIVE",
          "SEQUENCE", "SERIALIZABLE", "SERVER_NAME", "SESSION", "SESSION_USER", "SET", "SETOF",
          "SETS", "SHARE", "SHARED", "SHOW", "SIGN", "SIGNAL", "SIMILAR", "SIMPLE", "SIN",
          "SIZE", "SMALLSERIAL", "SNAPSHOT", "SOME", "SORT", "SOURCE", "SPACE", "SPECIFIC",
          "SPECIFICTYPE", "SPLIT", "SQL", "SQLBUF", "SQLCODE", "SQLERROR", "SQLEXCEPTION",
          "SQLSTATE", "SQLWARNING", "SQRT", "STABLE", "STACK", "STATEMENT", "STATEMENT_ID",
          "STATIC", "STATISTICS", "STDIN", "STDOUT", "STOP", "STORAGE", "STR", "STRAIGHT_JOIN",
          "STRICT", "STRUCTURE", "STYPE", "SUBCLASS_ORIGIN", "SUBLIST", "SUBSTR", "SUBSTRING",
          "SUCCESSFUL", "SUM", "SUMMARY", "SWITCH", "SYMMETRIC", "SYNONYM", "SYSID", "SYSTEM",
          "SYSTEM_USER"]),
      (.typeName,
        ["SERIAL", "SERIAL8", "SIGNED", "SIGNTYPE", "SIMPLE_DOUBLE", "SIMPLE_FLOAT",
          "SIMPLE_INTEGER", "SMALLINT", "STRING", "STRUCT", "SYS_REFCURSOR"]),
      (.manipulation, ["SELECT", "START"])]
  | 'T' =>
    [(.keyword,
        ["TABLE", "TABLES", "TABLESAMPLE", "TABLESPACE", "TABLE_NAME", "TBLPROPERTIES", "TEMP",
          "TEMPLATE", "TEMPORARY", "TERMINATE", "THAN", "THEN", "THREAD", "TIME",
          "TIMESTAMP_ISO", "TIMEZONE_HOUR", "TIMEZONE_MINUTE", "TO", "TOAST", "TO_CHAR",
          "TO_DATE", "TO_TIMESTAMP", "TRACING", "TRAILING", "TRANSACTION",
          "TRANSACTIONS_COMMITTED", "TRANSACTIONS_ROLLED_BACK", "TRANSFORM", "TRANSFORMS",
          "TRANSLATE", "TRANSLATION", "TREAT", "TRIGGER", "TRIGGERS", "TRIGGER_CATALOG",
          "TRIGGER_NAME", "TRIGGER_SCHEMA", "TRIM", "TRUE", "TRUNC", "TRUSTED", "TRY_CAST",
          "TSQUERY", "TSVECTOR", "TXID_SNAPSHOT", "TYPE"]),
      (.typeName, ["TEXT", "TIMESTAMP", "TINYINT"]),
      (.definition, ["TRUNCATE"])]
  | 'U' =>
    [(.keyword,
        ["UID", "UNBOUNDED", "UNCOMMITTED", "UNDER", "UNENCRYPTED", "UNION", "UNIQUE",
          "UNIQUEJOIN", "UNIX_TIMESTAMP", "UNKNOWN", "UNLIMITED", "UNLISTEN", "UNLOCK",
          "UNNAMED", "UNNEST", "UNPIVOT", "UNTIL", "UPPER", "USAGE", "USE", "USER",
          "USER_DEFINED_TYPE_CATALOG", "USER_DEFINED_TYPE_NAME", "USER_DEFINED_TYPE_SCHEMA",
          "UTC_TIMESTAMP", "UUID"]),
      (.typeName, ["UNSIGNED", "UROWID", "UTL_FILE"]),
      (.manipulation, ["UPDATE", "UPSERT"])]
  | 'V' =>
    [(.keyword,
        ["VACUUM", "VALID", "VALIDATE", "VALIDATOR", "VARIABLE", "VERBOSE", "VERSION", "VIEW",
          "VIEWS", "VOLATILE"]),
      (.typeName, ["VARCHAR", "VARCHAR2", "VARIANT", "VARYING"])]
  | 'W' =>
    [(.keyword,
        ["WEEK", "WHEN", "WHENEVER", "WHERE", "WHILE", "WINDOW", "WITHOUT", "WORK", "WRITE"]),
      (.commonTable, ["WITH"])]
  | 'X' =>
    [(.keyword, ["XML"])]
  | 'Y' =>
    [(.keyword, ["YEAR"])]
  | 'Z' =>
    [(.keyword, ["ZONE"])]
  | _ => []

/-- What a word in capitals is for. -/
def kindOf (word : List Char) : Token.Kind :=
  let kept := (word.head?.map entries).getD []
  ((kept.find? fun (_, ws) => ws.any fun w => w.toList == word).map (·.1)).getD .name

end QueryTutor.Query.Vocabulary
