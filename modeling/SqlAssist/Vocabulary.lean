/-
# The keyword vocabulary

Keywords come from two places: a fixed list of words and functions that SQL dialects share, and
the words a connected server advertises. Advertised words are optional help: they are put into
upper case, empty ones are ignored, and a server that does not answer adds nothing.
-/

import SqlAssist.Error.Metadata
import SqlAssist.NameSet
import SqlAssist.Text.UpperCase

namespace SqlAssist.Vocabulary

/-- Keywords of the common SQL dialects and the usual scalar functions, in upper case. -/
def standardWords : List String := [
  "ABORT", "ABS", "ABSENT", "ABSOLUTE", "ACCEPTANYDATE", "ACCEPTINVCHARS", "ACCESS", "ACCOUNT",
  "ACOS", "ACTION", "ADD", "ADDDATE", "ADDQUOTES", "ADMIN", "AFTER", "AGAINST", "AGGREGATE",
  "AGGREGATION", "ALERT", "ALGORITHM", "ALIAS", "ALL", "ALLOCATE", "ALLOWOVERWRITE", "ALTER",
  "ALWAYS", "ANALYZE", "AND", "ANTI", "ANY", "APPLICATION", "APPLY", "APPLYBUDGET", "ARCHIVE",
  "ARE", "ARRAY", "ARRAY_MAX_CARDINALITY", "AS", "ASC", "ASCII", "ASENSITIVE", "ASIN", "ASOF",
  "ASSERT", "ASYMMETRIC", "AT", "ATAN", "ATAN2", "ATOMIC", "ATTACH", "AUDIT", "AUTHENTICATION",
  "AUTHORIZATION", "AUTO", "AUTOEXTEND_SIZE", "AUTOINCREMENT", "AUTO_INCREMENT", "AVG",
  "AVG_ROW_LENGTH", "AVRO", "BACKWARD", "BASE64", "BASE_LOCATION", "BEFORE", "BEGIN",
  "BEGIN_FRAME", "BEGIN_PARTITION", "BERNOULLI", "BETWEEN", "BIGDECIMAL", "BIGINT",
  "BIGNUMERIC", "BINARY", "BIND", "BINDING", "BIT", "BIT_LENGTH", "BLANKSASNULL", "BLOB",
  "BLOCK", "BLOOM", "BLOOMFILTER", "BOOL", "BOOLEAN", "BOOST", "BOTH", "BOX", "BRIN", "BROWSE",
  "BTREE", "BUCKET", "BUCKETS", "BY", "BYPASSRLS", "BYTEA", "BYTES", "BZIP2", "CACHE", "CALL",
  "CALLED", "CARDINALITY", "CASCADE", "CASCADED", "CASE", "CASES", "CAST", "CATALOG",
  "CATALOG_SYNC", "CATALOG_SYNC_NAMESPACE_FLATTEN_DELIMITER", "CATALOG_SYNC_NAMESPACE_MODE",
  "CATCH", "CEIL", "CEILING", "CENTURY", "CHAIN", "CHANGE", "CHANGE_TRACKING", "CHANNEL",
  "CHAR", "CHARACTER", "CHARACTERISTICS", "CHARACTERS", "CHARACTER_LENGTH", "CHARSET",
  "CHAR_LENGTH", "CHECK", "CHECKSUM", "CIRCLE", "CLEANPATH", "CLEAR", "CLOB", "CLONE", "CLOSE",
  "CLUSTER", "CLUSTERED", "CLUSTERING", "COALESCE", "COLLATE", "COLLATION", "COLLECT",
  "COLLECTION", "COLUMN", "COLUMNS", "COLUMNSTORE", "COMMENT", "COMMIT", "COMMITTED",
  "COMPATIBLE", "COMPRESSION", "COMPUTE", "CONCAT", "CONCAT_WS", "CONCURRENTLY", "CONDITION",
  "CONFLICT", "CONNECT", "CONNECTION", "CONNECTION_ID", "CONNECTOR", "CONNECT_BY_ROOT",
  "CONSTRAINT", "CONTACT", "CONTAINS", "CONTINUE", "CONVERT", "COPY", "COPY_OPTIONS", "CORR",
  "CORRESPONDING", "COS", "COT", "COUNT", "COVAR_POP", "COVAR_SAMP", "CREATE", "CREATEDB",
  "CREATEROLE", "CREDENTIALS", "CROSS", "CSV", "CUBE", "CUME_DIST", "CURDATE", "CURRENT",
  "CURRENT_CATALOG", "CURRENT_DATE", "CURRENT_DEFAULT_TRANSFORM_GROUP", "CURRENT_PATH",
  "CURRENT_ROLE", "CURRENT_ROW", "CURRENT_SCHEMA", "CURRENT_TIME", "CURRENT_TIMESTAMP",
  "CURRENT_TRANSFORM_GROUP_FOR_TYPE", "CURRENT_USER", "CURSOR", "CURTIME", "CYCLE", "DATA",
  "DATABASE", "DATABASES", "DATA_RETENTION_TIME_IN_DAYS", "DATE", "DATE32", "DATEDIFF",
  "DATEFORMAT", "DATETIME", "DATETIME64", "DATE_ADD", "DATE_FORMAT", "DATE_SUB", "DATE_TRUNC",
  "DAY", "DAYNAME", "DAYOFMONTH", "DAYOFWEEK", "DAYOFYEAR", "DAYS", "DCPROPERTIES",
  "DEALLOCATE", "DEC", "DECADE", "DECIMAL", "DECLARE", "DEDUPLICATE", "DEFAULT", "DEFAULTS",
  "DEFAULT_DDL_COLLATION", "DEFERRABLE", "DEFERRED", "DEFINE", "DEFINED", "DEFINER", "DEGREES",
  "DELAYED", "DELAY_KEY_WRITE", "DELETE", "DELIMITED", "DELIMITER", "DELTA", "DENSE_RANK",
  "DENY", "DEREF", "DESC", "DESCRIBE", "DETACH", "DETAIL", "DETERMINISTIC", "DIMENSIONS",
  "DIRECTORY", "DISABLE", "DISCARD", "DISCONNECT", "DISTINCT", "DISTRIBUTE", "DIV", "DO",
  "DOMAIN", "DOUBLE", "DOW", "DOWNSTREAM", "DOY", "DROP", "DRY", "DUPLICATE", "DYNAMIC", "EACH",
  "ELEMENT", "ELEMENTS", "ELSE", "ELSEIF", "EMPTY", "EMPTYASNULL", "ENABLE",
  "ENABLE_SCHEMA_EVOLUTION", "ENCODING", "ENCRYPTED", "ENCRYPTION", "END", "END-EXEC",
  "ENDPOINT", "END_FRAME", "END_PARTITION", "ENFORCED", "ENGINE", "ENGINE_ATTRIBUTE", "ENUM",
  "ENUM16", "ENUM8", "EPHEMERAL", "EPOCH", "EQUALS", "ERROR", "ESCAPE", "ESCAPED", "ESTIMATE",
  "EVENT", "EVERY", "EVOLVE", "EXCEPT", "EXCEPTION", "EXCHANGE", "EXCLUDE", "EXCLUDING",
  "EXCLUSIVE", "EXEC", "EXECUTE", "EXECUTION", "EXISTS", "EXP", "EXPANSION", "EXPLAIN",
  "EXPLICIT", "EXPORT", "EXTEND", "EXTENDED", "EXTENSION", "EXTERNAL", "EXTERNAL_VOLUME",
  "EXTRACT", "FACTS", "FAIL", "FAILOVER", "FALSE", "FETCH", "FIELDS", "FILE", "FILES",
  "FILE_FORMAT", "FILL", "FILTER", "FINAL", "FIRST", "FIRST_VALUE", "FIXEDSTRING", "FIXEDWIDTH",
  "FLATTEN", "FLOAT", "FLOAT32", "FLOAT4", "FLOAT64", "FLOAT8", "FLOOR", "FLUSH", "FN",
  "FOLLOWING", "FOR", "FORCE", "FORCE_NOT_NULL", "FORCE_NULL", "FORCE_QUOTE", "FOREIGN",
  "FORMAT", "FORMATTED", "FORWARD", "FRAME_ROW", "FREE", "FREEZE", "FROM", "FROM_UNIXTIME",
  "FSCK", "FULFILLMENT", "FULL", "FULLTEXT", "FUNCTION", "FUNCTIONS", "FUSION", "FUTURE", "GB",
  "GENERAL", "GENERATE", "GENERATED", "GEOGRAPHY", "GET", "GIN", "GIST", "GLOBAL", "GRANT",
  "GRANTED", "GRANTS", "GRAPHVIZ", "GROUP", "GROUPING", "GROUPS", "GROUP_CONCAT", "GZIP",
  "HASH", "HAVING", "HEADER", "HEAP", "HIGH_PRIORITY", "HISTORY", "HIVEVAR", "HOLD", "HOSTS",
  "HOUR", "HOURS", "HUGEINT", "IAM_ROLE", "ICEBERG", "ID", "IDENTITY", "IDENTITY_INSERT", "IF",
  "IFNULL", "IGNORE", "IGNOREHEADER", "ILIKE", "IMMEDIATE", "IMMUTABLE", "IMPORT", "IMPORTED",
  "IN", "INCLUDE", "INCLUDE_NULL_VALUES", "INCLUDING", "INCREMENT", "INCREMENTAL", "INDEX",
  "INDICATOR", "INHERIT", "INHERITS", "INITIALIZE", "INITIALLY", "INNER", "INOUT", "INPATH",
  "INPLACE", "INPUT", "INPUTFORMAT", "INSENSITIVE", "INSERT", "INSERT_METHOD", "INSTALL",
  "INSTANT", "INSTEAD", "INSTR", "INT", "INT128", "INT16", "INT2", "INT256", "INT32", "INT4",
  "INT64", "INT8", "INTEGER", "INTEGRATION", "INTERPOLATE", "INTERSECT", "INTERSECTION",
  "INTERVAL", "INTO", "INVOKER", "IO", "IS", "ISODOW", "ISOLATION", "ISOWEEK", "ISOYEAR",
  "ITEMS", "JAR", "JOIN", "JSON", "JSONB", "JSONFILE", "JSON_TABLE", "JULIAN", "KEY", "KEYS",
  "KEY_BLOCK_SIZE", "KILL", "LAG", "LANGUAGE", "LARGE", "LAST", "LAST_VALUE", "LATERAL",
  "LCASE", "LEAD", "LEADING", "LEFT", "LENGTH", "LEVEL", "LIKE", "LIKE_REGEX", "LIMIT", "LINE",
  "LINES", "LIST", "LISTEN", "LISTING", "LN", "LOAD", "LOCAL", "LOCALTIME", "LOCALTIMESTAMP",
  "LOCATE", "LOCATION", "LOCK", "LOCKED", "LOG", "LOG10", "LOG2", "LOGIN", "LOGS", "LONGBLOB",
  "LONGTEXT", "LOWCARDINALITY", "LOWER", "LOW_PRIORITY", "LPAD", "LS", "LSEG", "LTRIM", "MACRO",
  "MANAGE", "MANAGED", "MANAGEDLOCATION", "MANIFEST", "MAP", "MASKING", "MATCH", "MATCHED",
  "MATCHES", "MATCH_CONDITION", "MATCH_RECOGNIZE", "MATERIALIZE", "MATERIALIZED", "MAX",
  "MAXFILESIZE", "MAXVALUE", "MAX_DATA_EXTENSION_TIME_IN_DAYS", "MAX_ROWS", "MB", "MEASURES",
  "MEDIUMBLOB", "MEDIUMINT", "MEDIUMTEXT", "MEMBER", "MERGE", "MESSAGE", "METADATA", "METHOD",
  "METRIC", "METRICS", "MICROSECOND", "MICROSECONDS", "MILLENIUM", "MILLENNIUM", "MILLISECOND",
  "MILLISECONDS", "MIN", "MINUS", "MINUTE", "MINUTES", "MINVALUE", "MIN_ROWS", "MOD", "MODE",
  "MODIFIES", "MODIFY", "MODULE", "MONITOR", "MONTH", "MONTHNAME", "MONTHS", "MSCK", "MULTISET",
  "MUTATION", "NAME", "NAMES", "NANOSECOND", "NANOSECONDS", "NATIONAL", "NATURAL", "NCHAR",
  "NCLOB", "NEST", "NESTED", "NETWORK", "NEW", "NEXT", "NFC", "NFD", "NFKC", "NFKD", "NO",
  "NOBYPASSRLS", "NOCREATEDB", "NOCREATEROLE", "NOINHERIT", "NOLOGIN", "NONE", "NOORDER",
  "NOREPLICATION", "NORMALIZE", "NORMALIZED", "NOSCAN", "NOSUPERUSER", "NOT", "NOTHING",
  "NOTIFY", "NOTNULL", "NOW", "NOWAIT", "NO_WRITE_TO_BINLOG", "NTH_VALUE", "NTILE", "NULL",
  "NULLABLE", "NULLIF", "NULLS", "NUMERIC", "NVARCHAR", "OBJECT", "OBJECTS",
  "OCCURRENCES_REGEX", "OCTETS", "OCTET_LENGTH", "OF", "OFF", "OFFSET", "OFFSETS", "OLD",
  "OMIT", "ON", "ONE", "ONLY", "ON_CREATE", "ON_SCHEDULE", "OPEN", "OPENJSON", "OPERATE",
  "OPERATOR", "OPTIMIZATION", "OPTIMIZE", "OPTIMIZED", "OPTIMIZER_COSTS", "OPTION", "OPTIONS",
  "OR", "ORC", "ORDER", "ORDINALITY", "ORGANIZATION", "OTHER", "OUT", "OUTER", "OUTPUT",
  "OUTPUTFORMAT", "OVER", "OVERFLOW", "OVERLAPS", "OVERLAY", "OVERRIDE", "OVERWRITE", "OWNED",
  "OWNER", "OWNERSHIP", "PACKAGE", "PACKAGES", "PACK_KEYS", "PARALLEL", "PARAMETER", "PARQUET",
  "PART", "PARTITION", "PARTITIONED", "PARTITIONS", "PASSING", "PASSWORD", "PAST", "PATH",
  "PATTERN", "PER", "PERCENT", "PERCENTILE_CONT", "PERCENTILE_DISC", "PERCENT_RANK", "PERIOD",
  "PERMISSIVE", "PERSISTENT", "PI", "PIVOT", "PLACING", "PLAN", "PLANS", "POINT", "POLICY",
  "POLYGON", "POOL", "PORTION", "POSITION", "POSITION_REGEX", "POW", "POWER", "PRAGMA",
  "PRECEDES", "PRECEDING", "PRECISION", "PREPARE", "PRESERVE", "PREWHERE", "PRIMARY", "PRINT",
  "PRIOR", "PRIVILEGES", "PROCEDURE", "PROFILE", "PROGRAM", "PROJECTION", "PUBLIC", "PURCHASE",
  "PURGE", "QUALIFY", "QUARTER", "QUERY", "QUOTE", "RADIANS", "RAISE", "RAISERROR", "RAND",
  "RANGE", "RANK", "RAW", "RCFILE", "READ", "READS", "READ_ONLY", "REAL", "RECLUSTER",
  "RECURSIVE", "REF", "REFERENCES", "REFERENCING", "REFRESH_MODE", "REGCLASS", "REGEXP",
  "REGION", "REGR_AVGX", "REGR_AVGY", "REGR_COUNT", "REGR_INTERCEPT", "REGR_R2", "REGR_SLOPE",
  "REGR_SXX", "REGR_SXY", "REGR_SYY", "REINDEX", "RELATIVE", "RELAY", "RELEASE", "RELEASES",
  "REMOTE", "REMOVE", "RENAME", "REORG", "REPAIR", "REPEAT", "REPEATABLE", "REPLACE",
  "REPLACE_INVALID_CHARACTERS", "REPLICA", "REPLICATE", "REPLICATION", "REQUIRE", "RESET",
  "RESOLVE", "RESOURCE", "RESPECT", "RESTART", "RESTRICT", "RESTRICTED", "RESTRICTIONS",
  "RESTRICTIVE", "RESULT", "RESULTSET", "RESUME", "RETAIN", "RETURN", "RETURNING", "RETURNS",
  "REVERSE", "REVOKE", "RIGHT", "RLIKE", "RM", "ROLE", "ROLES", "ROLLBACK", "ROLLUP", "ROOT",
  "ROUND", "ROW", "ROWGROUPSIZE", "ROWID", "ROWS", "ROW_FORMAT", "ROW_NUMBER", "RPAD", "RTRIM",
  "RULE", "RUN", "SAFE", "SAFE_CAST", "SAMPLE", "SAVEPOINT", "SCHEMA", "SCHEMAS", "SCOPE",
  "SCROLL", "SEARCH", "SECOND", "SECONDARY", "SECONDARY_ENGINE_ATTRIBUTE", "SECONDS", "SECRET",
  "SECURE", "SECURITY", "SEED", "SELECT", "SEMANTIC_VIEW", "SEMI", "SENSITIVE", "SEPARATOR",
  "SEQUENCE", "SEQUENCEFILE", "SEQUENCES", "SERDE", "SERDEPROPERTIES", "SERIALIZABLE", "SERVER",
  "SERVICE", "SESSION", "SESSION_USER", "SET", "SETERROR", "SETS", "SETTINGS", "SHARE",
  "SHARED", "SHARING", "SHOW", "SIGN", "SIGNED", "SIMILAR", "SIN", "SKIP", "SLOW", "SMALLINT",
  "SNAPSHOT", "SOME", "SORT", "SORTED", "SOUNDEX", "SOURCE", "SPACE", "SPATIAL", "SPECIFIC",
  "SPECIFICTYPE", "SPGIST", "SQL", "SQLEXCEPTION", "SQLSTATE", "SQLWARNING", "SQRT", "SRID",
  "STABLE", "STAGE", "START", "STARTS", "STATEMENT", "STATIC", "STATISTICS",
  "STATS_AUTO_RECALC", "STATS_PERSISTENT", "STATS_SAMPLE_PAGES", "STATUS", "STDDEV_POP",
  "STDDEV_SAMP", "STDIN", "STDOUT", "STEP", "STORAGE", "STORAGE_INTEGRATION",
  "STORAGE_SERIALIZATION_POLICY", "STORED", "STRAIGHT_JOIN", "STREAM", "STRICT", "STRING",
  "STRING_AGG", "STRUCT", "STR_TO_DATE", "SUBMULTISET", "SUBSTR", "SUBSTRING",
  "SUBSTRING_INDEX", "SUBSTRING_REGEX", "SUCCEEDS", "SUM", "SUPER", "SUPERUSER", "SUPPORT",
  "SUSPEND", "SWAP", "SYMMETRIC", "SYNC", "SYSDATE", "SYSTEM", "SYSTEM_TIME", "SYSTEM_USER",
  "TABLE", "TABLES", "TABLESAMPLE", "TABLESPACE", "TAG", "TAN", "TARGET", "TARGET_LAG", "TASK",
  "TBLPROPERTIES", "TEMP", "TEMPORARY", "TEMPTABLE", "TERMINATED", "TERSE", "TEXT", "TEXTFILE",
  "THEN", "TIES", "TIME", "TIMEFORMAT", "TIMESTAMP", "TIMESTAMPDIFF", "TIMESTAMPTZ",
  "TIMESTAMP_NTZ", "TIMETZ", "TIMEZONE", "TIMEZONE_ABBR", "TIMEZONE_HOUR", "TIMEZONE_MINUTE",
  "TIMEZONE_REGION", "TINYBLOB", "TINYINT", "TINYTEXT", "TO", "TOP", "TOTALS", "TRACE",
  "TRAILING", "TRANSACTION", "TRANSIENT", "TRANSLATE", "TRANSLATE_REGEX", "TRANSLATION",
  "TREAT", "TRIGGER", "TRIM", "TRIM_ARRAY", "TRUE", "TRUNCATE", "TRUNCATECOLUMNS", "TRY",
  "TRY_CAST", "TRY_CONVERT", "TSQUERY", "TSVECTOR", "TUPLE", "TYPE", "UBIGINT", "UCASE",
  "UESCAPE", "UHUGEINT", "UINT128", "UINT16", "UINT256", "UINT32", "UINT64", "UINT8",
  "UNBOUNDED", "UNCACHE", "UNCOMMITTED", "UNDEFINED", "UNFREEZE", "UNION", "UNIQUE",
  "UNIX_TIMESTAMP", "UNKNOWN", "UNLISTEN", "UNLOAD", "UNLOCK", "UNLOGGED", "UNMATCHED",
  "UNNEST", "UNPIVOT", "UNSAFE", "UNSET", "UNSIGNED", "UNTIL", "UPDATE", "UPPER", "URL",
  "USAGE", "USE", "USER", "USER_RESOURCES", "USING", "USMALLINT", "UTINYINT", "UUID", "VACUUM",
  "VALID", "VALIDATE", "VALIDATION_MODE", "VALUE", "VALUES", "VALUE_OF", "VARBINARY", "VARBIT",
  "VARCHAR", "VARIABLES", "VARYING", "VAR_POP", "VAR_SAMP", "VERBOSE", "VERSION", "VERSIONING",
  "VERSIONS", "VIEW", "VIEWS", "VIRTUAL", "VOLATILE", "VOLUME", "WAREHOUSE", "WAREHOUSES",
  "WEEK", "WEEKS", "WHEN", "WHENEVER", "WHERE", "WHILE", "WIDTH_BUCKET", "WINDOW", "WITH",
  "WITHIN", "WITHOUT", "WITHOUT_ARRAY_WRAPPER", "WORK", "WRAPPER", "WRITE", "XML",
  "XMLNAMESPACES", "XMLTABLE", "XOR", "YEAR", "YEARS", "ZONE", "ZORDER", "ZSTD"
]

/-- The vocabulary that needs no connection. -/
def standard : NameSet :=
  NameSet.ofList standardWords

/-- The words a server contributes, given its answer to the keyword query. -/
def advertised : Except MetadataError NameSet → NameSet
  | .ok words => NameSet.ofList ((words.toList.filter (· != "")).map Text.upperCase)
  | .error _ => ∅

/-- The keywords of a connection: what its server advertises, on top of the standard vocabulary
if that is wanted. -/
def collect (withStandard : Bool) (answer : Except MetadataError NameSet) : NameSet :=
  if withStandard then standard ∪ advertised answer else advertised answer

end SqlAssist.Vocabulary
