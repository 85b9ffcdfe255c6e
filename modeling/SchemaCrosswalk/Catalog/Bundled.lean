import SchemaCrosswalk.CompatibilityMap
import SchemaCrosswalk.Translation

/-!
# Bundled artifacts — the maps and translations that need no file

Compatibility maps and type translations onto PostgreSQL, under the names of the files that would
hold them.

- `Bundled.map?`, `Bundled.translation?`: the bundled document under a file name
-/

namespace SchemaCrosswalk.Bundled

/-! ## Compatibility maps -/

/-- SQL Server types that may populate PostgreSQL columns. -/
def sqlServerToPostgres : CompatibilityMap.Document where
  sourceAliases := Dictionary.ofList [
    ("integer", "int"), ("int4", "int"), ("character varying", "varchar"),
    ("national character varying", "nvarchar"), ("character", "char"),
    ("national character", "nchar"), ("double precision", "float"), ("rowversion", "timestamp"),
    ("sysname", "nvarchar")]
  sinkAliases := Dictionary.ofList [
    ("int", "integer"), ("int2", "smallint"), ("int4", "integer"), ("int8", "bigint"),
    ("bool", "boolean"), ("float4", "real"), ("float8", "double precision"),
    ("decimal", "numeric"), ("character varying", "varchar"), ("character", "char"),
    ("bpchar", "char"), ("timestamp without time zone", "timestamp"),
    ("timestamp with time zone", "timestamptz"), ("time without time zone", "time"),
    ("serial", "integer"), ("bigserial", "bigint")]
  mappings := Dictionary.ofList [
    ("bit", "boolean"), ("tinyint", "smallint"), ("smallint", "smallint"), ("int", "integer"),
    ("bigint", "bigint"), ("decimal", "numeric"), ("numeric", "numeric"), ("money", "numeric"),
    ("smallmoney", "numeric"), ("float", "double precision"), ("real", "real"), ("char", "char"),
    ("nchar", "char"), ("varchar", "varchar"), ("nvarchar", "varchar"), ("text", "text"),
    ("ntext", "text"), ("binary", "bytea"), ("varbinary", "bytea"), ("image", "bytea"),
    ("date", "date"), ("time", "time"), ("datetime", "timestamp"), ("datetime2", "timestamp"),
    ("smalldatetime", "timestamp"), ("datetimeoffset", "timestamptz"),
    ("uniqueidentifier", "uuid"), ("xml", "xml"), ("timestamp", "bytea")]
  compatibility := Dictionary.ofList [
    ("bit", ["boolean", "smallint", "integer", "bigint", "numeric"]),
    ("tinyint", ["smallint", "integer", "bigint", "numeric", "real", "double precision"]),
    ("smallint", ["smallint", "integer", "bigint", "numeric", "real", "double precision"]),
    ("int", ["integer", "bigint", "numeric", "real", "double precision"]),
    ("bigint", ["bigint", "numeric"]), ("decimal", ["numeric"]), ("numeric", ["numeric"]),
    ("money", ["numeric"]), ("smallmoney", ["numeric"]), ("real", ["real", "double precision"]),
    ("float", ["double precision"]), ("char", ["char", "varchar"]),
    ("nchar", ["char", "varchar"]), ("varchar", ["varchar"]), ("nvarchar", ["varchar"]),
    ("date", ["date", "timestamp", "timestamptz"]), ("datetime", ["timestamp", "timestamptz"]),
    ("datetime2", ["timestamp", "timestamptz"]), ("smalldatetime", ["timestamp", "timestamptz"]),
    ("datetimeoffset", ["timestamptz"]), ("uniqueidentifier", ["uuid"]), ("xml", ["xml"]),
    ("*", ["text"])]

/-- PostgreSQL types that may populate PostgreSQL columns. -/
def postgresToPostgres : CompatibilityMap.Document where
  sourceAliases := Dictionary.ofList [
    ("int", "integer"), ("int2", "smallint"), ("int4", "integer"), ("int8", "bigint"),
    ("bool", "boolean"), ("float4", "real"), ("float8", "double precision"),
    ("decimal", "numeric"), ("character varying", "varchar"), ("character", "char"),
    ("bpchar", "char"), ("timestamp without time zone", "timestamp"),
    ("timestamp with time zone", "timestamptz"), ("time without time zone", "time"),
    ("time with time zone", "timetz"), ("serial", "integer"), ("bigserial", "bigint"),
    ("smallserial", "smallint")]
  sinkAliases := Dictionary.ofList [
    ("int", "integer"), ("int2", "smallint"), ("int4", "integer"), ("int8", "bigint"),
    ("bool", "boolean"), ("float4", "real"), ("float8", "double precision"),
    ("decimal", "numeric"), ("character varying", "varchar"), ("character", "char"),
    ("bpchar", "char"), ("timestamp without time zone", "timestamp"),
    ("timestamp with time zone", "timestamptz"), ("time without time zone", "time"),
    ("time with time zone", "timetz"), ("serial", "integer"), ("bigserial", "bigint"),
    ("smallserial", "smallint")]
  mappings := Dictionary.ofList [
    ("boolean", "boolean"), ("smallint", "smallint"), ("integer", "integer"),
    ("bigint", "bigint"), ("numeric", "numeric"), ("real", "real"),
    ("double precision", "double precision"), ("char", "char"), ("varchar", "varchar"),
    ("text", "text"), ("bytea", "bytea"), ("date", "date"), ("time", "time"),
    ("timetz", "timetz"), ("timestamp", "timestamp"), ("timestamptz", "timestamptz"),
    ("interval", "interval"), ("uuid", "uuid"), ("json", "json"), ("jsonb", "jsonb"),
    ("xml", "xml"), ("inet", "inet"), ("cidr", "cidr"), ("macaddr", "macaddr")]
  compatibility := Dictionary.ofList [
    ("boolean", ["boolean"]),
    ("smallint", ["smallint", "integer", "bigint", "numeric", "real", "double precision"]),
    ("integer", ["integer", "bigint", "numeric", "double precision"]),
    ("bigint", ["bigint", "numeric"]), ("numeric", ["numeric"]),
    ("real", ["real", "double precision"]), ("double precision", ["double precision"]),
    ("char", ["char", "varchar"]), ("varchar", ["varchar"]),
    ("date", ["date", "timestamp", "timestamptz"]), ("timestamp", ["timestamp", "timestamptz"]),
    ("time", ["time", "timetz"]), ("json", ["json", "jsonb"]), ("jsonb", ["jsonb", "json"]),
    ("inet", ["inet"]), ("cidr", ["cidr", "inet"]), ("*", ["text"])]

/-- MySQL types that may populate PostgreSQL columns. -/
def mySqlToPostgres : CompatibilityMap.Document where
  sourceAliases := Dictionary.ofList [
    ("integer", "int"), ("bool", "tinyint"), ("boolean", "tinyint"), ("dec", "decimal"),
    ("fixed", "decimal"), ("double precision", "double"), ("real", "double"),
    ("character varying", "varchar"), ("character", "char")]
  sinkAliases := Dictionary.ofList [
    ("int", "integer"), ("int2", "smallint"), ("int4", "integer"), ("int8", "bigint"),
    ("bool", "boolean"), ("float4", "real"), ("float8", "double precision"),
    ("decimal", "numeric"), ("character varying", "varchar"), ("character", "char"),
    ("bpchar", "char"), ("timestamp without time zone", "timestamp"),
    ("timestamp with time zone", "timestamptz"), ("time without time zone", "time")]
  mappings := Dictionary.ofList [
    ("bit", "boolean"), ("tinyint", "smallint"), ("smallint", "smallint"),
    ("mediumint", "integer"), ("int", "integer"), ("bigint", "bigint"), ("decimal", "numeric"),
    ("float", "real"), ("double", "double precision"), ("char", "char"), ("varchar", "varchar"),
    ("tinytext", "text"), ("text", "text"), ("mediumtext", "text"), ("longtext", "text"),
    ("binary", "bytea"), ("varbinary", "bytea"), ("tinyblob", "bytea"), ("blob", "bytea"),
    ("mediumblob", "bytea"), ("longblob", "bytea"), ("date", "date"), ("time", "time"),
    ("datetime", "timestamp"), ("timestamp", "timestamptz"), ("year", "smallint"),
    ("json", "jsonb"), ("enum", "text"), ("set", "text")]
  compatibility := Dictionary.ofList [
    ("bit", ["boolean", "smallint", "integer", "bigint", "numeric"]),
    ("tinyint", ["smallint", "integer", "bigint", "numeric", "real", "double precision"]),
    ("smallint", ["smallint", "integer", "bigint", "numeric", "real", "double precision"]),
    ("mediumint", ["integer", "bigint", "numeric", "double precision"]),
    ("int", ["integer", "bigint", "numeric", "double precision"]),
    ("bigint", ["bigint", "numeric"]), ("decimal", ["numeric"]),
    ("float", ["real", "double precision"]), ("double", ["double precision"]),
    ("char", ["char", "varchar"]), ("varchar", ["varchar"]),
    ("date", ["date", "timestamp", "timestamptz"]), ("datetime", ["timestamp", "timestamptz"]),
    ("timestamp", ["timestamptz"]), ("year", ["smallint", "integer"]),
    ("json", ["jsonb", "json"]), ("*", ["text"])]

/-! ## Type translations -/

/-- Entries of a translation as the values of a document. -/
def texts (entries : List (String × String)) : List (Yaml.Value × Yaml.Value) :=
  entries.map fun p => (.text p.1, .text p.2)

/-- PostgreSQL types for cloned SQL Server columns. -/
def sqlServerToPostgresTypes : Translation.Document where
  sourceEngine := "mssql"
  sinkEngine := "postgres"
  mappings := texts [
    ("bit", "boolean"), ("smallint", "smallint"), ("tinyint", "smallint"), ("int", "integer"),
    ("bigint", "bigint"), ("decimal", "numeric"), ("numeric", "numeric"),
    ("money", "numeric(19,4)"), ("smallmoney", "numeric(10,4)"), ("float", "double precision"),
    ("real", "real"), ("nvarchar(max)", "text"), ("varchar(max)", "text"), ("text", "text"),
    ("ntext", "text"), ("nvarchar", "varchar"), ("varchar", "varchar"), ("nchar", "char"),
    ("char", "char"), ("varbinary(max)", "bytea"), ("varbinary", "bytea"), ("binary", "bytea"),
    ("image", "bytea"), ("date", "date"), ("time", "time"), ("datetime2", "timestamp"),
    ("datetime", "timestamp"), ("smalldatetime", "timestamp"), ("datetimeoffset", "timestamptz"),
    ("uniqueidentifier", "uuid"), ("xml", "xml"), ("geometry", "text"), ("geography", "text")]
  fallback := "text"
  reverseFallback := "nvarchar(max)"

/-- PostgreSQL types for cloned MySQL columns. -/
def mySqlToPostgresTypes : Translation.Document where
  sourceEngine := "mysql"
  sinkEngine := "postgres"
  mappings := texts [
    ("tinyint(1)", "boolean"), ("bit", "boolean"), ("tinyint", "smallint"),
    ("smallint", "smallint"), ("mediumint", "integer"), ("int", "integer"),
    ("integer", "integer"), ("bigint", "bigint"), ("decimal", "numeric"), ("float", "real"),
    ("double", "double precision"), ("longtext", "text"), ("text", "text"),
    ("mediumtext", "text"), ("tinytext", "text"), ("varchar", "varchar"), ("char", "char"),
    ("longblob", "bytea"), ("blob", "bytea"), ("mediumblob", "bytea"), ("tinyblob", "bytea"),
    ("varbinary", "bytea"), ("binary", "bytea"), ("date", "date"), ("time", "time"),
    ("datetime", "timestamp"), ("timestamp", "timestamptz"), ("year", "smallint"),
    ("json", "jsonb"), ("enum", "text"), ("set", "text")]
  fallback := "text"
  reverseFallback := "longtext"

/-! ## By file name -/

/-- The name under which a bundled artifact is reported. -/
def origin (file : String) : String := s!"builtin:{file}"

/-- The bundled compatibility map under a file name. -/
def map? (file : String) : Option CompatibilityMap.Document :=
  [("mssql_to_postgres.yaml", sqlServerToPostgres),
    ("postgres_to_postgres.yaml", postgresToPostgres),
    ("mysql_to_postgres.yaml", mySqlToPostgres)].lookup file

/-- The bundled type translation under a file name. -/
def translation? (file : String) : Option Translation.Document :=
  [("mssql_to_postgres.typemap.yaml", sqlServerToPostgresTypes),
    ("mysql_to_postgres.typemap.yaml", mySqlToPostgresTypes)].lookup file

end SchemaCrosswalk.Bundled
