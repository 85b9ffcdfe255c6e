import SchemaCrosswalk.Text.Lowercase

/-!
# Engines — the names of database engines

An engine is known by its canonical name. The vocabulary is open: a name that is no known alias
is kept in lower case.
-/

namespace SchemaCrosswalk.Engine

/-- Other names of the known engines. -/
def aliases : List (String × String) :=
  [("sqlserver", "mssql"), ("sql_server", "mssql"), ("postgresql", "postgres"), ("pg", "postgres"),
    ("mariadb", "mysql")]

/-- The canonical name of an engine: trimmed, in lower case and with known aliases resolved. -/
def normalize (name : String) : String :=
  let lower := Text.toLowercase (Text.trim name)
  (aliases.lookup lower).getD lower

end SchemaCrosswalk.Engine
