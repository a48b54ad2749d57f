import SchemaDesign.Text.Search

/-!
# Dialects of SQL
-/

namespace SchemaDesign

/-- The databases whose SQL is written. -/
inductive Dialect where
  | mySql
  | postgreSql
  | sqlServer
  | oracle
deriving DecidableEq, Repr

namespace Dialect

/-- The name of a dialect. -/
def displayName : Dialect → String
  | .mySql => "MySQL"
  | .postgreSql => "PostgreSQL"
  | .sqlServer => "SQL Server"
  | .oracle => "Oracle"

/-- The characters before and after a quoted identifier. -/
def quotes : Dialect → Char × Char
  | .mySql => (Char.ofNat 0x60, Char.ofNat 0x60)
  | .sqlServer => ('[', ']')
  | .postgreSql => ('"', '"')
  | .oracle => ('"', '"')

/-- An identifier in quotes; a closing quote inside it is doubled. -/
def quote (dialect : Dialect) (identifier : String) : String :=
  let (opening, closing) := dialect.quotes
  String.singleton opening ++ Text.doubled closing identifier ++ String.singleton closing

/-- Quoted identifiers with commas between them. -/
def quoteList (dialect : Dialect) (identifiers : List String) : String :=
  ", ".intercalate (identifiers.map dialect.quote)

end Dialect

/-- A text in single quotes; a single quote inside it is doubled. -/
def quotedLiteral (s : String) : String :=
  "'" ++ Text.doubled '\'' s ++ "'"

end SchemaDesign
