import SchemaDesign.Ddl.Definition

/-!
# Creation scripts

The SQL script that creates a whole schema: tables, indexes, foreign keys, and in MySQL users and
their grants.
-/

namespace SchemaDesign.Ddl

/-- The statement that creates an account. -/
def createUser (user : User) : String :=
  "CREATE USER IF NOT EXISTS '" ++ user.username ++ "'@'" ++ user.host ++ "';"

/-- What a permission is granted on: one table, if it exists, or the whole schema. -/
def grantObject? (schema : Schema) (permission : Permission) : Option String :=
  let schemaName := Dialect.mySql.quote schema.name
  match permission.table with
  | none => some (schemaName ++ ".*")
  | some id =>
      (schema.table? id).map fun table => schemaName ++ "." ++ Dialect.mySql.quote table.name

/-- The statement that grants a permission, if its user and table exist and it has privileges. -/
def grant? (schema : Schema) (permission : Permission) : Option String := do
  let user ← schema.user? permission.user
  let object ← grantObject? schema permission
  if permission.privileges.isEmpty then none
  else
    some ("GRANT " ++ ", ".intercalate (permission.privileges.map Privilege.text) ++ " ON " ++
      object ++ " TO '" ++ user.username ++ "'@'" ++ user.host ++ "';")

/-- The statements that create the users and give them their permissions. -/
def userStatements (schema : Schema) : List String :=
  schema.users.map createUser ++ schema.permissions.filterMap (grant? schema)

/-- Statements on lines of their own after an empty line; nothing if there are none. -/
def paragraph (statements : List String) : String :=
  if statements.isEmpty then ""
  else "\n" ++ String.join (statements.map (· ++ "\n"))

/-- The script that creates a schema. -/
def script (dialect : Dialect) (schema : Schema) : String :=
  "-- Schema: " ++ schema.name ++ "\n" ++
    "-- Dialect: " ++ dialect.displayName ++ "\n" ++
    "-- Generated by SchemaForge\n" ++
    String.join (schema.tables.map fun table =>
      "\n" ++ createTable dialect schema table ++ "\n") ++
    paragraph (schema.tables.flatMap (indexStatements dialect schema)) ++
    paragraph (schema.relationships.filterMap fun relationship =>
      foreignKey? dialect schema relationship.toRelationshipSpec) ++
    paragraph (if dialect = .mySql then userStatements schema else [])

end SchemaDesign.Ddl
