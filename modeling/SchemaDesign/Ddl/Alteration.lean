import SchemaDesign.Ddl.Definition
import SchemaDesign.Json.Printer

/-!
# Statements that change

The SQL that carries a single change of a schema over to a database.
-/

namespace SchemaDesign.Ddl

/-- The statement that drops a table. -/
def dropTable (dialect : Dialect) (tableName : String) : String :=
  "DROP TABLE " ++ dialect.quote tableName ++ ";"

/-- The statement that renames a table.  The procedure of SQL Server takes the names as plain
text. -/
def renameTable (dialect : Dialect) (old new : String) : String :=
  match dialect with
  | .mySql => "RENAME TABLE " ++ dialect.quote old ++ " TO " ++ dialect.quote new ++ ";"
  | .sqlServer => "EXEC sp_rename '" ++ old ++ "', '" ++ new ++ "';"
  | _ => "ALTER TABLE " ++ dialect.quote old ++ " RENAME TO " ++ dialect.quote new ++ ";"

/-- The statement that adds a column. -/
def addColumn (dialect : Dialect) (tableName : String) (column : ColumnSpec) : String :=
  let keyword :=
    match dialect with
    | .mySql | .postgreSql => "ADD COLUMN"
    | .sqlServer | .oracle => "ADD"
  "ALTER TABLE " ++ dialect.quote tableName ++ " " ++ keyword ++ " " ++
    columnDefinition dialect column false ++ ";"

/-- The statement that drops a column. -/
def dropColumn (dialect : Dialect) (tableName columnName : String) : String :=
  "ALTER TABLE " ++ dialect.quote tableName ++ " DROP COLUMN " ++ dialect.quote columnName ++ ";"

/-- The statement that renames a column, in the dialects that need one of its own. -/
def renameColumn (dialect : Dialect) (tableName old new : String) : String :=
  match dialect with
  | .sqlServer =>
      "EXEC sp_rename '" ++ tableName ++ "." ++ old ++ "', '" ++ new ++ "', 'COLUMN';"
  | _ =>
      "ALTER TABLE " ++ dialect.quote tableName ++ " RENAME COLUMN " ++ dialect.quote old ++
        " TO " ++ dialect.quote new ++ ";"

/-- The statements that give a column a new definition.  MySQL renames and redefines at once, the
others rename first; PostgreSQL and Oracle then change the type only. -/
def modifyColumn (dialect : Dialect) (tableName oldName : String) (column : ColumnSpec) :
    List String :=
  let renamed := !Text.same oldName column.name
  let table := "ALTER TABLE " ++ dialect.quote tableName
  let renames := if renamed then [renameColumn dialect tableName oldName column.name] else []
  let name := dialect.quote column.name
  match dialect with
  | .mySql =>
      let definition := columnDefinition dialect column false
      if renamed then
        [table ++ " CHANGE COLUMN " ++ dialect.quote oldName ++ " " ++ definition ++ ";"]
      else [table ++ " MODIFY COLUMN " ++ definition ++ ";"]
  | .postgreSql =>
      renames ++ [table ++ " ALTER COLUMN " ++ name ++ " TYPE " ++ column.dataType ++ ";"]
  | .sqlServer =>
      renames ++ [table ++ " ALTER COLUMN " ++ name ++ " " ++ column.dataType ++
        (if column.nullable then " NULL" else " NOT NULL") ++ ";"]
  | .oracle => renames ++ [table ++ " MODIFY (" ++ name ++ " " ++ column.dataType ++ ");"]

/-- The statement that drops an index; where index names belong to tables, it names the table. -/
def dropIndex (dialect : Dialect) (tableName indexName : String) : String :=
  match dialect with
  | .mySql | .sqlServer =>
      "DROP INDEX " ++ dialect.quote indexName ++ " ON " ++ dialect.quote tableName ++ ";"
  | .postgreSql | .oracle => "DROP INDEX " ++ dialect.quote indexName ++ ";"

/-- The statement that adds a constraint, if its table exists and it can be written.  That a column
is not null is a change of the column. -/
def addConstraint? (dialect : Dialect) (schema : Schema) (constraint : ConstraintSpec) :
    Option String := do
  let table ← schema.table? constraint.table
  match constraint.kind with
  | .notNull =>
      let column ← constraint.column.bind table.column?
      let quotedTable := dialect.quote table.name
      let quotedColumn := dialect.quote column.name
      match dialect with
      | .postgreSql =>
          some ("ALTER TABLE " ++ quotedTable ++ " ALTER COLUMN " ++ quotedColumn ++
            " SET NOT NULL;")
      | .oracle =>
          some ("ALTER TABLE " ++ quotedTable ++ " MODIFY (" ++ quotedColumn ++ " NOT NULL);")
      | _ =>
          (modifyColumn dialect table.name column.name column.toColumnSpec.notNull).getLast?
  | _ =>
      let clause ← constraintClause? dialect table constraint
      some ("ALTER TABLE " ++ dialect.quote table.name ++ " ADD " ++ clause ++ ";")

/-- The statement that drops a constraint; that a column is not null cannot be dropped so. -/
def dropConstraint? (dialect : Dialect) (tableName : String) (constraint : ConstraintSpec) :
    Option String :=
  let table := "ALTER TABLE " ++ dialect.quote tableName
  let name := dialect.quote constraint.name
  match constraint.kind, dialect with
  | .notNull, _ => none
  | .check, .mySql => some (table ++ " DROP CHECK " ++ name ++ ";")
  | .unique, .mySql => some (table ++ " DROP INDEX " ++ name ++ ";")
  | _, _ => some (table ++ " DROP CONSTRAINT " ++ name ++ ";")

/-- The statement that drops the foreign key of a relationship, if it has a name. -/
def dropForeignKey? (dialect : Dialect) (tableName : String) (relationship : RelationshipSpec) :
    Option String :=
  relationship.name.map fun name =>
    let kind :=
      match dialect with
      | .mySql => " DROP FOREIGN KEY "
      | _ => " DROP CONSTRAINT "
    "ALTER TABLE " ++ dialect.quote tableName ++ kind ++ dialect.quote name ++ ";"

/-- A value as it is written in SQL; arrays and objects are written as their JSON text. -/
def literal : Json → String
  | .null => "NULL"
  | .bool true => "TRUE"
  | .bool false => "FALSE"
  | .string s => quotedLiteral s
  | .integer n => (Json.integer n).compact
  | .float x => (Json.float x).compact
  | value => quotedLiteral value.compact

/-- The columns of a table that a row has values for, with those values, in the table's order. -/
def insertedValues (table : Table) (row : Row) : List (String × Json) :=
  table.columns.filterMap fun column =>
    (row.get? column.name).map fun value => (column.name, value)

/-- The statement that inserts a row into a table, if it has a value for a column. -/
def insertRow? (dialect : Dialect) (table : Table) (row : Row) : Option String :=
  let inserted := insertedValues table row
  if inserted.isEmpty then none
  else
    some ("INSERT INTO " ++ dialect.quote table.name ++ " (" ++
      dialect.quoteList (inserted.map Prod.fst) ++ ") VALUES (" ++
      ", ".intercalate (inserted.map fun entry => literal entry.2) ++ ");")

end SchemaDesign.Ddl
