import SchemaDesign.Dialect
import SchemaDesign.Schema.Basic

/-!
# Statements that create

The SQL that creates tables, indexes and foreign keys in each dialect.
-/

namespace SchemaDesign.Ddl

/-- The definition of a column.  A primary key is not null and unique already, so neither is
written with it. -/
def columnDefinition (dialect : Dialect) (column : ColumnSpec) (forceNotNull : Bool) : String :=
  dialect.quote column.name ++ " " ++ column.dataType ++
    (if !column.isPrimaryKey && (!column.nullable || forceNotNull) then " NOT NULL" else "") ++
    (match column.defaultValue with
      | some value => " DEFAULT " ++ value
      | none => "") ++
    (if column.isPrimaryKey then " PRIMARY KEY" else if column.isUnique then " UNIQUE" else "")

/-- The clause of a check or unique constraint of a table.  A check needs an expression and a
unique constraint a column of the table; that a column is not null is not written as a clause. -/
def constraintClause? (dialect : Dialect) (table : Table) (constraint : ConstraintSpec) :
    Option String :=
  let name := dialect.quote constraint.name
  match constraint.kind with
  | .check =>
      constraint.expression.map fun expression =>
        "CONSTRAINT " ++ name ++ " CHECK (" ++ expression ++ ")"
  | .unique =>
      (constraint.column.bind table.column?).map fun column =>
        "CONSTRAINT " ++ name ++ " UNIQUE (" ++ dialect.quote column.name ++ ")"
  | .notNull => none

/-- Whether a constraint of a list demands that a column is not null. -/
def demandsNotNull (constraints : List Constraint) (column : Column) : Bool :=
  constraints.any fun constraint =>
    constraint.kind == .notNull && constraint.column == some column.id

/-- The lines between the parentheses of a table's definition: its columns, then the clauses of
its constraints. -/
def tableLines (dialect : Dialect) (schema : Schema) (table : Table) : List String :=
  let constraints := schema.constraintsOf table.id
  (table.columns.map fun column =>
      columnDefinition dialect column.toColumnSpec (demandsNotNull constraints column)) ++
    constraints.filterMap fun constraint =>
      constraintClause? dialect table constraint.toConstraintSpec

/-- The statement that creates a table. -/
def createTable (dialect : Dialect) (schema : Schema) (table : Table) : String :=
  "CREATE TABLE " ++ dialect.quote table.name ++ " (\n" ++
    ",\n".intercalate ((tableLines dialect schema table).map ("  " ++ ·)) ++ "\n);"

/-- The statement that creates an index on a named table. -/
def createIndex (dialect : Dialect) (tableName : String) (index : IndexSpec) : String :=
  "CREATE " ++ (if index.isUnique then "UNIQUE " else "") ++ "INDEX " ++
    dialect.quote index.name ++ " ON " ++ dialect.quote tableName ++ " (" ++
    dialect.quoteList index.columns ++ ");"

/-- The index that a column marked as indexed has without being declared. -/
def impliedIndex (table : Table) (column : Column) : IndexSpec :=
  { name := "idx_" ++ table.name ++ "_" ++ column.name
    table := table.id
    columns := [column.name]
    isUnique := false }

/-- Whether an index begins with a column of a name, in any letter case. -/
def leadsWith (index : IndexSpec) (columnName : String) : Bool :=
  match index.columns with
  | first :: _ => Text.same first columnName
  | [] => false

/-- The indexes of a table: the declared ones, then one for each column marked as indexed that is
no primary key and that no declared index begins with. -/
def tableIndexes (schema : Schema) (table : Table) : List IndexSpec :=
  let declared := (schema.indexesOf table.id).map Index.toIndexSpec
  let implied := table.columns.filter fun column =>
    column.isIndexed && !column.isPrimaryKey &&
      !declared.any fun index => leadsWith index column.name
  declared ++ implied.map (impliedIndex table)

/-- The statements that create the indexes of a table. -/
def indexStatements (dialect : Dialect) (schema : Schema) (table : Table) : List String :=
  (tableIndexes schema table).map (createIndex dialect table.name)

/-- Whether foreign keys always get a name, because an unnamed one could not be dropped later. -/
def namesForeignKeys : Dialect → Bool
  | .sqlServer => true
  | .oracle => true
  | .mySql => false
  | .postgreSql => false

/-- The statement that adds the foreign key of a relationship, if both of its ends exist. -/
def foreignKey? (dialect : Dialect) (schema : Schema) (relationship : RelationshipSpec) :
    Option String := do
  let ((source, sourceColumn), (target, targetColumn)) ← schema.endpoints? relationship
  let name :=
    match relationship.name with
    | some name => some name
    | none =>
        if namesForeignKeys dialect then some ("fk_" ++ source.name ++ "_" ++ sourceColumn.name)
        else none
  let constraint :=
    match name with
    | some name => "CONSTRAINT " ++ dialect.quote name ++ " "
    | none => ""
  some ("ALTER TABLE " ++ dialect.quote source.name ++ " ADD " ++ constraint ++
    "FOREIGN KEY (" ++ dialect.quote sourceColumn.name ++ ") REFERENCES " ++
    dialect.quote target.name ++ " (" ++ dialect.quote targetColumn.name ++ ");")

end SchemaDesign.Ddl
