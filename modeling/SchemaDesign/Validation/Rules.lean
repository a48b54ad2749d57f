import SchemaDesign.DataType
import SchemaDesign.Ddl.Definition
import SchemaDesign.Identifier
import SchemaDesign.Validation.Cycle
import SchemaDesign.Validation.Finding

/-!
# The rules of validation

Each rule is a function from a schema to its findings.
-/

namespace SchemaDesign.Validation

/-- A table has one column of its primary key. -/
def primaryKeyFindings (schema : Schema) : List Finding :=
  schema.tables.filterMap fun table =>
    let count := table.primaryKeys.length
    if count = 0 then
      some
        { rule := .primaryKey
          severity := .warning
          message := "Table '" ++ table.name ++ "' has no primary key"
          table := some table.id
          suggestion := some "Mark an identifying column as PRIMARY KEY" }
    else if count = 1 then none
    else
      some
        { rule := .primaryKey
          severity := .error
          message := "Table '" ++ table.name ++ "' has " ++ toString count ++
            " primary key columns; only one is allowed"
          table := some table.id
          suggestion := some "Keep the first primary key column and unmark the others"
          autoFixable := true }

/-- The name of a relationship, or its identity if it has none. -/
def labelOf (relationship : Relationship) : String :=
  relationship.name.getD relationship.id.text

/-- What is wrong with the ends of a relationship, if anything is. -/
def danglingEnd? (schema : Schema) (relationship : Relationship) : Option String :=
  let label := "Relationship '" ++ labelOf relationship ++ "'"
  match schema.table? relationship.sourceTable, schema.table? relationship.targetTable with
  | none, _ => some (label ++ " starts at a missing table")
  | _, none => some (label ++ " references a missing table")
  | some source, some target =>
      if (source.column? relationship.sourceColumn).isNone then
        some (label ++ " starts at a missing column of '" ++ source.name ++ "'")
      else if (target.column? relationship.targetColumn).isNone then
        some (label ++ " references a missing column of '" ++ target.name ++ "'")
      else none

/-- Both ends of a relationship exist. -/
def foreignKeyFindings (schema : Schema) : List Finding :=
  schema.relationships.filterMap fun relationship =>
    (danglingEnd? schema relationship).map fun message =>
      { rule := .foreignKeyIntegrity
        severity := .error
        message
        table := (schema.table? relationship.sourceTable).map fun _ => relationship.sourceTable
        relationship := some relationship.id
        suggestion := some "Remove the relationship or point it at an existing column" }

/-- The tables of a cycle with arrows between them, and the first one again. -/
def chainText (schema : Schema) (cycle : List TableId) : String :=
  let names := (cycle.filterMap schema.table?).map fun table => table.name
  " → ".intercalate (names ++ names.take 1)

/-- No table refers to itself through foreign keys. -/
def cycleFindings (schema : Schema) : List Finding :=
  (Cycle.all schema).map fun cycle =>
    { rule := .circularReference
      severity := .error
      message := "Circular foreign key reference: " ++ chainText schema cycle
      table := cycle.head?
      suggestion := some "Make one foreign key in the cycle nullable or remove it" }

/-- The advice to use another name. -/
def renameSuggestion (name kind : String) : String :=
  "Rename to '" ++ Identifier.suggest name kind ++ "'"

/-- The name of a table is conventional. -/
def namingFindings (schema : Schema) : List Finding :=
  (schema.tables.filter fun table => !Identifier.isConventional table.name).map fun table =>
    { rule := .namingConvention
      severity := .info
      message := "Table name '" ++ table.name ++
        "' should be lowercase snake_case starting with a letter"
      table := some table.id
      suggestion := some (renameSuggestion table.name "tbl") }

/-- The name of the index that a foreign key column gets. -/
def foreignKeyIndexName (tableName columnName : String) : String :=
  "idx_" ++ Text.lowerCase tableName ++ "_" ++ Text.lowerCase columnName

/-- Whether an index of a table begins with a column. -/
def hasLeadingIndex (schema : Schema) (table : Table) (column : Column) : Bool :=
  (schema.indexesOf table.id).any fun index => Ddl.leadsWith index.toIndexSpec column.name

/-- The finding on a foreign key column without an index. -/
def missingIndex (relationship : Relationship) (table : Table) (column : Column) : Finding :=
  { rule := .missingForeignKeyIndex
    severity := .warning
    message := "Foreign key column '" ++ table.name ++ "." ++ column.name ++ "' has no index"
    table := some table.id
    column := some column.id
    relationship := some relationship.id
    suggestion := some ("Create index " ++ foreignKeyIndexName table.name column.name)
    autoFixable := true }

/-- The findings on the foreign key columns of some relationships, but for columns that have been
seen. -/
def missingIndexFindings (schema : Schema) (seen : List ColumnId) :
    List Relationship → List Finding
  | [] => []
  | relationship :: relationships =>
      match schema.endpoint? relationship.sourceTable relationship.sourceColumn with
      | none => missingIndexFindings schema seen relationships
      | some (table, column) =>
          if column.isPrimaryKey || column.isIndexed || seen.contains column.id then
            missingIndexFindings schema seen relationships
          else
            let rest := missingIndexFindings schema (column.id :: seen) relationships
            if hasLeadingIndex schema table column then rest
            else missingIndex relationship table column :: rest

/-- A foreign key column begins an index. -/
def foreignKeyIndexFindings (schema : Schema) : List Finding :=
  missingIndexFindings schema [] schema.relationships

/-- The findings on tables whose name, in any letter case, is that of a table seen before.  What has
been seen is kept as the name in small letters with the name itself. -/
def duplicateTablesAfter (seen : List (String × String)) : List Table → List Finding
  | [] => []
  | table :: tables =>
      let key := Text.lowerCase table.name
      match seen.lookup key with
      | some first =>
          { rule := .duplicateTableName
            severity := .error
            message := "Table name '" ++ table.name ++ "' duplicates '" ++ first ++ "'"
            table := some table.id
            suggestion := some "Table names must be unique (case-insensitive)" } ::
            duplicateTablesAfter seen tables
      | none => duplicateTablesAfter ((key, table.name) :: seen) tables

/-- Table names differ by more than letter case. -/
def duplicateTableFindings (schema : Schema) : List Finding :=
  duplicateTablesAfter [] schema.tables

/-- The findings on columns whose name, in any letter case, has been seen in their table. -/
def duplicateColumnsAfter (table : Table) (seen : List String) : List Column → List Finding
  | [] => []
  | column :: columns =>
      let key := Text.lowerCase column.name
      if seen.contains key then
        { rule := .duplicateColumnName
          severity := .error
          message := "Column '" ++ column.name ++ "' appears more than once in table '" ++
            table.name ++ "'"
          table := some table.id
          column := some column.id } ::
          duplicateColumnsAfter table seen columns
      else duplicateColumnsAfter table (key :: seen) columns

/-- The column names of a table differ by more than letter case. -/
def duplicateColumnFindings (schema : Schema) : List Finding :=
  schema.tables.flatMap fun table => duplicateColumnsAfter table [] table.columns

/-- Names of tables and columns are no reserved words. -/
def reservedFindings (schema : Schema) : List Finding :=
  schema.tables.flatMap fun table =>
    (if Identifier.isReserved table.name then
      [{ rule := .reservedKeyword
         severity := .warning
         message := "Table name '" ++ table.name ++ "' is a reserved SQL keyword"
         table := some table.id
         suggestion := some (renameSuggestion table.name "tbl") }]
    else []) ++
    (table.columns.filter fun column => Identifier.isReserved column.name).map fun column =>
      { rule := .reservedKeyword
        severity := .warning
        message := "Column name '" ++ table.name ++ "." ++ column.name ++
          "' is a reserved SQL keyword"
        table := some table.id
        column := some column.id
        suggestion := some (renameSuggestion column.name "col") }

/-- A table has columns. -/
def emptyTableFindings (schema : Schema) : List Finding :=
  (schema.tables.filter fun table => table.columns.isEmpty).map fun table =>
    { rule := .emptyTable
      severity := .warning
      message := "Table '" ++ table.name ++ "' has no columns"
      table := some table.id }

/-- The types of columns are known. -/
def dataTypeFindings (schema : Schema) : List Finding :=
  schema.tables.flatMap fun table =>
    (table.columns.filter fun column => !DataType.isKnown column.dataType).map fun column =>
      { rule := .unknownDataType
        severity := .info
        message := "Type '" ++ column.dataType ++ "' of '" ++ table.name ++ "." ++ column.name ++
          "' is not in the type catalog; it is emitted unchanged"
        table := some table.id
        column := some column.id }

end SchemaDesign.Validation

namespace SchemaDesign

/-- The findings of all rules on a schema, in the order of the rules. -/
def Schema.validate (schema : Schema) : List Finding :=
  Validation.primaryKeyFindings schema ++
    Validation.foreignKeyFindings schema ++
    Validation.cycleFindings schema ++
    Validation.namingFindings schema ++
    Validation.foreignKeyIndexFindings schema ++
    Validation.duplicateTableFindings schema ++
    Validation.duplicateColumnFindings schema ++
    Validation.reservedFindings schema ++
    Validation.emptyTableFindings schema ++
    Validation.dataTypeFindings schema

end SchemaDesign
