import SchemaDesign.Schema.Basic
import SchemaDesign.Sql.Statement

/-!
# Keys of tables

A primary or unique key of one column is a mark on that column.  A key of several columns has no
place in a table and becomes a unique index instead.
-/

namespace SchemaDesign.Execution

open Sql (TableConstraint)

/-- A primary or unique key that a statement asks for. -/
structure Key where
  isPrimary : Bool
  name : Option String
  /-- The names that the key lists. -/
  entries : List String
deriving DecidableEq, Repr

namespace Key

/-- The key that a constraint asks for, if it asks for one. -/
def ofConstraint? : TableConstraint → Option Key
  | .primaryKey columns => some { isPrimary := true, name := none, entries := columns }
  | .unique name columns => some { isPrimary := false, name, entries := columns }
  | _ => none

/-- Whether an entry names one of some columns, in any letter case. -/
def names (columns : List ColumnSpec) (entry : String) : Bool :=
  columns.any fun column => Text.same column.name entry

/-- The key without the entries that name none of some columns. -/
def restrict (key : Key) (columns : List ColumnSpec) : Key :=
  { key with entries := key.entries.filter (names columns) }

/-- The warnings for the entries that name none of some columns. -/
def unknownWarnings (key : Key) (tableName : String) (columns : List ColumnSpec) : List String :=
  (key.entries.filter fun entry => !names columns entry).map fun entry =>
    "Column '" ++ entry ++ "' not found in table '" ++ tableName ++ "', key entry skipped"

/-- A column with the marks of a key that lists it: a key of one column marks it, and the columns
of a primary key are never null. -/
def mark (key : Key) (column : ColumnSpec) : ColumnSpec :=
  if key.entries.any fun entry => Text.same column.name entry then
    let alone := key.entries.length == 1
    { column with
      isPrimaryKey := column.isPrimaryKey || (alone && key.isPrimary)
      isUnique := column.isUnique || (alone && !key.isPrimary)
      nullable := column.nullable && !key.isPrimary }
  else column

/-- The name of the index for a key of several columns. -/
def indexName (key : Key) (tableName : String) : String :=
  if key.isPrimary then "pk_" ++ tableName
  else key.name.getD ("uq_" ++ tableName ++ "_" ++ "_".intercalate key.entries)

/-- The index that stands for a key of several columns. -/
def index? (key : Key) (tableName : String) : Option TableConstraint :=
  if key.entries.length < 2 then none
  else some (.unique (some (key.indexName tableName)) key.entries)

/-- The warning that a primary key of several columns is not kept as one. -/
def compositeWarnings (key : Key) (tableName : String) : List String :=
  if key.isPrimary && 2 ≤ key.entries.length then
    ["Composite primary key on '" ++ tableName ++ "' stored as unique index " ++
      key.indexName tableName]
  else []

end Key

/-- The columns of a new table and what waits until it exists. -/
structure TablePlan where
  columns : List ColumnSpec
  /-- The constraints to be added to the table, in order. -/
  deferred : List TableConstraint
  warnings : List String
deriving DecidableEq

/-- The plan with one more constraint: keys mark its columns, all else waits. -/
def TablePlan.constrain (tableName : String) (plan : TablePlan) (constraint : TableConstraint) :
    TablePlan :=
  match Key.ofConstraint? constraint with
  | none => { plan with deferred := plan.deferred ++ [constraint] }
  | some listed =>
      let key := listed.restrict plan.columns
      { columns := plan.columns.map key.mark
        deferred := plan.deferred ++ (key.index? tableName).toList
        warnings := plan.warnings ++ listed.unknownWarnings tableName plan.columns ++
          key.compositeWarnings tableName }

end SchemaDesign.Execution
