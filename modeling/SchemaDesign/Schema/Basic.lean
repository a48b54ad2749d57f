import SchemaDesign.Id
import SchemaDesign.Schema.Row
import SchemaDesign.Timestamp

/-!
# Schemas

A schema is a list of tables together with relationships, indexes, constraints, users and
permissions.  These name tables and columns by identity, never by name, so that a renaming breaks
nothing.  A schema may hold references to what does not exist and two entities of one name: both
are reported by validation and not prevented.

For each entity the record named `…Spec` is the entity without its identity.
-/

namespace SchemaDesign

/-- The definition of a column. -/
structure ColumnSpec where
  name : String
  dataType : String
  nullable : Bool := true
  defaultValue : Option String := none
  isPrimaryKey : Bool := false
  isForeignKey : Bool := false
  isUnique : Bool := false
  isIndexed : Bool := false
deriving DecidableEq, Repr, Inhabited

namespace ColumnSpec

/-- The column as a primary key, which is never null. -/
def primaryKey (column : ColumnSpec) : ColumnSpec :=
  { column with isPrimaryKey := true, nullable := false }

/-- The column with a value in every row. -/
def notNull (column : ColumnSpec) : ColumnSpec :=
  { column with nullable := false }

/-- The column with no value twice. -/
def unique (column : ColumnSpec) : ColumnSpec :=
  { column with isUnique := true }

/-- The column marked as indexed. -/
def indexed (column : ColumnSpec) : ColumnSpec :=
  { column with isIndexed := true }

end ColumnSpec

/-- A column of a table. -/
structure Column extends ColumnSpec where
  id : ColumnId
deriving DecidableEq, Repr, Inhabited

/-- A place on the drawing of a schema. -/
structure Position where
  x : Number.Binary64
  y : Number.Binary64
deriving DecidableEq, Repr, Inhabited

/-- A table.  The order of its columns is their order in SQL. -/
structure Table where
  id : TableId
  name : String
  columns : List Column
  position : Position
  rowCount : Nat
  rows : List Row
deriving DecidableEq, Inhabited

/-- The definition of a table; without a position it takes the next place of the grid. -/
structure TableSpec where
  name : String
  columns : List ColumnSpec := []
  position : Option Position := none
deriving DecidableEq

/-- The parts of a table that an update replaces; a part that is missing stays. -/
structure TablePatch where
  name : Option String := none
  columns : Option (List Column) := none
  position : Option Position := none
deriving DecidableEq

/-- A change of one column of a table. -/
inductive ColumnChange where
  | add (column : ColumnSpec)
  | drop (name : String)
  /-- Gives the named column a new definition; it keeps its identity and place. -/
  | modify (name : String) (column : ColumnSpec)
deriving DecidableEq

/-- How many rows of two tables belong to each other. -/
inductive Cardinality where
  | oneToOne
  | oneToMany
  | manyToMany
deriving DecidableEq, Repr

namespace Cardinality

/-- The cardinality as it is written. -/
def text : Cardinality → String
  | .oneToOne => "1:1"
  | .oneToMany => "1:N"
  | .manyToMany => "N:M"

/-- All cardinalities. -/
def all : List Cardinality := [.oneToOne, .oneToMany, .manyToMany]

end Cardinality

/-- A relationship before it has an identity: a foreign key from a source to a target column. -/
structure RelationshipSpec where
  /-- The name of its constraint in SQL. -/
  name : Option String
  sourceTable : TableId
  sourceColumn : ColumnId
  targetTable : TableId
  targetColumn : ColumnId
  cardinality : Cardinality
deriving DecidableEq, Repr

/-- A relationship between columns of two tables. -/
structure Relationship extends RelationshipSpec where
  id : RelationshipId
deriving DecidableEq, Repr

/-- Whether a relationship starts or ends at a table. -/
def RelationshipSpec.touches (relationship : RelationshipSpec) (table : TableId) : Bool :=
  relationship.sourceTable == table || relationship.targetTable == table

/-- An index before it has an identity. -/
structure IndexSpec where
  name : String
  table : TableId
  /-- The names of its columns in order. -/
  columns : List String
  isUnique : Bool
deriving DecidableEq, Repr

/-- An index of a table. -/
structure Index extends IndexSpec where
  id : IndexId
deriving DecidableEq, Repr

/-- What a constraint demands. -/
inductive ConstraintKind where
  | check
  | unique
  | notNull
deriving DecidableEq, Repr

namespace ConstraintKind

/-- The kind as it is written. -/
def text : ConstraintKind → String
  | .check => "CHECK"
  | .unique => "UNIQUE"
  | .notNull => "NOT_NULL"

/-- All kinds of constraints. -/
def all : List ConstraintKind := [.check, .unique, .notNull]

end ConstraintKind

/-- A constraint before it has an identity. -/
structure ConstraintSpec where
  name : String
  kind : ConstraintKind
  table : TableId
  column : Option ColumnId
  /-- A condition, which is written into SQL as it stands and never evaluated. -/
  expression : Option String
deriving DecidableEq, Repr

/-- A constraint on a table or on one of its columns. -/
structure Constraint extends ConstraintSpec where
  id : ConstraintId
deriving DecidableEq, Repr

/-- A database account before it has an identity. -/
structure UserSpec where
  username : String
  host : String := "%"
deriving DecidableEq, Repr

/-- A database account. -/
structure User extends UserSpec where
  id : UserId
deriving DecidableEq, Repr

/-- What an account may be allowed to do. -/
inductive Privilege where
  | select
  | insert
  | update
  | delete
  | all
deriving DecidableEq, Repr

namespace Privilege

/-- The privilege as it is written in a grant. -/
def text : Privilege → String
  | .select => "SELECT"
  | .insert => "INSERT"
  | .update => "UPDATE"
  | .delete => "DELETE"
  | .all => "ALL PRIVILEGES"

/-- The privilege as it is written in a snapshot. -/
def tag : Privilege → String
  | .select => "SELECT"
  | .insert => "INSERT"
  | .update => "UPDATE"
  | .delete => "DELETE"
  | .all => "ALL"

/-- All privileges, the one that stands for all of them among them. -/
def every : List Privilege := [.select, .insert, .update, .delete, .all]

end Privilege

/-- A grant before it has an identity; without a table it is for the whole schema. -/
structure PermissionSpec where
  user : UserId
  table : Option TableId
  privileges : List Privilege
deriving DecidableEq, Repr

/-- A grant of privileges to an account. -/
structure Permission extends PermissionSpec where
  id : PermissionId
deriving DecidableEq, Repr

/-- A schema: what is validated, changed and exported as a whole. -/
structure Schema where
  name : String
  tables : List Table
  relationships : List Relationship
  indexes : List Index
  constraints : List Constraint
  users : List User
  permissions : List Permission
  createdAt : Timestamp
  updatedAt : Timestamp
deriving DecidableEq, Inhabited

/-- Why a schema could not be changed as asked. -/
inductive SchemaError where
  | tableNotFound (table : String)
  | columnNotFound (table column : String)
  | relationshipNotFound (id : RelationshipId)
  | indexNotFound (id : IndexId)
  | constraintNotFound (id : ConstraintId)
  | userNotFound (id : UserId)
  | permissionNotFound (id : PermissionId)
  /-- The rule has no automatic fix. -/
  | noAutoFix (rule : String)
deriving DecidableEq, Repr

/-- The text shown for an error. -/
def SchemaError.message : SchemaError → String
  | .tableNotFound table => "Table '" ++ table ++ "' not found"
  | .columnNotFound table column =>
      "Column '" ++ column ++ "' not found in table '" ++ table ++ "'"
  | .relationshipNotFound id => "Relationship " ++ id.text ++ " not found"
  | .indexNotFound id => "Index " ++ id.text ++ " not found"
  | .constraintNotFound id => "Constraint " ++ id.text ++ " not found"
  | .userNotFound id => "User " ++ id.text ++ " not found"
  | .permissionNotFound id => "Permission " ++ id.text ++ " not found"
  | .noAutoFix rule => "No automatic fix available for rule '" ++ rule ++ "'"

namespace Table

/-- The column with an identity. -/
def column? (table : Table) (id : ColumnId) : Option Column :=
  table.columns.find? fun column => column.id == id

/-- The first column of a name, in any letter case. -/
def columnNamed? (table : Table) (name : String) : Option Column :=
  table.columns.find? fun column => Text.same column.name name

/-- The columns of the primary key in order. -/
def primaryKeys (table : Table) : List Column :=
  table.columns.filter fun column => column.isPrimaryKey

/-- The first column of the primary key. -/
def primaryKey? (table : Table) : Option Column :=
  table.columns.find? fun column => column.isPrimaryKey

end Table

namespace Schema

/-- The schema of a name without entities, made at a given time. -/
def new (name : String) (now : Timestamp) : Schema :=
  { name
    tables := []
    relationships := []
    indexes := []
    constraints := []
    users := []
    permissions := []
    createdAt := now
    updatedAt := now }

/-- The name of a schema for which none was chosen. -/
def defaultName : String := "untitled_schema"

/-- The table with an identity. -/
def table? (schema : Schema) (id : TableId) : Option Table :=
  schema.tables.find? fun table => table.id == id

/-- The first table of a name, in any letter case. -/
def tableNamed? (schema : Schema) (name : String) : Option Table :=
  schema.tables.find? fun table => Text.same table.name name

/-- Whether there is a table of a name, in any letter case. -/
def hasTable (schema : Schema) (name : String) : Bool :=
  (schema.tableNamed? name).isSome

/-- The table and column at one end of a relationship, if both exist. -/
def endpoint? (schema : Schema) (table : TableId) (column : ColumnId) :
    Option (Table × Column) := do
  let table ← schema.table? table
  let column ← table.column? column
  some (table, column)

/-- The two ends of a relationship, if both exist. -/
def endpoints? (schema : Schema) (relationship : RelationshipSpec) :
    Option ((Table × Column) × (Table × Column)) := do
  let source ← schema.endpoint? relationship.sourceTable relationship.sourceColumn
  let target ← schema.endpoint? relationship.targetTable relationship.targetColumn
  some (source, target)

/-- The relationships that start or end at a table. -/
def relationshipsOf (schema : Schema) (table : TableId) : List Relationship :=
  schema.relationships.filter fun relationship => relationship.touches table

/-- The indexes of a table. -/
def indexesOf (schema : Schema) (table : TableId) : List Index :=
  schema.indexes.filter fun index => index.table == table

/-- The constraints of a table. -/
def constraintsOf (schema : Schema) (table : TableId) : List Constraint :=
  schema.constraints.filter fun constraint => constraint.table == table

/-- The account with an identity. -/
def user? (schema : Schema) (id : UserId) : Option User :=
  schema.users.find? fun user => user.id == id

/-- The next place of the drawing grid, which has four places a row. -/
def nextPosition (schema : Schema) : Position :=
  let count := schema.tables.length
  { x := .ofNat (100 + count % 4 * (250 + 50))
    y := .ofNat (100 + count / 4 * (200 + 50)) }

end Schema

end SchemaDesign
