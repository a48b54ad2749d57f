import SchemaDesign.Sql.Lexer
import SchemaDesign.Schema.Basic
import SchemaDesign.Backend

/-!
# Statements that define data

The statements that are understood: those that create, alter and drop tables.  Every other
statement is left to the database.
-/

namespace SchemaDesign.Sql

/-- What a foreign key refers to; without columns, to the primary key of the table. -/
structure ForeignRef where
  table : String
  columns : List String
deriving DecidableEq, Repr

/-- The definition of a column in a statement. -/
structure ColumnDef where
  name : String
  dataType : String
  notNull : Bool := false
  primaryKey : Bool := false
  unique : Bool := false
  autoIncrement : Bool := false
  default : Option String := none
  check : Option String := none
  references : Option ForeignRef := none
  onUpdate : Option String := none
deriving DecidableEq, Repr

/-- What stands after the type of a column. -/
inductive Modifier where
  | notNull
  | nullable
  | primaryKey
  | unique
  | default (value : String)
  | autoIncrement
  | references (target : ForeignRef)
  | check (expression : String)
  | onUpdate (value : String)
  /-- A modifier that is not kept. -/
  | ignored
deriving DecidableEq, Repr

/-- The definition with a modifier. -/
def ColumnDef.modify (column : ColumnDef) : Modifier → ColumnDef
  | .notNull => { column with notNull := true }
  | .nullable => { column with notNull := false }
  | .primaryKey => { column with primaryKey := true }
  | .unique => { column with unique := true }
  | .default value => { column with default := some value }
  | .autoIncrement => { column with autoIncrement := true }
  | .references target => { column with references := some target }
  | .check expression => { column with check := some expression }
  | .onUpdate value => { column with onUpdate := some value }
  | .ignored => column

/-- A constraint or index that a statement gives to a table. -/
inductive TableConstraint where
  | primaryKey (columns : List String)
  | unique (name : Option String) (columns : List String)
  | foreignKey (name : Option String) (columns : List String) (references : ForeignRef)
  | check (name : Option String) (expression : String)
  | index (name : Option String) (columns : List String)
deriving DecidableEq, Repr

/-- A table that a statement creates. -/
structure CreateTable where
  name : String
  ifNotExists : Bool
  columns : List ColumnDef
  constraints : List TableConstraint
deriving DecidableEq, Repr

/-- One change that a statement makes to a table. -/
inductive AlterAction where
  | addColumn (column : ColumnDef)
  | dropColumn (name : String)
  | modifyColumn (column : ColumnDef)
  | renameColumn (old new : String)
  | renameTo (name : String)
  | addConstraint (constraint : TableConstraint)
deriving DecidableEq, Repr

/-- A statement. -/
inductive Statement where
  | createTable (definition : CreateTable)
  | alterTable (table : String) (actions : List AlterAction)
  | dropTable (tables : List String) (ifExists : Bool)
  /-- A statement that is left to the database. -/
  | passthrough
deriving DecidableEq, Repr

/-- Why a statement was not carried out. -/
inductive DdlError where
  /-- The text is not cut into tokens, for the reason and place that the message gives. -/
  | tokenize (message : String)
  | unexpectedToken (expected found : String)
  | unexpectedEnd (expected : String)
  | unsupported (construct : String)
  | tableExists (name : String)
  | schema (error : SchemaError)
  | backend (error : BackendError)
deriving DecidableEq, Repr

/-- The text shown for an error. -/
def DdlError.message : DdlError → String
  | .tokenize message => "Tokenizer error: " ++ message
  | .unexpectedToken expected found => "Expected " ++ expected ++ ", found '" ++ found ++ "'"
  | .unexpectedEnd expected => "Unexpected end of statement, expected " ++ expected
  | .unsupported construct => "Unsupported syntax: " ++ construct
  | .tableExists name => "Table '" ++ name ++ "' already exists"
  | .schema error => error.message
  | .backend error => error.message

end SchemaDesign.Sql
