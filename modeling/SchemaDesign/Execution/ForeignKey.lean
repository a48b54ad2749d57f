import SchemaDesign.Schema.Basic
import SchemaDesign.Sql.Statement

/-!
# Foreign keys of statements

A foreign key becomes one relationship for each pair of a column and the column it refers to.  What
it names and does not exist is passed over with a warning.
-/

namespace SchemaDesign.Execution

open Sql (ForeignRef)

/-- A foreign key that a statement asks for. -/
structure ForeignKey where
  name : Option String
  columns : List String
  references : ForeignRef
deriving DecidableEq, Repr

/-- The relationships of a foreign key, and what has been passed over. -/
structure Links where
  relationships : List RelationshipSpec := []
  warnings : List String := []
deriving DecidableEq, Repr

namespace ForeignKey

/-- The columns of a table that a foreign key refers to, with warnings for those that do not exist.
A foreign key that lists none refers to the first column of the primary key. -/
def targetColumns (references : ForeignRef) (target : Table) : List Column × List String :=
  if references.columns.isEmpty then (target.primaryKey?.toList, [])
  else
    (references.columns.filterMap target.columnNamed?,
      (references.columns.filter fun name => (target.columnNamed? name).isNone).map fun name =>
        "Referenced column '" ++ target.name ++ "." ++ name ++ "' not found")

/-- The warning that a foreign key does not have as many columns as it refers to. -/
def countWarnings (key : ForeignKey) (tableName : String) (targetCount : Nat) : List String :=
  if targetCount = key.columns.length then []
  else
    ["Foreign key on '" ++ tableName ++ "' maps " ++ toString key.columns.length ++
      " column(s) to " ++ toString targetCount ++ " referenced column(s)"]

/-- The relationships of pairs of a column name in a source table and a column of a target. -/
def pairLinks (key : ForeignKey) (tableName : String) (source target : Table) :
    List (String × Column) → Links
  | [] => {}
  | (columnName, targetColumn) :: pairs =>
      let links := pairLinks key tableName source target pairs
      match source.columnNamed? columnName with
      | none =>
          { links with
            warnings :=
              ("Column '" ++ columnName ++ "' not found in table '" ++ tableName ++
                "', foreign key skipped") :: links.warnings }
      | some sourceColumn =>
          { links with
            relationships :=
              { name := some (key.name.getD ("fk_" ++ tableName ++ "_" ++ sourceColumn.name))
                sourceTable := source.id
                sourceColumn := sourceColumn.id
                targetTable := target.id
                targetColumn := targetColumn.id
                cardinality := .oneToMany } :: links.relationships }

/-- The relationships of a foreign key of a table, which the statement calls by a name. -/
def links (key : ForeignKey) (schema : Schema) (tableName : String) (source : Table) : Links :=
  match schema.tableNamed? key.references.table with
  | none =>
      { warnings :=
          ["Referenced table '" ++ key.references.table ++ "' not found, foreign key skipped"] }
  | some target =>
      let (targets, missing) := targetColumns key.references target
      let links := key.pairLinks tableName source target (key.columns.zip targets)
      { links with
        warnings := missing ++ key.countWarnings tableName targets.length ++ links.warnings }

end ForeignKey

end SchemaDesign.Execution
