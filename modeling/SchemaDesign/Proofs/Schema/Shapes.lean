import SchemaDesign.Proofs.Schema.DistinctKeys
import SchemaDesign.Proofs.Schema.Steps

/-!
# The shapes of the tables

The shape of a table is its name and its columns, but for what relationships make of the columns.
What is done to the tables of one identity leaves those of the others in shape.
-/

namespace SchemaDesign

/-- The column without its mark as a foreign key. -/
def Column.unmarked (column : Column) : Column :=
  { column with isForeignKey := false }

/-- The name and the unmarked columns of a table. -/
def Table.shape (table : Table) : String × List Column :=
  (table.name, table.columns.map Column.unmarked)

/-- The shape of a table that has an identity. -/
def Table.shapeAs? (id : TableId) (table : Table) : Option (String × List Column) :=
  if table.id = id then some table.shape else none

/-- The table with the column of an identity marked as a foreign key. -/
def Table.mark (source : ColumnId) (table : Table) : Table :=
  { table with
    columns := changeFirst (fun column => column.id == source)
      (fun column => { column with isForeignKey := true }) table.columns }

theorem Table.shape_mark (source : ColumnId) (table : Table) :
    (table.mark source).shape = table.shape :=
  congrArg (Prod.mk table.name) (map_changeFirst fun _ _ => rfl)

namespace Schema

/-- The shapes of the tables of an identity. -/
def shapesOf (schema : Schema) (id : TableId) : List (String × List Column) :=
  schema.tables.filterMap (Table.shapeAs? id)

variable {schema : Schema} {id other : TableId}

/-- Tables that look alike to an identity are of the same shapes. -/
theorem shapesOf_congr
    {later : Schema}
    (alike : later.tables.map (Table.shapeAs? id) = schema.tables.map (Table.shapeAs? id)) :
    later.shapesOf id = schema.shapesOf id := by
  have filtered := congrArg (List.filterMap fun shape => shape) alike
  rw [List.filterMap_map, List.filterMap_map] at filtered
  exact filtered

theorem shapesOf_changeTable_of_shape
    {change : Table → Table}
    (keepsId : ∀ table, (change table).id = table.id)
    (keepsShape : ∀ table, (change table).shape = table.shape) :
    (schema.changeTable id change).shapesOf other = schema.shapesOf other := by
  apply shapesOf_congr
  apply map_changeFirst
  intro table _
  rw [Table.shapeAs?, Table.shapeAs?, keepsId, keepsShape]

theorem shapesOf_changeTable_of_ne
    {change : Table → Table} (different : other ≠ id)
    (keepsId : ∀ table, (change table).id = table.id) :
    (schema.changeTable id change).shapesOf other = schema.shapesOf other := by
  apply shapesOf_congr
  apply map_changeFirst
  intro table found
  have tableId : table.id = id := by simpa using List.find?_some found
  have apart : ¬ table.id = other := fun same => different (same.symm.trans tableId)
  rw [Table.shapeAs?, Table.shapeAs?, keepsId, if_neg apart, if_neg apart]

theorem shapesOf_markForeignKeys (schema : Schema) (id : TableId) :
    schema.markForeignKeys.shapesOf id = schema.shapesOf id := by
  apply shapesOf_congr
  rw [markForeignKeys, List.map_map]
  apply List.map_congr_left
  intro table _
  simp only [Function.comp, Table.shapeAs?, Table.shape, List.map_map]
  rfl

theorem shapesOf_withoutTable (different : other ≠ id) :
    (schema.withoutTable id).shapesOf other = schema.shapesOf other := by
  rw [withoutTable, shapesOf_markForeignKeys]
  change (schema.tables.eraseP fun table => table.id == id).filterMap _ = _
  rw [shapesOf]
  induction schema.tables with
  | nil => rfl
  | cons table tables ih =>
      by_cases meant : table.id = id
      · have apart : ¬ table.id = other := fun same => different (same.symm.trans meant)
        have unseen : table.shapeAs? other = none := if_neg apart
        rw [List.eraseP_cons_of_pos (by simpa using meant), List.filterMap_cons_none unseen]
      · rw [List.eraseP_cons_of_neg (by simpa using meant), List.filterMap_cons,
          List.filterMap_cons, ih]

/-- A new table is of no other identity than its own. -/
theorem shapesOf_append
    {table : Table} (different : other ≠ table.id) :
    Schema.shapesOf { schema with tables := schema.tables ++ [table] } other =
      schema.shapesOf other := by
  have unseen : table.shapeAs? other = none := if_neg different.symm
  simp [shapesOf, unseen]

end Schema

end SchemaDesign
