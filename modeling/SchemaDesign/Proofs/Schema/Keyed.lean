import SchemaDesign.Proofs.Schema.LinkedSteps

/-!
# Names of tables and columns of keys

Commands that add no table under a name in use and no primary key that may be null keep the names of
tables apart and primary keys without nulls.
-/

namespace SchemaDesign

/-- A column of a primary key is never null. -/
def ColumnSpec.KeyNotNull (column : ColumnSpec) : Prop :=
  column.isPrimaryKey = true → column.nullable = false

namespace Schema

/-- Names of tables differ by more than letter case, and no column of a primary key is null. -/
structure Keyed (schema : Schema) : Prop where
  tableNames : schema.tables.Pairwise fun left right => Text.same left.name right.name = false
  keys : ∀ table ∈ schema.tables, ∀ column ∈ table.columns, column.KeyNotNull

variable {schema : Schema}

theorem hasTable_eq_false_iff {name : String} :
    schema.hasTable name = false ↔
      ∀ table ∈ schema.tables, Text.same table.name name = false := by
  simp [hasTable, tableNamed?]

/-- The tables change, but not their names, and their columns only as far as keys allow. -/
theorem Keyed.of_names
    (keyed : schema.Keyed) {tables : List Table}
    (names : tables.map (fun table => table.name) = schema.tables.map fun table => table.name)
    (keys : ∀ table ∈ tables, ∀ column ∈ table.columns, column.KeyNotNull) :
    Keyed { schema with tables } := by
  constructor
  · have apart : (schema.tables.map fun table => table.name).Pairwise
        fun left right => Text.same left right = false := by
      rw [List.pairwise_map]
      exact keyed.tableNames
    rw [← names, List.pairwise_map] at apart
    exact apart
  · exact keys

theorem Keyed.withTable
    (keyed : schema.Keyed) {table : Table} (new : schema.hasTable table.name = false)
    (keys : ∀ column ∈ table.columns, column.KeyNotNull) :
    Keyed { schema with tables := schema.tables ++ [table] } := by
  constructor
  · rw [List.pairwise_append]
    refine ⟨keyed.tableNames, List.pairwise_singleton _ _, ?_⟩
    intro other member last lastMember
    rw [List.mem_singleton.mp lastMember]
    exact hasTable_eq_false_iff.mp new other member
  · intro other member
    rcases List.mem_append.mp member with member | member
    · exact keyed.keys other member
    · rw [List.mem_singleton.mp member]
      exact keys

/-- The first table of an identity changes and keeps its name. -/
theorem Keyed.changeTable
    (keyed : schema.Keyed) {id : TableId} {change : Table → Table}
    (keepsName : ∀ table, (change table).name = table.name)
    (keys : ∀ table, schema.table? id = some table →
      (∀ column ∈ table.columns, column.KeyNotNull) →
        ∀ column ∈ (change table).columns, column.KeyNotNull) :
    (schema.changeTable id change).Keyed := by
  apply keyed.of_names
  · exact map_changeFirst fun table _ => keepsName table
  · intro table member
    rcases mem_changeFirst member with kept | ⟨old, found, rfl⟩
    · exact keyed.keys table kept
    · exact keys old found (keyed.keys old (mem_of_table? found).1)

theorem Keyed.dropColumn (keyed : schema.Keyed) (id : TableId) (name : String) :
    (schema.changeTable id fun table =>
      { table with
        columns := table.columns.eraseP fun column => Text.same column.name name }).Keyed := by
  apply keyed.changeTable
  · intro table
    rfl
  · intro table _ keys column member
    exact keys column (List.mem_of_mem_eraseP member)

theorem Keyed.modifyColumn
    (keyed : schema.Keyed) (id : TableId) (name : String) (column : Column) {spec : ColumnSpec}
    (key : spec.KeyNotNull) :
    (schema.changeTable id fun table =>
      { table with
        columns := changeFirst (fun column => Text.same column.name name)
          (fun _ => { spec with id := column.id, isForeignKey := column.isForeignKey })
          table.columns }).Keyed := by
  apply keyed.changeTable
  · intro table
    rfl
  · intro table _ keys other member
    rcases mem_changeFirst member with kept | ⟨old, _, rfl⟩
    · exact keys other kept
    · exact key

theorem Keyed.markSource (keyed : schema.Keyed) (id : TableId) (columnId : ColumnId) :
    (schema.changeTable id fun table =>
      { table with
        columns := changeFirst (fun column => column.id == columnId)
          (fun column => { column with isForeignKey := true }) table.columns }).Keyed := by
  apply keyed.changeTable
  · intro table
    rfl
  · intro table _ keys other member
    rcases mem_changeFirst member with kept | ⟨old, found, rfl⟩
    · exact keys other kept
    · exact keys old (List.mem_of_find?_eq_some found)

theorem pairwise_changeFirst
    {α : Type} {related : α → α → Prop} {isMeant : α → Bool} {change : α → α} {xs : List α}
    (pairwise : xs.Pairwise related)
    (changed : ∀ x ∈ xs, ∀ y ∈ xs, related (change x) y ∧ related y (change x)) :
    (changeFirst isMeant change xs).Pairwise related := by
  induction xs with
  | nil => exact .nil
  | cons first rest ih =>
      obtain ⟨apart, pairwise⟩ := List.pairwise_cons.mp pairwise
      rw [changeFirst]
      split
      · refine List.pairwise_cons.mpr ⟨?_, pairwise⟩
        intro y member
        exact (changed first List.mem_cons_self y (List.mem_cons_of_mem _ member)).1
      · refine List.pairwise_cons.mpr ⟨?_, ih pairwise ?_⟩
        · intro y member
          rcases mem_changeFirst member with kept | ⟨old, found, rfl⟩
          · exact apart y kept
          · have oldMember := List.mem_of_find?_eq_some found
            exact (changed old (List.mem_cons_of_mem _ oldMember) first List.mem_cons_self).2
        · intro x xMember y yMember
          exact changed x (List.mem_cons_of_mem _ xMember) y (List.mem_cons_of_mem _ yMember)

theorem Keyed.renameTable
    (keyed : schema.Keyed) {id : TableId} {change : Table → Table} {name : String}
    (new : schema.hasTable name = false) (renames : ∀ table, (change table).name = name)
    (keepsColumns : ∀ table, (change table).columns = table.columns) :
    (schema.changeTable id change).Keyed := by
  rw [hasTable_eq_false_iff] at new
  constructor
  · apply pairwise_changeFirst keyed.tableNames
    intro table _ other otherMember
    rw [renames, Text.same_comm]
    exact ⟨new other otherMember, new other otherMember⟩
  · intro table member
    rcases mem_changeFirst member with kept | ⟨old, found, rfl⟩
    · exact keyed.keys table kept
    · rw [keepsColumns]
      exact keyed.keys old (mem_of_table? found).1

theorem Keyed.markForeignKeys (keyed : schema.Keyed) : schema.markForeignKeys.Keyed := by
  apply keyed.of_names
  · rw [List.map_map]
    rfl
  · intro table member column columnMember
    obtain ⟨old, oldMember, rfl⟩ := List.mem_map.mp member
    obtain ⟨unmarked, unmarkedMember, rfl⟩ := List.mem_map.mp columnMember
    exact keyed.keys old oldMember unmarked unmarkedMember

theorem Keyed.withoutTable (keyed : schema.Keyed) (id : TableId) :
    (schema.withoutTable id).Keyed := by
  apply Keyed.markForeignKeys
  constructor
  · exact keyed.tableNames.sublist List.eraseP_sublist
  · intro table member
    exact keyed.keys table (List.mem_of_mem_eraseP member)

theorem Keyed.of_changed
    {workspace : Workspace} {drawn : Nat} {change : Schema → Schema}
    (keyed : (change workspace.schema).Keyed) :
    (workspace.changed drawn change).schema.Keyed :=
  ⟨keyed.tableNames, keyed.keys⟩

end Schema

/-- What a command adds leaves the names of tables apart and the columns of keys without nulls. -/
def Command.Respects (schema : Schema) : Command → Prop
  | .addTable spec =>
      schema.hasTable spec.name = false ∧ ∀ column ∈ spec.columns, column.KeyNotNull
  | .renameTable _ name => schema.hasTable name = false
  | .alterTable _ (.add column) => column.KeyNotNull
  | .alterTable _ (.modify _ column) => column.KeyNotNull
  | .updateTable _ _ | .duplicateTable _ | .applyFix _ => False
  | _ => True

namespace Workspace

variable {workspace after : Workspace} {command : Command}

theorem keyed_step
    (keyed : workspace.schema.Keyed) (step : workspace.Step command after)
    (respects : command.Respects workspace.schema) : after.schema.Keyed := by
  cases step with
  | addTable spec =>
      apply Schema.Keyed.of_changed
      apply keyed.withTable
      · exact respects.1
      · intro column member
        exact respects.2 _ (spec_mem_numberedFrom member)
  | removeTable found => exact .of_changed (keyed.withoutTable _)
  | renameTable updated =>
      cases updated with
      | updateTable patch found =>
          apply Schema.Keyed.of_changed
          apply keyed.renameTable respects
          · intro table
            rfl
          · intro table
            rfl
  | addColumn spec found =>
      apply Schema.Keyed.of_changed
      apply keyed.changeTable
      · intro table
        rfl
      · intro table _ keys column member
        rcases List.mem_append.mp member with member | member
        · exact keys column member
        · rw [List.mem_singleton.mp member]
          exact respects
  | @dropColumn id table name column found named =>
      apply Schema.Keyed.of_changed
      apply Schema.Keyed.markForeignKeys
      have dropped := keyed.dropColumn id name
      exact ⟨dropped.tableNames, dropped.keys⟩
  | @modifyColumn id table name column spec found named =>
      apply Schema.Keyed.of_changed
      have modified := keyed.modifyColumn id name column respects
      split
      · exact modified
      · exact ⟨modified.tableNames, modified.keys⟩
  | insertRow row found =>
      apply Schema.Keyed.of_changed
      apply keyed.changeTable
      · intro table
        rfl
      · intro table _ keys
        exact keys
  | addRelationship spec =>
      apply Schema.Keyed.of_changed
      have marked := keyed.markSource spec.sourceTable spec.sourceColumn
      exact ⟨marked.tableNames, marked.keys⟩
  | removeRelationship id =>
      apply Schema.Keyed.of_changed
      apply Schema.Keyed.markForeignKeys
      exact ⟨keyed.tableNames, keyed.keys⟩
  | addIndex spec => exact ⟨keyed.tableNames, keyed.keys⟩
  | removeIndex id => exact ⟨keyed.tableNames, keyed.keys⟩
  | addConstraint spec => exact ⟨keyed.tableNames, keyed.keys⟩
  | removeConstraint id => exact ⟨keyed.tableNames, keyed.keys⟩
  | addUser spec => exact ⟨keyed.tableNames, keyed.keys⟩
  | removeUser id => exact ⟨keyed.tableNames, keyed.keys⟩
  | addPermission spec => exact ⟨keyed.tableNames, keyed.keys⟩
  | removePermission id => exact ⟨keyed.tableNames, keyed.keys⟩
  | updateTable patch found => exact absurd respects id
  | duplicateTable found => exact absurd respects id
  | fixKeys found => exact absurd respects id
  | fixIndex found held => exact absurd respects id

end Workspace

end SchemaDesign
