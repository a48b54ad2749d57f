import SchemaDesign.Proofs.Schema.Places
import SchemaDesign.Proofs.Session.Steps

/-!
# What validation looks at

No rule of validation looks at the rows of tables, at their counts or places, at accounts or
permissions, or at the times of the schema.
-/

namespace SchemaDesign

/-- The table without what no rule of validation looks at. -/
def Table.bare (table : Table) : Table :=
  { table with position := default, rowCount := 0, rows := [] }

namespace Schema

/-- The schema without what no rule of validation looks at. -/
def bare (schema : Schema) : Schema :=
  { schema with
    tables := schema.tables.map Table.bare
    users := []
    permissions := []
    createdAt := default
    updatedAt := default }

variable (schema : Schema)

theorem table?_bare (id : TableId) : schema.bare.table? id = (schema.table? id).map Table.bare := by
  rw [table?, bare, List.find?_map]
  rfl

theorem endpoint?_bare (owner : TableId) (columnId : ColumnId) :
    schema.bare.endpoint? owner columnId =
      (schema.endpoint? owner columnId).map (Prod.map Table.bare id) := by
  apply endpoint?_eq_map (schema.table?_bare owner)
  intro table
  rw [Option.map_id, id_eq]
  rfl

end Schema

namespace Validation

variable (schema : Schema)

theorem primaryKeyFindings_bare : primaryKeyFindings schema.bare = primaryKeyFindings schema := by
  rw [primaryKeyFindings, Schema.bare, List.filterMap_map]
  rfl

theorem danglingEnd?_bare (relationship : Relationship) :
    danglingEnd? schema.bare relationship = danglingEnd? schema relationship := by
  rw [danglingEnd?, Schema.table?_bare, Schema.table?_bare, danglingEnd?]
  cases schema.table? relationship.sourceTable with
  | none => rfl
  | some source =>
      cases schema.table? relationship.targetTable with
      | none => rfl
      | some target => rfl

theorem foreignKeyFindings_bare : foreignKeyFindings schema.bare = foreignKeyFindings schema := by
  apply List.filterMap_congr
  intro relationship _
  rw [danglingEnd?_bare, Schema.table?_bare, Option.map_map]
  rfl

theorem targets_bare (source : TableId) :
    Cycle.targets schema.bare source = Cycle.targets schema source := by
  simp only [Cycle.targets, Schema.table?_bare, Option.isSome_map]
  rfl

theorem chainText_bare (cycle : List TableId) :
    chainText schema.bare cycle = chainText schema cycle := by
  have names : (cycle.filterMap schema.bare.table?).map (fun table => table.name) =
      (cycle.filterMap schema.table?).map fun table => table.name := by
    rw [List.map_filterMap, List.map_filterMap]
    apply List.filterMap_congr
    intro id _
    rw [Schema.table?_bare, Option.map_map]
    rfl
  rw [chainText, names, chainText]

theorem cycleFindings_bare : cycleFindings schema.bare = cycleFindings schema := by
  have targets : Cycle.targets schema.bare = Cycle.targets schema := funext (targets_bare schema)
  have tables : schema.bare.tables.map (fun table => table.id) =
      schema.tables.map fun table => table.id := by
    rw [Schema.bare, List.map_map]
    rfl
  simp only [cycleFindings, Cycle.all, targets, tables, chainText_bare]

theorem missingIndexFindings_bare (seen : List ColumnId) (relationships : List Relationship) :
    missingIndexFindings schema.bare seen relationships =
      missingIndexFindings schema seen relationships := by
  induction relationships generalizing seen with
  | nil => rfl
  | cons relationship relationships ih =>
      simp only [missingIndexFindings, Schema.endpoint?_bare, ih]
      cases schema.endpoint? relationship.sourceTable relationship.sourceColumn with
      | none => rfl
      | some ends => rfl

theorem duplicateTablesAfter_bare (seen : List (String × String)) (tables : List Table) :
    duplicateTablesAfter seen (tables.map Table.bare) = duplicateTablesAfter seen tables := by
  induction tables generalizing seen with
  | nil => rfl
  | cons table tables ih =>
      simp only [List.map_cons, duplicateTablesAfter, ih]
      rfl

theorem duplicateColumnsAfter_bare (table : Table) (seen : List String) (columns : List Column) :
    duplicateColumnsAfter table.bare seen columns = duplicateColumnsAfter table seen columns := by
  induction columns generalizing seen with
  | nil => rfl
  | cons column columns ih =>
      simp only [duplicateColumnsAfter, ih]
      rfl

theorem duplicateColumnFindings_bare :
    duplicateColumnFindings schema.bare = duplicateColumnFindings schema := by
  rw [duplicateColumnFindings, Schema.bare, List.flatMap_map]
  simp only [duplicateColumnsAfter_bare]
  rfl

end Validation

/-- Validation finds the same without the data it does not look at. -/
theorem Schema.validate_bare (schema : Schema) : schema.bare.validate = schema.validate := by
  have naming : Validation.namingFindings schema.bare = Validation.namingFindings schema := by
    rw [Validation.namingFindings, bare, List.filter_map, List.map_map]
    rfl
  have indexes : Validation.foreignKeyIndexFindings schema.bare =
      Validation.foreignKeyIndexFindings schema :=
    Validation.missingIndexFindings_bare schema [] schema.relationships
  have duplicates : Validation.duplicateTableFindings schema.bare =
      Validation.duplicateTableFindings schema :=
    Validation.duplicateTablesAfter_bare [] schema.tables
  have reserved : Validation.reservedFindings schema.bare = Validation.reservedFindings schema := by
    rw [Validation.reservedFindings, bare, List.flatMap_map]
    rfl
  have empty : Validation.emptyTableFindings schema.bare =
      Validation.emptyTableFindings schema := by
    rw [Validation.emptyTableFindings, bare, List.filter_map, List.map_map]
    rfl
  have types : Validation.dataTypeFindings schema.bare = Validation.dataTypeFindings schema := by
    rw [Validation.dataTypeFindings, bare, List.flatMap_map]
    rfl
  rw [validate, Validation.primaryKeyFindings_bare, Validation.foreignKeyFindings_bare,
    Validation.cycleFindings_bare, naming, indexes, duplicates,
    Validation.duplicateColumnFindings_bare, reserved, empty, types, validate]

/-- Commands that are not followed by a validation change nothing that validation looks at. -/
theorem Workspace.Step.bare_eq
    {workspace after : Workspace} {command : Command} (step : workspace.Step command after)
    (silent : command.validates = false) : after.schema.bare = workspace.schema.bare := by
  cases step with
  | @insertRow id table row found =>
      have tables : ((workspace.schema.changeTable id fun table =>
          { table with
            rows := table.rows ++ [row]
            rowCount := (table.rows ++ [row]).length }).tables.map Table.bare) =
          workspace.schema.tables.map Table.bare :=
        map_changeFirst fun _ _ => rfl
      simp only [Schema.bare, Workspace.changed, tables]
      rfl
  | addUser spec => rfl
  | removeUser id => rfl
  | addPermission spec => rfl
  | removePermission id => rfl
  | _ => cases silent

end SchemaDesign
