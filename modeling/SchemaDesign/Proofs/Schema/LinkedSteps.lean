import SchemaDesign.Proofs.Schema.LinkedChanges
import SchemaDesign.Proofs.Schema.Steps

/-!
# Commands that keep a schema linked

What a command adds has to refer to what exists, and its columns come without marks of foreign
keys.  Then the schema stays linked, as long as the identities to come are new.
-/

namespace SchemaDesign

/-- What a command adds refers to what exists. -/
def Command.Refers (schema : Schema) : Command → Prop
  | .addTable spec => ∀ column ∈ spec.columns, column.isForeignKey = false
  | .updateTable _ patch => patch.columns = none
  | .alterTable _ (.add column) => column.isForeignKey = false
  | .addRelationship spec => schema.Joins spec
  | .addIndex spec => schema.Carries spec
  | .addConstraint spec => schema.Bears spec
  | _ => True

/-! ## Identities to come -/

/-- No table and no column has an identity that the workspace has yet to give. -/
structure Workspace.IsFresh (workspace : Workspace) : Prop where
  tables : ∀ id ∈ workspace.schema.tableIds, id.number < workspace.nextId
  columns : ∀ id ∈ workspace.schema.columnIds, id.number < workspace.nextId

section

variable {first : Nat} {specs : List ColumnSpec}

theorem number_mem_numberedFrom {column : Column} (member : column ∈ numberedFrom first specs) :
    first ≤ column.id.number ∧ column.id.number < first + specs.length := by
  induction specs generalizing first with
  | nil => cases member
  | cons spec specs ih =>
      rcases List.mem_cons.mp member with rfl | member
      · change first ≤ first ∧ first < first + (specs.length + 1)
        omega
      · have bounds := ih member
        simp only [List.length_cons]
        omega

theorem numberedFrom_specs :
    (numberedFrom first specs).map (fun column => column.toColumnSpec) = specs := by
  induction specs generalizing first with
  | nil => rfl
  | cons spec specs ih => rw [numberedFrom, List.map_cons, ih]

theorem spec_mem_numberedFrom {column : Column} (member : column ∈ numberedFrom first specs) :
    column.toColumnSpec ∈ specs := by
  have spec := List.mem_map_of_mem (f := fun column : Column => column.toColumnSpec) member
  rwa [numberedFrom_specs] at spec

theorem exists_mem_numberedFrom {spec : ColumnSpec} (member : spec ∈ specs) :
    ∃ column ∈ numberedFrom first specs, column.toColumnSpec = spec := by
  have known : spec ∈ (numberedFrom first specs).map fun column => column.toColumnSpec := by
    rwa [numberedFrom_specs]
  exact List.mem_map.mp known

theorem numberedFrom_nodup : ((numberedFrom first specs).map fun column => column.id).Nodup := by
  induction specs generalizing first with
  | nil => exact List.nodup_nil
  | cons spec specs ih =>
      rw [numberedFrom, List.map_cons, List.nodup_cons]
      refine ⟨?_, ih⟩
      intro member
      obtain ⟨column, later, identity⟩ := List.mem_map.mp member
      have above := (number_mem_numberedFrom later).1
      have same : column.id.number = first := congrArg Id.number identity
      omega

end

namespace Workspace

/-- References lead somewhere, and the identities to come are new. -/
structure Settled (workspace : Workspace) : Prop extends workspace.IsFresh where
  linked : workspace.schema.Linked

variable {workspace : Workspace}

theorem Settled.new_table
    (settled : workspace.Settled) {id : TableId} (drawn : workspace.nextId ≤ id.number) :
    id ∉ workspace.schema.tableIds := by
  intro member
  have bound := settled.tables id member
  omega

theorem Settled.new_column
    (settled : workspace.Settled) {id : ColumnId} (drawn : workspace.nextId ≤ id.number) :
    id ∉ workspace.schema.columnIds := by
  intro member
  have bound := settled.columns id member
  omega

theorem Settled.changed
    (settled : workspace.Settled) {drawn : Nat} {change : Schema → Schema}
    (linked : (change workspace.schema).Linked)
    (tables : ∀ id ∈ (change workspace.schema).tableIds,
      id ∈ workspace.schema.tableIds ∨ id.number < workspace.nextId + drawn)
    (columns : ∀ id ∈ (change workspace.schema).columnIds,
      id ∈ workspace.schema.columnIds ∨ id.number < workspace.nextId + drawn) :
    (workspace.changed drawn change).Settled := by
  constructor
  · constructor
    · intro id member
      rcases tables id member with old | new
      · have bound := settled.tables id old
        simp only [Workspace.changed]
        omega
      · exact new
    · intro id member
      rcases columns id member with old | new
      · have bound := settled.columns id old
        simp only [Workspace.changed]
        omega
      · exact new
  · exact linked.stamped workspace.now

/-- A change that leaves tables and columns where they are, with their marks. -/
theorem Settled.changed_of_frames
    (settled : workspace.Settled) {drawn : Nat} {change : Schema → Schema}
    (frames : (change workspace.schema).frames = workspace.schema.frames)
    (relationships : (change workspace.schema).relationships = workspace.schema.relationships)
    (carries : ∀ index ∈ (change workspace.schema).indexes,
      workspace.schema.Carries index.toIndexSpec)
    (bears : ∀ constraint ∈ (change workspace.schema).constraints,
      workspace.schema.Bears constraint.toConstraintSpec) :
    (workspace.changed drawn change).Settled := by
  apply settled.changed
  · exact settled.linked.of_frames frames relationships carries bears
  · intro id member
    rw [Schema.tableIds_eq_frames, frames, ← Schema.tableIds_eq_frames] at member
    exact .inl member
  · intro id member
    rw [Schema.columnIds_eq_frames, frames, ← Schema.columnIds_eq_frames] at member
    exact .inl member

theorem Settled.changed_table
    (settled : workspace.Settled) {drawn : Nat} {id : TableId} {change : Table → Table}
    (unseen : ∀ table, workspace.schema.table? id = some table →
      Schema.Frame (change table) = Schema.Frame table) :
    (workspace.changed drawn fun schema => schema.changeTable id change).Settled := by
  apply settled.changed_of_frames
  · exact Schema.frames_changeTable unseen
  · rfl
  · exact settled.linked.carries
  · exact settled.linked.bears

theorem Settled.withTable
    (settled : workspace.Settled) {drawn : Nat} {table : Table} {first : Nat}
    {specs : List ColumnSpec}
    (tableNumber : workspace.nextId ≤ table.id.number ∧ table.id.number < workspace.nextId + drawn)
    (columns : table.columns = numberedFrom first specs) (start : workspace.nextId ≤ first)
    (finish : first + specs.length ≤ workspace.nextId + drawn)
    (unmarked : ∀ spec ∈ specs, spec.isForeignKey = false) :
    (workspace.changed drawn fun schema =>
      { schema with tables := schema.tables ++ [table] }).Settled := by
  have numbers : ∀ column ∈ table.columns,
      first ≤ column.id.number ∧ column.id.number < first + specs.length := by
    intro column member
    exact number_mem_numberedFrom (columns ▸ member)
  apply settled.changed
  · apply settled.linked.addTable (settled.new_table tableNumber.1)
    · rw [columns]
      exact numberedFrom_nodup
    · intro column member
      apply settled.new_column
      have bounds := numbers column member
      omega
    · intro column member
      exact unmarked _ (spec_mem_numberedFrom (columns ▸ member))
  · intro id member
    simp only [Schema.tableIds, List.map_append, List.mem_append, List.map_cons, List.map_nil,
      List.mem_singleton] at member
    rcases member with old | rfl
    · exact .inl old
    · exact .inr tableNumber.2
  · intro id member
    simp only [Schema.columnIds, List.flatMap_append, List.mem_append, List.flatMap_cons,
      List.flatMap_nil, List.append_nil] at member
    rcases member with old | new
    · exact .inl old
    · obtain ⟨column, columnMember, rfl⟩ := List.mem_map.mp new
      have bounds := numbers column columnMember
      right
      omega

/-- A column keeps its identity and its mark under a new definition, and indexes that follow its
name keep as many columns as they had. -/
theorem Settled.changed_modified
    (settled : workspace.Settled) {id : TableId} {table : Table} {name : String} {column : Column}
    (spec : ColumnSpec) (found : workspace.schema.table? id = some table)
    (named : table.columnNamed? name = some column) :
    (workspace.changed 0 fun schema =>
      let modified := schema.changeTable id fun table =>
        { table with
          columns := changeFirst (fun column => Text.same column.name name)
            (fun _ => { spec with id := column.id, isForeignKey := column.isForeignKey })
            table.columns }
      if Text.same column.name spec.name then modified
      else modified.renameIndexed id name spec.name).Settled := by
  have modified : (workspace.schema.changeTable id fun table =>
      { table with
        columns := changeFirst (fun column => Text.same column.name name)
          (fun _ => { spec with id := column.id, isForeignKey := column.isForeignKey })
          table.columns }).frames = workspace.schema.frames := by
    apply Schema.frames_changeTable
    intro owner ownerFound
    rw [found, Option.some.injEq] at ownerFound
    subst ownerFound
    refine Prod.ext rfl (map_changeFirst ?_)
    intro meant meantFound
    have same : some meant = some column := meantFound.symm.trans named
    rw [Option.some.injEq] at same
    subst same
    rfl
  apply settled.changed_of_frames
  · split <;> exact modified
  · split <;> rfl
  · intro index member
    split at member
    · exact settled.linked.carries index member
    · obtain ⟨known, knownMember, rfl⟩ := List.mem_map.mp member
      have carries := settled.linked.carries known knownMember
      split
      · refine ⟨carries.1, ?_⟩
        rw [ne_eq, List.map_eq_nil_iff]
        exact carries.2
      · exact carries
  · intro constraint member
    split at member <;> exact settled.linked.bears constraint member

theorem Settled.step
    {command : Command} {after : Workspace} (settled : workspace.Settled)
    (step : workspace.Step command after) (refers : command.Refers workspace.schema) :
    after.Settled := by
  have linked := settled.linked
  cases step with
  | addTable spec =>
      apply settled.withTable _ rfl (Nat.le_refl _) _ refers
      · change workspace.nextId ≤ workspace.nextId + spec.columns.length ∧
          workspace.nextId + spec.columns.length < workspace.nextId + (spec.columns.length + 1)
        omega
      · omega
  | removeTable found =>
      apply settled.changed (linked.withoutTable _)
      · intro id member
        rw [Schema.withoutTable, Schema.tableIds_markForeignKeys] at member
        exact .inl ((List.eraseP_sublist.map _).subset member)
      · intro id member
        rw [Schema.withoutTable, Schema.columnIds_markForeignKeys] at member
        exact .inl ((List.eraseP_sublist.flatMap _).subset member)
  | updateTable patch found =>
      apply settled.changed_table
      intro table _
      have sameColumns : patch.columns = none := refers
      rw [sameColumns]
      rfl
  | renameTable updated =>
      cases updated with
      | updateTable patch found =>
          apply settled.changed_table
          intro table _
          rfl
  | @addColumn id table spec found =>
      have known : id ∈ workspace.schema.tableIds := by
        rw [← Schema.table?_isSome_iff, found]
        rfl
      apply settled.changed
      · refine linked.addColumn known ?_ ?_
        · exact settled.new_column (Nat.le_refl _)
        · exact refers
      · intro id member
        exact .inl (Schema.mem_tableIds_changeTable rfl member fun _ => rfl)
      · intro id member
        rcases Schema.mem_columnIds_changeTable rfl member with old | ⟨table, found, member⟩
        · exact .inl old
        · rw [List.map_append, List.mem_append, List.map_singleton, List.mem_singleton] at member
          rcases member with old | rfl
          · exact .inl (Schema.mem_columnIds_of_table? found old)
          · exact .inr (Nat.lt_succ_self _)
  | dropColumn found named =>
      apply settled.changed
      · obtain ⟨member, rfl⟩ := Schema.mem_of_table? found
        exact linked.dropColumn member named
      · intro id member
        rw [Schema.withoutReferencesTo, Schema.tableIds_markForeignKeys] at member
        exact .inl (Schema.mem_tableIds_changeTable rfl member fun _ => rfl)
      · intro id member
        rw [Schema.withoutReferencesTo, Schema.columnIds_markForeignKeys] at member
        left
        rcases Schema.mem_columnIds_changeTable rfl member with old | ⟨table, found, member⟩
        · exact old
        · exact Schema.mem_columnIds_of_table? found ((List.eraseP_sublist.map _).subset member)
  | modifyColumn spec found named =>
      exact settled.changed_modified spec found named
  | @duplicateTable id source found =>
      apply settled.withTable _ rfl (Nat.le_succ _)
      · rw [List.length_map]
        omega
      · intro spec member
        obtain ⟨column, _, rfl⟩ := List.mem_map.mp member
        rfl
      · change workspace.nextId ≤ workspace.nextId ∧
          workspace.nextId < workspace.nextId + (source.columns.length + 1)
        omega
  | insertRow row found =>
      apply settled.changed_table
      intro table _
      rfl
  | addRelationship spec =>
      apply settled.changed
      · exact linked.addRelationship { spec with id := { number := workspace.nextId } } refers
      · intro id member
        exact .inl (Schema.mem_tableIds_changeTable rfl member fun _ => rfl)
      · intro id member
        left
        rcases Schema.mem_columnIds_changeTable rfl member with old | ⟨table, found, member⟩
        · exact old
        · rw [map_changeFirst] at member
          · exact Schema.mem_columnIds_of_table? found member
          · intro column _
            rfl
  | removeRelationship id =>
      apply settled.changed (linked.removeRelationship _)
      · intro id member
        rw [Schema.tableIds_markForeignKeys] at member
        exact .inl member
      · intro id member
        rw [Schema.columnIds_markForeignKeys] at member
        exact .inl member
  | addIndex spec =>
      apply settled.changed_of_frames rfl rfl _ linked.bears
      intro index member
      rcases List.mem_append.mp member with member | member
      · exact linked.carries index member
      · rw [List.mem_singleton.mp member]
        exact refers
  | removeIndex id =>
      apply settled.changed_of_frames rfl rfl _ linked.bears
      intro index member
      exact linked.carries index (List.mem_of_mem_eraseP member)
  | addConstraint spec =>
      apply settled.changed_of_frames rfl rfl linked.carries
      intro constraint member
      rcases List.mem_append.mp member with member | member
      · exact linked.bears constraint member
      · rw [List.mem_singleton.mp member]
        exact refers
  | removeConstraint id =>
      apply settled.changed_of_frames rfl rfl linked.carries
      intro constraint member
      exact linked.bears constraint (List.mem_of_mem_eraseP member)
  | addUser spec => exact settled.changed_of_frames rfl rfl linked.carries linked.bears
  | removeUser id => exact settled.changed_of_frames rfl rfl linked.carries linked.bears
  | addPermission spec => exact settled.changed_of_frames rfl rfl linked.carries linked.bears
  | removePermission id => exact settled.changed_of_frames rfl rfl linked.carries linked.bears
  | fixKeys found =>
      apply settled.changed_table
      intro table tableFound
      rw [found, Option.some.injEq] at tableFound
      subst tableFound
      exact Prod.ext rfl (Validation.map_keepFirstKey _ (fun _ _ => rfl) false _)
  | fixIndex found held =>
      apply settled.changed_of_frames rfl rfl _ linked.bears
      intro index member
      rcases List.mem_append.mp member with member | member
      · exact linked.carries index member
      · rw [List.mem_singleton.mp member]
        refine ⟨?_, List.cons_ne_nil _ _⟩
        rw [← Schema.table?_isSome_iff, found]
        rfl

/-- A new relationship takes no column away. -/
theorem Step.keeps_holds
    {spec : RelationshipSpec} {after : Workspace}
    (step : workspace.Step (.addRelationship spec) after) {table : TableId} {column : ColumnId}
    (holds : workspace.schema.Holds table column) : after.schema.Holds table column := by
  cases step with
  | addRelationship spec =>
      apply Schema.holds_changeTable rfl holds
      · intro owner
        rfl
      · intro owner held member
        rcases mem_changeFirst_of_mem member with kept | ⟨_, changed⟩
        · exact ⟨held, kept, rfl⟩
        · exact ⟨_, changed, rfl⟩

/-- Only a removal of tables takes tables away. -/
theorem Step.keeps_table
    {command : Command} {after : Workspace} (step : workspace.Step command after)
    (stays : ∀ id, command ≠ .removeTable id) {id : TableId}
    (member : id ∈ workspace.schema.tableIds) : id ∈ after.schema.tableIds := by
  cases step with
  | addTable spec => exact Schema.tableIds_append_of_mem rfl member
  | removeTable found => exact absurd rfl (stays _)
  | updateTable patch found =>
      exact Schema.tableIds_changeTable_of_mem rfl member fun _ => rfl
  | renameTable updated =>
      cases updated with
      | updateTable patch found =>
          exact Schema.tableIds_changeTable_of_mem rfl member fun _ => rfl
  | addColumn spec found => exact Schema.tableIds_changeTable_of_mem rfl member fun _ => rfl
  | @dropColumn owner table name column found named =>
      change id ∈ (Schema.markForeignKeys _).tableIds
      rw [Schema.tableIds_markForeignKeys]
      exact Schema.tableIds_changeTable_of_mem rfl member fun _ => rfl
  | modifyColumn spec found named =>
      dsimp only [Workspace.changed]
      split
      · exact Schema.tableIds_changeTable_of_mem rfl member fun _ => rfl
      · exact Schema.tableIds_changeTable_of_mem rfl member fun _ => rfl
  | duplicateTable found => exact Schema.tableIds_append_of_mem rfl member
  | insertRow row found => exact Schema.tableIds_changeTable_of_mem rfl member fun _ => rfl
  | addRelationship spec => exact Schema.tableIds_changeTable_of_mem rfl member fun _ => rfl
  | removeRelationship id =>
      change _ ∈ (Schema.markForeignKeys _).tableIds
      rw [Schema.tableIds_markForeignKeys]
      exact member
  | fixKeys found => exact Schema.tableIds_changeTable_of_mem rfl member fun _ => rfl
  | _ => exact member

end Workspace

end SchemaDesign
