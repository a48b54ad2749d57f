import SchemaDesign.Proofs.Schema.Grounded

/-!
# Consistent schemas

A consistent schema refers to nothing that does not exist, and what it records twice agrees.  Every
run of commands keeps a schema consistent when what the commands add refers to what exists.
-/

namespace SchemaDesign

/-- What a schema refers to exists, and what it records twice agrees. -/
structure Schema.Consistent (schema : Schema) : Prop extends schema.Linked where
  indexNames : ∀ index ∈ schema.indexes, ∀ table, schema.table? index.table = some table →
    ∀ name ∈ index.columns, (table.columnNamed? name).isSome
  permissionUsers : ∀ permission ∈ schema.permissions, (schema.user? permission.user).isSome
  permissionTables : ∀ permission ∈ schema.permissions, ∀ id,
    permission.table = some id → (schema.table? id).isSome
  rowCounts : ∀ table ∈ schema.tables, table.rowCount = table.rows.length

/-- What a command adds meets the conditions of a consistent schema. -/
def Command.Fits (schema : Schema) : Command → Prop
  | .addTable spec => ∀ column ∈ spec.columns, column.isForeignKey = false
  | .updateTable _ patch => patch.columns = none
  | .alterTable _ (.add column) => column.isForeignKey = false
  | .addRelationship spec =>
      (schema.endpoint? spec.sourceTable spec.sourceColumn).isSome ∧
        (schema.endpoint? spec.targetTable spec.targetColumn).isSome
  | .addIndex spec =>
      spec.columns ≠ [] ∧ ∃ table, schema.table? spec.table = some table ∧
        ∀ name ∈ spec.columns, (table.columnNamed? name).isSome
  | .addConstraint spec =>
      (schema.table? spec.table).isSome ∧ ∀ column, spec.column = some column →
        (schema.endpoint? spec.table column).isSome
  | .addPermission spec =>
      (schema.user? spec.user).isSome ∧ ∀ id, spec.table = some id → (schema.table? id).isSome
  | _ => True

/-- Each command of a run fits the schema that it finds. -/
def Workspace.AllFit (workspace : Workspace) : List Command → Prop
  | [] => True
  | command :: commands =>
      command.Fits workspace.schema ∧ (workspace.after command).AllFit commands

namespace Schema

variable {schema : Schema}

theorem consistent_iff : schema.Consistent ↔ schema.Linked ∧ schema.Grounded := by
  constructor
  · intro consistent
    refine ⟨consistent.toLinked, ?_⟩
    constructor
    · intro index member name nameMember
      obtain ⟨table, found⟩ := Option.isSome_iff_exists.mp (consistent.indexTables index member)
      exact .of_table? found (consistent.indexNames index member table found name nameMember)
    · intro permission member
      exact user?_isSome_iff.mp (consistent.permissionUsers permission member)
    · intro permission member id scope
      exact table?_isSome_iff.mp (consistent.permissionTables permission member id scope)
    · exact consistent.rowCounts
  · rintro ⟨linked, grounded⟩
    refine
      { linked with
        indexNames := ?_
        permissionUsers := ?_
        permissionTables := ?_
        rowCounts := grounded.rows }
    · intro index member table found name nameMember
      obtain ⟨owner, ownerMember, identity, held⟩ := grounded.names index member name nameMember
      have same := (table?_eq_some_iff linked.tables).mpr ⟨ownerMember, identity⟩
      rw [found, Option.some.injEq] at same
      rw [columnNamed?_isSome_iff, same]
      exact held
    · intro permission member
      exact user?_isSome_iff.mpr (grounded.grantees permission member)
    · intro permission member id scope
      exact table?_isSome_iff.mpr (grounded.scopes permission member id scope)

theorem new_consistent (name : String) (now : Timestamp) : (Schema.new name now).Consistent := by
  rw [consistent_iff, linked_iff]
  refine ⟨⟨List.nodup_nil, List.nodup_nil, ?_, ?_, ?_, ?_⟩, ?_, ?_, ?_, ?_⟩
  all_goals
    intro entity member
    cases member

end Schema

theorem Command.Fits.refers
    {schema : Schema} {command : Command} (fits : command.Fits schema) (linked : schema.Linked) :
    command.Refers schema := by
  have held := schema.endpoint?_isSome_iff linked.tables
  cases command with
  | addTable spec => exact fits
  | updateTable id patch => exact fits
  | alterTable id change =>
      cases change with
      | add column => exact fits
      | drop name => trivial
      | modify name spec => trivial
  | addRelationship spec => exact ⟨(held _ _).mp fits.1, (held _ _).mp fits.2⟩
  | addIndex spec =>
      obtain ⟨nonempty, table, found, _⟩ := fits
      refine ⟨?_, nonempty⟩
      rw [← Schema.table?_isSome_iff, found]
      rfl
  | addConstraint spec =>
      refine ⟨Schema.table?_isSome_iff.mp fits.1, ?_⟩
      intro column named
      exact (held _ _).mp (fits.2 column named)
  | _ => trivial

namespace Workspace

variable {workspace after : Workspace} {command : Command}

theorem grounded_step
    (linked : workspace.schema.Linked) (grounded : workspace.schema.Grounded)
    (step : workspace.Step command after) (fits : command.Fits workspace.schema) :
    after.schema.Grounded := by
  cases step with
  | addTable spec => exact .of_changed (grounded.withTable rfl)
  | removeTable found => exact .of_changed (grounded.withoutTable _)
  | updateTable patch found =>
      have sameColumns : patch.columns = none := fits
      apply Schema.Grounded.of_changed
      apply grounded.changeTable_of_columns
      · intro table
        rfl
      · intro table
        rw [sameColumns]
        rfl
      · intro table rows
        exact rows
  | renameTable updated =>
      cases updated with
      | updateTable patch found =>
          apply Schema.Grounded.of_changed
          apply grounded.changeTable_of_columns
          · intro table
            rfl
          · intro table
            rfl
          · intro table rows
            exact rows
  | addColumn spec found =>
      apply Schema.Grounded.of_changed
      apply grounded.changeTable
      · intro table
        rfl
      · intro table _ column member
        exact ⟨column, List.mem_append_left _ member, Text.same_refl _⟩
      · intro table rows
        exact rows
  | dropColumn found named =>
      obtain ⟨member, rfl⟩ := Schema.mem_of_table? found
      exact .of_changed (grounded.dropColumn linked member named)
  | modifyColumn spec found named =>
      obtain ⟨member, rfl⟩ := Schema.mem_of_table? found
      exact .of_changed (grounded.modifyColumn linked member named spec)
  | duplicateTable found => exact .of_changed (grounded.withTable rfl)
  | insertRow row found =>
      apply Schema.Grounded.of_changed
      apply grounded.changeTable_of_columns
      · intro table
        rfl
      · intro table
        rfl
      · intro table _
        rfl
  | addRelationship spec =>
      apply Schema.Grounded.of_changed
      exact grounded.addRelationship { spec with id := { number := workspace.nextId } }
  | removeRelationship id =>
      apply Schema.Grounded.of_changed
      apply Schema.Grounded.markForeignKeys
      exact ⟨grounded.names, grounded.grantees, grounded.scopes, grounded.rows⟩
  | addIndex spec =>
      obtain ⟨_, table, found, named⟩ := fits
      apply Schema.Grounded.of_changed
      apply grounded.addIndex
      intro name member
      exact .of_table? found (named name member)
  | removeIndex id =>
      refine ⟨?_, grounded.grantees, grounded.scopes, grounded.rows⟩
      intro index member
      exact grounded.names index (List.mem_of_mem_eraseP member)
  | addConstraint spec =>
      exact ⟨grounded.names, grounded.grantees, grounded.scopes, grounded.rows⟩
  | removeConstraint id =>
      exact ⟨grounded.names, grounded.grantees, grounded.scopes, grounded.rows⟩
  | addUser spec =>
      refine ⟨grounded.names, ?_, grounded.scopes, grounded.rows⟩
      intro permission member
      have known := grounded.grantees permission member
      rw [Schema.userIds, Workspace.changed, List.map_append]
      exact List.mem_append_left _ known
  | removeUser id => exact .of_changed (grounded.removeUser id)
  | addPermission spec =>
      apply Schema.Grounded.of_changed
      apply grounded.addPermission
      · exact Schema.user?_isSome_iff.mp fits.1
      · intro id scope
        exact Schema.table?_isSome_iff.mp (fits.2 id scope)
  | removePermission id =>
      refine ⟨grounded.names, ?_, ?_, grounded.rows⟩
      · intro permission member
        exact grounded.grantees permission (List.mem_of_mem_eraseP member)
      · intro permission member
        exact grounded.scopes permission (List.mem_of_mem_eraseP member)
  | fixKeys found =>
      apply Schema.Grounded.of_changed
      exact grounded.keepFirstKey found
  | fixIndex found held =>
      apply Schema.Grounded.of_changed
      apply grounded.addIndex
      intro name member
      rw [List.mem_singleton.mp member]
      obtain ⟨columnMember, _⟩ := Schema.mem_of_column? held
      apply Schema.Names.of_table? found
      exact Schema.columnNamed?_isSome_iff.mpr ⟨_, columnMember, Text.same_refl _⟩

theorem consistent_step
    (fresh : workspace.IsFresh) (consistent : workspace.schema.Consistent)
    (step : workspace.Step command after) (fits : command.Fits workspace.schema) :
    after.IsFresh ∧ after.schema.Consistent := by
  obtain ⟨linked, grounded⟩ := Schema.consistent_iff.mp consistent
  have settled : workspace.Settled := { fresh with linked }
  have settledAfter := settled.step step (fits.refers linked)
  refine ⟨settledAfter.toIsFresh, Schema.consistent_iff.mpr ⟨settledAfter.linked, ?_⟩⟩
  exact grounded_step linked grounded step fits

theorem after_cases (workspace : Workspace) (command : Command) :
    workspace.after command = workspace ∨ workspace.Step command (workspace.after command) := by
  rcases Edit.perform_cases command workspace with ⟨error, run⟩ | ⟨answer, after, run, step⟩
  · exact .inl (congrArg Prod.snd run)
  · right
    rw [Workspace.after, run]
    exact step

/-- Every run of commands that add nothing dangling keeps a consistent schema consistent. -/
theorem consistent_run
    (workspace : Workspace) (commands : List Command) (fresh : workspace.IsFresh)
    (consistent : workspace.schema.Consistent) (fits : workspace.AllFit commands) :
    (commands.foldl Workspace.after workspace).schema.Consistent := by
  induction commands generalizing workspace with
  | nil => exact consistent
  | cons command commands ih =>
      obtain ⟨fitsFirst, fitsRest⟩ := fits
      rcases workspace.after_cases command with unchanged | step
      · rw [List.foldl_cons, unchanged]
        exact ih workspace fresh consistent (unchanged ▸ fitsRest)
      · obtain ⟨freshAfter, consistentAfter⟩ := consistent_step fresh consistent step fitsFirst
        exact ih _ freshAfter consistentAfter fitsRest

theorem new_isFresh (name : String) (now : Timestamp) (first : Nat) :
    IsFresh { schema := .new name now, nextId := first, now } := by
  constructor
  · intro id member
    cases member
  · intro id member
    cases member

theorem consistent_run_shop :
    let workspace : Workspace := { schema := .new "shop" default, nextId := 0, now := default }
    let commands : List Command :=
      [.addTable { name := "users", columns := [{ name := "id", dataType := "INT" }] },
        .addTable { name := "orders", columns := [{ name := "user_id", dataType := "INT" }] },
        .addRelationship
          { name := none
            sourceTable := ⟨3⟩
            sourceColumn := ⟨2⟩
            targetTable := ⟨1⟩
            targetColumn := ⟨0⟩
            cardinality := .oneToMany },
        .addIndex { name := "by_user", table := ⟨3⟩, columns := ["USER_ID"], isUnique := false },
        .alterTable ⟨3⟩ (.modify "user_id" { name := "buyer_id", dataType := "INT" }),
        .removeTable ⟨1⟩]
    workspace.AllFit commands ∧
      (commands.foldl Workspace.after workspace).schema.Consistent := by
  intro workspace commands
  have fits : workspace.AllFit commands := by
    refine ⟨?_, ?_, ⟨rfl, rfl⟩, ⟨List.cons_ne_nil _ _, _, rfl, ?_⟩, trivial, trivial, trivial⟩
    · simp [Command.Fits]
    · simp [Command.Fits]
    · decide
  refine ⟨fits, consistent_run workspace commands ?_ ?_ fits⟩
  · exact new_isFresh "shop" default 0
  · exact Schema.new_consistent "shop" default

end Workspace

end SchemaDesign
