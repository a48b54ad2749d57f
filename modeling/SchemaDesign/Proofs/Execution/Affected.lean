import SchemaDesign.Proofs.Execution.SingleSteps
import SchemaDesign.Proofs.Schema.Shapes

/-!
# The tables that a statement affects

The report on a statement that succeeds names every table that the statement has added, removed,
renamed or given other columns.  The report on one that fails names no table.  What had been done
before the failure stays done, and concerns only tables that the statement names.
-/

namespace SchemaDesign

open Sql (AlterAction CreateTable Statement StatementSource)

/-- The tables that a statement is about, by the names that it calls them. -/
def Sql.Statement.tableNames : Statement → List String
  | .createTable definition => [definition.name]
  | .alterTable table _ => [table]
  | .dropTable tables _ => tables
  | .passthrough => []

namespace Schema

/-- Every table that is of another shape later has one of some names, before or later. -/
def ChangedOnly (before later : Schema) (names : List String) : Prop :=
  ∀ id, later.shapesOf id ≠ before.shapesOf id →
    ∃ called, (id, called) ∈ before.tableNames ++ later.tableNames ∧
      ∃ name ∈ names, Text.same called name = true

/-- A later schema has no tables but those from before, and every table that is of another shape has
had one of some names. -/
structure Dropped (before later : Schema) (names : List String) : Prop where
  remaining : later.tableNames ⊆ before.tableNames
  named : ∀ id, later.shapesOf id ≠ before.shapesOf id →
    ∃ called, (id, called) ∈ before.tableNames ∧ ∃ name ∈ names, Text.same called name = true

variable {before later : Schema} {names : List String}

theorem ChangedOnly.refl (schema : Schema) (names : List String) :
    schema.ChangedOnly schema names :=
  fun _ different => absurd rfl different

theorem Dropped.refl (schema : Schema) (names : List String) : schema.Dropped schema names where
  remaining := List.Subset.refl _
  named := fun _ different => absurd rfl different

theorem Dropped.trans
    {last : Schema} {others : List String} (first : before.Dropped later names)
    (second : later.Dropped last others) : before.Dropped last (names ++ others) where
  remaining := List.Subset.trans second.remaining first.remaining
  named := by
    intro id different
    by_cases same : later.shapesOf id = before.shapesOf id
    · rw [← same] at different
      obtain ⟨called, member, name, listed, agrees⟩ := second.named id different
      exact ⟨called, first.remaining member, name, List.mem_append_right _ listed, agrees⟩
    · obtain ⟨called, member, name, listed, agrees⟩ := first.named id same
      exact ⟨called, member, name, List.mem_append_left _ listed, agrees⟩

theorem Dropped.mono
    {more : List String} (dropped : before.Dropped later names) (fewer : names ⊆ more) :
    before.Dropped later more where
  remaining := dropped.remaining
  named := by
    intro id different
    obtain ⟨called, member, name, listed, agrees⟩ := dropped.named id different
    exact ⟨called, member, name, fewer listed, agrees⟩

theorem Dropped.changedOnly (dropped : before.Dropped later names) :
    before.ChangedOnly later names := by
  intro id different
  obtain ⟨called, member, named⟩ := dropped.named id different
  exact ⟨called, List.mem_append_left _ member, named⟩

theorem mem_tableNames {schema : Schema} {table : Table} (member : table ∈ schema.tables) :
    (table.id, table.name) ∈ schema.tableNames :=
  List.mem_map_of_mem member

theorem tableNames_withoutTable (schema : Schema) (id : TableId) :
    (schema.withoutTable id).tableNames =
      (schema.tables.eraseP fun table => table.id == id).map fun table => (table.id, table.name) :=
  List.map_map

end Schema

/-- A change of the table of an identity leaves the tables of other identities in shape. -/
theorem Workspace.Step.keeps_shapesOf
    {before after : Workspace} {command : Command} {id other : TableId}
    (step : before.Step command after) (alters : command.Alters id) (different : other ≠ id) :
    after.schema.shapesOf other = before.schema.shapesOf other := by
  rcases alters with part | ⟨name, rfl⟩
  · cases step with
    | addColumn spec found =>
        rw [← show _ = id from part] at different
        exact Schema.shapesOf_changeTable_of_ne different fun _ => rfl
    | @dropColumn _ _ name column found named =>
        rw [← show _ = id from part] at different
        refine (Schema.shapesOf_markForeignKeys _ _).trans ?_
        exact Schema.shapesOf_changeTable_of_ne different fun _ => rfl
    | modifyColumn spec found named =>
        rw [← show _ = id from part] at different
        dsimp only [Workspace.changed]
        split
        · exact Schema.shapesOf_changeTable_of_ne different fun _ => rfl
        · exact Schema.shapesOf_changeTable_of_ne different fun _ => rfl
    | addRelationship spec =>
        exact Schema.shapesOf_changeTable_of_shape (fun _ => rfl) (Table.shape_mark _)
    | addIndex spec => rfl
    | addConstraint spec => rfl
    | _ => exact part.elim
  · cases step with
    | renameTable updated =>
        cases updated with
        | updateTable patch found =>
            exact Schema.shapesOf_changeTable_of_ne different fun _ => rfl

/-- The table that a removal takes away has its name before. -/
theorem Workspace.Step.dropped_removeTable
    {before after : Workspace} {table : Table} {name : String}
    (step : before.Step (.removeTable table.id) after) (member : table ∈ before.schema.tables)
    (named : Text.same table.name name = true) :
    before.schema.Dropped after.schema [name] := by
  cases step with
  | removeTable found =>
      constructor
      · change Schema.tableNames (before.schema.withoutTable table.id) ⊆ _
        rw [Schema.tableNames_withoutTable]
        exact List.map_subset _ (List.eraseP_subset)
      · intro id different
        by_cases same : id = table.id
        · rw [same]
          exact ⟨table.name, Schema.mem_tableNames member, name, List.mem_singleton_self _, named⟩
        · exact absurd (Schema.shapesOf_withoutTable same) different

namespace Execution

/-! ## Changes of one table -/

/-- Only tables of an identity are of another shape than in an earlier schema. -/
def Confined (start : Schema) (id : TableId) (session : Session) : Prop :=
  ∀ other, other ≠ id → session.schema.shapesOf other = start.shapesOf other

theorem Confined.changedOnly
    {start : Schema} {id : TableId} {session : Session} {called name : String}
    {names : List String} (confined : Confined start id session)
    (member : (id, called) ∈ start.tableNames ++ session.schema.tableNames)
    (listed : name ∈ names) (named : Text.same called name = true) :
    start.ChangedOnly session.schema names := by
  intro other different
  by_cases same : other = id
  · exact ⟨called, same ▸ member, name, listed, named⟩
  · exact absurd (confined other same) different

theorem keeps_confined
    {start : Schema} {id : TableId} {command : Command} (alters : command.Alters id) :
    (SessionM.perform command).Keeps (Confined start id) := by
  intro session confined other different
  rcases session.perform_workspace command with unchanged | step
  · rw [unchanged]
    exact confined other different
  · exact (step.keeps_shapesOf alters different).trans (confined other different)

/-! ## Statements -/

theorem alterTable_affected (name : String) (actions : List AlterAction) (session : Session) :
    Leads (fun begun => begun = session) (alterTable name actions)
      (fun effect later => session.schema.ChangedOnly later.schema effect.affectedTables)
      (fun later => session.schema.ChangedOnly later.schema [name]) := by
  apply Leads.current_bind
  rintro session rfl
  cases found : session.schema.tableNamed? name with
  | none =>
      apply Leads.throw
      rintro later ⟨rfl, _⟩
      exact .refl _ _
  | some table =>
      obtain ⟨held, named⟩ := Schema.mem_of_tableNamed? found
      have changed (later : Session) (confined : Confined session.schema table.id later)
          (names : List String) (listed : name ∈ names) :
          session.schema.ChangedOnly later.schema names :=
        confined.changedOnly (List.mem_append_left _ (Schema.mem_tableNames held)) listed named
      have performs : Leads (fun later => later = session ∧ later.schema = session.schema)
          (performAll table.id name actions) (fun _ => Confined session.schema table.id)
          (fun later => session.schema.ChangedOnly later.schema [name]) := by
        apply Leads.weaken
        · apply Leads.strengthen (keeps_performAll (fun _ => keeps_confined) name actions)
          rintro begun ⟨rfl, _⟩ other _
          rfl
        · exact fun _ _ confined => confined
        · exact fun later confined => changed later confined [name] (List.mem_singleton_self _)
      apply Leads.bind performs
      intro effects
      exact Leads.pure fun later confined => changed later confined _ List.mem_cons_self

/-- A new table alone is of a shape that was not there before. -/
theorem addTable_confined (spec : TableSpec) (session : Session) {failed : Session → Prop} :
    Leads (fun begun => begun = session) (always (SessionM.addTable spec))
      (fun id later => Confined session.schema id later ∧
        (id, spec.name) ∈ later.schema.tableNames)
      failed := by
  apply Leads.always
  rintro session rfl
  rw [SessionM.addTable, SessionM.run_carry, Edit.run_addTable]
  dsimp only
  constructor
  · intro other different
    rw [Session.schema, Session.finished_workspace]
    exact Schema.shapesOf_append different
  · rw [Session.schema, Session.finished_workspace]
    exact Schema.mem_tableNames (List.mem_append_right _ (List.mem_singleton_self _))

theorem createTable_affected (definition : CreateTable) (session : Session) :
    Leads (fun begun => begun = session) (createTable definition)
      (fun effect later => session.schema.ChangedOnly later.schema effect.affectedTables)
      (fun later => session.schema.ChangedOnly later.schema [definition.name]) := by
  let made (id : TableId) (later : Session) : Prop :=
    Confined session.schema id later ∧ (id, definition.name) ∈ later.schema.tableNames
  have changed (id : TableId) (later : Session) (holds : made id later) :
      session.schema.ChangedOnly later.schema [definition.name] :=
    holds.1.changedOnly (List.mem_append_right _ holds.2) (List.mem_singleton_self _)
      (Text.same_refl _)
  have parts (id : TableId) (command : Command) (part : command.IsPartOf id) :
      (SessionM.perform command).Keeps (made id) := by
    rintro begun ⟨confined, member⟩
    refine ⟨keeps_confined (.inl part) begun confined, ?_⟩
    rcases begun.perform_workspace command with unchanged | step
    · rw [unchanged]
      exact member
    · rw [Session.schema, step.keeps_tableNames part.isPart]
      exact member
  apply Leads.current_bind
  rintro session rfl
  change Leads _ (if _ then _ else _) _ _
  split
  · split
    · apply Leads.pure
      rintro later ⟨rfl, _⟩
      exact .refl _ _
    · apply Leads.throw
      rintro later ⟨rfl, _⟩
      exact .refl _ _
  · apply Leads.bind ((addTable_confined _ session).strengthen fun _ known => known.1)
    intro id
    -- a step that keeps what is known of the new table fails only with that much done
    have leads {α : Type} {step : Execution α} (keeps : Keeps (made id) step) :
        Leads (made id) step (fun _ => made id)
          (fun later => session.schema.ChangedOnly later.schema [definition.name]) :=
      Leads.weaken keeps (fun _ _ holds => holds) (changed id)
    apply Leads.bind (leads (Keeps.mapM fun column _ => keeps_addExtras (parts id) _ column))
    intro extras
    apply Leads.bind
      (leads (Keeps.mapM fun constraint _ => keeps_addConstraint (parts id) _ constraint))
    intro others
    exact Leads.pure (changed id)

theorem dropTable_dropped (ifExists : Bool) (name : String) (session : Session) :
    Leads (fun begun => begun = session) (dropTable ifExists name)
      (fun existed later =>
        session.schema.Dropped later.schema (if existed then [name] else []))
      (fun later => session.schema.Dropped later.schema []) := by
  apply Leads.current_bind
  rintro session rfl
  cases found : session.schema.tableNamed? name with
  | none =>
      change Leads _ (if ifExists then _ else _) _ _
      split
      · apply Leads.pure
        rintro later ⟨rfl, _⟩
        exact .refl _ _
      · apply Leads.throw
        rintro later ⟨rfl, _⟩
        exact .refl _ _
  | some table =>
      obtain ⟨held, named⟩ := Schema.mem_of_tableNamed? found
      have removes : Leads (fun later => later = session)
          (attempt (SessionM.removeTable table.id))
          (fun _ later => session.schema.Dropped later.schema [name])
          (fun later => later = session) := by
        have performs : SessionM.perform (.removeTable table.id) =
            do return (← SessionM.removeTable table.id).map Answer.removedTable := rfl
        apply Leads.attempt_command performs
        rintro session rfl workspace statements step
        change session.schema.Dropped (Session.workspace _).schema [name]
        rw [Session.finished_workspace]
        exact step.dropped_removeTable held named
      have unchanged (later : Session) (same : later = session) :
          session.schema.Dropped later.schema [] :=
        same ▸ .refl _ _
      apply Leads.bind
      · apply Leads.discard
        exact Leads.weaken (removes.strengthen fun _ known => known.1)
          (fun _ _ dropped => dropped) unchanged
      · intro _
        exact Leads.pure fun _ dropped => dropped

/-- The names that outcomes tell to have been dropped. -/
def droppedNames (names : List String) (existed : List Bool) : List String :=
  ((names.zip existed).filter fun outcome => outcome.2).map fun outcome => outcome.1

theorem dropEach_dropped (ifExists : Bool) (names : List String) (session : Session) :
    Leads (fun begun => begun = session) (names.mapM (dropTable ifExists))
      (fun existed later => session.schema.Dropped later.schema (droppedNames names existed))
      (fun later => session.schema.Dropped later.schema names) := by
  induction names generalizing session with
  | nil =>
      rw [List.mapM_nil]
      apply Leads.pure
      rintro later rfl
      exact .refl _ _
  | cons name names ih =>
      rw [List.mapM_cons]
      apply Leads.bind
      · apply (dropTable_dropped ifExists name session).weaken
        · exact fun _ _ dropped => dropped
        · exact fun _ dropped => dropped.mono (List.nil_subset _)
      · intro existed middle first
        have others : Leads (fun later => later = middle) (names.mapM (dropTable ifExists))
            (fun rest later =>
              session.schema.Dropped later.schema (droppedNames (name :: names) (existed :: rest)))
            (fun later => session.schema.Dropped later.schema (name :: names)) := by
          apply (ih middle).weaken
          · intro rest later second
            have both := first.trans second
            cases existed with
            | false => exact both
            | true => exact both
          · intro later second
            apply (first.trans second).mono
            cases existed with
            | false => exact List.subset_cons_self _ _
            | true => exact List.Subset.refl _
        apply Leads.bind others _ middle rfl
        intro rest
        exact Leads.pure fun _ dropped => dropped

theorem dropTables_affected (names : List String) (ifExists : Bool) (session : Session) :
    Leads (fun begun => begun = session) (dropTables names ifExists)
      (fun effect later => session.schema.ChangedOnly later.schema effect.affectedTables)
      (fun later => session.schema.ChangedOnly later.schema names) := by
  apply Leads.bind
  · apply (dropEach_dropped ifExists names session).weaken
    · exact fun _ _ dropped => dropped
    · exact fun _ dropped => dropped.changedOnly
  · intro existed
    exact Leads.pure fun _ dropped => dropped.changedOnly

theorem forward_affected (text : String) (session : Session) :
    Leads (fun begun => begun = session) (forward text)
      (fun effect later => later.schema = session.schema ∧ effect.affectedTables = [])
      (fun later => later.schema = session.schema) := by
  have sends : (SessionM.forward text).Keeps fun later => later.schema = session.schema :=
    SessionM.keeps_forward (fun _ _ same => same) text
  have asks : Leads (fun begun => begun = session) (always (SessionM.forward text))
      (fun _ later => later.schema = session.schema)
      (fun later => later.schema = session.schema) := by
    apply Leads.always
    rintro session rfl
    exact sends session rfl
  apply Leads.bind asks
  intro answer
  cases answer with
  | error error => exact Leads.throw fun _ same => same
  | ok rows =>
      cases rows with
      | none => exact Leads.pure fun _ same => ⟨same, rfl⟩
      | some rows => exact Leads.pure fun _ same => ⟨same, rfl⟩

theorem apply_affected (text : String) (statement : Statement) (session : Session) :
    Leads (fun begun => begun = session) (apply text statement)
      (fun effect later => session.schema.ChangedOnly later.schema effect.affectedTables)
      (fun later => session.schema.ChangedOnly later.schema statement.tableNames) := by
  cases statement with
  | createTable definition => exact createTable_affected definition session
  | alterTable name actions => exact alterTable_affected name actions session
  | dropTable names ifExists => exact dropTables_affected names ifExists session
  | passthrough =>
      have unchanged (later : Session) (same : later.schema = session.schema)
          (names : List String) : session.schema.ChangedOnly later.schema names :=
        same ▸ .refl _ _
      apply (forward_affected text session).weaken
      · exact fun _ later known => unchanged later known.1 _
      · exact fun later same => unchanged later same _

end Execution

/-! ## Reports -/

namespace Session

/-- The report on a statement that succeeds names every table whose shape the statement changes.
The report on one that fails names none, and if the schema is not what it was, then the statement
is one of several steps and names every table whose shape it has changed. -/
theorem affected_tables_named (session : Session) (source : StatementSource) :
    let ran := (SessionM.executeStatement source).run session
    (ran.1.success = true → session.schema.ChangedOnly ran.2.schema ran.1.affectedTables) ∧
      (ran.1.success = false → ran.1.affectedTables = [] ∧
        (ran.2.schema = session.schema ∨
          ∃ statement, Statement.ofText source.text = .ok statement ∧
            ¬ statement.IsSingleStep ∧
              session.schema.ChangedOnly ran.2.schema statement.tableNames)) := by
  intro ran
  have whole : ran = (.of source _, _) := Execution.run_executeStatement source session
  cases made : (Execution.applyText source.text).run.run session with
  | mk result later =>
      rw [made] at whole
      rw [whole]
      cases result with
      | ok effect =>
          refine ⟨fun _ => ?_, fun failed => Bool.noConfusion failed⟩
          cases read : Statement.ofText source.text with
          | error error =>
              rw [Execution.applyText_of_error read] at made
              cases made
          | ok statement =>
              rw [Execution.applyText_of_read read] at made
              have led := Execution.apply_affected source.text statement session session rfl
              rw [made] at led
              exact led
      | error error =>
          refine ⟨fun succeeded => Bool.noConfusion succeeded, fun _ => ⟨rfl, ?_⟩⟩
          by_cases single : ∀ statement, Statement.ofText source.text = .ok statement →
              statement.IsSingleStep
          · have led := Execution.applyText_allOrNothing single session session rfl
            rw [made] at led
            exact .inl (congrArg Session.schema led)
          · push Not at single
            obtain ⟨statement, read, several⟩ := single
            rw [Execution.applyText_of_read read] at made
            have led := Execution.apply_affected source.text statement session session rfl
            rw [made] at led
            exact .inr ⟨statement, read, several, led⟩

/-- A column that is added before a change that fails is there, and the report names no table. -/
theorem affected_tables_unnamed_users :
    let created := "CREATE TABLE users (id INT)"
    let session := ((SessionM.execute created).run (.ofConfig {} 0 default)).2
    let source : StatementSource :=
      ⟨"ALTER TABLE users ADD age INT, DROP COLUMN missing", default, default, true⟩
    let ran := (SessionM.executeStatement source).run session
    ¬ session.schema.ChangedOnly ran.2.schema ran.1.affectedTables := by
  intro created session source ran changed
  have unnamed : ran.1.affectedTables = [] := by
    decide +kernel
  have different : ran.2.schema.shapesOf { number := 1 } ≠
      session.schema.shapesOf { number := 1 } := by
    decide +kernel
  obtain ⟨called, _, name, listed, _⟩ := changed { number := 1 } different
  rw [unnamed] at listed
  exact absurd listed List.not_mem_nil

end Session

end SchemaDesign
