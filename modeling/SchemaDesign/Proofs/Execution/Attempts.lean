import SchemaDesign.Proofs.Execution.Keeps
import SchemaDesign.Proofs.Schema.Keyed

/-!
# What the commands of a statement leave in place

A command that fails in a statement leaves the session as it was.  One that succeeds in a part of a
table leaves all tables in place, so that a name of a table goes on meaning the same one.
-/

namespace SchemaDesign

/-! ## Commands that fail -/

section

variable {α : Type} {command : Command} {step : SessionM (Except SchemaError α)}
variable {answer : α → Answer}
variable (performs : SessionM.perform command = do return (← step).map answer)

include performs

/-- A step that answers a command fails and leaves the session as it was, or it succeeds as the
command does. -/
theorem SessionM.cases_of_perform (session : Session) :
    (∃ error, step.run session = (.error error, session)) ∨
      ∃ given after statements, session.workspace.Step command after ∧
        step.run session = (.ok given, session.finished command.validates after statements) := by
  have ran : (perform command).run session =
      ((step.run session).1.map answer, (step.run session).2) := by
    rw [performs]
    rfl
  cases alone : step.run session with
  | mk result later =>
      rw [alone] at ran
      rcases perform_cases command session with
        ⟨error, failed⟩ | ⟨given, after, statements, stepped, succeeded⟩
      · rw [ran] at failed
        cases result with
        | error error =>
            cases failed
            exact .inl ⟨_, rfl⟩
        | ok given => cases failed
      · rw [ran] at succeeded
        cases result with
        | error error => cases succeeded
        | ok given =>
            cases succeeded
            exact .inr ⟨given, after, statements, stepped, rfl⟩

/-- What was known of the session before a command is known of it still when the command fails. -/
theorem Execution.Leads.attempt_command
    {before after : Session → Prop}
    (holds : ∀ session, before session → ∀ workspace statements,
      session.workspace.Step command workspace →
        after (session.finished command.validates workspace statements)) :
    Leads before (Execution.attempt step) (fun _ => after) before := by
  intro session known
  rw [Execution.run_attempt]
  rcases SessionM.cases_of_perform performs session with
    ⟨error, failed⟩ | ⟨given, workspace, statements, stepped, succeeded⟩
  · rw [failed]
    exact known
  · rw [succeeded]
    exact holds session known workspace statements stepped

end

/-! ## Names of tables -/

/-- The identities and names of the tables. -/
def Schema.tableNames (schema : Schema) : List (TableId × String) :=
  schema.tables.map fun table => (table.id, table.name)

/-- The identity of the first table of a name. -/
def Schema.called? (schema : Schema) (name : String) : Option TableId :=
  (schema.tableNamed? name).map fun table => table.id

theorem Schema.called?_eq (schema : Schema) (name : String) :
    schema.called? name =
      (schema.tableNames.find? fun entry => Text.same entry.2 name).map fun entry => entry.1 := by
  rw [tableNames, List.find?_map, Option.map_map]
  rfl

/-- A name that no table has means the table that it is given to. -/
theorem Schema.called?_changeTable
    {schema : Schema} {id : TableId} {table : Table} {change : Table → Table} {name : String}
    (free : schema.hasTable name = false) (found : schema.table? id = some table)
    (renames : (change table).name = name) (keepsId : (change table).id = table.id) :
    (schema.changeTable id change).called? name = some id := by
  have named : Text.same (change table).name name = true := by
    rw [renames, Text.same_refl]
  have first : (schema.changeTable id change).tableNamed? name = some (change table) :=
    find?_changeFirst found (Schema.hasTable_eq_false_iff.mp free) named
  rw [called?, first, Option.map_some, keepsId, (Schema.mem_of_table? found).2]

theorem Schema.tableNames_withoutReferencesTo (schema : Schema) (id : TableId) (column : Column) :
    (schema.withoutReferencesTo id column).tableNames = schema.tableNames :=
  List.map_map

theorem Workspace.Step.keeps_tableNames
    {before after : Workspace} {command : Command} (step : before.Step command after)
    (part : command.IsPart) : after.schema.tableNames = before.schema.tableNames := by
  cases step with
  | addColumn spec found => exact map_changeFirst fun _ _ => rfl
  | dropColumn found named =>
      exact (Schema.tableNames_withoutReferencesTo _ _ _).trans (map_changeFirst fun _ _ => rfl)
  | modifyColumn spec found named =>
      dsimp only [Workspace.changed]
      split
      · exact map_changeFirst fun _ _ => rfl
      · exact map_changeFirst fun _ _ => rfl
  | addRelationship spec => exact map_changeFirst fun _ _ => rfl
  | addIndex spec => rfl
  | addConstraint spec => rfl
  | _ => exact part.elim

/-- A command for a part of a table leaves every name of a table to mean the same one. -/
theorem SessionM.keeps_called?
    {command : Command} (part : command.IsPart) (name : String) (id : Option TableId) :
    (perform command).Keeps fun session => session.schema.called? name = id := by
  intro session calls
  rcases session.perform_workspace command with unchanged | step
  · rw [unchanged]
    exact calls
  · change Schema.called? (Session.workspace _).schema name = id
    rw [Schema.called?_eq, step.keeps_tableNames part, ← Schema.called?_eq]
    exact calls

end SchemaDesign
