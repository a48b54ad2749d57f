import SchemaDesign.Proofs.Execution.Related
import SchemaDesign.Proofs.Session.Steps

/-!
# What every command keeps, every script keeps

A statement changes a session by commands only, and may leave the rest to the database.  What the
database is asked changes nothing of the session but the database.
-/

namespace SchemaDesign

section

variable {α : Type} {held : Session → Prop}

/-- To keep what holds is to answer alike in a session and itself, where it holds. -/
theorem SessionM.Keeps.relates {step : SessionM α} (keeps : step.Keeps held) :
    step.Relates fun left right => left = right ∧ held left := by
  rintro session _ ⟨rfl, holds⟩
  exact ⟨rfl, rfl, keeps session holds⟩

theorem Execution.Relates.keeps
    {step : Execution α} (relates : Relates (fun left right => left = right ∧ held left) step) :
    Keeps held step := by
  intro session holds
  have kept := (relates session session ⟨rfl, holds⟩).2.2
  cases ran : step.run.run session with
  | mk result later =>
      rw [ran] at kept
      cases result with
      | error error => exact kept
      | ok answer => exact kept

end

namespace SessionM

variable {held : Session → Prop}
variable (database : ∀ session backend, held session → held { session with backend })

include database

theorem keeps_send (request : Request) : (send request).Keeps held := by
  intro session holds
  rw [send, run_bind, run_get]
  cases session.backend with
  | none => exact holds
  | some backend => exact database session _ holds

theorem keeps_forward (statement : String) : (forward statement).Keeps held := by
  rw [forward]
  split
  · exact keeps_send database (.query statement)
  · exact keeps_send database (.run statement)

theorem keeps_runQuery (query : VisualQuery) : (runQuery query).Keeps held := by
  intro session holds
  rw [runQuery, run_bind, run_get]
  cases session.backend with
  | none => exact holds
  | some backend => exact database session _ holds

end SessionM

namespace Execution

variable {held : Session → Prop}

theorem keeps_forward
    (forwards : ∀ statement, (SessionM.forward statement).Keeps held) (text : String) :
    Keeps held (forward text) := by
  apply Keeps.bind (.always (forwards text))
  intro answer
  cases answer with
  | error error => exact .throw _
  | ok rows =>
      cases rows with
      | none => exact .pure _
      | some rows => exact .pure _

theorem schema_of_kept
    (left right : Session) (kept : left = right ∧ held left) : left.schema = right.schema :=
  congrArg Session.schema kept.1

theorem keeps_check
    {id : TableId} (checks : ∀ spec, (SessionM.perform (.addConstraint spec)).Keeps held)
    (tableName : String) (name : Option String) (expression : String) :
    Keeps held (addConstraint id tableName (.check name expression)) := by
  apply Leads.current_bind
  intro session _
  apply Leads.strengthen _ fun _ holds => holds.1
  have adds (spec : ConstraintSpec) :
      Keeps held (always (discard (SessionM.addConstraint spec))) :=
    .always (checks spec)
  apply Keeps.bind (adds _)
  intro _
  exact .pure _

section

variable {id : TableId}
variable (links : ∀ spec, (SessionM.perform (.addRelationship spec)).Keeps held)

include links

theorem keeps_linkForeignKey (tableName : String) (key : ForeignKey) :
    Keeps held (linkForeignKey id tableName key) :=
  (relates_linkForeignKey schema_of_kept (fun spec => (links spec).relates) tableName key).keeps

/-- What the definition of a column brings with it keeps what checks and relationships keep. -/
theorem keeps_extras
    (checks : ∀ spec, (SessionM.perform (.addConstraint spec)).Keeps held)
    (tableName : String) (column : Sql.ColumnDef) :
    Keeps held (addExtras id tableName column) :=
  (relates_addExtras schema_of_kept (fun spec => (links spec).relates)
    (fun spec => (checks spec).relates) tableName column).keeps

end

section

variable {id : TableId}
variable (parts : ∀ command : Command, command.IsPartOf id →
  (SessionM.perform command).Keeps held)

include parts

theorem relates_parts (command : Command) (part : command.IsPartOf id) :
    (SessionM.perform command).Relates fun left right => left = right ∧ held left :=
  (parts command part).relates

theorem keeps_alterTable_column (change : ColumnChange) :
    Keeps held (attempt (SessionM.alterTable id change)) :=
  (relates_alterTable_column (relates_parts parts) change).keeps

theorem keeps_addExtras (tableName : String) (column : Sql.ColumnDef) :
    Keeps held (addExtras id tableName column) :=
  keeps_extras (fun spec => parts (.addRelationship spec) trivial)
    (fun spec => parts (.addConstraint spec) trivial) tableName column

theorem keeps_addConstraint (tableName : String) (constraint : Sql.TableConstraint) :
    Keeps held (addConstraint id tableName constraint) :=
  (relates_addConstraint schema_of_kept (relates_parts parts) tableName constraint).keeps

end

theorem keeps_performAll
    {id : TableId}
    (alters : ∀ command : Command, command.Alters id → (SessionM.perform command).Keeps held)
    (tableName : String) (actions : List Sql.AlterAction) :
    Keeps held (performAll id tableName actions) := by
  apply Relates.keeps
  apply relates_performAll
  · exact schema_of_kept
  · intro command altering
    exact (alters command altering).relates

theorem keeps_applyText
    (commands : ∀ command, (SessionM.perform command).Keeps held)
    (forwards : ∀ statement, (SessionM.forward statement).Keeps held) (text : String) :
    Keeps held (applyText text) := by
  by_cases own : Sql.Statement.ofText text = .ok .passthrough
  · rw [applyText_of_read own]
    exact keeps_forward forwards text
  · apply Relates.keeps
    apply relates_applyText
    · exact schema_of_kept
    · intro command
      exact (commands command).relates
    · exact own

end Execution

namespace SessionM

variable {α : Type} {held : Session → Prop}

theorem Keeps.mapM
    {β : Type} {each : α → SessionM β} {xs : List α} (keeps : ∀ x ∈ xs, (each x).Keeps held) :
    (xs.mapM each).Keeps held := by
  induction xs with
  | nil =>
      rw [List.mapM_nil]
      exact fun _ holds => holds
  | cons x xs ih =>
      rw [List.mapM_cons]
      intro session holds
      have first := keeps x List.mem_cons_self session holds
      exact ih (fun y member => keeps y (List.mem_cons_of_mem _ member)) _ first

theorem Keeps.executeStatement
    {source : Sql.StatementSource}
    (keeps : Execution.Keeps held (Execution.applyText source.text)) :
    (executeStatement source).Keeps held := by
  intro session holds
  have led := keeps session holds
  change held ((Execution.applyText source.text).run.run session).2
  cases ran : (Execution.applyText source.text).run.run session with
  | mk result later =>
      rw [ran] at led
      cases result with
      | error error => exact led
      | ok effect => exact led

theorem keeps_executeStatement
    (commands : ∀ command, (perform command).Keeps held)
    (forwards : ∀ statement, (forward statement).Keeps held) (source : Sql.StatementSource) :
    (executeStatement source).Keeps held :=
  .executeStatement (Execution.keeps_applyText commands forwards source.text)

theorem keeps_execute
    (commands : ∀ command, (perform command).Keeps held)
    (forwards : ∀ statement, (forward statement).Keeps held) (script : String) :
    (execute script).Keeps held := by
  apply Keeps.mapM
  intro source _
  exact keeps_executeStatement commands forwards source

end SessionM

end SchemaDesign
