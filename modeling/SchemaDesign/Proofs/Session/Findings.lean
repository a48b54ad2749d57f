import SchemaDesign.Proofs.Execution.Keeps
import SchemaDesign.Proofs.Validation.Scope

/-!
# Findings that are never out of date

While every change is followed by a validation, the findings of a session are those on its schema.
-/

namespace SchemaDesign

/-- What can be asked of a session, and the passing of time. -/
inductive Operation where
  | perform (command : Command)
  | execute (script : String)
  | executeStatement (source : Sql.StatementSource)
  | forward (statement : String)
  | runQuery (query : VisualQuery)
  | setAutoValidate (enabled : Bool)
  | revalidate
  | attach (backend : Backend)
  | detach
  | setMirrorDialect (dialect : Dialect)
  | passTime (now : Timestamp)

namespace Session

/-- If every change is followed by a validation, the findings are those on the schema. -/
def InStep (session : Session) : Prop :=
  session.autoValidate = true → session.findings = session.schema.validate

/-- A session as it is begun, on a schema or with settings. -/
inductive Begun : Session → Prop where
  | ofWorkspace (workspace : Workspace) : Begun (.ofWorkspace workspace)
  | ofConfig (config : Config) (firstId : Nat) (now : Timestamp) :
      Begun (.ofConfig config firstId now)

/-- The session after an operation, whatever it answers. -/
def after (session : Session) : Operation → Session
  | .perform command => ((SessionM.perform command).run session).2
  | .execute script => ((SessionM.execute script).run session).2
  | .executeStatement source => ((SessionM.executeStatement source).run session).2
  | .forward statement => ((SessionM.forward statement).run session).2
  | .runQuery query => ((SessionM.runQuery query).run session).2
  | .setAutoValidate enabled => ((SessionM.setAutoValidate enabled).run session).2
  | .revalidate => (SessionM.revalidate.run session).2
  | .attach backend => ((SessionM.attach backend).run session).2
  | .detach => (SessionM.detach.run session).2
  | .setMirrorDialect dialect => { session with mirrorDialect := dialect }
  | .passTime now => { session with workspace := { session.workspace with now } }

variable {session : Session}

theorem InStep.with_backend (inStep : session.InStep) (backend : Option Backend) :
    InStep { session with backend } :=
  inStep

theorem InStep.mirrored (inStep : session.InStep) (statements : List String) :
    (session.mirrored statements).InStep :=
  inStep.with_backend _

theorem validated_inStep (session : Session) : session.validated.InStep := by
  intro auto
  by_cases validates : session.autoValidate = true
  · rw [validated, if_pos validates]
    rfl
  · rw [validated, if_neg validates] at auto
    exact absurd auto validates

theorem InStep.finished
    (inStep : session.InStep) {command : Command} {after : Workspace}
    (step : session.workspace.Step command after) (statements : List String) :
    (session.finished command.validates after statements).InStep := by
  cases validates : command.validates with
  | true => exact validated_inStep _
  | false =>
      rw [finished_silently]
      apply InStep.mirrored
      intro auto
      calc
        session.findings = session.schema.validate := inStep auto
        _ = session.schema.bare.validate := session.schema.validate_bare.symm
        _ = after.schema.bare.validate := by rw [step.bare_eq validates]; rfl
        _ = after.schema.validate := after.schema.validate_bare

theorem inStep_perform (command : Command) : (SessionM.perform command).Keeps InStep := by
  intro session inStep
  rcases SessionM.perform_cases command session with
    ⟨error, ran⟩ | ⟨answer, after, statements, step, ran⟩
  · rw [ran]
    exact inStep
  · rw [ran]
    exact inStep.finished step statements

theorem inStep_forward (statement : String) : (SessionM.forward statement).Keeps InStep :=
  SessionM.keeps_forward (fun _ backend inStep => inStep.with_backend backend) statement

theorem inStep_setAutoValidate (enabled : Bool) :
    (SessionM.setAutoValidate enabled).Keeps InStep := by
  intro session inStep
  cases enabled with
  | true => exact fun _ => rfl
  | false =>
      intro auto
      cases auto

theorem InStep.after (inStep : session.InStep) (operation : Operation) :
    (session.after operation).InStep := by
  cases operation with
  | perform command => exact inStep_perform command session inStep
  | execute script =>
      exact SessionM.keeps_execute inStep_perform inStep_forward script session inStep
  | executeStatement source =>
      exact SessionM.keeps_executeStatement inStep_perform inStep_forward source session inStep
  | forward statement => exact inStep_forward statement session inStep
  | runQuery query =>
      exact SessionM.keeps_runQuery (fun _ backend inStep => inStep.with_backend backend) query
        session inStep
  | setAutoValidate enabled => exact inStep_setAutoValidate enabled session inStep
  | revalidate => exact fun _ => rfl
  | attach backend => exact inStep.with_backend (some backend)
  | detach => exact inStep.with_backend none
  | setMirrorDialect dialect => exact inStep
  | passTime now => exact inStep

theorem Begun.inStep (begun : Begun session) : session.InStep := by
  cases begun with
  | ofWorkspace workspace => exact fun _ => rfl
  | ofConfig config firstId now => exact fun _ => rfl

/-- In every state that a session comes to in which every change is followed by a validation, the
findings are those on the schema. -/
theorem findings_eq_validate
    (begun : Begun session) (operations : List Operation)
    (auto : (operations.foldl after session).autoValidate = true) :
    (operations.foldl after session).findings =
      (operations.foldl after session).schema.validate := by
  have inStep : (operations.foldl after session).InStep := by
    have start := begun.inStep
    clear begun auto
    induction operations generalizing session with
    | nil => exact start
    | cons operation operations ih => exact ih (start.after operation)
  exact inStep auto

theorem findings_eq_validate_shop :
    let session : Session := .ofConfig {} 0 default
    let operations : List Operation :=
      [.setAutoValidate false, .perform (.addTable { name := "users" }), .setAutoValidate true,
        .perform (.addUser { username := "ada" }), .perform (.renameTable ⟨0⟩ "Users")]
    (operations.foldl after session).autoValidate = true ∧
      (operations.foldl after session).findings =
        (operations.foldl after session).schema.validate := by
  intro session operations
  have begun : Begun session := .ofConfig {} 0 default
  have auto : (operations.foldl after session).autoValidate = true := rfl
  exact ⟨auto, findings_eq_validate begun operations auto⟩

end Session

end SchemaDesign
