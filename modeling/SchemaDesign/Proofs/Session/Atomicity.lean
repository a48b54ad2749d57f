import SchemaDesign.Proofs.Session.Steps

/-!
# Changes are made as a whole or not at all

A command that fails leaves a schema as it was, with the time of its last change, and a session with
its findings and with a database that has not been asked for anything.  A command that succeeds
stamps the schema with the time.
-/

namespace SchemaDesign

theorem Workspace.Step.updatedAt_eq
    {before after : Workspace} {command : Command} (step : before.Step command after) :
    after.schema.updatedAt = before.now := by
  induction step with
  | renameTable updated ih => exact ih
  | _ => rfl

namespace Command

/-- By itself and in a session, a command that fails changes nothing, and one that succeeds stamps
the schema.  The requests that a database has had are part of its session. -/
theorem perform_all_or_nothing (command : Command) :
    (∀ workspace : Workspace,
      match (Edit.perform command).run workspace with
      | (.error _, after) => after = workspace
      | (.ok _, after) => after.schema.updatedAt = workspace.now) ∧
    ∀ session : Session,
      match (SessionM.perform command).run session with
      | (.error _, after) => after = session
      | (.ok _, after) => after.schema.updatedAt = session.workspace.now := by
  constructor
  · intro workspace
    rcases Edit.perform_cases command workspace with ⟨error, run⟩ | ⟨answer, after, run, step⟩
    · rw [run]
    · rw [run]
      exact step.updatedAt_eq
  · intro session
    rcases SessionM.perform_cases command session with
      ⟨error, run⟩ | ⟨answer, after, statements, step, run⟩
    · rw [run]
    · rw [run]
      change (session.finished command.validates after statements).workspace.schema.updatedAt = _
      rw [session.finished_workspace]
      exact step.updatedAt_eq

end Command

end SchemaDesign
