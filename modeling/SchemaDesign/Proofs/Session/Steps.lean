import SchemaDesign.Proofs.Schema.Steps

/-!
# What commands do to a session

A command changes the workspace of a session as it changes a workspace by itself.  When it
succeeds, statements are sent to the database, and the schema is validated if the command can change
what validation finds.
-/

namespace SchemaDesign

/-- Whether a command is followed by a validation in sessions that validate every change. -/
def Command.validates : Command → Bool
  | .insertRow _ _ | .addUser _ | .removeUser _ | .addPermission _ | .removePermission _ => false
  | _ => true

namespace Session

/-- The session after statements have been sent to its database, if there is one. -/
def mirrored (session : Session) (statements : List String) : Session :=
  { session with backend := session.backend.map fun backend => runAll backend statements }

/-- The session after a change, validated if every change is followed by a validation. -/
def validated (session : Session) : Session :=
  if session.autoValidate then { session with findings := session.schema.validate } else session

/-- The session after a command that has changed its workspace. -/
def finished (session : Session) (validates : Bool) (after : Workspace)
    (statements : List String) : Session :=
  let changed := { session with workspace := after }.mirrored statements
  if validates then changed.validated else changed

theorem mirrored_nil (session : Session) : session.mirrored [] = session := by
  cases session with
  | mk workspace backend mirrorDialect autoValidate findings =>
      cases backend with
      | none => rfl
      | some backend => rfl

theorem finished_silently (session : Session) (after : Workspace) (statements : List String) :
    session.finished false after statements =
      { session with workspace := after }.mirrored statements :=
  rfl

theorem finished_workspace
    (session : Session) (validates : Bool) (after : Workspace) (statements : List String) :
    (session.finished validates after statements).workspace = after := by
  cases validates with
  | false => rfl
  | true =>
      cases auto : session.autoValidate with
      | false => simp [finished, validated, mirrored, auto]
      | true => simp [finished, validated, mirrored, auto]

theorem finished_backend
    (session : Session) (validates : Bool) (after : Workspace) (statements : List String) :
    (session.finished validates after statements).backend =
      session.backend.map fun backend => runAll backend statements := by
  cases validates with
  | false => rfl
  | true =>
      cases auto : session.autoValidate with
      | false => simp [finished, validated, mirrored, auto]
      | true => simp [finished, validated, mirrored, auto]

theorem finished_mirrorDialect
    (session : Session) (validates : Bool) (after : Workspace) (statements : List String) :
    (session.finished validates after statements).mirrorDialect = session.mirrorDialect := by
  cases validates with
  | false => rfl
  | true =>
      cases auto : session.autoValidate with
      | false => simp [finished, validated, mirrored, auto]
      | true => simp [finished, validated, mirrored, auto]

theorem journal_runAll (backend : Backend) (statements : List String) :
    (runAll backend statements).journal = backend.journal ++ statements.map Request.run := by
  induction statements generalizing backend with
  | nil => exact (List.append_nil _).symm
  | cons statement statements ih =>
      refine (ih (backend.send (.run statement)).2).trans ?_
      exact List.append_assoc _ _ _

end Session

namespace SessionM

theorem run_bind {α β : Type} (step : SessionM α) (next : α → SessionM β) (session : Session) :
    (step >>= next).run session = (next (step.run session).1).run (step.run session).2 :=
  rfl

theorem run_edit {α : Type} (step : Edit α) (session : Session) :
    (edit step).run session =
      ((step.run session.workspace).1,
        { session with workspace := (step.run session.workspace).2 }) :=
  rfl

theorem run_get (session : Session) : (get : SessionM Session).run session = (session, session) :=
  rfl

theorem run_current (session : Session) : current.run session = (session.schema, session) :=
  rfl

theorem run_afterChange (session : Session) :
    afterChange.run session = ((), session.validated) := by
  by_cases auto : session.autoValidate = true
  · rw [Session.validated, if_pos auto, afterChange, run_bind, run_get, if_pos auto]
    rfl
  · rw [Session.validated, if_neg auto, afterChange, run_bind, run_get, if_neg auto]
    rfl

/-- A step of a session carries a step of its workspace over: it gives the same answer, and after a
success it finishes the session. -/
def Carries {α : Type} (validates : Bool) (step : Edit (Except SchemaError α))
    (carried : SessionM (Except SchemaError α)) : Prop :=
  ∀ session : Session,
    match step.run session.workspace with
    | (.error error, after) =>
        carried.run session = (.error error, { session with workspace := after })
    | (.ok answer, after) =>
        ∃ statements,
          carried.run session = (.ok answer, session.finished validates after statements)

theorem Carries.map
    {α β : Type} {validates : Bool} {step : Edit (Except SchemaError α)}
    {carried : SessionM (Except SchemaError α)} (carries : Carries validates step carried)
    (answer : α → β) :
    Carries validates (do return (← step).map answer) (do return (← carried).map answer) := by
  intro session
  have known := carries session
  cases run : step.run session.workspace with
  | mk result after =>
      rw [run] at known
      rw [Edit.run_bind, run]
      cases result with
      | error error =>
          rw [run_bind, known]
          rfl
      | ok given =>
          obtain ⟨statements, ran⟩ := known
          refine ⟨statements, ?_⟩
          rw [run_bind, ran]
          rfl

theorem carries_edit {α : Type} (step : Edit (Except SchemaError α)) :
    Carries false step (edit step) := by
  intro session
  cases run : step.run session.workspace with
  | mk result after =>
      cases result with
      | error error => rw [run_edit, run]
      | ok answer =>
          refine ⟨[], ?_⟩
          rw [run_edit, run, Session.finished_silently, Session.mirrored_nil]

theorem run_carryChecked
    {α : Type} (validates : Bool) (step : Edit (Except SchemaError α))
    (statements : Dialect → Schema → Schema → α → List String) (session : Session) :
    (carryChecked validates step statements).run session =
      match step.run session.workspace with
      | (.error error, after) => (.error error, { session with workspace := after })
      | (.ok answer, after) =>
          (.ok answer, session.finished validates after
            (statements session.mirrorDialect session.schema after.schema answer)) := by
  simp only [carryChecked, run_bind, run_current, run_edit]
  cases step.run session.workspace with
  | mk result after =>
      cases result with
      | error error => rfl
      | ok answer =>
          cases validates with
          | false => rfl
          | true =>
              simp only [if_true, run_bind, run_afterChange]
              rfl

theorem carries_carryChecked
    {α : Type} (validates : Bool) (step : Edit (Except SchemaError α))
    (statements : Dialect → Schema → Schema → α → List String) :
    Carries validates step (carryChecked validates step statements) := by
  intro session
  rw [run_carryChecked]
  cases step.run session.workspace with
  | mk result after =>
      cases result with
      | error error => rfl
      | ok answer => exact ⟨_, rfl⟩

theorem run_carry
    {α : Type} (step : Edit α) (statements : Dialect → Schema → Schema → α → List String)
    (session : Session) :
    (carry step statements).run session =
      ((step.run session.workspace).1,
        session.finished true (step.run session.workspace).2
          (statements session.mirrorDialect session.schema (step.run session.workspace).2.schema
            (step.run session.workspace).1)) := by
  simp only [carry, run_bind, run_current, run_edit, run_afterChange]
  rfl

theorem carries_carry
    {α β : Type} (step : Edit α) (statements : Dialect → Schema → Schema → α → List String)
    (answer : α → β) :
    Carries true (do return .ok (answer (← step)))
      (do return .ok (answer (← carry step statements))) := by
  intro session
  apply Exists.intro
  rw [run_bind, run_carry]
  rfl

theorem carries_edit_unchecked {α β : Type} (step : Edit α) (answer : α → β) :
    Carries false (do return .ok (answer (← step))) (do return .ok (answer (← edit step))) := by
  intro session
  refine ⟨[], ?_⟩
  rw [Session.finished_silently, Session.mirrored_nil]
  rfl

/-- A command does to a session what it does to its workspace. -/
theorem carries_perform (command : Command) :
    Carries command.validates (Edit.perform command) (perform command) := by
  cases command with
  | addTable spec => exact carries_carry _ _ _
  | removeTable id => exact (carries_carryChecked _ _ _).map _
  | updateTable id patch => exact (carries_carryChecked _ _ _).map _
  | renameTable id name => exact (carries_carryChecked _ _ _).map _
  | alterTable id change => exact (carries_carryChecked _ _ _).map _
  | duplicateTable id => exact (carries_carryChecked _ _ _).map _
  | insertRow id row => exact (carries_carryChecked _ _ _).map _
  | removeRelationship id => exact (carries_carryChecked _ _ _).map _
  | removeIndex id => exact (carries_carryChecked _ _ _).map _
  | removeConstraint id => exact (carries_carryChecked _ _ _).map _
  | applyFix finding => exact (carries_carryChecked _ _ _).map _
  | removeUser id => exact (carries_edit _).map _
  | removePermission id => exact (carries_edit _).map _
  | addRelationship spec => exact carries_carry _ _ _
  | addIndex spec => exact carries_carry _ _ _
  | addConstraint spec => exact carries_carry _ _ _
  | addUser spec => exact carries_edit_unchecked _ _
  | addPermission spec => exact carries_edit_unchecked _ _

/-- A command in a session fails and leaves the session as it was, or it succeeds, makes its step
and finishes the session. -/
theorem perform_cases (command : Command) (session : Session) :
    (∃ error, (perform command).run session = (.error error, session)) ∨
      ∃ answer after statements, session.workspace.Step command after ∧
        (perform command).run session =
          (.ok answer, session.finished command.validates after statements) := by
  have carries := carries_perform command session
  rcases Edit.perform_cases command session.workspace with
    ⟨error, run⟩ | ⟨answer, after, run, step⟩
  · rw [run] at carries
    exact .inl ⟨error, carries⟩
  · rw [run] at carries
    obtain ⟨statements, ran⟩ := carries
    exact .inr ⟨answer, after, statements, step, ran⟩

end SessionM

namespace Session

/-- A command leaves a session as it is or makes a step of its workspace. -/
theorem perform_workspace (session : Session) (command : Command) :
    ((SessionM.perform command).run session).2 = session ∨
      session.workspace.Step command ((SessionM.perform command).run session).2.workspace := by
  rcases SessionM.perform_cases command session with
    ⟨error, ran⟩ | ⟨answer, after, statements, step, ran⟩
  · rw [ran]
    exact .inl rfl
  · rw [ran, finished_workspace]
    exact .inr step

end Session

end SchemaDesign
