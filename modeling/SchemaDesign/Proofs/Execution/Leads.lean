import SchemaDesign.Command
import SchemaDesign.Execution.Basic

/-!
# From sessions of one kind to sessions of another

What holds of a session before a step of a statement, and what holds after it.  A step that fails
may have changed the session, so there is something to say about the session in that case too.
-/

namespace SchemaDesign

open Sql (DdlError)

/-- A step keeps what holds of a session, whatever it answers. -/
def SessionM.Keeps {α : Type} (held : Session → Prop) (step : SessionM α) : Prop :=
  ∀ session, held session → held (step.run session).2

namespace Execution

/-- Begun in a session of one kind, a step ends in a session of another kind, which depends on
whether the step fails and on what it answers. -/
def Leads {α : Type} (before : Session → Prop) (step : Execution α)
    (after : α → Session → Prop) (failed : Session → Prop) : Prop :=
  ∀ session, before session →
    match step.run.run session with
    | (.ok answer, later) => after answer later
    | (.error _, later) => failed later

/-- A step keeps what holds of a session, whether it fails or not. -/
def Keeps {α : Type} (held : Session → Prop) (step : Execution α) : Prop :=
  Leads held step (fun _ => held) held

theorem run_bind
    {α β : Type} (step : Execution α) (next : α → Execution β) (session : Session) :
    (step >>= next).run.run session =
      match step.run.run session with
      | (.ok answer, later) => (next answer).run.run later
      | (.error error, later) => (.error error, later) := by
  change (ExceptT.bindCont next (step.run.run session).1).run (step.run.run session).2 = _
  cases step.run.run session with
  | mk result later =>
      cases result with
      | error error => rfl
      | ok answer => rfl

theorem run_current (session : Session) :
    current.run.run session = (.ok session.schema, session) :=
  rfl

theorem run_attempt
    {α : Type} (step : SessionM (Except SchemaError α)) (session : Session) :
    (attempt step).run.run session =
      ((step.run session).1.mapError .schema, (step.run session).2) :=
  rfl

theorem discard_eq_bind {α : Type} (step : Execution α) :
    Functor.discard step = step >>= fun _ => Pure.pure () := by
  rw [Functor.discard, map_const]
  exact map_eq_pure_bind _ _

theorem applyText_of_read
    {text : String} {statement : Sql.Statement} (read : Sql.Statement.ofText text = .ok statement) :
    applyText text = apply text statement := by
  rw [applyText, read]
  rfl

theorem applyText_of_error
    {text : String} {error : DdlError} (read : Sql.Statement.ofText text = .error error) :
    applyText text = throw error := by
  rw [applyText, read]
  rfl

theorem run_executeStatement (source : Sql.StatementSource) (session : Session) :
    (SessionM.executeStatement source).run session =
      (.of source ((applyText source.text).run.run session).1,
        ((applyText source.text).run.run session).2) :=
  rfl

section

variable {α β : Type} {before failed : Session → Prop}

theorem Leads.pure {after : α → Session → Prop} {answer : α}
    (holds : ∀ session, before session → after answer session) :
    Leads before (Pure.pure answer) after failed :=
  holds

theorem Leads.throw {after : α → Session → Prop} {error : DdlError}
    (holds : ∀ session, before session → failed session) :
    Leads before (MonadExcept.throw error : Execution α) after failed :=
  holds

theorem Leads.throw_bind
    {next : α → Execution β} {after : β → Session → Prop} {error : DdlError}
    (holds : ∀ session, before session → failed session) :
    Leads before (MonadExcept.throw error >>= next) after failed :=
  holds

theorem Leads.bind
    {step : Execution α} {next : α → Execution β} {middle : α → Session → Prop}
    {after : β → Session → Prop} (first : Leads before step middle failed)
    (rest : ∀ answer, Leads (middle answer) (next answer) after failed) :
    Leads before (step >>= next) after failed := by
  intro session holds
  have led := first session holds
  rw [run_bind]
  cases ran : step.run.run session with
  | mk result later =>
      rw [ran] at led
      cases result with
      | error error => exact led
      | ok answer => exact rest answer later led

theorem Leads.always
    {step : SessionM α} {after : α → Session → Prop}
    (holds : ∀ session, before session → after (step.run session).1 (step.run session).2) :
    Leads before (Execution.always step) after failed :=
  holds

theorem Leads.attempt
    {step : SessionM (Except SchemaError α)} {after : Session → Prop}
    (holds : ∀ session, before session → after (step.run session).2) :
    Leads before (Execution.attempt step) (fun _ => after) after := by
  intro session start
  have kept := holds session start
  rw [run_attempt]
  cases (step.run session).1 with
  | error error => exact kept
  | ok answer => exact kept

theorem Leads.strengthen
    {step : Execution α} {after : α → Session → Prop} {stronger : Session → Prop}
    (leads : Leads before step after failed)
    (start : ∀ session, stronger session → before session) :
    Leads stronger step after failed :=
  fun session holds => leads session (start session holds)

theorem Leads.weaken
    {step : Execution α} {after weaker : α → Session → Prop} {worse : Session → Prop}
    (leads : Leads before step after failed)
    (success : ∀ answer session, after answer session → weaker answer session)
    (failure : ∀ session, failed session → worse session) :
    Leads before step weaker worse := by
  intro session holds
  have led := leads session holds
  cases ran : step.run.run session with
  | mk result later =>
      rw [ran] at led
      cases result with
      | error error => exact failure later led
      | ok answer => exact success answer later led

/-- A step that does not fail may leave anything to hold after a failure. -/
theorem Leads.of_unfailing
    {step : Execution α} {after : α → Session → Prop}
    (leads : Leads before step after fun _ => False) : Leads before step after failed :=
  leads.weaken (fun _ _ holds => holds) fun _ impossible => impossible.elim

/-- What is known of the session when its schema is looked at stays known of that schema. -/
theorem Leads.current_bind
    {next : Schema → Execution β} {after : β → Session → Prop}
    (rest : ∀ session, before session →
      Leads (fun later => before later ∧ later.schema = session.schema) (next session.schema)
        after failed) :
    Leads before (Execution.current >>= next) after failed := by
  intro session holds
  exact rest session holds session ⟨holds, rfl⟩

theorem Leads.discard
    {step : Execution α} {after : Session → Prop}
    (leads : Leads before step (fun _ => after) failed) :
    Leads before (Functor.discard step) (fun _ => after) failed := by
  rw [discard_eq_bind]
  apply Leads.bind leads
  intro _
  exact Leads.pure fun _ holds => holds

theorem Leads.forM
    {each : α → Execution PUnit} {xs : List α}
    (leads : ∀ x ∈ xs, Leads before (each x) (fun _ => before) failed) :
    Leads before (xs.forM each) (fun _ => before) failed := by
  induction xs with
  | nil => exact Leads.pure fun _ holds => holds
  | cons x xs ih =>
      change Leads before (each x >>= fun _ => xs.forM each) _ _
      apply Leads.bind
      · exact leads x List.mem_cons_self
      · intro _
        exact ih fun y member => leads y (List.mem_cons_of_mem _ member)

theorem Leads.mapM
    {each : α → Execution β} {xs : List α}
    (leads : ∀ x ∈ xs, Leads before (each x) (fun _ => before) failed) :
    Leads before (xs.mapM each) (fun _ => before) failed := by
  induction xs with
  | nil =>
      rw [List.mapM_nil]
      exact Leads.pure fun _ holds => holds
  | cons x xs ih =>
      rw [List.mapM_cons]
      apply Leads.bind
      · exact leads x List.mem_cons_self
      · intro answer
        apply Leads.bind
        · exact ih fun y member => leads y (List.mem_cons_of_mem _ member)
        · intro answers
          exact Leads.pure fun _ holds => holds

end

/-! ## Steps that keep what holds -/

section

variable {α β : Type} {held : Session → Prop}

theorem Keeps.pure (answer : α) : Keeps held (Pure.pure answer : Execution α) :=
  Leads.pure fun _ holds => holds

theorem Keeps.throw (error : DdlError) :
    Keeps held (MonadExcept.throw error : Execution α) :=
  Leads.throw fun _ holds => holds

theorem Keeps.bind
    {step : Execution α} {next : α → Execution β} (first : Keeps held step)
    (rest : ∀ answer, Keeps held (next answer)) : Keeps held (step >>= next) :=
  Leads.bind first rest

theorem Keeps.always {step : SessionM α} (keeps : step.Keeps held) :
    Keeps held (Execution.always step) :=
  Leads.always keeps

theorem Keeps.attempt
    {step : SessionM (Except SchemaError α)} (keeps : SessionM.Keeps held step) :
    Keeps held (Execution.attempt step) :=
  Leads.attempt keeps

theorem Keeps.discard {step : Execution α} (keeps : Keeps held step) :
    Keeps held (Functor.discard step) :=
  Leads.discard keeps

theorem Keeps.forM
    {each : α → Execution PUnit} {xs : List α} (keeps : ∀ x ∈ xs, Keeps held (each x)) :
    Keeps held (xs.forM each) :=
  Leads.forM keeps

theorem Keeps.mapM
    {each : α → Execution β} {xs : List α} (keeps : ∀ x ∈ xs, Keeps held (each x)) :
    Keeps held (xs.mapM each) :=
  Leads.mapM keeps

end

/-! ## Steps that succeed -/

/-- Begun in a session of one kind, a step succeeds and ends in a session of another kind. -/
def Succeeds {α : Type} (before : Session → Prop) (step : Execution α)
    (after : Session → Prop) : Prop :=
  Leads before step (fun _ => after) fun _ => False

section

variable {α β : Type} {before middle after : Session → Prop}

theorem Succeeds.pure (answer : α) : Succeeds before (Pure.pure answer : Execution α) before :=
  Leads.pure fun _ holds => holds

/-- What is to hold after a failure does not matter for a step that succeeds. -/
theorem Succeeds.leads
    {step : Execution α} {later : α → Session → Prop} {failed : Session → Prop}
    (succeeds : Succeeds before step after)
    (holds : ∀ answer session, after session → later answer session) :
    Leads before step later failed :=
  Leads.weaken succeeds holds fun _ impossible => impossible.elim

theorem Succeeds.bind
    {step : Execution α} {next : α → Execution β} (first : Succeeds before step middle)
    (rest : ∀ answer, Succeeds middle (next answer) after) :
    Succeeds before (step >>= next) after :=
  Leads.bind first rest

end

end Execution

end SchemaDesign
