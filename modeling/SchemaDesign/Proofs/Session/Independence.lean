import SchemaDesign.Proofs.Session.Findings

/-!
# The database has no say in the design

Two sessions on one schema answer alike and come to the same schema and findings, whatever their
databases answer and in whichever dialect these are told of changes.  Only the answers to what is
left to the database may differ.
-/

namespace SchemaDesign

/-- Two reports are on one statement and are the same unless it was left to the database. -/
structure StatementReport.Agrees (left right : StatementReport) : Prop where
  statement : left.statement = right.statement
  line : left.line = right.line
  column : left.column = right.column
  own : Sql.Statement.ofText left.statement ≠ .ok .passthrough → left = right

/-- The answer of a session to an operation; an answer that is the database's own is left out. -/
inductive Reply where
  | result (result : Except SchemaError Answer)
  | reports (reports : List StatementReport)
  | silence

/-- Two replies are the same, but for the reports on statements that were left to the database. -/
inductive Reply.Agrees : Reply → Reply → Prop where
  | result (result : Except SchemaError Answer) : Agrees (.result result) (.result result)
  | reports {left right : List StatementReport}
      (each : List.Forall₂ StatementReport.Agrees left right) :
      Agrees (.reports left) (.reports right)
  | silence : Agrees .silence .silence

namespace Session

/-- What a session replies to an operation. -/
def reply (session : Session) : Operation → Reply
  | .perform command => .result ((SessionM.perform command).run session).1
  | .execute script => .reports ((SessionM.execute script).run session).1
  | .executeStatement source => .reports [((SessionM.executeStatement source).run session).1]
  | _ => .silence

/-- What a session replies to operations that follow each other. -/
def replies (session : Session) : List Operation → List Reply
  | [] => []
  | operation :: operations =>
      session.reply operation :: (session.after operation).replies operations

/-- A session that operations have led to. -/
inductive Reached : Session → Prop where
  | begun {session : Session} (begun : Begun session) : Reached session
  | after {session : Session} (reached : Reached session) (operation : Operation) :
      Reached (session.after operation)

/-- Two sessions differ in their databases and dialects only, and perhaps in their findings unless
these are known to be the same. -/
structure Alike (known : Prop) (left right : Session) : Prop where
  workspace : left.workspace = right.workspace
  autoValidate : left.autoValidate = right.autoValidate
  findings : known → left.findings = right.findings

variable {known : Prop} {left right : Session}

theorem Reached.inStep {session : Session} (reached : session.Reached) : session.InStep := by
  induction reached with
  | begun begun => exact begun.inStep
  | after reached operation ih => exact ih.after operation

theorem Alike.symm (alike : Alike known left right) : Alike known right left :=
  { workspace := alike.workspace.symm
    autoValidate := alike.autoValidate.symm
    findings := fun holds => (alike.findings holds).symm }

theorem Alike.schema_eq (alike : Alike known left right) : left.schema = right.schema :=
  congrArg Workspace.schema alike.workspace

theorem Alike.with_backend (alike : Alike known left right) (backend : Option Backend) :
    Alike known { left with backend } right :=
  ⟨alike.workspace, alike.autoValidate, alike.findings⟩

theorem Alike.mirrored (alike : Alike known left right) (leftSent rightSent : List String) :
    Alike known (left.mirrored leftSent) (right.mirrored rightSent) :=
  ((alike.with_backend _).symm.with_backend _).symm

theorem Alike.validated (alike : Alike known left right) :
    Alike known left.validated right.validated := by
  by_cases auto : left.autoValidate = true
  · have rightAuto : right.autoValidate = true := alike.autoValidate.symm.trans auto
    rw [Session.validated, if_pos auto, Session.validated, if_pos rightAuto]
    exact ⟨alike.workspace, alike.autoValidate, fun _ => congrArg Schema.validate alike.schema_eq⟩
  · have rightAuto : ¬right.autoValidate = true := alike.autoValidate ▸ auto
    rw [Session.validated, if_neg auto, Session.validated, if_neg rightAuto]
    exact alike

theorem Alike.with_workspace (alike : Alike known left right) (after : Workspace) :
    Alike known { left with workspace := after } { right with workspace := after } :=
  ⟨rfl, alike.autoValidate, alike.findings⟩

theorem Alike.finished
    (alike : Alike known left right) (validates : Bool) (after : Workspace)
    (leftSent rightSent : List String) :
    Alike known (left.finished validates after leftSent)
      (right.finished validates after rightSent) := by
  have changed := (alike.with_workspace after).mirrored leftSent rightSent
  cases validates with
  | false => exact changed
  | true => exact changed.validated

/-- A command makes the same step in both sessions and sends to each database what its dialect
asks for. -/
theorem relates_perform (command : Command) :
    (SessionM.perform command).Relates (Alike known) := by
  intro left right alike
  have leftCarries := SessionM.carries_perform command left
  have rightCarries := SessionM.carries_perform command right
  rw [alike.workspace] at leftCarries
  cases ran : (Edit.perform command).run right.workspace with
  | mk result after =>
      rw [ran] at leftCarries rightCarries
      cases result with
      | error error =>
          rw [leftCarries, rightCarries]
          exact ⟨rfl, alike.with_workspace after⟩
      | ok answer =>
          obtain ⟨leftSent, leftRan⟩ := leftCarries
          obtain ⟨rightSent, rightRan⟩ := rightCarries
          rw [leftRan, rightRan]
          exact ⟨rfl, alike.finished command.validates after leftSent rightSent⟩

/-- A step that does no more than ask the database may be made in both sessions. -/
theorem Alike.of_keeps
    {α : Type} {step : SessionM α} (alike : Alike known left right)
    (keeps : ∀ other, step.Keeps fun session => Alike known session other) :
    Alike known (step.run left).2 (step.run right).2 := by
  have leftKept := keeps right left alike
  exact (keeps _ right leftKept.symm).symm

theorem keeps_forward_alike (statement : String) (other : Session) :
    (SessionM.forward statement).Keeps fun session => Alike known session other :=
  SessionM.keeps_forward (fun _ backend alike => alike.with_backend backend) statement

theorem statement_of (source : Sql.StatementSource)
    (outcome : Except Sql.DdlError Execution.Effect) :
    (StatementReport.of source outcome).statement = source.text ∧
      (StatementReport.of source outcome).line = source.start.line ∧
      (StatementReport.of source outcome).column = source.start.column := by
  cases outcome with
  | error error => exact ⟨rfl, rfl, rfl⟩
  | ok effect => exact ⟨rfl, rfl, rfl⟩

theorem agrees_of
    (source : Sql.StatementSource) {left right : Except Sql.DdlError Execution.Effect}
    (own : Sql.Statement.ofText source.text ≠ .ok .passthrough → left = right) :
    (StatementReport.of source left).Agrees (StatementReport.of source right) := by
  obtain ⟨leftText, leftLine, leftColumn⟩ := statement_of source left
  obtain ⟨rightText, rightLine, rightColumn⟩ := statement_of source right
  refine ⟨leftText.trans rightText.symm, leftLine.trans rightLine.symm,
    leftColumn.trans rightColumn.symm, ?_⟩
  intro notLeft
  rw [leftText] at notLeft
  rw [own notLeft]

theorem Alike.executeStatement
    (alike : Alike known left right) (source : Sql.StatementSource) :
    ((SessionM.executeStatement source).run left).1.Agrees
        ((SessionM.executeStatement source).run right).1 ∧
      Alike known ((SessionM.executeStatement source).run left).2
        ((SessionM.executeStatement source).run right).2 := by
  have run (session : Session) : (SessionM.executeStatement source).run session =
      (StatementReport.of source ((Execution.applyText source.text).run.run session).1,
        ((Execution.applyText source.text).run.run session).2) := rfl
  by_cases own : Sql.Statement.ofText source.text = .ok .passthrough
  · constructor
    · rw [run, run]
      exact agrees_of source fun notLeft => absurd own notLeft
    · apply alike.of_keeps
      intro other
      apply SessionM.Keeps.executeStatement
      rw [Execution.applyText_of_read own]
      exact Execution.keeps_forward (fun statement => keeps_forward_alike statement other) _
  · obtain ⟨same, later⟩ := Execution.relates_applyText (fun _ _ alike => alike.schema_eq)
      relates_perform source.text own left right alike
    rw [run, run]
    exact ⟨agrees_of source fun _ => same, later⟩

theorem Alike.execute (alike : Alike known left right) (script : String) :
    List.Forall₂ StatementReport.Agrees ((SessionM.execute script).run left).1
        ((SessionM.execute script).run right).1 ∧
      Alike known ((SessionM.execute script).run left).2
        ((SessionM.execute script).run right).2 := by
  rw [SessionM.execute]
  induction Sql.statements script generalizing left right with
  | nil => exact ⟨.nil, alike⟩
  | cons source sources ih =>
      rw [List.mapM_cons]
      obtain ⟨agrees, later⟩ := alike.executeStatement source
      obtain ⟨others, last⟩ := ih later
      exact ⟨.cons agrees others, last⟩

theorem Alike.operation (alike : Alike known left right) (operation : Operation) :
    (left.reply operation).Agrees (right.reply operation) ∧
      Alike known (left.after operation) (right.after operation) := by
  cases operation with
  | perform command =>
      obtain ⟨same, later⟩ := relates_perform command left right alike
      refine ⟨?_, later⟩
      rw [reply, same]
      exact .result _
  | execute script =>
      obtain ⟨agree, later⟩ := alike.execute script
      exact ⟨.reports agree, later⟩
  | executeStatement source =>
      obtain ⟨agrees, later⟩ := alike.executeStatement source
      exact ⟨.reports (.cons agrees .nil), later⟩
  | forward statement => exact ⟨.silence, alike.of_keeps (keeps_forward_alike statement)⟩
  | runQuery query =>
      refine ⟨.silence, alike.of_keeps fun other => ?_⟩
      exact SessionM.keeps_runQuery (fun _ backend alike => alike.with_backend backend) query
  | setAutoValidate enabled =>
      refine ⟨.silence, ?_⟩
      cases enabled with
      | false => exact ⟨alike.workspace, rfl, alike.findings⟩
      | true =>
          exact ⟨alike.workspace, rfl, fun _ => congrArg Schema.validate alike.schema_eq⟩
  | revalidate =>
      refine ⟨.silence, alike.workspace, alike.autoValidate, ?_⟩
      exact fun _ => congrArg Schema.validate alike.schema_eq
  | attach backend =>
      exact ⟨.silence, ((alike.with_backend _).symm.with_backend _).symm⟩
  | detach => exact ⟨.silence, ((alike.with_backend _).symm.with_backend _).symm⟩
  | setMirrorDialect dialect =>
      exact ⟨.silence, alike.workspace, alike.autoValidate, alike.findings⟩
  | passTime now =>
      refine ⟨.silence, ?_, alike.autoValidate, alike.findings⟩
      exact congrArg (fun workspace : Workspace => { workspace with now }) alike.workspace

theorem Alike.operations (alike : Alike known left right) (operations : List Operation) :
    List.Forall₂ Reply.Agrees (left.replies operations) (right.replies operations) ∧
      Alike known (operations.foldl after left) (operations.foldl after right) := by
  induction operations generalizing left right with
  | nil => exact ⟨.nil, alike⟩
  | cons operation operations ih =>
      obtain ⟨agrees, later⟩ := alike.operation operation
      obtain ⟨others, last⟩ := ih later
      exact ⟨.cons agrees others, last⟩

/-- Two sessions with one schema and setting reply alike to the same operations and come to the same
schema, whatever their databases and dialects are.  They come to the same findings as well; sessions
that do not validate must hold the same ones from the start, since they only keep what an earlier
validation has found. -/
theorem design_independent_of_database
    (leftReached : left.Reached) (rightReached : right.Reached)
    (workspace : left.workspace = right.workspace)
    (auto : left.autoValidate = right.autoValidate) (operations : List Operation) :
    List.Forall₂ Reply.Agrees (left.replies operations) (right.replies operations) ∧
      (operations.foldl after left).schema = (operations.foldl after right).schema ∧
      ((left.autoValidate = false → left.findings = right.findings) →
        (operations.foldl after left).findings = (operations.foldl after right).findings) := by
  have start : Alike (left.autoValidate = false → left.findings = right.findings) left right := by
    refine ⟨workspace, auto, ?_⟩
    intro kept
    cases validates : left.autoValidate with
    | false => exact kept validates
    | true =>
        calc
          left.findings = left.schema.validate := leftReached.inStep validates
          _ = right.schema.validate := congrArg (fun w => w.schema.validate) workspace
          _ = right.findings := (rightReached.inStep (auto ▸ validates)).symm
  obtain ⟨agree, later⟩ := start.operations operations
  exact ⟨agree, later.schema_eq, later.findings⟩

/-- No database and one that always fails, which is told of changes in another dialect. -/
theorem design_independent_of_database_shop :
    let left : Session := .ofConfig {} 0 default
    let failing : Backend := { respond := fun _ _ => .error .unavailable }
    let right : Session := (left.after (.attach failing)).after (.setMirrorDialect .mySql)
    let operations : List Operation :=
      [.perform (.addTable { name := "users" }), .perform (.removeTable ⟨7⟩),
        .execute "CREATE TABLE orders (id INT PRIMARY KEY); SELECT 1", .detach,
        .execute "ALTER TABLE orders ADD total INT, DROP COLUMN missing"]
    left.backend.isSome ≠ right.backend.isSome ∧
      List.Forall₂ Reply.Agrees (left.replies operations) (right.replies operations) ∧
      (operations.foldl after left).schema = (operations.foldl after right).schema ∧
      (operations.foldl after left).findings = (operations.foldl after right).findings := by
  intro left failing right operations
  have leftReached : left.Reached := .begun (.ofConfig {} 0 default)
  have rightReached : right.Reached := (leftReached.after _).after _
  obtain ⟨agree, schemas, findings⟩ :=
    design_independent_of_database leftReached rightReached rfl rfl operations
  exact ⟨by decide, agree, schemas, findings fun off => by cases off⟩

end Session

end SchemaDesign
