import SchemaDesign.Proofs.Execution.Soundness
import SchemaDesign.Proofs.Execution.SingleSteps
import SchemaDesign.Proofs.Session.Findings

/-!
# Creation scripts carried out again

A script that only creates tables leaves the name of each of them taken.  Carried out again it finds
every name taken, so that it passes over the tables that may exist, refuses the others, and changes
nothing but the database.
-/

namespace SchemaDesign

open Sql (CreateTable Statement StatementSource)

/-- Whether a statement creates a table or is left to the database. -/
def Sql.Statement.OnlyCreates : Statement → Prop
  | .createTable _ => True
  | .passthrough => True
  | _ => False

instance : DecidablePred Sql.Statement.OnlyCreates
  | .createTable _ => .isTrue trivial
  | .passthrough => .isTrue trivial
  | .alterTable _ _ => .isFalse id
  | .dropTable _ _ => .isFalse id

/-- Whether a text, if it is understood, creates a table or is left to the database. -/
def Sql.StatementSource.OnlyCreates (source : StatementSource) : Prop :=
  ∀ statement, Statement.ofText source.text = .ok statement → statement.OnlyCreates

instance (source : StatementSource) : Decidable source.OnlyCreates :=
  match read : Statement.ofText source.text with
  | .error _ => .isTrue fun _ found => nomatch read.symm.trans found
  | .ok statement =>
      decidable_of_iff statement.OnlyCreates
        ⟨fun only _ found => Except.ok.inj (read.symm.trans found) ▸ only,
          fun creates => creates statement read⟩

namespace Session

/-- There is a table of a name, in any letter case. -/
def HasTable (name : String) (session : Session) : Prop :=
  session.schema.hasTable name = true

/-- There is a table of the name that a text gives to a new one, if it creates one. -/
def HasCreated (source : StatementSource) (session : Session) : Prop :=
  ∀ definition, Statement.ofText source.text = .ok (.createTable definition) →
    session.HasTable definition.name

end Session

open Session (HasTable HasCreated)

/-! ## Names stay taken -/

theorem SessionM.keeps_hasTable {command : Command} (part : command.IsPart) (name : String) :
    (perform command).Keeps (HasTable name) := by
  have called (schema : Schema) : schema.hasTable name = (schema.called? name).isSome :=
    Option.isSome_map.symm
  intro session taken
  have kept := keeps_called? part name (session.schema.called? name) session rfl
  rw [HasTable, called] at taken ⊢
  rwa [kept]

namespace Execution

theorem keeps_hasTable_addTable (spec : TableSpec) (name : String) {failed : Session → Prop} :
    Leads (HasTable name) (always (SessionM.addTable spec)) (fun _ => HasTable name) failed := by
  apply Leads.always
  intro session taken
  rw [SessionM.addTable, SessionM.run_carry, Edit.run_addTable, HasTable, Session.schema,
    Session.finished_workspace]
  change (List.find? _ (session.schema.tables ++ [_])).isSome = true
  rw [List.find?_append, Option.isSome_or, Bool.or_eq_true]
  exact .inl taken

/-- A new table has its name. -/
theorem hasTable_addTable (spec : TableSpec) {before failed : Session → Prop} :
    Leads before (always (SessionM.addTable spec)) (fun _ => HasTable spec.name) failed := by
  apply Leads.always
  intro session _
  rw [SessionM.addTable, SessionM.run_carry, Edit.run_addTable, HasTable, Session.schema,
    Session.finished_workspace]
  change (List.find? _ (session.schema.tables ++ [_])).isSome = true
  rw [List.find?_append, Option.isSome_or, Bool.or_eq_true]
  right
  simp [Workspace.newTable]

/-- Where a name is taken once a table has been added, it is taken after the creation of the table,
for what is then done to the new table changes no name. -/
theorem createTable_hasTable
    (definition : CreateTable) {name : String} {before : Session → Prop}
    (present : ∀ session, before session → session.HasTable definition.name → session.HasTable name)
    (added : ∀ spec : TableSpec, spec.name = definition.name →
      Leads before (always (SessionM.addTable spec)) (fun _ => HasTable name) (HasTable name)) :
    Leads before (createTable definition) (fun _ => HasTable name) (HasTable name) := by
  apply Leads.current_bind
  intro session begun
  change Leads _ (if session.schema.hasTable definition.name then _ else _) _ _
  split
  · next taken =>
      have stays : ∀ later, before later ∧ later.schema = session.schema → later.HasTable name := by
        rintro later ⟨laterBegun, same⟩
        apply present later laterBegun
        rwa [HasTable, same]
      split
      · exact Leads.pure stays
      · exact Leads.throw stays
  · apply Leads.bind ((added _ rfl).strengthen fun _ known => known.1)
    intro id
    have parts (command : Command) (part : command.IsPartOf id) :
        (SessionM.perform command).Keeps (HasTable name) :=
      SessionM.keeps_hasTable part.isPart name
    apply Leads.bind (Keeps.mapM fun column _ => keeps_addExtras parts _ column)
    intro extras
    apply Leads.bind (Keeps.mapM fun constraint _ => keeps_addConstraint parts _ constraint)
    intro others
    exact .pure fun _ taken => taken

theorem keeps_hasTable_applyText
    {source : StatementSource} (creates : source.OnlyCreates) (name : String) :
    Keeps (HasTable name) (applyText source.text) := by
  cases read : Statement.ofText source.text with
  | error error =>
      rw [applyText_of_error read]
      exact .throw _
  | ok statement =>
      rw [applyText_of_read read]
      have only := creates statement read
      cases statement with
      | createTable definition =>
          apply createTable_hasTable definition
          · exact fun _ taken _ => taken
          · exact fun spec _ => keeps_hasTable_addTable spec name
      | passthrough =>
          apply keeps_forward
          apply SessionM.keeps_forward
          exact fun _ _ taken => taken
      | alterTable table actions => exact only.elim
      | dropTable tables ifExists => exact only.elim

/-- A statement leaves the name of the table that it creates taken, whether it fails or not. -/
theorem hasCreated_applyText (source : StatementSource) :
    Leads (fun _ => True) (applyText source.text) (fun _ => HasCreated source)
      (HasCreated source) := by
  cases read : Statement.ofText source.text with
  | error error =>
      rw [applyText_of_error read]
      apply Leads.throw
      intro session _ definition created
      cases read.symm.trans created
  | ok statement =>
      rw [applyText_of_read read]
      cases statement with
      | createTable definition =>
          have names (session : Session) (taken : session.HasTable definition.name) :
              session.HasCreated source := by
            intro other created
            cases read.symm.trans created
            exact taken
          refine Leads.weaken ?_ (fun _ => names) names
          apply createTable_hasTable definition
          · exact fun _ _ taken => taken
          · rintro spec same
            rw [← same]
            exact hasTable_addTable spec
      | _ =>
          have none (session : Session) : session.HasCreated source := by
            intro definition created
            cases read.symm.trans created
          refine Leads.weaken (?_ : Keeps (fun _ => True) _) (fun _ session _ => none session)
            fun session _ => none session
          intro session _
          split
          · trivial
          · trivial

/-! ## Statements that find their names taken -/

/-- A later session differs from an earlier one by its database alone. -/
def DiffersByDatabase (earlier later : Session) : Prop :=
  later = { earlier with backend := later.backend }

theorem unchanged_createTable
    {definition : CreateTable} {earlier : Session} (taken : earlier.HasTable definition.name) :
    Keeps (DiffersByDatabase earlier) (createTable definition) := by
  apply Leads.current_bind
  intro session same
  have again : session.schema.hasTable definition.name = true := by
    rw [same]
    exact taken
  change Leads _ (if session.schema.hasTable definition.name then _ else _) _ _
  rw [if_pos again]
  split
  · exact Leads.pure fun _ known => known.1
  · exact Leads.throw fun _ known => known.1

theorem unchanged_applyText
    {source : StatementSource} (creates : source.OnlyCreates) {earlier : Session}
    (taken : earlier.HasCreated source) :
    Keeps (DiffersByDatabase earlier) (applyText source.text) := by
  cases read : Statement.ofText source.text with
  | error error =>
      rw [applyText_of_error read]
      exact .throw _
  | ok statement =>
      rw [applyText_of_read read]
      have only := creates statement read
      cases statement with
      | createTable definition => exact unchanged_createTable (taken definition read)
      | passthrough =>
          apply keeps_forward
          apply SessionM.keeps_forward
          intro session backend same
          rw [DiffersByDatabase, same]
      | alterTable table actions => exact only.elim
      | dropTable tables ifExists => exact only.elim

end Execution

/-! ## Reports -/

namespace SessionM

/-- The creation of a table succeeds if its name is free or may be taken. -/
theorem success_of_creation
    {source : StatementSource} {definition : CreateTable}
    (read : Statement.ofText source.text = .ok (.createTable definition)) (session : Session) :
    ((executeStatement source).run session).1.success =
      (definition.ifNotExists || !session.schema.hasTable definition.name) := by
  have led := Execution.createTable_leads definition session session rfl
  rw [Execution.run_executeStatement, Execution.applyText_of_read read, Execution.apply]
  cases ran : (Execution.createTable definition).run.run session with
  | mk result later =>
      rw [ran] at led
      cases result with
      | error error =>
          obtain ⟨_, taken, demanded⟩ := led
          rw [taken, demanded]
          rfl
      | ok effect =>
          change true = _
          cases demanded : definition.ifNotExists with
          | true => rfl
          | false =>
              have free : session.schema.hasTable definition.name = false :=
                Bool.eq_false_iff.mpr fun taken => led ⟨taken, demanded⟩
              rw [free]
              rfl

/-- Every statement of a script is reported on as in a session of a kind that all statements
keep. -/
theorem exists_of_mem_reports
    {held : Session → Prop} {sources : List StatementSource}
    (keeps : ∀ source ∈ sources, (executeStatement source).Keeps held)
    {session : Session} (holds : held session) {source : StatementSource} {report : StatementReport}
    (member : (source, report) ∈ sources.zip ((sources.mapM executeStatement).run session).1) :
    ∃ between, held between ∧ report = ((executeStatement source).run between).1 := by
  induction sources generalizing session with
  | nil => cases member
  | cons first sources ih =>
      rw [List.mapM_cons] at member
      change _ ∈ (first :: sources).zip (_ :: _) at member
      rw [List.zip_cons_cons] at member
      rcases List.mem_cons.mp member with same | member
      · cases same
        exact ⟨session, holds, rfl⟩
      · exact ih (fun other known => keeps other (List.mem_cons_of_mem _ known))
          (keeps first List.mem_cons_self session holds) member

end SessionM

namespace Session

open Execution (DiffersByDatabase)

/-- After a script that only creates tables, the name of each of them is taken. -/
theorem hasCreated_executed
    {sources : List StatementSource} (creates : ∀ source ∈ sources, source.OnlyCreates)
    (session : Session) : ∀ source ∈ sources, (session.executed sources).HasCreated source := by
  induction sources generalizing session with
  | nil => exact fun _ member => nomatch member
  | cons first sources ih =>
      have others : ∀ source ∈ sources, source.OnlyCreates :=
        fun source member => creates source (List.mem_cons_of_mem _ member)
      intro source member
      rcases List.mem_cons.mp member with rfl | member
      · intro definition read
        have created : HasCreated source ((SessionM.executeStatement source).run session).2 := by
          have led := Execution.hasCreated_applyText source session trivial
          rw [Execution.run_executeStatement]
          cases ran : (Execution.applyText source.text).run.run session with
          | mk result later =>
              rw [ran] at led
              cases result with
              | error error => exact led
              | ok effect => exact led
        have keeps : ∀ other ∈ sources,
            (SessionM.executeStatement other).Keeps (HasTable definition.name) :=
          fun other later =>
            .executeStatement (Execution.keeps_hasTable_applyText (others other later) _)
        have kept := executed_of_keeps keeps (created definition read)
        exact kept
      · exact ih others _ source member

/-- A script that only creates tables, carried out again at any later time, changes nothing but the
database.  Each time the creation of a table that may exist succeeds, and the second time no other
creation does. -/
theorem creations_rerun
    (session : Session) {script : String}
    (creates : ∀ source ∈ Sql.statements script, source.OnlyCreates) (time : Timestamp) :
    let first := (SessionM.execute script).run session
    let waited := first.2.after (.passTime time)
    let second := (SessionM.execute script).run waited
    second.2.schema = first.2.schema ∧ second.2.findings = first.2.findings ∧
      DiffersByDatabase waited second.2 ∧
      ∀ source definition, Statement.ofText source.text = .ok (.createTable definition) →
        (definition.ifNotExists = true →
          ∀ report, (source, report) ∈ (Sql.statements script).zip first.1 →
            report.success = true) ∧
        ∀ report, (source, report) ∈ (Sql.statements script).zip second.1 →
          report.success = definition.ifNotExists := by
  intro first waited second
  have taken : ∀ source ∈ Sql.statements script, waited.HasCreated source := by
    intro source member
    have created := hasCreated_executed creates session source member
    rw [← execute_eq_executed] at created
    exact created
  have keeps : ∀ source ∈ Sql.statements script,
      (SessionM.executeStatement source).Keeps (DiffersByDatabase waited) := by
    intro source member
    exact .executeStatement (Execution.unchanged_applyText (creates source member)
      (taken source member))
  have start : DiffersByDatabase waited waited := rfl
  have same : DiffersByDatabase waited second.2 := SessionM.Keeps.mapM keeps waited start
  refine ⟨?_, ?_, same, ?_⟩
  · rw [same]
    rfl
  · rw [same]
    rfl
  · intro source definition read
    constructor
    · intro allowed report member
      have any : ∀ source ∈ Sql.statements script,
          (SessionM.executeStatement source).Keeps fun _ => True :=
        fun _ _ _ _ => trivial
      obtain ⟨between, _, rfl⟩ := SessionM.exists_of_mem_reports any trivial member
      rw [SessionM.success_of_creation read, allowed]
      rfl
    · intro report member
      obtain ⟨between, known, rfl⟩ := SessionM.exists_of_mem_reports keeps start member
      have held : between.HasTable definition.name := by
        rw [known]
        exact taken source (List.of_mem_zip member).1 definition read
      rw [SessionM.success_of_creation read, held]
      exact Bool.or_false _

/-- A table, one that may exist and does, a query, and a text that is no statement. -/
theorem creations_rerun_shop :
    let session : Session := .ofConfig {} 0 default
    let script := "CREATE TABLE users (id INT); CREATE TABLE IF NOT EXISTS Users (id INT); " ++
      "SELECT 1; CREATE TABLE ("
    let first := (SessionM.execute script).run session
    let second := (SessionM.execute script).run (first.2.after (.passTime ⟨60, 0⟩))
    (∀ source ∈ Sql.statements script, source.OnlyCreates) ∧
      second.2.schema = first.2.schema ∧ second.2.findings = first.2.findings := by
  intro session script first second
  have creates : ∀ source ∈ Sql.statements script, source.OnlyCreates := by
    decide +kernel
  obtain ⟨schema, findings, _⟩ := creations_rerun session creates ⟨60, 0⟩
  subst second first
  exact ⟨creates, schema, findings⟩

end Session

end SchemaDesign
