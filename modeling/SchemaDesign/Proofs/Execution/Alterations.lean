import SchemaDesign.Proofs.Execution.Attempts

/-!
# Alterations of several changes

A statement that makes several changes to a table does what statements of one change each do, one
after the other until one fails, where a statement after a change of the table's name calls the
table by its new name.
-/

namespace SchemaDesign

open Sql (AlterAction Statement StatementSource)

/-- The name that a table of a name has after a change. -/
def Sql.AlterAction.nameAfter (tableName : String) : AlterAction → String
  | .renameTo name => name
  | _ => tableName

/-- The statements that make changes to the table of a name one by one. -/
def Sql.Statement.singles : String → List AlterAction → List Statement
  | _, [] => []
  | tableName, action :: actions =>
      .alterTable tableName [action] :: singles (action.nameAfter tableName) actions

/-- Carries out statements in order until one fails, and reports on each that was carried out. -/
def SessionM.executeUntilFailure : List StatementSource → SessionM (List StatementReport)
  | [] => return []
  | source :: sources => do
      let report ← executeStatement source
      if report.success then return report :: (← executeUntilFailure sources)
      else return [report]

theorem SessionM.run_executeUntilFailure
    {session later : Session} {source : StatementSource} {report : StatementReport}
    (executed : (executeStatement source).run session = (report, later))
    (sources : List StatementSource) :
    (executeUntilFailure (source :: sources)).run session =
      if report.success then
        (report :: ((executeUntilFailure sources).run later).1,
          ((executeUntilFailure sources).run later).2)
      else ([report], later) := by
  rw [executeUntilFailure, run_bind, executed]
  split
  · rfl
  · rfl

namespace Execution

/-! ## Names after changes -/

section

variable {id : TableId} {tableName : String}

/-- The table that the statement alters is the one that has the name. -/
def Calls (id : TableId) (tableName : String) (session : Session) : Prop :=
  session.schema.called? tableName = some id

/-- The name for which no table was found means the table that has been given it. -/
theorem calls_renameTo (tableName name : String) :
    Leads (Calls id tableName) (perform id tableName (.renameTo name))
      (fun effect later => effect.newName = some name ∧ Calls id name later)
      (Calls id tableName) := by
  apply Leads.current_bind
  intro session calls
  change Leads _ (if session.schema.hasTable name then _ else _) _ _
  split
  · exact Leads.throw_bind fun _ known => known.1
  · next taken =>
      have free : session.schema.hasTable name = false := by simpa using taken
      have renames : Leads (fun later => Calls id tableName later ∧ later.schema = session.schema)
          (attempt (SessionM.renameTable id name)) (fun _ => Calls id name)
          (Calls id tableName) := by
        have performs : SessionM.perform (.renameTable id name) =
            do return (← SessionM.renameTable id name).map fun _ => Answer.done := rfl
        apply Leads.weaken (Leads.attempt_command performs _) (fun _ _ holds => holds)
          (fun _ known => known.1)
        rintro later ⟨_, same⟩ workspace statements step
        rw [← same] at free
        rw [Calls, Session.schema, Session.finished_workspace]
        cases step with
        | renameTable updated =>
            cases updated with
            | updateTable patch found => exact Schema.called?_changeTable free found rfl rfl
      change Leads _ (attempt (SessionM.renameTable id name) >>= _) _ _
      apply Leads.bind renames
      intro _
      exact Leads.pure fun _ calls => ⟨rfl, calls⟩

/-- After each change the statement calls the table by the name that it has. -/
theorem calls_perform (tableName : String) (action : AlterAction) :
    Leads (Calls id tableName) (perform id tableName action)
      (fun effect later =>
        effect.newName.getD tableName = action.nameAfter tableName ∧
          Calls id (action.nameAfter tableName) later)
      (Calls id tableName) := by
  have parts (command : Command) (part : command.IsPartOf id) :
      (SessionM.perform command).Keeps (Calls id tableName) :=
    SessionM.keeps_called? part.isPart tableName (some id)
  cases action with
  | addColumn column =>
      apply Leads.bind (Keeps.discard (keeps_alterTable_column parts _))
      intro _
      apply Leads.bind (keeps_addExtras parts tableName column)
      intro warnings
      exact Leads.pure fun _ calls => ⟨rfl, calls⟩
  | dropColumn name =>
      apply Leads.bind (Keeps.discard (keeps_alterTable_column parts _))
      intro _
      exact Leads.pure fun _ calls => ⟨rfl, calls⟩
  | modifyColumn column =>
      apply Leads.bind (Keeps.discard (keeps_alterTable_column parts _))
      intro _
      exact Leads.pure fun _ calls => ⟨rfl, calls⟩
  | renameColumn old new =>
      apply Leads.current_bind
      intro session calls
      apply Leads.strengthen _ fun _ known => known.1
      cases (session.schema.table? id).bind fun table => table.columnNamed? old with
      | none => exact Leads.throw fun _ calls => calls
      | some column =>
          apply Leads.bind (Keeps.discard (keeps_alterTable_column parts _))
          intro _
          exact Leads.pure fun _ calls => ⟨rfl, calls⟩
  | renameTo name =>
      apply Leads.weaken (calls_renameTo tableName name) _ fun _ calls => calls
      rintro effect later ⟨named, calls⟩
      rw [named]
      exact ⟨rfl, calls⟩
  | addConstraint constraint =>
      apply Leads.bind (keeps_addConstraint parts tableName constraint)
      intro warnings
      exact Leads.pure fun _ calls => ⟨rfl, calls⟩

end

/-! ## Runs of several changes -/

section

variable {session : Session} {id : TableId} {name : String}

/-- To alter a table is to make the changes to the table of the name and to sum them up. -/
theorem run_alterTable (calls : Calls id name session) (actions : List AlterAction) :
    match (performAll id name actions).run.run session with
    | (.ok effects, later) =>
        ∃ effect, (alterTable name actions).run.run session = (.ok effect, later) ∧
          effect.warnings = effects.flatMap fun effect => effect.warnings
    | (.error error, later) =>
        (alterTable name actions).run.run session = (.error error, later) := by
  obtain ⟨table, found, rfl⟩ := Option.map_eq_some_iff.mp calls
  cases ran : (performAll table.id name actions).run.run session with
  | mk result later =>
      cases result with
      | error error => simp only [alterTable, run_bind, run_current, found, ran]
      | ok effects =>
          simp only [alterTable, run_bind, run_current, found, ran]
          exact ⟨_, rfl, rfl⟩

theorem run_performAll_single (id : TableId) (name : String) (action : AlterAction) :
    (performAll id name [action]).run.run session =
      (((perform id name action).run.run session).1.map fun effect => [effect],
        ((perform id name action).run.run session).2) := by
  rw [performAll, run_bind]
  cases (perform id name action).run.run session with
  | mk result later =>
      cases result with
      | error error => rfl
      | ok effect => rfl

/-- A report tells whether all changes of a statement were made and, if so, their warnings. -/
theorem report_alterTable
    {source : StatementSource} {actions : List AlterAction}
    (read : Statement.ofText source.text = .ok (.alterTable name actions))
    (calls : Calls id name session) :
    match (performAll id name actions).run.run session with
    | (.ok effects, later) =>
        ∃ report, (SessionM.executeStatement source).run session = (report, later) ∧
          report.success = true ∧ report.warnings = effects.flatMap fun effect => effect.warnings
    | (.error _, later) =>
        ∃ report, (SessionM.executeStatement source).run session = (report, later) ∧
          report.success = false := by
  have whole := run_alterTable calls actions
  rw [run_executeStatement, applyText_of_read read, apply]
  cases ran : (performAll id name actions).run.run session with
  | mk result later =>
      rw [ran] at whole
      cases result with
      | error error =>
          rw [whole]
          exact ⟨_, rfl, rfl⟩
      | ok effects =>
          obtain ⟨effect, altered, warnings⟩ := whole
          rw [altered]
          exact ⟨_, rfl, rfl, warnings⟩

theorem report_missing
    {source : StatementSource} {actions : List AlterAction}
    (read : Statement.ofText source.text = .ok (.alterTable name actions))
    (missing : session.schema.called? name = none) :
    ∃ report, (SessionM.executeStatement source).run session = (report, session) ∧
      report.success = false := by
  have none : session.schema.tableNamed? name = none := Option.map_eq_none_iff.mp missing
  rw [run_executeStatement, applyText_of_read read, apply, alterTable, run_bind, run_current]
  simp only [none]
  exact ⟨_, rfl, rfl⟩

theorem report_alterTable_single
    {source : StatementSource} {action : AlterAction}
    (read : Statement.ofText source.text = .ok (.alterTable name [action]))
    (calls : Calls id name session) :
    match (perform id name action).run.run session with
    | (.ok effect, later) =>
        ∃ report, (SessionM.executeStatement source).run session = (report, later) ∧
          report.success = true ∧ report.warnings = effect.warnings
    | (.error _, later) =>
        ∃ report, (SessionM.executeStatement source).run session = (report, later) ∧
          report.success = false := by
  have reported := report_alterTable read calls
  rw [run_performAll_single] at reported
  cases ran : (perform id name action).run.run session with
  | mk result later =>
      rw [ran] at reported
      cases result with
      | error error => exact reported
      | ok effect =>
          obtain ⟨report, executed, success, warnings⟩ := reported
          refine ⟨report, executed, success, ?_⟩
          rw [warnings, List.flatMap_singleton]

theorem run_performAll_cons
    {action : AlterAction} {effect : ActionEffect} {later : Session}
    (made : (perform id name action).run.run session = (.ok effect, later))
    (named : effect.newName.getD name = action.nameAfter name) (actions : List AlterAction) :
    (performAll id name (action :: actions)).run.run session =
      (((performAll id (action.nameAfter name) actions).run.run later).1.map (effect :: ·),
        ((performAll id (action.nameAfter name) actions).run.run later).2) := by
  rw [performAll, run_bind, made]
  simp only [named, run_bind]
  cases (performAll id (action.nameAfter name) actions).run.run later with
  | mk result last =>
      cases result with
      | error error => rfl
      | ok effects => rfl

/-- The changes of a statement, and statements of one change each that are carried out until one
fails, go the same way. -/
theorem run_singles
    {actions : List AlterAction} {sources : List StatementSource} (calls : Calls id name session)
    (spelled : sources.map (fun source => Statement.ofText source.text) =
      (Statement.singles name actions).map .ok) :
    let made := (performAll id name actions).run.run session
    let each := (SessionM.executeUntilFailure sources).run session
    made.2 = each.2 ∧
      match made.1 with
      | .ok effects =>
          each.1.length = sources.length ∧ (∀ report ∈ each.1, report.success = true) ∧
            each.1.flatMap (fun report => report.warnings) =
              effects.flatMap fun effect => effect.warnings
      | .error _ => ∃ report ∈ each.1, report.success = false := by
  -- On the changes: as long as the name means the same table, each statement finds it again.
  induction actions generalizing name session sources with
  | nil =>
      cases List.map_eq_nil_iff.mp spelled
      exact ⟨rfl, rfl, fun _ none => (nomatch none), rfl⟩
  | cons action actions ih =>
      obtain ⟨source, sources, rfl, read, rest⟩ := List.map_eq_cons_iff.mp spelled
      have reported := report_alterTable_single read calls
      have called := calls_perform name action session calls
      cases made : (perform id name action).run.run session with
      | mk result later =>
          rw [made] at reported called
          cases result with
          | error error =>
              obtain ⟨report, executed, failed⟩ := reported
              rw [performAll, run_bind, made, SessionM.run_executeUntilFailure executed, failed]
              exact ⟨rfl, report, List.mem_singleton_self report, failed⟩
          | ok effect =>
              obtain ⟨report, executed, success, warnings⟩ := reported
              obtain ⟨named, calls⟩ := called
              rw [run_performAll_cons made named, SessionM.run_executeUntilFailure executed,
                if_pos success]
              obtain ⟨same, alike⟩ := ih calls rest
              refine ⟨same, ?_⟩
              cases later : ((performAll id (action.nameAfter name) actions).run.run later).1 with
              | error error =>
                  rw [later] at alike
                  obtain ⟨report, member, failed⟩ := alike
                  exact ⟨report, List.mem_cons_of_mem _ member, failed⟩
              | ok effects =>
                  rw [later] at alike
                  obtain ⟨length, all, allWarnings⟩ := alike
                  refine ⟨congrArg (· + 1) length, List.forall_mem_cons.mpr ⟨success, all⟩, ?_⟩
                  rw [List.flatMap_cons, List.flatMap_cons, warnings]
                  exact congrArg _ allWarnings

end

end Execution

namespace Session

variable {session : Session} {source : StatementSource} {sources : List StatementSource}

/-- A statement that makes changes to a table leaves the session that statements of one change each
leave when they are carried out in order until one fails.  It succeeds exactly when all of them do,
and then it has their warnings. -/
theorem alteration_eq_singles
    {name : String} {actions : List AlterAction}
    (read : Statement.ofText source.text = .ok (.alterTable name actions))
    (nonempty : actions ≠ [])
    (spelled : sources.map (fun source => Statement.ofText source.text) =
      (Statement.singles name actions).map .ok) :
    let whole := (SessionM.executeStatement source).run session
    let each := (SessionM.executeUntilFailure sources).run session
    whole.2 = each.2 ∧
      (whole.1.success = true ↔
        each.1.length = sources.length ∧ ∀ report ∈ each.1, report.success = true) ∧
      (whole.1.success = true →
        whole.1.warnings = each.1.flatMap fun report => report.warnings) := by
  intro whole each
  cases found : session.schema.called? name with
  | none =>
      obtain ⟨report, executed, failed⟩ := Execution.report_missing read found
      cases actions with
      | nil => exact absurd rfl nonempty
      | cons action actions =>
          obtain ⟨source, sources, rfl, readFirst, _⟩ := List.map_eq_cons_iff.mp spelled
          obtain ⟨first, executedFirst, failedFirst⟩ := Execution.report_missing readFirst found
          have each_eq : each = ([first], session) := by
            simp only [each, SessionM.run_executeUntilFailure executedFirst, failedFirst]
            rfl
          simp [whole, executed, each_eq, failed, failedFirst]
  | some id =>
      have calls : Execution.Calls id name session := found
      obtain ⟨same, alike⟩ := Execution.run_singles calls spelled
      have reported := Execution.report_alterTable read calls
      cases made : (Execution.performAll id name actions).run.run session with
      | mk result later =>
          rw [made] at same alike reported
          cases result with
          | error error =>
              obtain ⟨report, executed, failed⟩ := reported
              obtain ⟨stopped, member, stoppedFailed⟩ := alike
              have whole_eq : whole = (report, later) := executed
              rw [whole_eq]
              refine ⟨same, ⟨?_, ?_⟩, ?_⟩
              · intro success
                cases failed.symm.trans success
              · rintro ⟨_, all⟩
                cases stoppedFailed.symm.trans (all stopped member)
              · intro success
                cases failed.symm.trans success
          | ok effects =>
              obtain ⟨report, executed, success, warnings⟩ := reported
              have whole_eq : whole = (report, later) := executed
              rw [whole_eq]
              refine ⟨same, ⟨fun _ => ⟨alike.1, alike.2.1⟩, fun _ => success⟩, fun _ => ?_⟩
              exact warnings.trans alike.2.2.symm

/-- The last of three changes fails, after the table has got another name. -/
theorem alteration_eq_singles_shop :
    let session := ((SessionM.execute "CREATE TABLE users (id INT)").run (.ofConfig {} 0 default)).2
    let spell (text : String) : StatementSource := ⟨text, default, default, true⟩
    let source := spell "ALTER TABLE users ADD age INT, RENAME TO people, DROP COLUMN missing"
    let sources := [spell "ALTER TABLE users ADD age INT", spell "ALTER TABLE users RENAME people",
      spell "ALTER TABLE people DROP COLUMN missing"]
    let actions : List AlterAction :=
      [.addColumn { name := "age", dataType := "INT" }, .renameTo "people", .dropColumn "missing"]
    Statement.ofText source.text = .ok (.alterTable "users" actions) ∧ actions ≠ [] ∧
      sources.map (fun source => Statement.ofText source.text) =
        (Statement.singles "users" actions).map .ok ∧
      ((SessionM.executeStatement source).run session).2 =
        ((SessionM.executeUntilFailure sources).run session).2 := by
  intro session spell source sources actions
  have read : Statement.ofText source.text = .ok (.alterTable "users" actions) := by
    decide +kernel
  have nonempty : actions ≠ [] := List.cons_ne_nil _ _
  have spelled : sources.map (fun source => Statement.ofText source.text) =
      (Statement.singles "users" actions).map .ok := by
    decide +kernel
  exact ⟨read, nonempty, spelled, (alteration_eq_singles read nonempty spelled).1⟩

end Session

end SchemaDesign
