import SchemaDesign.Proofs.Execution.Attempts

/-!
# Statements of a single step

A statement that creates a table, changes a table once or drops one table does what it says or
nothing.  What follows the one step that may fail does not fail, whatever the session is:
constraints name what exists or are passed over, and the keys of a new table are marks on its
columns before it is added.
-/

namespace SchemaDesign

open Sql (AlterAction CreateTable Statement StatementSource TableConstraint)

/-! ## Names of columns -/

namespace Schema

/-- The names of the columns of a table without regard to case, if it exists. -/
def columnNames? (schema : Schema) (id : TableId) : Option (List (List Char)) :=
  (schema.table? id).map fun table => table.columns.map fun column => Text.foldCase column.name

variable {schema : Schema} {id : TableId} {name : String} {names : List (List Char)}

theorem exists_column_of_columnNames?
    (known : schema.columnNames? id = some names) (listed : Text.foldCase name ∈ names) :
    ∃ table column, schema.table? id = some table ∧ table.columnNamed? name = some column := by
  obtain ⟨table, found, rfl⟩ := Option.map_eq_some_iff.mp known
  obtain ⟨held, member, same⟩ := List.mem_map.mp listed
  have lookup : (table.columnNamed? name).isSome := by
    rw [Table.columnNamed?, List.find?_isSome]
    exact ⟨held, member, Text.same_iff.mpr same⟩
  obtain ⟨column, named⟩ := Option.isSome_iff_exists.mp lookup
  exact ⟨table, column, found, named⟩

theorem columnNames?_changeTable
    {change : Table → Table} (keepsId : ∀ table, (change table).id = table.id)
    (keepsNames : ∀ table,
      (change table).columns.map (fun column => Text.foldCase column.name) =
        table.columns.map fun column => Text.foldCase column.name) :
    (schema.changeTable id change).columnNames? id = schema.columnNames? id := by
  rw [columnNames?, table?_changeTable keepsId, Option.map_map]
  exact congrArg (Option.map · (schema.table? id)) (funext keepsNames)

end Schema

/-- A new definition of a column under the same name keeps the names of the columns. -/
theorem Workspace.Step.keeps_columnNames?
    {before after : Workspace} {id : TableId} {name : String} {spec : ColumnSpec}
    (step : before.Step (.alterTable id (.modify name spec)) after)
    (same : Text.same spec.name name = true) :
    after.schema.columnNames? id = before.schema.columnNames? id := by
  cases step with
  | modifyColumn spec found named =>
      have keepsNames (column : Column) (table : Table) :
          (changeFirst (fun column => Text.same column.name name)
              (fun _ => { spec with id := column.id, isForeignKey := column.isForeignKey })
              table.columns).map (fun column => Text.foldCase column.name) =
            table.columns.map fun column => Text.foldCase column.name := by
        apply map_changeFirst
        intro old meant
        have named := List.find?_some meant
        exact (Text.same_iff.mp same).trans (Text.same_iff.mp named).symm
      dsimp only [Workspace.changed]
      split
      · exact Schema.columnNames?_changeTable (fun _ => rfl) (keepsNames _)
      · exact Schema.columnNames?_changeTable (fun _ => rfl) (keepsNames _)

/-- Whether a statement is a single step: it creates a table, changes a table once or drops one
table. -/
def Sql.Statement.IsSingleStep : Statement → Prop
  | .createTable _ => True
  | .alterTable _ actions => actions.length = 1
  | .dropTable tables _ => tables.length = 1
  | .passthrough => False

namespace Execution

/-! ## Steps that never fail -/

/-- A step that succeeds in every session. -/
def NeverFails {α : Type} (step : Execution α) : Prop :=
  Succeeds (fun _ => True) step fun _ => True

section

variable {α β : Type} {step : Execution α} {next : α → Execution β}

theorem NeverFails.pure (answer : α) : NeverFails (Pure.pure answer : Execution α) :=
  Succeeds.pure answer

theorem NeverFails.bind (first : NeverFails step) (rest : ∀ answer, NeverFails (next answer)) :
    NeverFails (step >>= next) :=
  Succeeds.bind first rest

theorem NeverFails.always (step : SessionM α) : NeverFails (Execution.always step) :=
  fun _ _ => trivial

theorem NeverFails.current : NeverFails Execution.current :=
  NeverFails.always SessionM.current

theorem NeverFails.forM
    {each : α → Execution PUnit} {xs : List α} (steps : ∀ x ∈ xs, NeverFails (each x)) :
    NeverFails (xs.forM each) :=
  Leads.forM steps

theorem NeverFails.mapM
    {each : α → Execution β} {xs : List α} (steps : ∀ x ∈ xs, NeverFails (each x)) :
    NeverFails (xs.mapM each) :=
  Leads.mapM steps

end

theorem neverFails_addIndex
    (id : TableId) (name : String) (columns : List String) (isUnique : Bool) :
    NeverFails (addIndex id name columns isUnique) :=
  .always _

theorem neverFails_linkForeignKey (id : TableId) (tableName : String) (key : ForeignKey) :
    NeverFails (linkForeignKey id tableName key) := by
  apply NeverFails.bind .current
  intro schema
  cases schema.table? id with
  | none => exact .pure _
  | some source =>
      apply NeverFails.bind
      · apply NeverFails.forM
        intro relationship _
        exact .always _
      · intro _
        exact .pure _

theorem neverFails_addExtras (id : TableId) (tableName : String) (column : Sql.ColumnDef) :
    NeverFails (addExtras id tableName column) := by
  have links : NeverFails (addExtras id tableName { column with check := none }) := by
    rw [addExtras]
    cases column.references with
    | none => exact .pure _
    | some references => exact neverFails_linkForeignKey id tableName _
  rw [addExtras]
  cases column.check with
  | none => exact links
  | some expression =>
      apply NeverFails.bind .current
      intro schema
      apply NeverFails.bind (.always _)
      intro _
      exact links

/-- Whether a constraint is more than marks on columns, so that it can be added to any table. -/
def IsFree : TableConstraint → Prop
  | .primaryKey _ => False
  | .unique _ columns => 1 < columns.length
  | _ => True

theorem neverFails_addConstraint
    (id : TableId) (tableName : String) (constraint : TableConstraint) (free : IsFree constraint) :
    NeverFails (addConstraint id tableName constraint) := by
  cases constraint with
  | primaryKey columns => exact free.elim
  | unique name columns =>
      have several : 1 < columns.length := free
      change NeverFails (if 1 < columns.length then _ else _)
      rw [if_pos several]
      apply NeverFails.bind (neverFails_addIndex id _ _ _)
      intro _
      exact .pure _
  | index name columns =>
      apply NeverFails.bind (neverFails_addIndex id _ _ _)
      intro _
      exact .pure _
  | check name expression =>
      apply NeverFails.bind .current
      intro schema
      apply NeverFails.bind (.always _)
      intro _
      exact .pure _
  | foreignKey name columns references => exact neverFails_linkForeignKey id tableName _

/-! ## Keys of tables that exist -/

section

variable {id : TableId} {names : List (List Char)}

/-- A session with a table whose columns have some names. -/
def HasColumns (id : TableId) (names : List (List Char)) (session : Session) : Prop :=
  session.schema.columnNames? id = some names

theorem run_modify_ok
    {session : Session} {table : Table} {column : Column} {name : String}
    (found : session.schema.table? id = some table)
    (named : table.columnNamed? name = some column) (spec : ColumnSpec) :
    ((SessionM.alterTable id (.modify name spec)).run session).1 = .ok column.id := by
  change session.workspace.schema.table? id = some table at found
  simp only [SessionM.alterTable, SessionM.carryChecked, SessionM.run_bind, SessionM.run_current,
    SessionM.run_edit, Edit.alterTable, Edit.modifyColumn, Edit.run_bind, Edit.run_current, found,
    named]
  rfl

theorem succeeds_modify
    {name : String} {spec : ColumnSpec} (same : Text.same spec.name name = true)
    (listed : Text.foldCase name ∈ names) :
    Succeeds (HasColumns id names) (attempt (SessionM.alterTable id (.modify name spec)))
      (HasColumns id names) := by
  have performs : SessionM.perform (.alterTable id (.modify name spec)) =
      do return (← SessionM.alterTable id (.modify name spec)).map Answer.id := rfl
  intro session known
  obtain ⟨table, column, found, named⟩ := Schema.exists_column_of_columnNames? known listed
  have done := run_modify_ok found named spec
  rcases SessionM.cases_of_perform performs session with
    ⟨error, failed⟩ | ⟨given, workspace, statements, stepped, succeeded⟩
  · rw [failed] at done
    cases done
  · rw [run_attempt, succeeded]
    change Schema.columnNames? (Session.workspace _).schema id = some names
    rw [Session.finished_workspace, stepped.keeps_columnNames? same]
    exact known

theorem Key.mark_name (key : Key) (column : ColumnSpec) : (key.mark column).name = column.name := by
  rw [Key.mark]
  split
  · rfl
  · rfl

/-- The columns that a table has can be marked one after the other, though they may share names. -/
theorem succeeds_markColumns
    (key : Key) {columns : List Column}
    (listed : ∀ column ∈ columns, Text.foldCase column.name ∈ names) :
    Succeeds (HasColumns id names) (markColumns id key columns) (HasColumns id names) := by
  apply Leads.forM
  intro column member
  change Leads _ (if key.mark column.toColumnSpec ≠ column.toColumnSpec then _ else _) _ _
  split
  · -- The marks go to the first column of the name, perhaps another one, and the name stays in use.
    apply Leads.discard
    apply succeeds_modify _ (listed column member)
    rw [key.mark_name, Text.same_refl]
  · exact Leads.pure fun _ known => known

theorem succeeds_addIndex (name : String) (columns : List String) (isUnique : Bool) :
    Succeeds (HasColumns id names) (addIndex id name columns isUnique) (HasColumns id names) := by
  apply Leads.always
  intro session known
  change Schema.columnNames? (Session.workspace
    ((SessionM.addIndex { name, table := id, columns, isUnique }).run session).2).schema id = _
  rw [SessionM.addIndex, SessionM.run_carry, Session.finished_workspace]
  exact known

end

/-! ## Steps that fail -/

/-- A step that leaves the session as it was when it fails. -/
def AllOrNothing {α : Type} (step : Execution α) : Prop :=
  ∀ session, Leads (fun before => before = session) step (fun _ _ => True)
    fun later => later = session

section

variable {α β : Type} {step : Execution α} {next : α → Execution β}

theorem NeverFails.allOrNothing (never : NeverFails step) : AllOrNothing step :=
  fun _ => Leads.strengthen (never.leads fun _ _ _ => trivial) fun _ _ => trivial

theorem AllOrNothing.throw (error : Sql.DdlError) :
    AllOrNothing (MonadExcept.throw error : Execution α) :=
  fun _ => Leads.throw fun _ same => same

/-- What follows the step that may fail does not fail. -/
theorem AllOrNothing.bind (first : AllOrNothing step) (rest : ∀ answer, NeverFails (next answer)) :
    AllOrNothing (step >>= next) := by
  intro session
  apply Leads.bind (first session)
  intro answer
  exact (rest answer).leads fun _ _ _ => trivial

theorem AllOrNothing.current_bind
    {next : Schema → Execution β} (rest : ∀ schema, AllOrNothing (next schema)) :
    AllOrNothing (Execution.current >>= next) := by
  intro session
  apply Leads.current_bind
  intro before _
  exact Leads.strengthen (rest before.schema session) fun _ known => known.1

theorem AllOrNothing.discard (whole : AllOrNothing step) :
    AllOrNothing (Functor.discard step) :=
  fun session => Leads.discard (whole session)

theorem AllOrNothing.command
    (command : Command) {step : SessionM (Except SchemaError α)} {answer : α → Answer}
    (performs : SessionM.perform command = do return (← step).map answer) :
    AllOrNothing (attempt step) :=
  fun _ => Leads.attempt_command performs fun _ _ _ _ _ => trivial

end

/-- A key is given to a table as a whole, even if columns of the table share a name. -/
theorem addKey_allOrNothing (id : TableId) (tableName : String) (listed : Key) :
    AllOrNothing (addKey id tableName listed) := by
  intro session
  apply Leads.current_bind
  rintro session rfl
  cases found : session.schema.table? id with
  | none => exact Leads.throw fun _ known => known.1
  | some table =>
      let names := table.columns.map fun column => Text.foldCase column.name
      let columns := table.columns.map fun column => column.toColumnSpec
      let key := listed.restrict columns
      have own : ∀ column ∈ table.columns, Text.foldCase column.name ∈ names :=
        fun _ member => List.mem_map_of_mem member
      have marks : Succeeds (HasColumns id names) (do
          markColumns id key table.columns
          return listed.unknownWarnings tableName columns ++ key.compositeWarnings tableName)
          (HasColumns id names) := by
        apply Succeeds.bind (succeeds_markColumns key own)
        intro _
        exact .pure _
      have start : ∀ later, later = session ∧ later.schema = session.schema →
          HasColumns id names later := by
        rintro later ⟨rfl, _⟩
        rw [HasColumns, Schema.columnNames?, found]
        rfl
      have whole {step : Execution (List String)}
          (succeeds : Succeeds (HasColumns id names) step (HasColumns id names)) :
          Leads (fun later => later = session ∧ later.schema = session.schema) step
            (fun _ _ => True) fun later => later = session :=
        Leads.strengthen (succeeds.leads fun _ _ _ => trivial) start
      change Leads _ (if 2 ≤ key.entries.length then _ else _) _ _
      split
      · apply whole
        apply Succeeds.bind (succeeds_addIndex _ _ _)
        intro _
        exact marks
      · exact whole marks

theorem addConstraint_allOrNothing
    (id : TableId) (tableName : String) (constraint : TableConstraint) :
    AllOrNothing (addConstraint id tableName constraint) := by
  have adds (constraint : TableConstraint) (free : IsFree constraint) :
      AllOrNothing (addConstraint id tableName constraint) :=
    (neverFails_addConstraint id tableName constraint free).allOrNothing
  cases constraint with
  | primaryKey columns => exact addKey_allOrNothing id tableName _
  | unique name columns =>
      by_cases several : 1 < columns.length
      · exact adds (.unique name columns) several
      · change AllOrNothing (if 1 < columns.length then _ else _)
        rw [if_neg several]
        exact addKey_allOrNothing id tableName _
  | index name columns => exact adds (.index name columns) trivial
  | check name expression => exact adds (.check name expression) trivial
  | foreignKey name columns references => exact adds (.foreignKey name columns references) trivial

/-! ## Statements -/

theorem perform_allOrNothing (id : TableId) (tableName : String) (action : AlterAction) :
    AllOrNothing (perform id tableName action) := by
  have columns (change : ColumnChange) : AllOrNothing (attempt (SessionM.alterTable id change)) :=
    .command (.alterTable id change) rfl
  cases action with
  | addColumn column =>
      apply AllOrNothing.bind (columns _).discard
      intro _
      apply NeverFails.bind (neverFails_addExtras id tableName column)
      intro warnings
      exact .pure _
  | dropColumn name =>
      apply AllOrNothing.bind (columns _).discard
      intro _
      exact .pure _
  | modifyColumn column =>
      apply AllOrNothing.bind (columns _).discard
      intro _
      exact .pure _
  | renameColumn old new =>
      apply AllOrNothing.current_bind
      intro schema
      cases (schema.table? id).bind fun table => table.columnNamed? old with
      | none => exact .throw _
      | some column =>
          apply AllOrNothing.bind (columns _).discard
          intro _
          exact .pure _
  | renameTo name =>
      apply AllOrNothing.current_bind
      intro schema
      have renames : AllOrNothing (do
          attempt (SessionM.renameTable id name)
          return ({ change := "renamed to '" ++ name ++ "'", newName := some name } :
            ActionEffect)) := by
        apply AllOrNothing.bind
        · exact .command (.renameTable id name) rfl
        · intro _
          exact .pure _
      change AllOrNothing (if schema.hasTable name then _ else _)
      split
      · exact fun _ => Leads.throw_bind fun _ same => same
      · exact renames
  | addConstraint constraint =>
      apply AllOrNothing.bind (addConstraint_allOrNothing id tableName constraint)
      intro warnings
      exact .pure _

theorem alterTable_allOrNothing (name : String) (action : AlterAction) :
    AllOrNothing (alterTable name [action]) := by
  apply AllOrNothing.current_bind
  intro schema
  cases schema.tableNamed? name with
  | none => exact .throw _
  | some table =>
      have single : AllOrNothing (performAll table.id name [action]) := by
        apply AllOrNothing.bind (perform_allOrNothing table.id name action)
        intro effect
        apply NeverFails.bind (.pure _)
        intro effects
        exact .pure _
      apply AllOrNothing.bind single
      intro effects
      exact .pure _

theorem dropTables_allOrNothing (name : String) (ifExists : Bool) :
    AllOrNothing (dropTables [name] ifExists) := by
  have drops : AllOrNothing (dropTable ifExists name) := by
    apply AllOrNothing.current_bind
    intro schema
    cases schema.tableNamed? name with
    | some table =>
        apply AllOrNothing.bind
        · exact (AllOrNothing.command (.removeTable table.id) rfl).discard
        · intro _
          exact .pure _
    | none =>
        change AllOrNothing (if ifExists = true then _ else _)
        split
        · exact (NeverFails.pure _).allOrNothing
        · exact .throw _
  apply AllOrNothing.bind
  · rw [List.mapM_cons]
    apply AllOrNothing.bind drops
    intro existed
    apply NeverFails.bind (.pure _)
    intro others
    exact .pure _
  · intro existed
    exact .pure _

/-! ## Tables that are created -/

/-- What a constraint leaves to be added to a new table can be added: a key marks the columns before
the table exists, and waits as an index if it has several. -/
theorem free_of_mem_constrain
    (tableName : String) {plan : TablePlan} (free : ∀ waiting ∈ plan.deferred, IsFree waiting)
    (constraint : TableConstraint) :
    ∀ waiting ∈ (plan.constrain tableName constraint).deferred, IsFree waiting := by
  intro waiting member
  rw [TablePlan.constrain] at member
  split at member
  · next other =>
      rcases List.mem_append.mp member with before | new
      · exact free waiting before
      · rw [List.mem_singleton.mp new]
        cases constraint with
        | primaryKey columns => cases other
        | unique name columns => cases other
        | index name columns => trivial
        | check name expression => trivial
        | foreignKey name columns references => trivial
  · next listed _ =>
      rcases List.mem_append.mp member with before | new
      · exact free waiting before
      · have index := Option.mem_toList.mp new
        rw [Key.index?] at index
        split at index
        · cases index
        · next several =>
            cases index
            change 1 < (listed.restrict plan.columns).entries.length
            omega

theorem free_of_mem_deferred
    (tableName : String) {plan : TablePlan} (free : ∀ waiting ∈ plan.deferred, IsFree waiting)
    (constraints : List TableConstraint) :
    ∀ waiting ∈ (constraints.foldl (TablePlan.constrain tableName) plan).deferred,
      IsFree waiting := by
  induction constraints generalizing plan with
  | nil => exact free
  | cons constraint constraints ih => exact ih (free_of_mem_constrain tableName free constraint)

/-- Keys mark the columns of a new table, which keep their names. -/
theorem names_constrain (tableName : String) (plan : TablePlan) (constraint : TableConstraint) :
    (plan.constrain tableName constraint).columns.map (fun column => column.name) =
      plan.columns.map fun column => column.name := by
  rw [TablePlan.constrain]
  split
  · rfl
  · rw [List.map_map]
    exact List.map_congr_left fun column _ => Key.mark_name _ column

theorem names_foldl_constrain
    (tableName : String) (plan : TablePlan) (constraints : List TableConstraint) :
    (constraints.foldl (TablePlan.constrain tableName) plan).columns.map
        (fun column => column.name) =
      plan.columns.map fun column => column.name := by
  induction constraints generalizing plan with
  | nil => rfl
  | cons constraint constraints ih =>
      rw [List.foldl_cons, ih, names_constrain]

/-- Once a table has been added nothing fails, so it is created unless one of its name exists. -/
theorem createTable_leads (definition : CreateTable) (session : Session) :
    let refused := session.schema.hasTable definition.name = true ∧ definition.ifNotExists = false
    Leads (fun before => before = session) (createTable definition) (fun _ _ => ¬refused)
      fun later => later = session ∧ refused := by
  intro refused
  apply Leads.current_bind
  rintro session rfl
  change Leads _ (if session.schema.hasTable definition.name then _ else _) _ _
  split
  · next taken =>
      split
      · next skipped =>
          apply Leads.pure
          rintro _ _ ⟨_, demanded⟩
          cases skipped.symm.trans demanded
      · next demanded =>
          have demanded : definition.ifNotExists = false := by simpa using demanded
          exact Leads.throw fun _ known => ⟨known.1, taken, demanded⟩
  · next free =>
      have fills {step : Execution Effect} (never : NeverFails step) :
          Leads (fun later => later = session ∧ later.schema = session.schema) step
            (fun _ _ => ¬refused) fun later => later = session ∧ refused :=
        Leads.strengthen (never.leads fun _ _ _ both => free both.1) fun _ _ => trivial
      apply fills
      apply NeverFails.bind (.always _)
      intro id
      apply NeverFails.bind
      · apply NeverFails.mapM
        intro column _
        exact neverFails_addExtras id _ column
      · intro extras
        apply NeverFails.bind
        · apply NeverFails.mapM
          intro constraint member
          apply neverFails_addConstraint
          apply free_of_mem_deferred definition.name _ definition.constraints constraint member
          exact fun _ none => nomatch none
        · intro others
          exact .pure _

/-- A statement of a single step is carried out as a whole or not at all. -/
theorem apply_allOrNothing
    (text : String) {statement : Statement} (single : statement.IsSingleStep) :
    AllOrNothing (apply text statement) := by
  cases statement with
  | createTable definition =>
      intro session
      apply Leads.weaken (createTable_leads definition session) (fun _ _ _ => trivial)
      exact fun _ failed => failed.1
  | alterTable name actions =>
      obtain ⟨action, rfl⟩ := List.length_eq_one_iff.mp single
      exact alterTable_allOrNothing name action
  | dropTable tables ifExists =>
      obtain ⟨name, rfl⟩ := List.length_eq_one_iff.mp single
      exact dropTables_allOrNothing name ifExists
  | passthrough => exact single.elim

theorem applyText_allOrNothing
    {text : String}
    (single : ∀ statement, Statement.ofText text = .ok statement → statement.IsSingleStep) :
    AllOrNothing (applyText text) := by
  cases read : Statement.ofText text with
  | error error =>
      rw [applyText_of_error read]
      exact .throw _
  | ok statement =>
      rw [applyText_of_read read]
      exact apply_allOrNothing text (single statement read)

end Execution

/-! ## Reports -/

namespace Session

variable {source : StatementSource}

/-- A statement that is not understood, or is a single step, changes nothing of the session and asks
nothing of its database when it fails.  The creation of a table fails only if a table of its name
exists and that was not asked for to be passed over. -/
theorem single_step_all_or_nothing
    (session : Session)
    (single : ∀ statement, Statement.ofText source.text = .ok statement →
      statement.IsSingleStep) :
    let ran := (SessionM.executeStatement source).run session
    (ran.1.success = false → ran.2 = session) ∧
      ∀ definition, Statement.ofText source.text = .ok (.createTable definition) →
        (ran.1.success = false ↔
          session.schema.hasTable definition.name = true ∧ definition.ifNotExists = false) := by
  intro ran
  have whole : ran = (.of source _, _) := Execution.run_executeStatement source session
  constructor
  · have led := Execution.applyText_allOrNothing single session session rfl
    cases made : (Execution.applyText source.text).run.run session with
    | mk result later =>
        rw [made] at whole led
        rw [whole]
        cases result with
        | error error => exact fun _ => led
        | ok effect => exact fun failed => Bool.noConfusion failed
  · intro definition read
    have led := Execution.createTable_leads definition session session rfl
    rw [Execution.applyText_of_read read, Execution.apply] at whole
    cases made : (Execution.createTable definition).run.run session with
    | mk result later =>
        rw [made] at whole led
        rw [whole]
        cases result with
        | error error => exact ⟨fun _ => led.2, fun _ => rfl⟩
        | ok effect =>
            constructor
            · exact fun failed => Bool.noConfusion failed
            · exact fun refused => absurd refused led

/-- A table is created a second time, when it has two columns of one name. -/
theorem single_step_all_or_nothing_shop :
    let created := "CREATE TABLE users (id INT, Id TEXT)"
    let session := ((SessionM.execute created).run (.ofConfig {} 0 default)).2
    let source : StatementSource := ⟨"CREATE TABLE Users (id INT UNIQUE)", default, default, true⟩
    let ran := (SessionM.executeStatement source).run session
    (∀ statement, Statement.ofText source.text = .ok statement → statement.IsSingleStep) ∧
      ran.1.success = false ∧ ran.2 = session := by
  intro created session source ran
  let definition : CreateTable :=
    { name := "Users"
      ifNotExists := false
      columns := [{ name := "id", dataType := "INT", unique := true }]
      constraints := [] }
  have read : Statement.ofText source.text = .ok (.createTable definition) := by
    decide +kernel
  have single : ∀ statement, Statement.ofText source.text = .ok statement →
      statement.IsSingleStep := by
    intro statement found
    cases read.symm.trans found
    trivial
  have taken : session.schema.hasTable definition.name = true := by
    decide +kernel
  obtain ⟨unchanged, refused⟩ := single_step_all_or_nothing session single
  have failed : ran.1.success = false := (refused definition read).mpr ⟨taken, rfl⟩
  exact ⟨single, failed, unchanged failed⟩

end Session

end SchemaDesign
