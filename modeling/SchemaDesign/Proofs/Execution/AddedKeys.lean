import SchemaDesign.Proofs.Execution.Alterations
import SchemaDesign.Proofs.Execution.SingleSteps
import SchemaDesign.Proofs.Execution.Soundness

/-!
# Keys of new tables and of tables that exist

A key of a new table marks the definitions of its columns before the table is added, and an index
for a key of several columns waits until then.  A key that is given to a table that exists changes
its columns one after the other, after the index has been added.  Both ways lead to the same schema
and the same warnings, but for unique keys of several columns that list a name of no column.
-/

namespace SchemaDesign

open Sql (ColumnDef CreateTable Statement StatementSource TableConstraint)

/-! ## Workspaces with one table -/

/-- A column with the marks of a key. -/
def Column.marked (key : Execution.Key) (column : Column) : Column :=
  { key.mark column.toColumnSpec with id := column.id }

/-- A table with the marks of a key on its columns. -/
def Table.marked (key : Execution.Key) (table : Table) : Table :=
  { table with columns := table.columns.map (Column.marked key) }

theorem Column.marked_name (key : Execution.Key) (column : Column) :
    (column.marked key).name = column.name :=
  Execution.Key.mark_name key column.toColumnSpec

theorem Column.marked_eq_self
    {key : Execution.Key} {column : Column}
    (same : key.mark column.toColumnSpec = column.toColumnSpec) :
    column.marked key = column := by
  rw [marked, same]

namespace Workspace

/-- The workspace after a change, with a table as the only one. -/
def holding (workspace : Workspace) (table : Table) : Workspace :=
  workspace.changed 0 fun schema => { schema with tables := [table] }

/-- The workspace with another index. -/
def withIndex (workspace : Workspace) (spec : IndexSpec) : Workspace :=
  workspace.changed 1 fun schema =>
    { schema with
      indexes := schema.indexes ++ [{ spec with id := { number := workspace.nextId } }] }

/-- The workspace with another constraint. -/
def withConstraint (workspace : Workspace) (spec : ConstraintSpec) : Workspace :=
  workspace.changed 1 fun schema =>
    { schema with
      constraints := schema.constraints ++ [{ spec with id := { number := workspace.nextId } }] }

/-- The workspace with the check that the definition of a column of a table brings with it. -/
def withCheck (workspace : Workspace) (table : Table) (column : ColumnDef) : Workspace :=
  match column.check with
  | none => workspace
  | some expression =>
      workspace.withConstraint
        { name := "chk_" ++ table.name ++ "_" ++ column.name
          kind := .check
          table := table.id
          column := (table.columnNamed? column.name).map fun known => known.id
          expression := some expression }

/-- The workspace with the index for a key of a table, if the key has several columns. -/
def withKeyIndex (workspace : Workspace) (table : Table) (key : Execution.Key) : Workspace :=
  if 2 ≤ key.entries.length then
    workspace.withIndex
      { name := key.indexName table.name
        table := table.id
        columns := key.entries
        isUnique := true }
  else workspace

theorem table?_holding (workspace : Workspace) (table : Table) :
    (workspace.holding table).schema.table? table.id = some table :=
  List.find?_cons_of_pos (beq_self_eq_true table.id)

theorem tableNamed?_holding (workspace : Workspace) (table : Table) :
    (workspace.holding table).schema.tableNamed? table.name = some table :=
  List.find?_cons_of_pos (Text.same_refl table.name)

/-- A key marks no column with another name or identity. -/
theorem withCheck_marked
    (workspace : Workspace) (table : Table) (key : Execution.Key) (column : ColumnDef) :
    workspace.withCheck (table.marked key) column = workspace.withCheck table column := by
  have known : ((table.marked key).columnNamed? column.name).map (fun known => known.id) =
      (table.columnNamed? column.name).map fun known => known.id := by
    rw [Table.columnNamed?, Table.marked, List.find?_map, Option.map_map]
    simp only [Function.comp_def, Column.marked_name]
    rfl
  rw [withCheck, withCheck, known]
  rfl

end Workspace

namespace Execution

/-! ## Steps from one workspace to another -/

/-- In every session on one workspace, a step succeeds with an answer and leaves another
workspace. -/
def Makes {α : Type} (before : Workspace) (step : Execution α) (answer : α) (after : Workspace) :
    Prop :=
  ∀ session, session.workspace = before →
    ∃ later, step.run.run session = (.ok answer, later) ∧ later.workspace = after

section

variable {α β : Type} {before middle after : Workspace} {answer : α} {result : β}

theorem Makes.pure (workspace : Workspace) (answer : α) :
    Makes workspace (Pure.pure answer) answer workspace :=
  fun session same => ⟨session, rfl, same⟩

theorem Makes.bind
    {step : Execution α} {next : α → Execution β} (first : Makes before step answer middle)
    (rest : Makes middle (next answer) result after) :
    Makes before (step >>= next) result after := by
  intro session same
  obtain ⟨between, ran, sameMiddle⟩ := first session same
  obtain ⟨later, ranRest, sameAfter⟩ := rest between sameMiddle
  refine ⟨later, ?_, sameAfter⟩
  rw [run_bind, ran]
  exact ranRest

theorem Makes.current (workspace : Workspace) :
    Makes workspace Execution.current workspace.schema workspace := by
  rintro session rfl
  exact ⟨session, rfl, rfl⟩

theorem Makes.always
    {step : SessionM α} (answers : ∀ session, session.workspace = before →
      (step.run session).1 = answer ∧ (step.run session).2.workspace = after) :
    Makes before (Execution.always step) answer after := by
  intro session same
  obtain ⟨answered, left⟩ := answers session same
  exact ⟨(step.run session).2, answered ▸ rfl, left⟩

theorem Makes.discard {step : Execution α} (makes : Makes before step answer after) :
    Makes before (Functor.discard step) () after := by
  rw [discard_eq_bind]
  exact makes.bind (.pure after ())

/-- Steps that all give one answer, each of which takes a workspace a little further. -/
theorem Makes.mapM
    {σ : Type} {place : σ → Workspace} {advance : σ → α → σ} {each : α → Execution β}
    {xs : List α} (makes : ∀ x ∈ xs, ∀ s, Makes (place s) (each x) result (place (advance s x)))
    (s : σ) :
    Makes (place s) (xs.mapM each) (xs.map fun _ => result) (place (xs.foldl advance s)) := by
  induction xs generalizing s with
  | nil =>
      rw [List.mapM_nil]
      exact .pure _ _
  | cons x xs ih =>
      rw [List.mapM_cons]
      apply Makes.bind (makes x List.mem_cons_self s)
      apply Makes.bind (ih (fun y member => makes y (List.mem_cons_of_mem _ member)) _)
      exact .pure _ _

end

/-! ## Checks and indexes -/

section

variable (workspace : Workspace) (table : Table)

theorem makes_addIndex (name : String) (columns : List String) (isUnique : Bool) :
    Makes (workspace.holding table) (addIndex table.id name columns isUnique) ()
      ((workspace.withIndex { name, table := table.id, columns, isUnique }).holding table) := by
  apply Makes.always
  intro session same
  let spec : IndexSpec := { name, table := table.id, columns, isUnique }
  refine ⟨rfl, ?_⟩
  change ((SessionM.addIndex spec).run session).2.workspace = _
  rw [SessionM.addIndex, SessionM.run_carry, Session.finished_workspace, same]
  rfl

theorem makes_addCheck (spec : ConstraintSpec) :
    Makes (workspace.holding table) (always (discard (SessionM.addConstraint spec))) ()
      ((workspace.withConstraint spec).holding table) := by
  apply Makes.always
  intro session same
  refine ⟨rfl, ?_⟩
  change ((SessionM.addConstraint spec).run session).2.workspace = _
  rw [SessionM.addConstraint, SessionM.run_carry, Session.finished_workspace, same]
  rfl

/-- The definition of a column that refers to nothing brings its check with it. -/
theorem makes_addExtras {column : ColumnDef} (plain : column.references = none) :
    Makes (workspace.holding table) (addExtras table.id table.name column) []
      ((workspace.withCheck table column).holding table) := by
  rw [addExtras, Workspace.withCheck, plain]
  cases column.check with
  | none => exact .pure _ _
  | some expression =>
      apply Makes.bind (.current _)
      rw [Workspace.table?_holding, Option.bind_some]
      exact .bind (makes_addCheck workspace table _) (.pure _ _)

end

/-! ## Marks on the columns of a table -/

section

variable (workspace : Workspace) (table : Table) (key : Key)

theorem run_changeTable_holding (change : Table → Table) :
    (Edit.change fun schema => schema.changeTable table.id change).run (workspace.holding table) =
      ((), workspace.holding (change table)) := by
  have changed : changeFirst (fun other : Table => other.id == table.id) change [table] =
      [change table] := by
    rw [changeFirst, if_pos (beq_self_eq_true table.id)]
  change ((), Workspace.mk { (workspace.holding table).schema with
    tables := changeFirst (fun other : Table => other.id == table.id) change [table] } _ _) = _
  rw [changed]
  rfl

theorem makes_modify
    {name : String} {column : Column} {spec : ColumnSpec}
    (named : table.columnNamed? name = some column)
    (same : Text.same column.name spec.name = true) :
    Makes (workspace.holding table)
      (discard (attempt (SessionM.alterTable table.id (.modify name spec)))) ()
      (workspace.holding
        { table with
          columns := changeFirst (fun column => Text.same column.name name)
            (fun _ => { spec with id := column.id, isForeignKey := column.isForeignKey })
            table.columns }) := by
  refine Makes.discard (?_ : Makes _ _ column.id _)
  intro session known
  have found := workspace.table?_holding table
  have ran : ((Edit.alterTable table.id (.modify name spec)).run (workspace.holding table)) =
      (.ok column.id, workspace.holding
        { table with
          columns := changeFirst (fun column => Text.same column.name name)
            (fun _ => { spec with id := column.id, isForeignKey := column.isForeignKey })
            table.columns }) := by
    simp only [Edit.alterTable, Edit.modifyColumn, Edit.run_bind, Edit.run_current, found, named,
      same, if_true, run_changeTable_holding]
    rfl
  refine ⟨((SessionM.alterTable table.id (.modify name spec)).run session).2, ?_, ?_⟩
  · rw [run_attempt, SessionM.alterTable, SessionM.run_carryChecked, known, ran]
    rfl
  · rw [SessionM.alterTable, SessionM.run_carryChecked, known, ran]
    exact Session.finished_workspace _ _ _ _

/-- Each column is changed where it stands, as it is the only one of its name: the columns before
those that are left have their marks. -/
theorem makes_markColumns_left
    (distinct : (table.columns.map fun column => Text.foldCase column.name).Nodup)
    (done left : List Column) (whole : done ++ left = table.columns) :
    Makes (workspace.holding { table with columns := done.map (Column.marked key) ++ left })
      (markColumns table.id key left) () (workspace.holding (table.marked key)) := by
  induction left generalizing done with
  | nil =>
      rw [List.append_nil] at whole
      rw [List.append_nil, whole]
      exact .pure _ _
  | cons column left ih =>
      have rest := ih (done ++ [column]) (by rw [← whole, List.append_assoc]; rfl)
      rw [List.map_append, List.append_assoc] at rest
      refine Makes.bind (?_ : Makes _ _ () _) rest
      let reached : Table :=
        { table with columns := done.map (Column.marked key) ++ column :: left }
      have others : ∀ known ∈ done.map (Column.marked key),
          Text.same known.name column.name = false := by
        intro known member
        obtain ⟨old, oldMember, rfl⟩ := List.mem_map.mp member
        rw [Column.marked_name, Bool.eq_false_iff]
        intro same
        rw [← whole, List.map_append, List.nodup_append] at distinct
        exact distinct.2.2 _ (List.mem_map_of_mem oldMember) _
          (List.mem_map_of_mem List.mem_cons_self) (Text.same_iff.mp same)
      have self : Text.same column.name column.name = true := Text.same_refl column.name
      have named : reached.columnNamed? column.name = some column :=
        find?_append_cons left others self
      change Makes _ (if key.mark column.toColumnSpec ≠ column.toColumnSpec then _ else _) _ _
      split
      · have keepsName : Text.same column.name (key.mark column.toColumnSpec).name = true := by
          rw [key.mark_name, Text.same_refl]
        have made := makes_modify workspace reached named keepsName
        rw [changeFirst_append_cons left others self] at made
        rw [← key.mark_isForeignKey column.toColumnSpec] at made
        exact made
      · next unchanged =>
          have same : column.marked key = column :=
            Column.marked_eq_self (by simpa using unchanged)
          rw [List.map_singleton, same]
          exact .pure _ _

theorem makes_markColumns
    (distinct : (table.columns.map fun column => Text.foldCase column.name).Nodup) :
    Makes (workspace.holding table) (markColumns table.id key table.columns) ()
      (workspace.holding (table.marked key)) :=
  makes_markColumns_left workspace table key distinct [] table.columns rfl

/-- The definitions of the columns of a table. -/
theorem makes_addKey
    (listed : Key)
    (distinct : (table.columns.map fun column => Text.foldCase column.name).Nodup) :
    let specs := table.columns.map fun column => column.toColumnSpec
    let key := listed.restrict specs
    Makes (workspace.holding table) (addKey table.id table.name listed)
      (listed.unknownWarnings table.name specs ++ key.compositeWarnings table.name)
      ((workspace.withKeyIndex table key).holding (table.marked key)) := by
  intro specs key
  have marks (workspace : Workspace) : Makes (workspace.holding table) (do
        markColumns table.id key table.columns
        return listed.unknownWarnings table.name specs ++ key.compositeWarnings table.name)
      (listed.unknownWarnings table.name specs ++ key.compositeWarnings table.name)
      (workspace.holding (table.marked key)) :=
    .bind (makes_markColumns workspace table key distinct) (.pure _ _)
  apply Makes.bind (.current _)
  rw [Workspace.table?_holding, Workspace.withKeyIndex]
  change Makes _ (if 2 ≤ key.entries.length then _ else _) _ _
  split
  · exact .bind (makes_addIndex workspace table _ _ _) (marks _)
  · exact marks workspace

end

/-! ## New tables -/

section

variable (start : Workspace)

/-- The table that a workspace makes of a definition, with columns as a plan has them. -/
def tableOf (name : String) (columns : List ColumnSpec) : Table :=
  start.newTable { name, columns }

/-- The workspace after the identities of a table and its columns have been drawn, and with the
checks that definitions of columns bring with them. -/
def withChecks (table : Table) (columns : List ColumnDef) : Workspace :=
  columns.foldl (fun workspace column => workspace.withCheck table column)
    { start with nextId := start.nextId + (table.columns.length + 1) }

theorem length_numberedFrom (first : Nat) (specs : List ColumnSpec) :
    (numberedFrom first specs).length = specs.length := by
  rw [← List.length_map, numberedFrom_specs]

theorem numberedFrom_marked (key : Key) (first : Nat) (specs : List ColumnSpec) :
    numberedFrom first (specs.map key.mark) =
      (numberedFrom first specs).map (Column.marked key) := by
  induction specs generalizing first with
  | nil => rfl
  | cons spec specs ih =>
      rw [List.map_cons, numberedFrom, ih]
      rfl

theorem tableOf_marked (name : String) (key : Key) (specs : List ColumnSpec) :
    tableOf start name (specs.map key.mark) = (tableOf start name specs).marked key := by
  simp only [tableOf, Workspace.newTable, List.length_map, numberedFrom_marked]
  rfl

theorem withChecks_marked (table : Table) (key : Key) (columns : List ColumnDef) :
    withChecks start (table.marked key) columns = withChecks start table columns := by
  have length : (table.marked key).columns.length = table.columns.length := List.length_map _
  simp only [withChecks, Workspace.withCheck_marked, length]

variable (bare : start.schema.tables = [])

include bare

theorem makes_addTable (name : String) (columns : List ColumnSpec) :
    Makes start (always (SessionM.addTable { name, columns })) (tableOf start name columns).id
      ((withChecks start (tableOf start name columns) []).holding
        (tableOf start name columns)) := by
  apply Makes.always
  rintro session rfl
  rw [SessionM.addTable, SessionM.run_carry, Edit.run_addTable, Session.finished_workspace]
  refine ⟨rfl, ?_⟩
  simp only [Workspace.changed, bare, List.nil_append, Workspace.holding, withChecks,
    List.foldl_nil, tableOf, Workspace.newTable, length_numberedFrom]
  rfl

/-- The columns of a new table and what waits until it exists, as its constraints make them. -/
def planOf (definition : CreateTable) : TablePlan :=
  definition.constraints.foldl (TablePlan.constrain definition.name)
    { columns := definition.columns.map columnOf, deferred := [], warnings := [] }

/-- A table without foreign keys is added with the checks of its columns, and then what waits is
added to it. -/
theorem makes_createTable
    (definition : CreateTable)
    (plain : ∀ column ∈ definition.columns, column.references = none)
    {others : List (List String)} {after : Workspace}
    (adds :
      let table := tableOf start definition.name (planOf definition).columns
      Makes ((withChecks start table definition.columns).holding table)
        ((planOf definition).deferred.mapM (addConstraint table.id table.name)) others after) :
    ∃ effect, effect.warnings = (planOf definition).warnings ++ others.flatten ∧
      Makes start (createTable definition) effect after := by
  let table := tableOf start definition.name (planOf definition).columns
  have free : start.schema.hasTable definition.name = false := by
    rw [Schema.hasTable_eq_false_iff, bare]
    exact nofun
  have extras : Makes ((withChecks start table []).holding table)
      (definition.columns.mapM (addExtras table.id table.name))
      (definition.columns.map fun _ => [])
      ((withChecks start table definition.columns).holding table) := by
    let place (workspace : Workspace) := workspace.holding table
    have each : ∀ column ∈ definition.columns, ∀ workspace : Workspace,
        Makes (place workspace) (addExtras table.id table.name column) []
          (place (workspace.withCheck table column)) :=
      fun column member workspace => makes_addExtras workspace table (plain column member)
    exact Makes.mapM each _
  refine ⟨?effect, ?warnings, ?created⟩
  case created =>
    apply Makes.bind (.current start)
    change Makes _ (if start.schema.hasTable definition.name then _ else _) _ _
    rw [free, if_neg Bool.false_ne_true]
    apply Makes.bind (makes_addTable start bare definition.name (planOf definition).columns)
    apply Makes.bind extras
    apply Makes.bind adds
    exact .pure _ _
  case warnings =>
    have none : (definition.columns.map fun _ => ([] : List String)).flatten = [] := by
      simp
    change _ ++ (definition.columns.map fun _ => ([] : List String)).flatten ++ _ = _
    rw [none, List.append_nil]
    rfl

end

/-! ## The two ways to a key -/

end Execution

/-- A unique key of several columns lists a name of no column. -/
def Sql.TableConstraint.Overreaches (columns : List ColumnSpec) : TableConstraint → Prop
  | .unique _ entries =>
      1 < entries.length ∧ ∃ entry ∈ entries, Execution.Key.names columns entry = false
  | _ => False

instance (columns : List ColumnSpec) :
    ∀ constraint, Decidable (TableConstraint.Overreaches columns constraint)
  | .unique _ entries =>
      inferInstanceAs (Decidable (1 < entries.length ∧
        ∃ entry ∈ entries, Execution.Key.names columns entry = false))
  | .primaryKey _ | .foreignKey _ _ _ | .check _ _ | .index _ _ => .isFalse id

namespace Execution

theorem Key.restrict_eq_self
    {key : Key} {columns : List ColumnSpec}
    (known : ∀ entry ∈ key.entries, names columns entry = true) :
    key.restrict columns = key := by
  rw [restrict, List.filter_eq_self.mpr known]

theorem Key.unknownWarnings_eq_nil_iff
    {key : Key} {tableName : String} {columns : List ColumnSpec} :
    key.unknownWarnings tableName columns = [] ↔
      ∀ entry ∈ key.entries, names columns entry = true := by
  rw [unknownWarnings, List.map_eq_nil_iff, List.filter_eq_nil_iff]
  simp

/-- A unique key of several columns is no mark on them. -/
theorem Key.mark_of_several
    {key : Key} (secondary : key.isPrimary = false) (several : 1 < key.entries.length)
    (column : ColumnSpec) : key.mark column = column := by
  have alone : (key.entries.length == 1) = false := by
    rw [beq_eq_false_iff_ne]
    omega
  rw [mark, alone, secondary]
  simp

section

variable (workspace : Workspace) {table : Table} {constraint : TableConstraint} {listed : Key}
variable (isKey : Key.ofConstraint? constraint = some listed)

include isKey

omit isKey in
/-- The index of a key of a new table is added when the table exists. -/
theorem makes_deferred_key (table : Table) (key : Key) :
    ∃ others, others.flatten = [] ∧
      Makes (workspace.holding table)
        ((key.index? table.name).toList.mapM (addConstraint table.id table.name)) others
        ((workspace.withKeyIndex table key).holding table) := by
  rw [Key.index?, Workspace.withKeyIndex]
  by_cases several : 2 ≤ key.entries.length
  · rw [if_neg (by omega), if_pos several, Option.toList_some, List.mapM_cons, List.mapM_nil]
    have adds : Makes (workspace.holding table)
        (addConstraint table.id table.name (.unique (some (key.indexName table.name)) key.entries))
        [] ((workspace.withIndex
          { name := key.indexName table.name
            table := table.id
            columns := key.entries
            isUnique := true }).holding table) := by
      change Makes _ (if 1 < key.entries.length then _ else _) _ _
      rw [if_pos (show 1 < key.entries.length from several)]
      exact .bind (makes_addIndex workspace table _ key.entries true) (.pure _ _)
    exact ⟨[[]], rfl, .bind adds (.bind (.pure _ _) (.pure _ _))⟩
  · rw [if_pos (by omega), if_neg several]
    exact ⟨[], rfl, .pure _ _⟩

/-- A key that is given to a table that exists does what it does in a new table, if it looks for its
columns. -/
theorem makes_addConstraint_key
    (distinct : (table.columns.map fun column => Text.foldCase column.name).Nodup)
    (looks : ¬constraint.Overreaches (table.columns.map fun column => column.toColumnSpec)) :
    let specs := table.columns.map fun column => column.toColumnSpec
    let key := listed.restrict specs
    Makes (workspace.holding table) (addConstraint table.id table.name constraint)
      (listed.unknownWarnings table.name specs ++ key.compositeWarnings table.name)
      ((workspace.withKeyIndex table key).holding (table.marked key)) := by
  intro specs key
  have adds := makes_addKey workspace table listed distinct
  cases constraint with
  | primaryKey columns =>
      cases isKey
      exact adds
  | unique name columns =>
      cases isKey
      change Makes _ (if 1 < columns.length then _ else _) _ _
      split
      · next several =>
          have known : ∀ entry ∈ columns, Key.names specs entry = true := by
            intro entry member
            rw [← Bool.not_eq_false]
            exact fun unknown => looks ⟨several, entry, member, unknown⟩
          let unique : Key := { isPrimary := false, name, entries := columns }
          have whole : key = unique := Key.restrict_eq_self known
          have unmarked : table.marked key = table := by
            have same (column : Column) : column.marked key = column := by
              rw [whole]
              exact Column.marked_eq_self (unique.mark_of_several rfl several _)
            rw [Table.marked, List.map_congr_left fun column _ => same column, List.map_id']
          have silent : unique.unknownWarnings table.name specs ++
              key.compositeWarnings table.name = [] := by
            rw [Key.unknownWarnings_eq_nil_iff.mpr known, whole]
            rfl
          rw [silent, unmarked, whole, Workspace.withKeyIndex,
            if_pos (show 2 ≤ unique.entries.length from several)]
          exact .bind (makes_addIndex workspace table _ columns true) (.pure _ _)
      · exact adds
  | foreignKey name columns references => cases isKey
  | check name expression => cases isKey
  | index name columns => cases isKey

omit isKey in
/-- A unique key of several columns that lists a name of none is added without a word. -/
theorem makes_addConstraint_overreaching
    (table : Table) {specs : List ColumnSpec} (overreaches : constraint.Overreaches specs) :
    ∃ after, Makes (workspace.holding table) (addConstraint table.id table.name constraint) []
      after := by
  cases constraint with
  | unique name columns =>
      change ∃ after, Makes _ (if 1 < columns.length then _ else _) _ after
      rw [if_pos overreaches.1]
      exact ⟨_, .bind (makes_addIndex workspace table _ columns true) (.pure _ _)⟩
  | _ => exact overreaches.elim

omit workspace in
theorem unknownWarnings_ne_nil
    {tableName : String} {specs : List ColumnSpec} (overreaches : constraint.Overreaches specs) :
    listed.unknownWarnings tableName specs ≠ [] := by
  cases constraint with
  | unique name columns =>
      cases isKey
      obtain ⟨_, entry, member, unknown⟩ := overreaches
      rw [Ne, Key.unknownWarnings_eq_nil_iff]
      intro known
      rw [known entry member] at unknown
      cases unknown
  | _ => exact overreaches.elim

end

section

variable {start : Workspace} (bare : start.schema.tables = [])
variable {name : String} {ifNotExists : Bool} {columns : List ColumnDef}
variable (plain : ∀ column ∈ columns, column.references = none)

include bare plain

theorem makes_createTable_plain :
    let table := tableOf start name (columns.map columnOf)
    ∃ effect, effect.warnings = [] ∧
      Makes start (createTable { name, ifNotExists, columns, constraints := [] }) effect
        ((withChecks start table columns).holding table) := by
  intro table
  let definition : CreateTable := { name, ifNotExists, columns, constraints := [] }
  obtain ⟨effect, warnings, created⟩ :=
    makes_createTable start bare definition plain (Makes.pure _ _)
  exact ⟨effect, warnings, created⟩

theorem makes_createTable_key
    {constraint : TableConstraint} {listed : Key}
    (isKey : Key.ofConstraint? constraint = some listed) :
    let specs := columns.map columnOf
    let table := tableOf start name specs
    let key := listed.restrict specs
    ∃ effect,
      effect.warnings = listed.unknownWarnings name specs ++ key.compositeWarnings name ∧
      Makes start (createTable { name, ifNotExists, columns, constraints := [constraint] }) effect
        (((withChecks start table columns).withKeyIndex table key).holding (table.marked key)) := by
  intro specs table key
  let definition : CreateTable := { name, ifNotExists, columns, constraints := [constraint] }
  have plan : planOf definition =
      { columns := specs.map key.mark
        deferred := (key.index? name).toList
        warnings := listed.unknownWarnings name specs ++ key.compositeWarnings name } := by
    simp only [planOf, definition, List.foldl_cons, List.foldl_nil, TablePlan.constrain, isKey]
    rfl
  have marked : tableOf start name (planOf definition).columns = table.marked key := by
    rw [plan]
    exact tableOf_marked start name key specs
  obtain ⟨others, silent, adds⟩ :=
    makes_deferred_key (withChecks start (table.marked key) columns) (table.marked key) key
  have created : ∃ effect, effect.warnings = (planOf definition).warnings ++ others.flatten ∧
      Makes start (createTable definition) effect
        (((withChecks start (table.marked key) columns).withKeyIndex (table.marked key) key).holding
          (table.marked key)) := by
    apply makes_createTable start bare definition plain
    rw [marked, plan]
    exact adds
  rwa [silent, List.append_nil, plan, withChecks_marked] at created

end

theorem makes_alterTable_add
    {workspace : Workspace} {table : Table} {constraint : TableConstraint} {warnings : List String}
    {after : Workspace}
    (adds : Makes (workspace.holding table) (addConstraint table.id table.name constraint) warnings
      after) :
    ∃ effect, effect.warnings = warnings ∧
      Makes (workspace.holding table) (alterTable table.name [.addConstraint constraint]) effect
        after := by
  refine ⟨?effect, ?warnings, ?altered⟩
  case altered =>
    apply Makes.bind (.current _)
    rw [Workspace.tableNamed?_holding]
    apply Makes.bind
    · exact .bind (.bind adds (.pure _ _)) (.bind (.pure _ _) (.pure _ _))
    · exact .pure _ _
  case warnings => exact List.append_nil warnings

/-- A statement succeeds in a session with some warnings and leaves a workspace. -/
def Executes (session : Session) (source : StatementSource) (warnings : List String)
    (after : Workspace) : Prop :=
  ∃ report later, (SessionM.executeStatement source).run session = (report, later) ∧
    report.success = true ∧ report.warnings = warnings ∧ later.workspace = after

theorem Makes.executes
    {session : Session} {source : StatementSource} {statement : Statement} {effect : Effect}
    {after : Workspace} (makes : Makes session.workspace (apply source.text statement) effect after)
    (read : Statement.ofText source.text = .ok statement) :
    Executes session source effect.warnings after := by
  obtain ⟨later, ran, left⟩ := makes session rfl
  refine ⟨.of source (.ok effect), later, ?_, rfl, rfl, left⟩
  rw [run_executeStatement, applyText_of_read read, ran]

section

variable {session : Session} (empty : session.schema.IsEmpty) {name : String} {ifNotExists : Bool}
variable {columns : List ColumnDef} (plain : ∀ column ∈ columns, column.references = none)
variable {constraint : TableConstraint} {listed : Key}
variable (isKey : Key.ofConstraint? constraint = some listed)

include empty plain in
theorem executes_creation
    {source : StatementSource}
    (read : Statement.ofText source.text =
      .ok (.createTable { name, ifNotExists, columns, constraints := [] })) :
    let table := tableOf session.workspace name (columns.map columnOf)
    Executes session source [] ((withChecks session.workspace table columns).holding table) := by
  intro table
  obtain ⟨effect, warnings, makes⟩ := makes_createTable_plain empty.tables plain
  rw [← warnings]
  exact makes.executes read

include empty plain isKey in
theorem executes_creation_key
    {source : StatementSource}
    (read : Statement.ofText source.text =
      .ok (.createTable { name, ifNotExists, columns, constraints := [constraint] })) :
    let specs := columns.map columnOf
    let table := tableOf session.workspace name specs
    let key := listed.restrict specs
    Executes session source
      (listed.unknownWarnings name specs ++ key.compositeWarnings name)
      (((withChecks session.workspace table columns).withKeyIndex table key).holding
        (table.marked key)) := by
  intro specs table key
  obtain ⟨effect, warnings, makes⟩ := makes_createTable_key empty.tables plain isKey
  rw [← warnings]
  exact makes.executes read

theorem executes_addition
    {source : StatementSource} {workspace after : Workspace} {table : Table}
    {warnings : List String} (holds : session.workspace = workspace.holding table)
    (read : Statement.ofText source.text = .ok (.alterTable table.name [.addConstraint constraint]))
    (adds : Makes (workspace.holding table) (addConstraint table.id table.name constraint) warnings
      after) :
    Executes session source warnings after := by
  obtain ⟨effect, same, makes⟩ := makes_alterTable_add adds
  rw [← holds] at makes
  rw [← same]
  exact makes.executes read

end

/-- The columns of a new table have the definitions that the table was made of. -/
theorem specs_tableOf (start : Workspace) (name : String) (specs : List ColumnSpec) :
    (tableOf start name specs).columns.map (fun column => column.toColumnSpec) = specs :=
  numberedFrom_specs

theorem distinct_tableOf
    (start : Workspace) (name : String) {columns : List ColumnDef}
    (distinct : (columns.map fun column => Text.foldCase column.name).Nodup) :
    ((tableOf start name (columns.map columnOf)).columns.map fun column =>
      Text.foldCase column.name).Nodup := by
  have specs := specs_tableOf start name (columns.map columnOf)
  have names := congrArg (List.map fun spec : ColumnSpec => Text.foldCase spec.name) specs
  rw [List.map_map, List.map_map] at names
  exact names ▸ distinct

end Execution

namespace Session

open Execution (columnOf)

/-- In a session without tables, to create a table with a key is to create it without the key and to
add the key then: all three statements succeed, and both ways leave the same schema and the same
warnings, but for a unique key of several columns that lists a name of none. -/
theorem created_key_iff_added_key
    {session : Session} (empty : session.schema.IsEmpty) {name : String} {ifNotExists : Bool}
    {columns : List ColumnDef} {constraint : TableConstraint}
    (distinct : (columns.map fun column => Text.foldCase column.name).Nodup)
    (plain : ∀ column ∈ columns, column.references = none)
    (isKey : (Execution.Key.ofConstraint? constraint).isSome)
    {keyed created added : StatementSource}
    (readKeyed : Statement.ofText keyed.text =
      .ok (.createTable { name, ifNotExists, columns, constraints := [constraint] }))
    (readCreated : Statement.ofText created.text =
      .ok (.createTable { name, ifNotExists, columns, constraints := [] }))
    (readAdded : Statement.ofText added.text = .ok (.alterTable name [.addConstraint constraint])) :
    let whole := (SessionM.executeStatement keyed).run session
    let first := (SessionM.executeStatement created).run session
    let second := (SessionM.executeStatement added).run first.2
    (whole.1.success = true ∧ first.1.success = true ∧ second.1.success = true) ∧
      (whole.2.schema = second.2.schema ∧
          whole.1.warnings = first.1.warnings ++ second.1.warnings ↔
        ¬constraint.Overreaches (columns.map columnOf)) := by
  intro whole first second
  obtain ⟨listed, isKey⟩ := Option.isSome_iff_exists.mp isKey
  obtain ⟨keyedReport, keyedLater, keyedRan, keyedSuccess, keyedWarnings, keyedLeft⟩ :=
    Execution.executes_creation_key empty plain isKey readKeyed
  obtain ⟨report, later, ran, success, warnings, left⟩ :=
    Execution.executes_creation empty plain readCreated
  have whole_eq : whole = (keyedReport, keyedLater) := keyedRan
  have first_eq : first = (report, later) := ran
  have second_eq : second = (SessionM.executeStatement added).run later := by
    simp only [second, first_eq]
  rw [whole_eq, first_eq, second_eq, keyedWarnings, warnings, List.nil_append]
  let table := Execution.tableOf session.workspace name (columns.map columnOf)
  let checked := Execution.withChecks session.workspace table columns
  have specs := Execution.specs_tableOf session.workspace name (columns.map columnOf)
  by_cases overreaches : constraint.Overreaches (columns.map columnOf)
  · obtain ⟨after, adds⟩ :=
      Execution.makes_addConstraint_overreaching checked table overreaches
    obtain ⟨addedReport, last, addedRan, addedSuccess, addedWarnings, addedLeft⟩ :=
      Execution.executes_addition left readAdded adds
    rw [addedRan, addedWarnings]
    refine ⟨⟨keyedSuccess, success, addedSuccess⟩, ?_, fun looks => absurd overreaches looks⟩
    rintro ⟨_, unsaid⟩
    rw [List.append_eq_nil_iff] at unsaid
    exact absurd unsaid.1 (Execution.unknownWarnings_ne_nil isKey overreaches)
  · have adds := Execution.makes_addConstraint_key checked isKey
      (Execution.distinct_tableOf session.workspace name distinct) (specs.symm ▸ overreaches)
    rw [specs] at adds
    obtain ⟨addedReport, last, addedRan, addedSuccess, addedWarnings, addedLeft⟩ :=
      Execution.executes_addition left readAdded adds
    rw [addedRan, addedWarnings]
    refine ⟨⟨keyedSuccess, success, addedSuccess⟩, fun _ => overreaches, fun _ => ⟨?_, rfl⟩⟩
    rw [Session.schema, Session.schema, keyedLeft, addedLeft]

/-- A primary key lists a column in another letter case, and a name of none. -/
theorem created_key_iff_added_key_shop :
    let session : Session := .ofConfig {} 0 default
    let spell (text : String) : StatementSource := ⟨text, default, default, true⟩
    let keyed := spell "CREATE TABLE t (a INT, b INT CHECK (b > 0), PRIMARY KEY (B, nope))"
    let created := spell "CREATE TABLE t (a INT, b INT CHECK (b > 0))"
    let added := spell "ALTER TABLE t ADD PRIMARY KEY (B, nope)"
    let columns : List ColumnDef :=
      [{ name := "a", dataType := "INT" },
        { name := "b", dataType := "INT", check := some "b > 0" }]
    let constraint : TableConstraint := .primaryKey ["B", "nope"]
    let whole := (SessionM.executeStatement keyed).run session
    let first := (SessionM.executeStatement created).run session
    let second := (SessionM.executeStatement added).run first.2
    session.schema.IsEmpty ∧ (columns.map fun column => Text.foldCase column.name).Nodup ∧
      (∀ column ∈ columns, column.references = none) ∧
      (Execution.Key.ofConstraint? constraint).isSome ∧
      Statement.ofText keyed.text = .ok (.createTable
        { name := "t", ifNotExists := false, columns, constraints := [constraint] }) ∧
      Statement.ofText created.text = .ok (.createTable
        { name := "t", ifNotExists := false, columns, constraints := [] }) ∧
      Statement.ofText added.text = .ok (.alterTable "t" [.addConstraint constraint]) ∧
      whole.2.schema = second.2.schema ∧
      whole.1.warnings = first.1.warnings ++ second.1.warnings := by
  intro session spell keyed created added columns constraint whole first second
  have empty : session.schema.IsEmpty := ⟨rfl, rfl, rfl, rfl⟩
  have distinct : (columns.map fun column => Text.foldCase column.name).Nodup := by decide
  have plain : ∀ column ∈ columns, column.references = none := by decide
  have readKeyed : Statement.ofText keyed.text = .ok (.createTable
      { name := "t", ifNotExists := false, columns, constraints := [constraint] }) := by
    decide +kernel
  have readCreated : Statement.ofText created.text = .ok (.createTable
      { name := "t", ifNotExists := false, columns, constraints := [] }) := by
    decide +kernel
  have readAdded :
      Statement.ofText added.text = .ok (.alterTable "t" [.addConstraint constraint]) := by
    decide +kernel
  have looks : ¬constraint.Overreaches (columns.map columnOf) := id
  have both := created_key_iff_added_key empty distinct plain rfl readKeyed readCreated readAdded
  exact ⟨empty, distinct, plain, rfl, readKeyed, readCreated, readAdded, both.2.mpr looks⟩

/-- A new table passes over the name of no column with a warning and marks the other column; a table
that exists gets an index of both. -/
theorem created_key_ne_added_key :
    let session : Session := .ofConfig {} 0 default
    let outcome (script : String) :=
      let ran := (SessionM.execute script).run session
      (ran.1.map fun report => (report.success, report.warnings),
        ran.2.schema.indexes.map fun index => index.columns)
    session.schema.IsEmpty ∧
      outcome "CREATE TABLE t (a INT, UNIQUE (a, nope))" =
        ([(true, ["Column 'nope' not found in table 't', key entry skipped"])], []) ∧
      outcome "CREATE TABLE t (a INT); ALTER TABLE t ADD UNIQUE (a, nope)" =
        ([(true, []), (true, [])], [["a", "nope"]]) := by
  refine ⟨⟨rfl, rfl, rfl, rfl⟩, ?_, ?_⟩
  all_goals decide +kernel

end Session

end SchemaDesign
