import SchemaDesign.Proofs.Ddl.ColumnSteps
import SchemaDesign.Proofs.Schema.Outlines
import SchemaDesign.Proofs.Session.Steps

/-!
# Changes of columns at the database

A change of a column finds the column in any letter case.  What the database is told of it means
the column by its exact name.  The two agree exactly if the change calls the column by its exact
name, and does not rename it by letter case alone.
-/

namespace SchemaDesign

/-! ## Names of columns -/

/-- The exact names of the columns. -/
def Table.columnNames (table : Table) : List String :=
  table.columns.map fun column => column.name

namespace ColumnChange

/-- The exact names of the columns after a change that succeeds. -/
def namesAfter (names : List String) : ColumnChange → List String
  | .add spec => names ++ [spec.name]
  | .drop name => names.eraseP fun stored => Text.same stored name
  | .modify name spec =>
      changeFirst (fun stored => Text.same stored name) (fun _ => spec.name) names

/-- The name that a change gives to a column. -/
def newName? : ColumnChange → Option String
  | .add spec | .modify _ spec => some spec.name
  | .drop _ => none

/-- Whether a change calls its column by one of the exact names, where it does not rename the column
by letter case alone.  A change that renames it is told under both names, another one under the new
name only. -/
def IsSpelled (names : List String) : ColumnChange → Prop
  | .add _ => True
  | .drop name => name ∈ names
  | .modify name spec => if Text.same name spec.name then spec.name ∈ names else name ∈ names

instance (names : List String) : (change : ColumnChange) → Decidable (change.IsSpelled names)
  | .add _ => isTrue trivial
  | .drop name => inferInstanceAs (Decidable (name ∈ names))
  | .modify name spec =>
      inferInstanceAs
        (Decidable (if Text.same name spec.name then spec.name ∈ names else name ∈ names))

end ColumnChange

/-- If no two elements are meant, a change of the first of them is one of all. -/
theorem changeFirst_eq_map_of_pairwise
    {α : Type} {isMeant : α → Bool} {change : α → α} {xs : List α}
    (single : xs.Pairwise fun left right => ¬ (isMeant left = true ∧ isMeant right = true)) :
    changeFirst isMeant change xs = xs.map fun x => if isMeant x then change x else x := by
  induction single with
  | nil => rfl
  | @cons first rest apart _ ih =>
      by_cases meant : isMeant first = true
      · have others : (rest.map fun x => if isMeant x then change x else x) = rest.map id := by
          apply List.map_congr_left
          intro x member
          exact if_neg fun also => apart x member ⟨meant, also⟩
        rw [changeFirst, if_pos meant, List.map_cons, if_pos meant, others, List.map_id]
      · rw [changeFirst, if_neg meant, List.map_cons, if_neg meant, ih]

theorem changeFirst_congr
    {α : Type} {isMeant isNamed : α → Bool} {change : α → α} {xs : List α}
    (agree : ∀ x ∈ xs, isMeant x = isNamed x) :
    changeFirst isMeant change xs = changeFirst isNamed change xs := by
  induction xs with
  | nil => rfl
  | cons first rest ih =>
      rw [changeFirst, changeFirst, agree first List.mem_cons_self,
        ih fun x member => agree x (List.mem_cons_of_mem _ member)]

theorem eraseP_congr
    {α : Type} {isMeant isNamed : α → Bool} {xs : List α}
    (agree : ∀ x ∈ xs, isMeant x = isNamed x) : xs.eraseP isMeant = xs.eraseP isNamed := by
  induction xs with
  | nil => rfl
  | cons first rest ih =>
      rw [List.eraseP_cons, List.eraseP_cons, agree first List.mem_cons_self,
        ih fun x member => agree x (List.mem_cons_of_mem _ member)]

theorem replace_eq_changeFirst
    {α : Type} [DecidableEq α] (xs : List α) (old new : α) :
    xs.replace old new = changeFirst (fun x => x == old) (fun _ => new) xs := by
  induction xs with
  | nil => rfl
  | cons first rest ih =>
      rw [List.replace_cons, changeFirst, ih, Bool.beq_comm]
      cases first == old with
      | true => rfl
      | false => rfl

section

variable {names : List String} {name : String}
variable (differ : names.Pairwise fun left right => Text.same left right = false)

include differ

theorem single_same :
    names.Pairwise fun left right =>
      ¬ (Text.same left name = true ∧ Text.same right name = true) := by
  apply differ.imp
  rintro left right apart ⟨leftSame, rightSame⟩
  rw [Text.same_comm] at rightSame
  cases apart.symm.trans (Text.same_trans leftSame rightSame)

/-- Among names that differ in more than letter case, those that agree with one of them are that
one. -/
theorem eq_of_same_of_mem
    (listed : name ∈ names) {other : String} (member : other ∈ names)
    (same : Text.same other name = true) : other = name := by
  have distinct : names.Pairwise fun left right => Text.same (id left) (id right) = false := differ
  exact Schema.eq_of_same_name distinct member listed same

theorem same_eq_beq_of_mem (listed : name ∈ names) {other : String} (member : other ∈ names) :
    Text.same other name = (other == name) := by
  cases same : Text.same other name with
  | true => rw [eq_of_same_of_mem differ listed member same, beq_self_eq_true]
  | false =>
      symm
      rw [beq_eq_false_iff_ne]
      rintro rfl
      cases same.symm.trans (Text.same_refl _)

theorem eraseP_same_of_mem (listed : name ∈ names) :
    names.eraseP (fun stored => Text.same stored name) = names.erase name := by
  rw [List.erase_eq_eraseP]
  apply eraseP_congr
  intro stored member
  rw [same_eq_beq_of_mem differ listed member, Bool.beq_comm]

theorem changeFirst_same (new : String) :
    changeFirst (fun stored => Text.same stored name) (fun _ => new) names =
      names.map fun stored => if Text.same stored name then new else stored :=
  changeFirst_eq_map_of_pairwise (single_same differ)

theorem replace_of_mem (listed : name ∈ names) (new : String) :
    names.replace name new =
      names.map fun stored => if Text.same stored name then new else stored := by
  rw [replace_eq_changeFirst, changeFirst_congr fun stored member =>
    (same_eq_beq_of_mem differ listed member).symm]
  exact changeFirst_same differ new

end

/-! ## Replaying a change -/

namespace ColumnStep

open SessionM (changeStatements)

variable {dialect : Dialect} {names : List String}
variable (exact : dialect = .postgreSql ∨ dialect = .oracle)
variable (differ : names.Pairwise fun left right => Text.same left right = false)

include exact

theorem replay?_add_iff (tableName : String) (names : List String) (spec : ColumnSpec)
    (column : Option Column) :
    replay? tableName names (changeStatements dialect tableName (.add spec) column) =
        some (names ++ [spec.name]) ↔
      (column.map fun column => column.name) = some spec.name := by
  cases column with
  | none =>
      change some names = some (names ++ [spec.name]) ↔ none = some spec.name
      simp
  | some column =>
      rw [changeStatements, replay?_single (ofText?_addColumn exact tableName column.toColumnSpec)]
      simp [namesAfter?]

include differ

theorem replay?_drop_iff (tableName name : String) (column : Option Column) :
    replay? tableName names (changeStatements dialect tableName (.drop name) column) =
        some (names.eraseP fun stored => Text.same stored name) ↔
      name ∈ names := by
  rw [changeStatements, replay?_single (ofText?_dropColumn (quotes_of_exact exact) tableName name),
    namesAfter?]
  by_cases listed : name ∈ names
  · rw [if_pos listed, eraseP_same_of_mem differ listed]
    exact iff_of_true rfl listed
  · rw [if_neg listed]
    exact iff_of_false nofun listed

omit exact in
/-- A column that keeps its name but for letter case is expected under its new name. -/
theorem redefined_iff {new : String} (agrees : Text.same name new = true) :
    namesAfter? names (redefine new) =
        some (names.map fun stored => if Text.same stored name then new else stored) ↔
      new ∈ names := by
  rw [namesAfter?]
  by_cases listed : new ∈ names
  · have kept : (names.map fun stored => if Text.same stored name then new else stored) =
        names.map id := by
      apply List.map_congr_left
      intro stored member
      split
      · next same =>
          exact (eq_of_same_of_mem differ listed member (Text.same_trans same agrees)).symm
      · rfl
    rw [if_pos listed, kept, List.map_id]
    exact iff_of_true rfl listed
  · rw [if_neg listed]
    exact iff_of_false nofun listed

omit exact in
/-- A column is renamed from its exact name, and is there under its new name then. -/
theorem renamed_iff {new : String} :
    ((namesAfter? names (rename name new)).bind fun renamed => namesAfter? renamed (redefine new)) =
        some (names.map fun stored => if Text.same stored name then new else stored) ↔
      name ∈ names := by
  rw [namesAfter?]
  by_cases listed : name ∈ names
  · have given : new ∈ names.replace name new := by
      rw [replace_of_mem differ listed]
      exact List.mem_map.mpr ⟨name, listed, if_pos (Text.same_refl name)⟩
    rw [if_pos listed, Option.bind_some, namesAfter?, if_pos given, replace_of_mem differ listed]
    exact iff_of_true rfl listed
  · rw [if_neg listed]
    exact iff_of_false nofun listed

omit exact in
/-- A column that is renamed to one name does not give the names after a change to another. -/
theorem renamed_ne {new other : String} (apart : other ≠ new) :
    ((namesAfter? names (rename name other)).bind fun renamed =>
        namesAfter? renamed (redefine other)) ≠
      some (names.map fun stored => if Text.same stored name then new else stored) := by
  intro replayed
  rw [namesAfter?] at replayed
  by_cases listed : name ∈ names
  · rw [if_pos listed, Option.bind_some, namesAfter?, replace_of_mem differ listed] at replayed
    split at replayed
    · have alike := List.map_inj_left.mp (Option.some.inj replayed) name listed
      rw [if_pos (Text.same_refl name), if_pos (Text.same_refl name)] at alike
      exact apart alike
    · cases replayed
  · rw [if_neg listed] at replayed
    cases replayed

/-- A column that keeps its name but for letter case is expected under its new name, which must be
the old one.  A column that does not is renamed, which must be from its exact name. -/
theorem replay?_modify_iff (tableName name : String) (spec : ColumnSpec) {column : Column}
    (held : column.name ∈
      changeFirst (fun stored => Text.same stored name) (fun _ => spec.name) names) :
    replay? tableName names
          (changeStatements dialect tableName (.modify name spec) (some column)) =
        some (changeFirst (fun stored => Text.same stored name) (fun _ => spec.name) names) ↔
      column.name = spec.name ∧
        if Text.same name spec.name then spec.name ∈ names else name ∈ names := by
  rw [changeFirst_same differ] at held ⊢
  rw [changeStatements, replay?_modifyColumn exact]
  by_cases own : column.name = spec.name
  · rw [own, eq_self, true_and]
    cases agrees : Text.same name spec.name with
    | true =>
        rw [if_pos rfl, if_pos rfl]
        exact redefined_iff differ agrees
    | false =>
        rw [if_neg Bool.false_ne_true, if_neg Bool.false_ne_true]
        exact renamed_iff differ
  · -- the column is another one, which the change leaves alone
    obtain ⟨stored, member, kept⟩ := List.mem_map.mp held
    split at kept
    · exact absurd kept.symm own
    · next apart =>
        subst kept
        have apart : Text.same name column.name = false := by
          rw [Text.same_comm]
          simpa using apart
        rw [if_neg (by simp [apart])]
        exact iff_of_false (renamed_ne differ own) fun told => own told.1

end ColumnStep

/-! ## The columns after a change -/

theorem names_eraseP (columns : List Column) (name : String) :
    (columns.eraseP fun column => Text.same column.name name).map (fun column => column.name) =
      (columns.map fun column => column.name).eraseP fun stored => Text.same stored name := by
  rw [List.eraseP_map]
  rfl

theorem names_changeFirst (columns : List Column) (name : String) (new : Column) :
    (changeFirst (fun column => Text.same column.name name) (fun _ => new) columns).map
        (fun column => column.name) =
      changeFirst (fun stored => Text.same stored name) (fun _ => new.name)
        (columns.map fun column => column.name) := by
  induction columns with
  | nil => rfl
  | cons first rest ih =>
      rw [changeFirst, List.map_cons, changeFirst]
      split
      · rfl
      · rw [List.map_cons, ih]

/-- What a change that succeeds does to the columns of its table.  The columns that are left after
one is dropped keep their names; what relationships make of them may change. -/
theorem Workspace.Step.columns_alterTable
    {before after : Workspace} {id : TableId} {change : ColumnChange} {table : Table}
    (step : before.Step (.alterTable id change) after)
    (found : before.schema.table? id = some table) :
    ∃ changed, after.schema.table? id = some changed ∧
      match change with
      | .add spec =>
          changed.columns = table.columns ++ [{ spec with id := { number := before.nextId } }]
      | .drop name =>
          changed.columnNames = table.columnNames.eraseP fun stored => Text.same stored name
      | .modify name spec => ∃ column, table.columnNamed? name = some column ∧
          changed.columns = changeFirst (fun column => Text.same column.name name)
            (fun _ => { spec with id := column.id, isForeignKey := column.isForeignKey })
            table.columns := by
  have changeTable (change : Table → Table) (keepsId : ∀ old, (change old).id = old.id) :
      (before.schema.changeTable id change).table? id = some (change table) := by
    rw [Schema.table?_changeTable keepsId, found, Option.map_some]
  cases step with
  | addColumn spec _ =>
      refine ⟨_, changeTable _ ?_, ?_⟩
      · exact fun _ => rfl
      · rfl
  | dropColumn _ _ =>
      refine ⟨_, List.find?_map.trans (congrArg _ (changeTable _ ?_)), ?_⟩
      · exact fun _ => rfl
      · exact List.map_map.trans (names_eraseP _ _)
  | modifyColumn spec foundAgain named =>
      cases found.symm.trans foundAgain
      dsimp only [Workspace.changed]
      split
      · exact ⟨_, changeTable _ fun _ => rfl, _, named, rfl⟩
      · exact ⟨_, changeTable _ fun _ => rfl, _, named, rfl⟩

theorem Workspace.Step.names_alterTable
    {before after : Workspace} {id : TableId} {change : ColumnChange} {table changed : Table}
    (step : before.Step (.alterTable id change) after)
    (found : before.schema.table? id = some table)
    (foundLater : after.schema.table? id = some changed) :
    changed.columnNames = change.namesAfter table.columnNames := by
  obtain ⟨_, foundAgain, columns⟩ := step.columns_alterTable found
  cases foundLater.symm.trans foundAgain
  cases change with
  | add spec =>
      rw [Table.columnNames, columns]
      exact List.map_append
  | drop name => exact columns
  | modify name spec =>
      obtain ⟨column, _, columns⟩ := columns
      rw [Table.columnNames, columns]
      exact names_changeFirst _ _ _

/-- A change answers with the identity of the column that it adds, drops or redefines. -/
theorem Edit.answer_of_alterTable
    {workspace after : Workspace} {id : TableId} {change : ColumnChange} {columnId : ColumnId}
    {table : Table} (found : workspace.schema.table? id = some table)
    (altered : (alterTable id change).run workspace = (.ok columnId, after)) :
    match change with
    | .add _ => columnId = { number := workspace.nextId }
    | .drop name | .modify name _ =>
        ∃ column, table.columnNamed? name = some column ∧ columnId = column.id := by
  cases change with
  | add spec =>
      simp only [alterTable, addColumn, run_bind, run_current, found] at altered
      cases altered
      rfl
  | drop name =>
      simp only [alterTable, dropColumn, run_bind, run_current, found] at altered
      cases named : table.columnNamed? name with
      | none =>
          rw [named] at altered
          cases altered
      | some column =>
          rw [named] at altered
          cases altered
          exact ⟨column, named, rfl⟩
  | modify name spec =>
      simp only [alterTable, modifyColumn, run_bind, run_current, found] at altered
      cases named : table.columnNamed? name with
      | none =>
          rw [named] at altered
          cases altered
      | some column =>
          rw [named] at altered
          cases altered
          exact ⟨column, named, rfl⟩

theorem Edit.step_of_alterTable
    {workspace after : Workspace} {id : TableId} {change : ColumnChange} {columnId : ColumnId}
    (altered : (alterTable id change).run workspace = (.ok columnId, after)) :
    workspace.Step (.alterTable id change) after := by
  have ran : (perform (.alterTable id change)).run workspace = (.ok (.id columnId), after) := by
    rw [perform, run_bind, altered]
    rfl
  rcases alterTable_cases id change workspace with
    ⟨error, failed⟩ | ⟨answer, later, succeeded, step⟩
  · cases ran.symm.trans failed
  · cases ran.symm.trans succeeded
    exact step

/-! ## What the database is told -/

namespace Session

section

variable {session later : Session} {backend : Backend} {id : TableId} {table changed : Table}
variable {change : ColumnChange} {columnId : ColumnId}
variable (found : session.schema.table? id = some table)
variable (altered : (SessionM.alterTable id change).run session = (.ok columnId, later))

include altered

/-- A change that succeeds tells the database, if there is one, about itself. -/
theorem cases_of_alterTable :
    (Edit.alterTable id change).run session.workspace = (.ok columnId, later.workspace) ∧
      later.backend = session.backend.map fun backend => runAll backend
        (match session.schema.table? id with
          | none => []
          | some table =>
              SessionM.changeStatements session.mirrorDialect table.name change
                ((later.schema.table? id).bind fun table => table.column? columnId)) := by
  rw [SessionM.alterTable, SessionM.run_carryChecked] at altered
  cases ran : (Edit.alterTable id change).run session.workspace with
  | mk result after =>
      rw [ran] at altered
      cases result with
      | error error => cases altered
      | ok answer =>
          cases altered
          rw [finished_workspace, finished_backend, Session.schema, Session.schema,
            finished_workspace]
          exact ⟨rfl, rfl⟩

include found

/-- Where the identities of the columns differ and the next one is none of them, the column that a
change answers with has the name that the change gives. -/
theorem answered_name
    (distinct : (table.columns.map fun column => column.id).Nodup)
    (fresh : ∀ column ∈ table.columns, column.id.number < session.workspace.nextId)
    (foundLater : later.schema.table? id = some changed)
    {new : String} (gives : change.newName? = some new) :
    ((changed.column? columnId).map fun column => column.name) = some new := by
  have ran := (cases_of_alterTable altered).1
  have answer := Edit.answer_of_alterTable found ran
  obtain ⟨_, foundAgain, columns⟩ := (Edit.step_of_alterTable ran).columns_alterTable found
  cases foundLater.symm.trans foundAgain
  cases change with
  | add spec =>
      cases gives
      have unused : table.columns.find? (fun column =>
          column.id == ({ number := session.workspace.nextId } : ColumnId)) = none := by
        rw [List.find?_eq_none]
        intro column member same
        have bounded := fresh column member
        rw [eq_of_beq same] at bounded
        exact Nat.lt_irrefl _ bounded
      rw [answer, Table.column?, columns, List.find?_append, unused]
      simp
  | drop name => cases gives
  | modify name spec =>
      cases gives
      obtain ⟨column, named, rfl⟩ := answer
      obtain ⟨_, namedAgain, columns⟩ := columns
      cases named.symm.trans namedAgain
      let redefined : Column := { spec with id := column.id, isForeignKey := column.isForeignKey }
      have keepsIds : changed.columns.map (fun column => column.id) =
          table.columns.map fun column => column.id := by
        rw [columns]
        apply map_changeFirst
        intro old meant
        cases named.symm.trans meant
        rfl
      have member : redefined ∈ changed.columns := by
        rw [columns]
        exact change_mem_changeFirst named fun _ => redefined
      have held : changed.column? column.id = some redefined :=
        (find?_key_eq_some_iff (keepsIds ▸ distinct)).mpr ⟨member, rfl⟩
      rw [held]
      rfl

/-- Replayed on the exact names of the columns, what the database is told of a change gives the
names after the change exactly if the change is spelled as the names are, and the column that it
answers with has the name that it gives. -/
theorem mirrored_columns_replay_iff
    (attached : session.backend = some backend)
    (exact : session.mirrorDialect = .postgreSql ∨ session.mirrorDialect = .oracle)
    (differ : table.columns.Pairwise fun left right => Text.same left.name right.name = false) :
    ∃ told changed statements,
      later.backend = some told ∧ told.journal = backend.journal ++ statements.map Request.run ∧
        later.schema.table? id = some changed ∧
          (ColumnStep.replay? table.name table.columnNames statements = some changed.columnNames ↔
            change.IsSpelled table.columnNames ∧ ∀ new, change.newName? = some new →
              ((changed.column? columnId).map fun column => column.name) = some new) := by
  obtain ⟨ran, told⟩ := cases_of_alterTable altered
  have step := Edit.step_of_alterTable ran
  have answer := Edit.answer_of_alterTable found ran
  obtain ⟨changed, foundLater, columns⟩ := step.columns_alterTable found
  have names := step.names_alterTable found foundLater
  have tellApart : table.columnNames.Pairwise fun left right => Text.same left right = false :=
    List.pairwise_map.mpr differ
  change later.schema.table? id = some changed at foundLater
  rw [attached, found, foundLater] at told
  refine ⟨_, changed, _, told, journal_runAll _ _, foundLater, ?_⟩
  rw [names]
  cases change with
  | add spec =>
      refine (ColumnStep.replay?_add_iff exact table.name _ spec _).trans ?_
      simp [ColumnChange.IsSpelled, ColumnChange.newName?]
  | drop name =>
      refine (ColumnStep.replay?_drop_iff exact tellApart table.name name _).trans ?_
      simp [ColumnChange.IsSpelled, ColumnChange.newName?]
  | modify name spec =>
      obtain ⟨column, named, rfl⟩ := answer
      obtain ⟨_, namedAgain, columns⟩ := columns
      cases named.symm.trans namedAgain
      have there : (changed.column? column.id).isSome := by
        rw [Table.column?, columns, List.find?_isSome]
        exact ⟨_, change_mem_changeFirst named _, beq_self_eq_true _⟩
      obtain ⟨redefined, held⟩ := Option.isSome_iff_exists.mp there
      have listed : redefined.name ∈ changed.columnNames :=
        List.mem_map_of_mem (Schema.mem_of_column? held).1
      rw [names] at listed
      rw [Option.bind_some, held]
      refine (ColumnStep.replay?_modify_iff exact tellApart table.name name spec listed).trans ?_
      rw [and_comm]
      simp only [ColumnChange.IsSpelled, ColumnChange.newName?, Option.map_some, Option.some.injEq,
        forall_eq']

end

/-- A column `Email` is called by its exact name and renamed. -/
theorem mirrored_columns_replay_iff_users :
    let start := { Session.ofConfig {} 0 default with
      backend := some { respond := fun _ _ => .ok default }
      mirrorDialect := .oracle }
    let users : TableSpec :=
      { name := "users", columns := [{ name := "Email", dataType := "TEXT" }] }
    let session := ((SessionM.addTable users).run start).2
    let table := start.workspace.newTable users
    let change := ColumnChange.modify "Email" { name := "address", dataType := "TEXT" }
    let ran := (SessionM.alterTable table.id change).run session
    session.schema.table? table.id = some table ∧ ran.1 = .ok { number := 0 } ∧
      ∃ backend told changed statements,
        session.backend = some backend ∧ ran.2.backend = some told ∧
          told.journal = backend.journal ++ statements.map Request.run ∧
            ran.2.schema.table? table.id = some changed ∧
              ColumnStep.replay? table.name table.columnNames statements =
                some changed.columnNames := by
  intro start users session table change ran
  have found : session.schema.table? table.id = some table := by
    decide +kernel
  have answered : ran.1 = .ok { number := 0 } := by
    decide +kernel
  have altered : (SessionM.alterTable table.id change).run session = (.ok { number := 0 }, ran.2) :=
    Prod.ext answered rfl
  have connected : session.backend.isSome = true := by
    decide +kernel
  obtain ⟨backend, attached⟩ := Option.isSome_iff_exists.mp connected
  have differ : table.columns.Pairwise fun left right =>
      Text.same left.name right.name = false := by
    decide +kernel
  obtain ⟨told, changed, statements, toldLater, journal, foundLater, replays⟩ :=
    mirrored_columns_replay_iff found altered attached (.inr rfl) differ
  refine ⟨found, answered, backend, told, changed, statements, attached, toldLater, journal,
    foundLater, replays.mpr ⟨?_, ?_⟩⟩
  · decide +kernel
  · intro new gives
    apply answered_name found altered _ _ foundLater gives
    · decide +kernel
    · decide +kernel

/-- A column `Email` that is dropped as `email` is to be dropped under a name that no column has. -/
theorem mirrored_drop_refused_users :
    let start := { Session.ofConfig {} 0 default with
      backend := some { respond := fun _ _ => .ok default }
      mirrorDialect := .postgreSql }
    let users : TableSpec :=
      { name := "users", columns := [{ name := "Email", dataType := "TEXT" }] }
    let session := ((SessionM.addTable users).run start).2
    let table := start.workspace.newTable users
    let ran := (SessionM.alterTable table.id (.drop "email")).run session
    let statements := [Ddl.dropColumn .postgreSql "users" "email"]
    session.schema.table? table.id = some table ∧ ran.1 = .ok { number := 0 } ∧
      ran.2.backend.map Backend.journal =
        session.backend.map (fun backend => backend.journal ++ statements.map Request.run) ∧
          (ran.2.schema.table? table.id).map Table.columnNames = some [] ∧
            ColumnStep.replay? table.name table.columnNames statements = none := by
  decide +kernel

end Session

end SchemaDesign
