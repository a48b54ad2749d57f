import SchemaDesign.Proofs.Execution.SingleSteps
import SchemaDesign.Proofs.Execution.Soundness
import SchemaDesign.Proofs.Schema.IndexNames

/-!
# Indexes that statements add

A key passes over the names of no column, and so does the key of several columns of a new table,
which becomes an index.  An index, and a unique key of several columns that is given to a table that
exists, take over what they list.  Where these list columns that exist, every entry of an index
names a column after each statement.
-/

namespace SchemaDesign

open Sql (AlterAction CreateTable Statement StatementSource TableConstraint)

/-! ## What is listed -/

/-- The entries that a constraint brings into an index of a table without looking for columns. -/
def Sql.TableConstraint.rawEntries : TableConstraint → List String
  | .index _ columns => columns
  | .unique _ columns => if 1 < columns.length then columns else []
  | _ => []

/-- The entries that a constraint of a new table brings into an index without looking for
columns. -/
def Sql.TableConstraint.rawEntriesOfNew : TableConstraint → List String
  | .index _ columns => columns
  | _ => []

/-- The entries that a change brings into an index of the table without looking for columns. -/
def Sql.AlterAction.rawEntries : AlterAction → List String
  | .addConstraint constraint => constraint.rawEntries
  | _ => []

namespace Execution

/-- Each change of a table, where it is made, brings no entry into an index that names no column. -/
def ListNames (id : TableId) : String → List AlterAction → Session → Prop
  | _, [], _ => True
  | tableName, action :: actions, session =>
      let made := (perform id tableName action).run.run session
      (∀ entry ∈ action.rawEntries, session.schema.Names id entry) ∧
        ∀ effect ∈ made.1.toOption, ListNames id (effect.newName.getD tableName) actions made.2

instance decidableListNames (id : TableId) :
    ∀ tableName actions session, Decidable (ListNames id tableName actions session)
  | _, [], _ => .isTrue trivial
  | tableName, action :: actions, session =>
      have (effect : ActionEffect) := decidableListNames id (effect.newName.getD tableName) actions
        ((perform id tableName action).run.run session).2
      instDecidableAnd

end Execution

/-- A statement that is carried out in a session brings no entry into an index that names no
column. -/
def Sql.Statement.ListsNames (session : Session) : Statement → Prop
  | .createTable definition =>
      session.schema.hasTable definition.name = false →
        ∀ constraint ∈ definition.constraints, ∀ entry ∈ constraint.rawEntriesOfNew,
          ∃ column ∈ definition.columns, Text.same column.name entry = true
  | .alterTable name actions =>
      ∀ id ∈ session.schema.called? name, Execution.ListNames id name actions session
  | _ => True

instance (session : Session) : ∀ statement, Decidable (Statement.ListsNames session statement)
  | .createTable definition =>
      inferInstanceAs (Decidable (session.schema.hasTable definition.name = false →
        ∀ constraint ∈ definition.constraints, ∀ entry ∈ constraint.rawEntriesOfNew,
          ∃ column ∈ definition.columns, Text.same column.name entry = true))
  | .alterTable name actions =>
      inferInstanceAs (Decidable (∀ id ∈ session.schema.called? name,
        Execution.ListNames id name actions session))
  | .dropTable _ _ | .passthrough => .isTrue trivial

/-- Each of some statements, when its turn comes, brings no entry into an index that names no
column. -/
def Session.AllListNames (session : Session) : List StatementSource → Prop
  | [] => True
  | source :: sources =>
      (∀ statement ∈ (Statement.ofText source.text).toOption, statement.ListsNames session) ∧
        ((SessionM.executeStatement source).run session).2.AllListNames sources

instance decidableAllListNames :
    ∀ session sources, Decidable (Session.AllListNames session sources)
  | _, [] => .isTrue trivial
  | session, source :: sources =>
      have := decidableAllListNames ((SessionM.executeStatement source).run session).2 sources
      instDecidableAnd

namespace Execution

/-! ## Constraints -/

/-- Every entry of an index names a column, and a table has columns of some names. -/
structure HasNames (id : TableId) (known : List String) (session : Session) : Prop where
  indexes : session.schema.IndexesNamed
  names : ∀ entry ∈ known, session.schema.Names id entry

section

variable {id : TableId} {known : List String}

theorem HasNames.perform
    {session : Session} (has : HasNames id known session) (command : Command)
    (lists : command.ListsNames session.schema) (stays : command.KeepsNames) :
    HasNames id known ((SessionM.perform command).run session).2 := by
  rcases session.perform_workspace command with unchanged | step
  · rw [unchanged]
    exact has
  · exact ⟨Workspace.indexesNamed_step step has.indexes lists,
      fun entry member => step.keeps_names stays (has.names entry member)⟩

theorem hasNames_addIndex
    (name : String) {entries : List String} (isUnique : Bool)
    (listed : ∀ entry ∈ entries, ∃ name ∈ known, Text.same name entry = true) :
    Keeps (HasNames id known) (addIndex id name entries isUnique) := by
  apply Keeps.always
  intro session has
  apply has.perform (.addIndex { name, table := id, columns := entries, isUnique })
  · intro entry member
    obtain ⟨name, nameMember, same⟩ := listed entry member
    exact (has.names name nameMember).of_same same
  · trivial

theorem hasNames_linkForeignKey (tableName : String) (key : ForeignKey) :
    Keeps (HasNames id known) (linkForeignKey id tableName key) := by
  apply keeps_linkForeignKey
  intro spec session has
  exact has.perform (.addRelationship spec) trivial trivial

theorem hasNames_addExtras (tableName : String) (column : Sql.ColumnDef) :
    Keeps (HasNames id known) (addExtras id tableName column) := by
  apply keeps_extras
  · intro spec session has
    exact has.perform (.addRelationship spec) trivial trivial
  · intro spec session has
    exact has.perform (.addConstraint spec) trivial trivial

theorem hasNames_markColumns (key : Key) (columns : List Column) :
    Keeps (HasNames id known) (markColumns id key columns) := by
  apply Keeps.forM
  intro column _
  change Keeps _ (if key.mark column.toColumnSpec ≠ column.toColumnSpec then _ else _)
  split
  · apply Keeps.discard
    apply Keeps.attempt
    intro session has
    let marked := key.mark column.toColumnSpec
    apply has.perform (.alterTable id (.modify column.name marked)) trivial
    change Text.same (key.mark column.toColumnSpec).name column.name = true
    rw [key.mark_name, Text.same_refl]
  · exact .pure _

/-- A key brings in only what names a column of the table. -/
theorem hasNames_addKey (tableName : String) (listed : Key) :
    Keeps (HasNames id known) (addKey id tableName listed) := by
  apply Leads.current_bind
  intro session _
  cases found : session.schema.table? id with
  | none => exact Leads.throw fun _ holds => holds.1
  | some table =>
      let columns := table.columns.map fun column => column.toColumnSpec
      let key := listed.restrict columns
      have marks : Keeps (HasNames id known) (do
          markColumns id key table.columns
          return listed.unknownWarnings tableName columns ++ key.compositeWarnings tableName) := by
        apply Keeps.bind (hasNames_markColumns key table.columns)
        intro _
        exact .pure _
      have named : ∀ entry ∈ key.entries, session.schema.Names id entry := by
        intro entry member
        have meant : Key.names columns entry = true := (List.mem_filter.mp member).2
        obtain ⟨spec, specMember, same⟩ := List.any_eq_true.mp meant
        obtain ⟨column, columnMember, rfl⟩ := List.mem_map.mp specMember
        obtain ⟨tableMember, identity⟩ := Schema.mem_of_table? found
        exact ⟨table, tableMember, identity, column, columnMember, same⟩
      change Leads _ (if 2 ≤ key.entries.length then _ else _) _ _
      split
      · let index : IndexSpec :=
          { name := key.indexName tableName, table := id, columns := key.entries, isUnique := true }
        have adds : Leads
            (fun later => HasNames id known later ∧ later.schema = session.schema)
            (addIndex id index.name index.columns true) (fun _ => HasNames id known)
            (HasNames id known) := by
          apply Leads.always
          rintro later ⟨has, same⟩
          exact has.perform (.addIndex index) (same ▸ named) trivial
        exact Leads.bind adds fun _ => marks
      · exact Leads.strengthen marks fun _ holds => holds.1

theorem hasNames_addConstraint
    (tableName : String) {constraint : TableConstraint}
    (listed : ∀ entry ∈ constraint.rawEntries, ∃ name ∈ known, Text.same name entry = true) :
    Keeps (HasNames id known) (addConstraint id tableName constraint) := by
  cases constraint with
  | primaryKey names => exact hasNames_addKey tableName _
  | unique name names =>
      change Keeps _ (if 1 < names.length then _ else _)
      split
      · next several =>
          rw [TableConstraint.rawEntries, if_pos several] at listed
          apply Keeps.bind (hasNames_addIndex _ true listed)
          intro _
          exact .pure _
      · exact hasNames_addKey tableName _
  | index name names =>
      apply Keeps.bind (hasNames_addIndex _ false listed)
      intro _
      exact .pure _
  | check name expression =>
      apply keeps_check
      intro spec session has
      exact has.perform (.addConstraint spec) trivial trivial
  | foreignKey name names references => exact hasNames_linkForeignKey tableName _

end

/-! ## Changes of a table -/

/-- Every entry of an index names a column. -/
def IndexesNamed (session : Session) : Prop :=
  session.schema.IndexesNamed

theorem keeps_indexesNamed
    (command : Command) (lists : ∀ schema, command.ListsNames schema) :
    (SessionM.perform command).Keeps IndexesNamed := by
  intro session named
  rcases session.perform_workspace command with unchanged | step
  · rw [unchanged]
    exact named
  · exact Workspace.indexesNamed_step step named (lists _)

section

variable {id : TableId}

/-- What names a table has when a step begins does not matter after it. -/
theorem indexesNamed_of_hasNames
    {α : Type} {step : Execution α} {known : List String} {before : Session → Prop}
    (keeps : Keeps (HasNames id known) step)
    (start : ∀ session, before session → HasNames id known session) :
    Leads before step (fun _ => IndexesNamed) IndexesNamed := by
  apply Leads.strengthen _ start
  exact keeps.weaken (fun _ _ has => has.indexes) fun _ has => has.indexes

theorem indexesNamed_alterTable_column (change : ColumnChange) :
    Keeps IndexesNamed (attempt (SessionM.alterTable id change)) := by
  apply Keeps.attempt
  exact keeps_indexesNamed (.alterTable id change) fun _ => trivial

theorem indexesNamed_perform (tableName : String) (action : AlterAction) :
    Leads
      (fun session =>
        IndexesNamed session ∧ ∀ entry ∈ action.rawEntries, session.schema.Names id entry)
      (perform id tableName action) (fun _ => IndexesNamed) IndexesNamed := by
  cases action with
  | addConstraint constraint =>
      have adds : Keeps (HasNames id constraint.rawEntries)
          (addConstraint id tableName constraint) :=
        hasNames_addConstraint tableName fun entry member => ⟨entry, member, Text.same_refl entry⟩
      apply Leads.bind (indexesNamed_of_hasNames adds fun _ both => ⟨both.1, both.2⟩)
      intro warnings
      exact .pure fun _ named => named
  | addColumn column =>
      apply Leads.strengthen _ fun _ both => both.1
      apply Keeps.bind (.discard (indexesNamed_alterTable_column _))
      intro _
      have extras : Keeps (HasNames id []) (addExtras id tableName column) :=
        hasNames_addExtras tableName column
      apply Leads.bind (indexesNamed_of_hasNames extras fun _ named => ⟨named, nofun⟩)
      intro warnings
      exact Keeps.pure _
  | dropColumn name =>
      apply Leads.strengthen _ fun _ both => both.1
      apply Keeps.bind (.discard (indexesNamed_alterTable_column _))
      intro _
      exact .pure _
  | modifyColumn column =>
      apply Leads.strengthen _ fun _ both => both.1
      apply Keeps.bind (.discard (indexesNamed_alterTable_column _))
      intro _
      exact .pure _
  | renameColumn old new =>
      apply Leads.current_bind
      intro session _
      apply Leads.strengthen _ fun _ both => both.1.1
      cases (session.schema.table? id).bind fun table => table.columnNamed? old with
      | none => exact Keeps.throw _
      | some column =>
          apply Keeps.bind (.discard (indexesNamed_alterTable_column _))
          intro _
          exact .pure _
  | renameTo name =>
      apply Leads.current_bind
      intro session _
      apply Leads.strengthen _ fun _ both => both.1.1
      have renames : Keeps IndexesNamed (do
          attempt (SessionM.renameTable id name)
          return ({ change := "renamed to '" ++ name ++ "'", newName := some name } :
            ActionEffect)) := by
        apply Keeps.bind
        · apply Keeps.attempt
          exact keeps_indexesNamed (.renameTable id name) fun _ => trivial
        · intro _
          exact .pure _
      change Keeps IndexesNamed (if session.schema.hasTable name then _ else _)
      split
      · exact Leads.throw_bind fun _ named => named
      · exact renames

theorem indexesNamed_performAll (tableName : String) (actions : List AlterAction) :
    Leads (fun session => IndexesNamed session ∧ ListNames id tableName actions session)
      (performAll id tableName actions) (fun _ => IndexesNamed) IndexesNamed := by
  induction actions generalizing tableName with
  | nil => exact .pure fun _ both => both.1
  | cons action actions ih =>
      rintro session ⟨named, lists, listRest⟩
      have led := indexesNamed_perform tableName action session ⟨named, lists⟩
      rw [performAll, run_bind]
      cases ran : (perform id tableName action).run.run session with
      | mk result later =>
          simp only [ran] at led listRest
          cases result with
          | error error => exact led
          | ok effect =>
              have rest : Leads
                  (fun session => IndexesNamed session ∧
                    ListNames id (effect.newName.getD tableName) actions session)
                  (do
                    let effects ← performAll id (effect.newName.getD tableName) actions
                    return effect :: effects)
                  (fun _ => IndexesNamed) IndexesNamed := by
                apply Leads.bind (ih _)
                intro effects
                exact .pure fun _ named => named
              exact rest later ⟨led, listRest effect rfl⟩

theorem indexesNamed_alterTable (name : String) (actions : List AlterAction) :
    Leads
      (fun session =>
        IndexesNamed session ∧ (Statement.alterTable name actions).ListsNames session)
      (alterTable name actions) (fun _ => IndexesNamed) IndexesNamed := by
  apply Leads.current_bind
  intro session _
  cases found : session.schema.tableNamed? name with
  | none => exact Leads.throw fun _ known => known.1.1
  | some table =>
      have called (later : Session) (same : later.schema = session.schema) :
          later.schema.called? name = some table.id := by
        rw [same, Schema.called?, found]
        rfl
      apply Leads.bind
      · apply (indexesNamed_performAll name actions).strengthen
        rintro later ⟨⟨named, lists⟩, same⟩
        exact ⟨named, lists table.id (called later same)⟩
      · intro effects
        exact .pure fun _ named => named

end

/-! ## Tables -/

/-- The columns of a plan keep their names, and what waits to become an index of them lists some. -/
structure TablePlan.ListsNames (names : List String) (plan : TablePlan) : Prop where
  columns : (plan.columns.map fun column => column.name) = names
  deferred : ∀ constraint ∈ plan.deferred, ∀ entry ∈ constraint.rawEntries,
    ∃ name ∈ names, Text.same name entry = true

theorem TablePlan.ListsNames.constrain
    {names : List String} {plan : TablePlan} (lists : plan.ListsNames names) (tableName : String)
    {constraint : TableConstraint}
    (listed : ∀ entry ∈ constraint.rawEntriesOfNew, ∃ name ∈ names, Text.same name entry = true) :
    (plan.constrain tableName constraint).ListsNames names := by
  refine ⟨(names_constrain tableName plan constraint).trans lists.columns, ?_⟩
  intro waiting member
  rw [TablePlan.constrain] at member
  split at member
  · next other =>
      rcases List.mem_append.mp member with before | new
      · exact lists.deferred waiting before
      · rw [List.mem_singleton.mp new]
        cases constraint with
        | primaryKey columns => cases other
        | unique name columns => cases other
        | index name columns => exact listed
        | check name expression => exact fun _ entry => absurd entry List.not_mem_nil
        | foreignKey name columns references => exact fun _ entry => absurd entry List.not_mem_nil
  · next key _ =>
      rcases List.mem_append.mp member with before | new
      · exact lists.deferred waiting before
      · -- A key of several columns waits with the entries that name columns of the plan.
        rw [Option.mem_toList, Key.index?] at new
        split at new
        · cases new
        · next several =>
            cases new
            intro entry entryMember
            rw [TableConstraint.rawEntries, if_pos (by omega)] at entryMember
            have meant := (List.mem_filter.mp entryMember).2
            obtain ⟨column, columnMember, same⟩ := List.any_eq_true.mp meant
            exact ⟨column.name, lists.columns ▸ List.mem_map_of_mem columnMember, same⟩

theorem TablePlan.ListsNames.foldl
    {names : List String} {plan : TablePlan} (lists : plan.ListsNames names) (tableName : String)
    {constraints : List TableConstraint}
    (listed : ∀ constraint ∈ constraints, ∀ entry ∈ constraint.rawEntriesOfNew,
      ∃ name ∈ names, Text.same name entry = true) :
    (constraints.foldl (TablePlan.constrain tableName) plan).ListsNames names := by
  induction constraints generalizing plan with
  | nil => exact lists
  | cons constraint constraints ih =>
      apply ih (lists.constrain tableName (listed constraint List.mem_cons_self))
      intro other member
      exact listed other (List.mem_cons_of_mem _ member)

/-- A new table has columns of the names that its definition gives them. -/
theorem hasNames_addTable (spec : TableSpec) :
    Leads IndexesNamed (always (SessionM.addTable spec))
      (fun id => HasNames id (spec.columns.map fun column => column.name)) IndexesNamed := by
  apply Leads.always
  intro session named
  constructor
  · exact keeps_indexesNamed (.addTable spec) (fun _ => trivial) session named
  · intro entry member
    rw [SessionM.addTable, SessionM.run_carry, Edit.run_addTable, Session.schema,
      Session.finished_workspace]
    refine ⟨session.workspace.newTable spec, ?_, rfl, ?_⟩
    · exact List.mem_append_right _ (List.mem_singleton.mpr rfl)
    · obtain ⟨column, columnMember, rfl⟩ := List.mem_map.mp member
      obtain ⟨numbered, numberedMember, rfl⟩ := exists_mem_numberedFrom columnMember
      exact ⟨numbered, numberedMember, Text.same_refl _⟩

theorem indexesNamed_createTable (definition : CreateTable) :
    Leads
      (fun session =>
        IndexesNamed session ∧ (Statement.createTable definition).ListsNames session)
      (createTable definition) (fun _ => IndexesNamed) IndexesNamed := by
  apply Leads.current_bind
  rintro session ⟨_, lists⟩
  refine Leads.strengthen (?_ : Keeps IndexesNamed _) fun _ known => known.1.1
  change Keeps _ (if session.schema.hasTable definition.name then _ else _)
  split
  · split
    · exact Leads.pure fun _ named => named
    · exact Leads.throw_bind fun _ named => named
  · next free =>
      let name := definition.name
      let names := (definition.columns.map columnOf).map fun column => column.name
      let start : TablePlan :=
        { columns := definition.columns.map columnOf, deferred := [], warnings := [] }
      let plan := definition.constraints.foldl (TablePlan.constrain name) start
      have new : session.schema.hasTable name = false := by simpa using free
      have startLists : start.ListsNames names := ⟨rfl, nofun⟩
      have planLists : plan.ListsNames names := by
        apply startLists.foldl
        intro constraint member entry entryMember
        obtain ⟨column, columnMember, same⟩ := lists new constraint member entry entryMember
        have known : column.name ∈ names :=
          List.mem_map_of_mem (f := fun column : ColumnSpec => column.name)
            (List.mem_map_of_mem (f := columnOf) columnMember)
        exact ⟨column.name, known, same⟩
      apply Leads.bind (hasNames_addTable { name, columns := plan.columns })
      intro id
      have fills : Keeps (HasNames id names) (do
          let extras ← definition.columns.mapM (addExtras id name)
          let others ← plan.deferred.mapM (addConstraint id name)
          let count := definition.columns.length
          return ({
            message := "Created table '" ++ name ++ "' with " ++ toString count ++ " column" ++
              (if count = 1 then "" else "s")
            affectedTables := [name]
            rowsAffected := some 0
            warnings := plan.warnings ++ extras.flatten ++ others.flatten } : Effect)) := by
        apply Keeps.bind
        · apply Keeps.mapM
          intro column _
          exact hasNames_addExtras name column
        · intro extras
          apply Keeps.bind
          · apply Keeps.mapM
            intro constraint member
            exact hasNames_addConstraint name (planLists.deferred constraint member)
          · intro others
            exact .pure _
      rw [planLists.columns]
      exact indexesNamed_of_hasNames fills fun _ has => has

theorem indexesNamed_dropTables (names : List String) (ifExists : Bool) :
    Keeps IndexesNamed (dropTables names ifExists) := by
  apply Keeps.bind
  · apply Keeps.mapM
    intro name _
    apply Leads.current_bind
    intro session _
    apply Leads.strengthen _ fun _ known => known.1
    cases session.schema.tableNamed? name with
    | none =>
        cases ifExists with
        | true => exact Keeps.pure _
        | false => exact Keeps.throw _
    | some table =>
        apply Keeps.bind
        · apply Keeps.discard
          apply Keeps.attempt
          exact keeps_indexesNamed (.removeTable table.id) fun _ => trivial
        · intro _
          exact .pure _
  · intro existed
    exact .pure _

theorem indexesNamed_apply (text : String) (statement : Statement) :
    Leads (fun session => IndexesNamed session ∧ statement.ListsNames session)
      (apply text statement) (fun _ => IndexesNamed) IndexesNamed := by
  cases statement with
  | createTable definition => exact indexesNamed_createTable definition
  | alterTable table actions => exact indexesNamed_alterTable table actions
  | dropTable tables ifExists =>
      exact Leads.strengthen (indexesNamed_dropTables tables ifExists) fun _ both => both.1
  | passthrough =>
      have forwards : Keeps IndexesNamed (forward text) := by
        apply keeps_forward
        apply SessionM.keeps_forward
        exact fun _ _ named => named
      exact Leads.strengthen forwards fun _ both => both.1

end Execution

/-! ## Scripts -/

namespace Session

variable {session : Session}

theorem indexesNamed_executeStatement
    {source : StatementSource} (named : session.schema.IndexesNamed)
    (lists : ∀ statement ∈ (Statement.ofText source.text).toOption,
      statement.ListsNames session) :
    ((SessionM.executeStatement source).run session).2.schema.IndexesNamed := by
  rw [Execution.run_executeStatement]
  cases read : Statement.ofText source.text with
  | error error =>
      rw [Execution.applyText_of_error read]
      exact named
  | ok statement =>
      have led := Execution.indexesNamed_apply source.text statement session
        ⟨named, lists statement (congrArg Except.toOption read)⟩
      rw [Execution.applyText_of_read read]
      cases ran : (Execution.apply source.text statement).run.run session with
      | mk result later =>
          rw [ran] at led
          cases result with
          | error error => exact led
          | ok effect => exact led

theorem indexesNamed_executed
    {sources : List StatementSource} (named : session.schema.IndexesNamed)
    (lists : session.AllListNames sources) {reached : List StatementSource}
    (begun : reached <+: sources) : (session.executed reached).schema.IndexesNamed := by
  induction sources generalizing session reached with
  | nil =>
      rw [List.prefix_nil.mp begun]
      exact named
  | cons source sources ih =>
      obtain ⟨listsFirst, listsRest⟩ := lists
      rcases List.prefix_cons_iff.mp begun with rfl | ⟨rest, rfl, begunRest⟩
      · exact named
      · exact ih (indexesNamed_executeStatement named listsFirst) listsRest begunRest

/-- To carry out scripts is to carry out all their statements. -/
theorem executedScripts_eq_executed (session : Session) (scripts : List String) :
    session.executedScripts scripts = session.executed (scripts.flatMap Sql.statements) := by
  induction scripts generalizing session with
  | nil => rfl
  | cons script scripts ih =>
      rw [List.flatMap_cons, executed, List.foldl_append]
      exact (ih _).trans (congrArg (executed · _) (execute_eq_executed session script))

/-- Scripts are carried out from an empty schema on.  If what their statements list in an index, or
in a unique key of several columns for a table that exists, names columns that the table has then,
every index of every schema that is reached belongs to a table with columns of its entries. -/
theorem index_entries_name_columns
    (empty : session.schema.IsEmpty) (scripts : List String) (script : String) (count : Nat)
    (lists : session.AllListNames ((scripts ++ [script]).flatMap Sql.statements)) :
    let reached := (session.executedScripts scripts).executed ((Sql.statements script).take count)
    ∀ index ∈ reached.schema.indexes, ∃ table, reached.schema.table? index.table = some table ∧
      ∀ entry ∈ index.columns, (table.columnNamed? entry).isSome := by
  intro reached index member
  have named : reached.schema.IndexesNamed := by
    let done := scripts.flatMap Sql.statements ++ (Sql.statements script).take count
    have begun : done <+: (scripts ++ [script]).flatMap Sql.statements := by
      rw [List.flatMap_append, List.flatMap_singleton]
      exact (List.prefix_append_right_inj _).mpr (List.take_prefix count _)
    have start : session.schema.IndexesNamed := by
      intro index member
      rw [empty.indexes] at member
      cases member
    have kept := indexesNamed_executed start lists begun
    rwa [executed, List.foldl_append, ← executed, ← executed, ← executedScripts_eq_executed] at kept
  have stands : reached.Stands := ((stands_of_isEmpty empty).executedScripts scripts).executed _
  have linked : reached.schema.Linked := stands.settled.linked
  obtain ⟨table, found⟩ := Option.isSome_iff_exists.mp (linked.indexTables index member)
  refine ⟨table, found, ?_⟩
  intro entry entryMember
  obtain ⟨owner, ownerMember, identity, held⟩ := named index member entry entryMember
  have same := (Schema.table?_eq_some_iff linked.tables).mpr ⟨ownerMember, identity⟩
  rw [found, Option.some.injEq] at same
  rw [Schema.columnNamed?_isSome_iff, same]
  exact held

/-- An index loses the entry of a column that is dropped. -/
theorem index_entries_name_columns_shop :
    let session : Session := .ofConfig {} 0 default
    let scripts : List String := ["CREATE TABLE users (id INT, INDEX (ID))"]
    let script : String := "ALTER TABLE users ADD age INT, ADD UNIQUE (id, Age), DROP COLUMN age"
    let reached := (session.executedScripts scripts).executed ((Sql.statements script).take 1)
    session.schema.IsEmpty ∧
      session.AllListNames ((scripts ++ [script]).flatMap Sql.statements) ∧
      ∀ index ∈ reached.schema.indexes, ∃ table, reached.schema.table? index.table = some table ∧
        ∀ entry ∈ index.columns, (table.columnNamed? entry).isSome := by
  intro session scripts script reached
  have empty : session.schema.IsEmpty := ⟨rfl, rfl, rfl, rfl⟩
  have lists : session.AllListNames ((scripts ++ [script]).flatMap Sql.statements) := by
    decide +kernel
  exact ⟨empty, lists, index_entries_name_columns empty scripts script 1 lists⟩

/-- An index of a new table, and a unique key of several columns that is given to a table that
exists, take over the name of no column, and nothing is said about it. -/
theorem index_entries_taken_over :
    let session : Session := .ofConfig {} 0 default
    let outcome (script : String) :=
      let ran := (SessionM.execute script).run session
      (ran.1.map fun report => (report.success, report.warnings),
        ran.2.schema.indexes.map fun index => index.columns, decide ran.2.schema.IndexesNamed)
    session.schema.IsEmpty ∧
      outcome "CREATE TABLE users (id INT, INDEX by_id (id, nope))" =
        ([(true, [])], [["id", "nope"]], false) ∧
      outcome "CREATE TABLE users (id INT); ALTER TABLE users ADD UNIQUE (id, nope)" =
        ([(true, []), (true, [])], [["id", "nope"]], false) := by
  refine ⟨⟨rfl, rfl, rfl, rfl⟩, ?_, ?_⟩
  all_goals decide +kernel

end Session

end SchemaDesign
