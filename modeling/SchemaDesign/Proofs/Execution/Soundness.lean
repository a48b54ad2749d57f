import SchemaDesign.Proofs.Execution.Keeps
import SchemaDesign.Proofs.Schema.Keyed
import SchemaDesign.Proofs.Session.Steps
import SchemaDesign.Proofs.Sql.Constraints
import SchemaDesign.Proofs.Validation.Integrity

/-!
# Statements keep a schema sound

Whatever its text is, a statement adds nothing dangling, no table under a name in use and no primary
key that may be null, and this holds of the schema wherever the statement stops.
-/

namespace SchemaDesign

open Sql (AlterAction CreateTable TableConstraint)

/-- A schema as statements leave it. -/
structure Schema.Sound (schema : Schema) : Prop extends schema.Linked, schema.Keyed

namespace Session

/-- A session whose schema is sound and whose identities to come are new. -/
structure Stands (session : Session) : Prop where
  settled : session.workspace.Settled
  keyed : session.schema.Keyed

/-- A session that stands and has a table of an identity. -/
def StandsWith (id : TableId) (session : Session) : Prop :=
  session.Stands ∧ id ∈ session.schema.tableIds

variable {session : Session}

theorem Stands.sound (stands : session.Stands) : session.schema.Sound :=
  { stands.settled.linked, stands.keyed with }

theorem Stands.perform
    (stands : session.Stands) (command : Command) (refers : command.Refers session.schema)
    (respects : command.Respects session.schema) :
    ((SessionM.perform command).run session).2.Stands := by
  rcases session.perform_workspace command with unchanged | step
  · rw [unchanged]
    exact stands
  · constructor
    · exact stands.settled.step step refers
    · exact Workspace.keyed_step stands.keyed step respects

theorem StandsWith.perform
    {id : TableId} (stands : session.StandsWith id) (command : Command)
    (stays : ∀ id, command ≠ .removeTable id)
    (refers : command.Refers session.schema) (respects : command.Respects session.schema) :
    ((SessionM.perform command).run session).2.StandsWith id := by
  refine ⟨stands.1.perform command refers respects, ?_⟩
  rcases session.perform_workspace command with unchanged | step
  · rw [unchanged]
    exact stands.2
  · exact step.keeps_table stays stands.2

/-- Adding a relationship takes no column away. -/
theorem holds_addRelationship
    {spec : RelationshipSpec} {table : TableId} {column : ColumnId}
    (holds : session.schema.Holds table column) :
    ((SessionM.perform (.addRelationship spec)).run session).2.schema.Holds table column := by
  rcases session.perform_workspace (.addRelationship spec) with unchanged | step
  · rw [unchanged]
    exact holds
  · exact step.keeps_holds holds

/-- What the database answers leaves the workspace as it is. -/
theorem Stands.with_backend (stands : session.Stands) (backend : Option Backend) :
    Stands { session with backend } :=
  ⟨stands.settled, stands.keyed⟩

end Session

namespace Execution

open Session (Stands StandsWith)

/-! ## Constraints -/

section

variable {id : TableId}

theorem stands_addIndex
    (name : String) {columns : List String} (isUnique : Bool) (nonempty : columns ≠ []) :
    Keeps (StandsWith id) (addIndex id name columns isUnique) := by
  apply Keeps.always
  intro session stands
  apply stands.perform (.addIndex { name, table := id, columns, isUnique })
  · intro other
    exact Command.noConfusion
  · exact ⟨stands.2, nonempty⟩
  · trivial

theorem stands_modify
    (name : String) {column : ColumnSpec} (key : column.KeyNotNull) :
    Keeps (StandsWith id) (attempt (SessionM.alterTable id (.modify name column))) := by
  apply Keeps.attempt
  intro session stands
  apply stands.perform (.alterTable id (.modify name column))
  · intro other
    exact Command.noConfusion
  · trivial
  · exact key

/-- The columns of a primary key that a key marks are never null. -/
theorem Key.mark_keyNotNull
    (key : Key) {column : ColumnSpec} (keyNotNull : column.KeyNotNull) :
    (key.mark column).KeyNotNull := by
  rw [Key.mark]
  split
  · intro primary
    simp only [Bool.or_eq_true, Bool.and_eq_true] at primary
    simp only [Bool.and_eq_false_iff]
    rcases primary with already | ⟨_, becomes⟩
    · exact .inl (keyNotNull already)
    · exact .inr (by simp [becomes])
  · exact keyNotNull

theorem Key.mark_isForeignKey (key : Key) (column : ColumnSpec) :
    (key.mark column).isForeignKey = column.isForeignKey := by
  rw [Key.mark]
  split
  · rfl
  · rfl

theorem stands_markColumns
    (key : Key) {columns : List Column} (keys : ∀ column ∈ columns, column.KeyNotNull) :
    Keeps (StandsWith id) (markColumns id key columns) := by
  apply Keeps.forM
  intro column member
  change Keeps _ (if key.mark column.toColumnSpec ≠ column.toColumnSpec then _ else _)
  split
  · apply Keeps.discard
    exact stands_modify column.name (key.mark_keyNotNull (keys column member))
  · exact .pure _

theorem stands_addKey (tableName : String) (listed : Key) :
    Keeps (StandsWith id) (addKey id tableName listed) := by
  apply Leads.current_bind
  intro session stands
  apply Leads.strengthen _ fun _ holds => holds.1
  cases found : session.schema.table? id with
  | none => exact Keeps.throw _
  | some table =>
      let columns := table.columns.map fun column => column.toColumnSpec
      let key := listed.restrict columns
      have keys : ∀ column ∈ table.columns, column.KeyNotNull :=
        stands.1.keyed.keys table (Schema.mem_of_table? found).1
      have marks : Keeps (StandsWith id) (do
          markColumns id key table.columns
          return listed.unknownWarnings tableName columns ++ key.compositeWarnings tableName) := by
        apply Keeps.bind (stands_markColumns key keys)
        intro _
        exact .pure _
      change Keeps _ (if 2 ≤ key.entries.length then _ else _)
      split
      · next several =>
          have nonempty : key.entries ≠ [] := by
            intro empty
            rw [empty] at several
            cases several
          apply Keeps.bind (stands_addIndex _ true nonempty)
          intro _
          exact marks
      · exact marks

theorem stands_addCheck
    (spec : ConstraintSpec) (owner : spec.table = id) {schema : Schema}
    (bears : ∀ column, spec.column = some column → schema.Holds id column) :
    Leads (fun session => session.StandsWith id ∧ session.schema = schema)
      (always (discard (SessionM.addConstraint spec))) (fun _ => StandsWith id)
      (StandsWith id) := by
  apply Leads.always
  rintro session ⟨stands, rfl⟩
  apply stands.perform (.addConstraint spec)
  · intro other
    exact Command.noConfusion
  · refine ⟨owner ▸ stands.2, ?_⟩
    intro column named
    exact owner ▸ bears column named
  · trivial

/-! ## Foreign keys -/

theorem targetColumns_subset {references : Sql.ForeignRef} {target : Table} {column : Column}
    (member : column ∈ (ForeignKey.targetColumns references target).1) :
    column ∈ target.columns := by
  rw [ForeignKey.targetColumns] at member
  split at member
  · rw [Option.mem_toList] at member
    exact List.mem_of_find?_eq_some member
  · obtain ⟨name, _, named⟩ := List.mem_filterMap.mp member
    exact (Schema.mem_of_columnNamed? named).1

/-- Pairs of a column's name and a column that exists become relationships between columns. -/
theorem pairLinks_join
    {schema : Schema} (key : ForeignKey) (tableName : String) {source target : Table}
    (sourceMember : source ∈ schema.tables) (targetMember : target ∈ schema.tables)
    {pairs : List (String × Column)} (held : ∀ pair ∈ pairs, pair.2 ∈ target.columns) :
    ∀ relationship ∈ (key.pairLinks tableName source target pairs).relationships,
      schema.Joins relationship := by
  induction pairs with
  | nil =>
      intro relationship member
      cases member
  | cons pair pairs ih =>
      have rest := ih fun other member => held other (List.mem_cons_of_mem _ member)
      rw [ForeignKey.pairLinks]
      split
      · exact rest
      · next sourceColumn named =>
          intro relationship member
          rcases List.mem_cons.mp member with rfl | member
          · refine ⟨⟨source, sourceMember, rfl, sourceColumn, ?_, rfl⟩,
              ⟨target, targetMember, rfl, pair.2, held pair List.mem_cons_self, rfl⟩⟩
            exact (Schema.mem_of_columnNamed? named).1
          · exact rest relationship member

theorem links_join
    {schema : Schema} (key : ForeignKey) (tableName : String) {source : Table}
    (member : source ∈ schema.tables) :
    ∀ relationship ∈ (key.links schema tableName source).relationships,
      schema.Joins relationship := by
  rw [ForeignKey.links]
  split
  · intro relationship none
    cases none
  · next target named =>
      apply pairLinks_join key tableName member (Schema.mem_of_tableNamed? named).1
      intro pair pairMember
      exact targetColumns_subset (List.of_mem_zip pairMember).2

theorem stands_linkForeignKey (tableName : String) (key : ForeignKey) :
    Keeps (StandsWith id) (linkForeignKey id tableName key) := by
  apply Leads.current_bind
  intro session _
  cases found : session.schema.table? id with
  | none => exact Leads.pure fun _ holds => holds.1
  | some source =>
      let links := key.links session.schema tableName source
      -- All relationships that are to be added keep joining columns while some are added.
      let joined (later : Session) : Prop :=
        later.StandsWith id ∧
          ∀ relationship ∈ links.relationships, later.schema.Joins relationship
      have adds : Keeps joined (links.relationships.forM fun relationship =>
          always (discard (SessionM.addRelationship relationship))) := by
        apply Keeps.forM
        intro relationship member
        apply Keeps.always
        rintro later ⟨stands, joins⟩
        constructor
        · apply stands.perform (.addRelationship relationship)
          · intro other
            exact Command.noConfusion
          · exact joins relationship member
          · trivial
        · intro other otherMember
          exact (joins other otherMember).mono fun _ _ => Session.holds_addRelationship
      have weakened : Leads joined (links.relationships.forM fun relationship =>
          always (discard (SessionM.addRelationship relationship)))
          (fun _ => StandsWith id) (StandsWith id) :=
        adds.weaken (fun _ _ holds => holds.1) fun _ holds => holds.1
      apply Leads.bind (weakened.strengthen _)
      · intro _
        exact Leads.pure fun _ holds => holds
      · rintro later ⟨stands, same⟩
        refine ⟨stands, ?_⟩
        rw [same]
        exact links_join key tableName (Schema.mem_of_table? found).1

theorem stands_addExtras (tableName : String) (column : Sql.ColumnDef) :
    Keeps (StandsWith id) (addExtras id tableName column) := by
  have links : Keeps (StandsWith id) (addExtras id tableName { column with check := none }) := by
    rw [addExtras]
    cases column.references with
    | none => exact .pure _
    | some references => exact stands_linkForeignKey tableName _
  rw [addExtras]
  cases column.check with
  | none => exact links
  | some expression =>
      apply Leads.current_bind
      intro session stands
      apply Leads.bind
      · apply stands_addCheck
        · rfl
        · intro columnId named
          obtain ⟨known, found, rfl⟩ := Option.map_eq_some_iff.mp named
          obtain ⟨table, tableFound, columnFound⟩ := Option.bind_eq_some_iff.mp found
          obtain ⟨member, identity⟩ := Schema.mem_of_table? tableFound
          have held := (Schema.mem_of_columnNamed? columnFound).1
          exact ⟨table, member, identity, known, held, rfl⟩
      · intro _
        exact links

theorem stands_addConstraint
    (tableName : String) {constraint : TableConstraint} (columns : constraint.HasColumns) :
    Keeps (StandsWith id) (addConstraint id tableName constraint) := by
  cases constraint with
  | primaryKey names => exact stands_addKey tableName _
  | unique name names =>
      change Keeps _ (if 1 < names.length then _ else _)
      split
      · next several =>
          have nonempty : names ≠ [] := by
            intro empty
            rw [empty] at several
            cases several
          apply Keeps.bind (stands_addIndex _ true nonempty)
          intro _
          exact .pure _
      · exact stands_addKey tableName _
  | index name names =>
      apply Keeps.bind (stands_addIndex _ false columns)
      intro _
      exact .pure _
  | check name expression =>
      apply Leads.current_bind
      intro session stands
      apply Leads.bind
      · apply stands_addCheck
        · rfl
        · intro columnId named
          cases named
      · intro _
        exact Keeps.pure _
  | foreignKey name names references => exact stands_linkForeignKey tableName _

/-! ## Changes of a table -/

theorem columnOf_keyNotNull (column : Sql.ColumnDef) : (columnOf column).KeyNotNull := by
  intro primary
  have isPrimary : column.primaryKey = true := primary
  simp [columnOf, isPrimary]

theorem stands_addColumn (tableName : String) (column : Sql.ColumnDef) :
    Keeps (StandsWith id) (perform id tableName (.addColumn column)) := by
  apply Keeps.bind
  · apply Keeps.discard
    apply Keeps.attempt
    intro session stands
    apply stands.perform (.alterTable id (.add (columnOf column)))
    · intro other
      exact Command.noConfusion
    · rfl
    · exact columnOf_keyNotNull column
  · intro _
    apply Keeps.bind (stands_addExtras tableName column)
    intro warnings
    exact .pure _

theorem stands_dropColumn (tableName name : String) :
    Keeps (StandsWith id) (perform id tableName (.dropColumn name)) := by
  apply Keeps.bind
  · apply Keeps.discard
    apply Keeps.attempt
    intro session stands
    apply stands.perform (.alterTable id (.drop name))
    · intro other
      exact Command.noConfusion
    · trivial
    · trivial
  · intro _
    exact .pure _

/-- A column that is renamed stays as free of nulls as its key demands. -/
theorem stands_renameColumn (tableName old new : String) :
    Keeps (StandsWith id) (perform id tableName (.renameColumn old new)) := by
  apply Leads.current_bind
  intro session stands
  apply Leads.strengthen _ fun _ holds => holds.1
  cases found : (session.schema.table? id).bind fun table => table.columnNamed? old with
  | none => exact Keeps.throw _
  | some column =>
      obtain ⟨table, tableFound, columnFound⟩ := Option.bind_eq_some_iff.mp found
      have key : column.KeyNotNull := stands.1.keyed.keys table
        (Schema.mem_of_table? tableFound).1 column (Schema.mem_of_columnNamed? columnFound).1
      have renamed : ColumnSpec.KeyNotNull { column.toColumnSpec with name := new } := key
      apply Keeps.bind (.discard (stands_modify old renamed))
      intro _
      exact .pure _

/-- A table is given a name only when no table has it. -/
theorem stands_renameTo (tableName name : String) :
    Keeps (StandsWith id) (perform id tableName (.renameTo name)) := by
  apply Leads.current_bind
  intro session stands
  have renames (free : session.schema.hasTable name = false) :
      Leads (fun later => later.StandsWith id ∧ later.schema = session.schema)
        (do
          attempt (SessionM.renameTable id name)
          return ({ change := "renamed to '" ++ name ++ "'", newName := some name } :
            ActionEffect))
        (fun _ => StandsWith id) (StandsWith id) := by
    apply Leads.bind
    · apply Leads.attempt
      rintro later ⟨laterStands, same⟩
      apply laterStands.perform (.renameTable id name)
      · intro other
        exact Command.noConfusion
      · trivial
      · change later.schema.hasTable name = false
        rw [same]
        exact free
    · intro _
      exact Leads.pure fun _ holds => holds
  change Leads _ (if session.schema.hasTable name then _ else _) _ _
  split
  · exact Leads.throw_bind fun _ holds => holds.1
  · next free => exact renames (by simpa using free)

theorem stands_perform (tableName : String) {action : AlterAction}
    (columns : ∀ constraint, action = .addConstraint constraint → constraint.HasColumns) :
    Keeps (StandsWith id) (perform id tableName action) := by
  cases action with
  | addColumn column => exact stands_addColumn tableName column
  | dropColumn name => exact stands_dropColumn tableName name
  | modifyColumn column =>
      apply Keeps.bind (.discard (stands_modify column.name (columnOf_keyNotNull column)))
      intro _
      exact .pure _
  | renameColumn old new => exact stands_renameColumn tableName old new
  | renameTo name => exact stands_renameTo tableName name
  | addConstraint constraint =>
      apply Keeps.bind (stands_addConstraint tableName (columns constraint rfl))
      intro warnings
      exact .pure _

theorem stands_performAll
    (tableName : String) {actions : List AlterAction}
    (columns : ∀ constraint, .addConstraint constraint ∈ actions → constraint.HasColumns) :
    Keeps (StandsWith id) (performAll id tableName actions) := by
  induction actions generalizing tableName with
  | nil => exact .pure _
  | cons action actions ih =>
      apply Keeps.bind
      · apply stands_perform tableName
        intro constraint same
        exact columns constraint (same ▸ List.mem_cons_self)
      · intro effect
        apply Keeps.bind
        · exact ih _ fun constraint member => columns constraint (List.mem_cons_of_mem _ member)
        · intro effects
          exact .pure _

end

/-! ## Tables -/

/-- The columns of a plan come without marks of foreign keys and with keys that are never null, and
the indexes that wait have columns. -/
structure TablePlan.Fits (plan : TablePlan) : Prop where
  unmarked : ∀ column ∈ plan.columns, column.isForeignKey = false
  keys : ∀ column ∈ plan.columns, column.KeyNotNull
  columns : ∀ constraint ∈ plan.deferred, constraint.HasColumns

theorem TablePlan.Fits.constrain
    {plan : TablePlan} (fits : plan.Fits) (tableName : String) {constraint : TableConstraint}
    (columns : constraint.HasColumns) : (plan.constrain tableName constraint).Fits := by
  rw [TablePlan.constrain]
  split
  · refine ⟨fits.unmarked, fits.keys, ?_⟩
    intro other member
    rcases List.mem_append.mp member with member | member
    · exact fits.columns other member
    · rw [List.mem_singleton.mp member]
      exact columns
  · next listed _ =>
      constructor
      · intro column member
        obtain ⟨old, oldMember, rfl⟩ := List.mem_map.mp member
        rw [Key.mark_isForeignKey]
        exact fits.unmarked old oldMember
      · intro column member
        obtain ⟨old, oldMember, rfl⟩ := List.mem_map.mp member
        exact Key.mark_keyNotNull _ (fits.keys old oldMember)
      · intro other member
        rcases List.mem_append.mp member with member | member
        · exact fits.columns other member
        · rw [Option.mem_toList, Key.index?] at member
          split at member
          · cases member
          · cases member
            trivial

theorem TablePlan.Fits.foldl
    {plan : TablePlan} (fits : plan.Fits) (tableName : String)
    {constraints : List TableConstraint}
    (columns : ∀ constraint ∈ constraints, constraint.HasColumns) :
    (constraints.foldl (TablePlan.constrain tableName) plan).Fits := by
  induction constraints generalizing plan with
  | nil => exact fits
  | cons constraint constraints ih =>
      apply ih (fits.constrain tableName (columns constraint List.mem_cons_self))
      intro other member
      exact columns other (List.mem_cons_of_mem _ member)

theorem leads_addTable
    (spec : TableSpec) {schema : Schema} (new : schema.hasTable spec.name = false)
    (unmarked : ∀ column ∈ spec.columns, column.isForeignKey = false)
    (keys : ∀ column ∈ spec.columns, column.KeyNotNull) :
    Leads (fun session => session.Stands ∧ session.schema = schema)
      (always (SessionM.addTable spec)) (fun id => StandsWith id) Stands := by
  apply Leads.always
  rintro session ⟨stands, rfl⟩
  constructor
  · exact stands.perform (.addTable spec) unmarked ⟨new, keys⟩
  · rw [SessionM.addTable, SessionM.run_carry, Edit.run_addTable]
    rw [Session.schema, Session.finished_workspace]
    change _ ∈ (session.workspace.schema.tables ++ [session.workspace.newTable spec]).map
      fun table => table.id
    rw [List.map_append]
    exact List.mem_append_right _ (List.mem_singleton.mpr rfl)

theorem stands_createTable
    {definition : CreateTable}
    (columns : ∀ constraint ∈ definition.constraints, constraint.HasColumns) :
    Keeps Stands (createTable definition) := by
  apply Leads.current_bind
  intro session stands
  change Leads _ (if session.schema.hasTable definition.name then _ else _) _ _
  split
  · split
    · exact Leads.pure fun _ holds => holds.1
    · exact Leads.throw_bind fun _ holds => holds.1
  · next free =>
      let name := definition.name
      let start : TablePlan :=
        { columns := definition.columns.map columnOf, deferred := [], warnings := [] }
      let plan := definition.constraints.foldl (TablePlan.constrain name) start
      have startFits : start.Fits := by
        constructor
        · intro column member
          obtain ⟨spelled, _, rfl⟩ := List.mem_map.mp member
          rfl
        · intro column member
          obtain ⟨spelled, _, rfl⟩ := List.mem_map.mp member
          exact columnOf_keyNotNull spelled
        · intro constraint member
          cases member
      have fits : plan.Fits := startFits.foldl name columns
      have new : session.schema.hasTable name = false := by simpa using free
      apply Leads.bind
      · exact leads_addTable (show TableSpec from { name, columns := plan.columns }) new
          fits.unmarked fits.keys
      · intro id
        refine Leads.weaken (?_ : Keeps (StandsWith id) _) ?_ ?_
        · apply Keeps.bind
          · apply Keeps.mapM
            intro column _
            exact stands_addExtras name column
          · intro extras
            apply Keeps.bind
            · apply Keeps.mapM
              intro constraint member
              exact stands_addConstraint name (fits.columns constraint member)
            · intro others
              exact .pure _
        · exact fun _ _ holds => holds.1
        · exact fun _ holds => holds.1

theorem stands_alterTable
    (name : String) {actions : List AlterAction}
    (columns : ∀ constraint, .addConstraint constraint ∈ actions → constraint.HasColumns) :
    Keeps Stands (alterTable name actions) := by
  apply Leads.current_bind
  intro session stands
  cases found : session.schema.tableNamed? name with
  | none => exact Leads.throw fun _ holds => holds.1
  | some table =>
      refine Leads.weaken (Leads.strengthen (?_ : Keeps (StandsWith table.id) _) ?_) ?_ ?_
      · apply Keeps.bind (stands_performAll name columns)
        intro effects
        exact .pure _
      · rintro later ⟨laterStands, same⟩
        refine ⟨laterStands, ?_⟩
        rw [same]
        exact List.mem_map_of_mem (Schema.mem_of_tableNamed? found).1
      · exact fun _ _ holds => holds.1
      · exact fun _ holds => holds.1

theorem stands_dropTable (ifExists : Bool) (name : String) :
    Keeps Stands (dropTable ifExists name) := by
  apply Leads.current_bind
  intro session _
  apply Leads.strengthen _ fun _ holds => holds.1
  cases session.schema.tableNamed? name with
  | none =>
      cases ifExists with
      | true => exact Keeps.pure _
      | false => exact Keeps.throw _
  | some table =>
      apply Keeps.bind
      · apply Keeps.discard
        apply Keeps.attempt
        intro later stands
        exact stands.perform (.removeTable table.id) trivial trivial
      · intro _
        exact .pure _

theorem stands_dropTables (names : List String) (ifExists : Bool) :
    Keeps Stands (dropTables names ifExists) := by
  apply Keeps.bind
  · apply Keeps.mapM
    intro name _
    exact stands_dropTable ifExists name
  · intro existed
    exact .pure _

theorem stands_forward (text : String) : Keeps Stands (forward text) := by
  apply keeps_forward
  apply SessionM.keeps_forward
  intro session backend stands
  exact stands.with_backend backend

theorem stands_apply (text : String) {statement : Sql.Statement} (columns : statement.HasColumns) :
    Keeps Stands (apply text statement) := by
  cases statement with
  | createTable definition => exact stands_createTable columns
  | alterTable table actions => exact stands_alterTable table columns
  | dropTable tables ifExists => exact stands_dropTables tables ifExists
  | passthrough => exact stands_forward text

theorem stands_applyText (text : String) : Keeps Stands (applyText text) := by
  cases read : Sql.Statement.ofText text with
  | error error =>
      rw [applyText_of_error read]
      exact .throw _
  | ok statement =>
      rw [applyText_of_read read]
      apply stands_apply text
      rw [Sql.Statement.ofText] at read
      split at read
      · exact Sql.statement_hasColumns read
      · cases read

end Execution

/-! ## Scripts -/

namespace Session

/-- The session after some statements have been carried out, whether they have failed or not. -/
def executed (session : Session) (statements : List Sql.StatementSource) : Session :=
  statements.foldl (fun session source => ((SessionM.executeStatement source).run session).2)
    session

/-- The session after some scripts have been carried out. -/
def executedScripts (session : Session) (scripts : List String) : Session :=
  scripts.foldl (fun session script => ((SessionM.execute script).run session).2) session

/-- To carry out a script is to carry out its statements. -/
theorem execute_eq_executed (session : Session) (script : String) :
    ((SessionM.execute script).run session).2 = session.executed (Sql.statements script) := by
  rw [SessionM.execute]
  induction Sql.statements script generalizing session with
  | nil => rfl
  | cons source sources ih =>
      rw [List.mapM_cons]
      exact ih ((SessionM.executeStatement source).run session).2

variable {session : Session}

/-- What every statement of a script keeps holds after the script. -/
theorem executed_of_keeps
    {held : Session → Prop} {sources : List Sql.StatementSource}
    (keeps : ∀ source ∈ sources, (SessionM.executeStatement source).Keeps held)
    (holds : held session) : held (session.executed sources) := by
  induction sources generalizing session with
  | nil => exact holds
  | cons first sources ih =>
      exact ih (fun source member => keeps source (List.mem_cons_of_mem _ member))
        (keeps first List.mem_cons_self session holds)

theorem Stands.executed
    (stands : session.Stands) (statements : List Sql.StatementSource) :
    (session.executed statements).Stands :=
  executed_of_keeps
    (fun source _ => .executeStatement (Execution.stands_applyText source.text)) stands

theorem Stands.executedScripts (stands : session.Stands) (scripts : List String) :
    (session.executedScripts scripts).Stands := by
  induction scripts generalizing session with
  | nil => exact stands
  | cons script scripts ih =>
      apply ih
      change ((SessionM.execute script).run session).2.Stands
      rw [execute_eq_executed]
      exact stands.executed (Sql.statements script)

theorem stands_of_isEmpty (empty : session.schema.IsEmpty) : session.Stands := by
  have noTables : session.workspace.schema.tables = [] := empty.tables
  refine ⟨⟨⟨?_, ?_⟩, ?_⟩, ?_, ?_⟩
  · simp [Schema.tableIds, noTables]
  · simp [Schema.columnIds, noTables]
  · rw [Schema.linked_iff]
    refine ⟨?_, ?_, ?_, ?_, ?_, ?_⟩
    · simp [Schema.tableIds, noTables]
    · simp [Schema.columnIds, noTables]
    · simp [Schema.MarksSources, noTables]
    · simp [show session.workspace.schema.relationships = [] from empty.relationships]
    · simp [show session.workspace.schema.indexes = [] from empty.indexes]
    · simp [show session.workspace.schema.constraints = [] from empty.constraints]
  · simp [empty.tables]
  · simp [empty.tables]

/-- Scripts that are carried out from an empty schema on leave a sound schema after each of their
statements, and so one in which validation finds no relationship that leads nowhere. -/
theorem sound_after_statements
    (empty : session.schema.IsEmpty) (scripts : List String) (script : String) (count : Nat) :
    let reached :=
      (session.executedScripts scripts).executed ((Sql.statements script).take count)
    reached.schema.Sound ∧
      ∀ finding ∈ reached.schema.validate, finding.rule ≠ .foreignKeyIntegrity := by
  intro reached
  have start : session.Stands := stands_of_isEmpty empty
  have stands : reached.Stands := (start.executedScripts scripts).executed _
  refine ⟨stands.sound, ?_⟩
  intro finding member
  exact Validation.rule_ne_foreignKeyIntegrity stands.settled.linked member

theorem sound_after_statements_shop :
    let session : Session := .ofConfig {} 0 default
    let scripts : List String := ["CREATE TABLE users (id INT PRIMARY KEY, name TEXT);"]
    let script : String :=
      "CREATE TABLE orders (user_id INT REFERENCES users); DROP TABLE users; DROP TABLE users"
    let reached := (session.executedScripts scripts).executed ((Sql.statements script).take 2)
    session.schema.IsEmpty ∧ reached.schema.Sound ∧
      ∀ finding ∈ reached.schema.validate, finding.rule ≠ .foreignKeyIntegrity := by
  intro session scripts script reached
  have empty : session.schema.IsEmpty := ⟨rfl, rfl, rfl, rfl⟩
  exact ⟨empty, sound_after_statements empty scripts script 2⟩

end Session

end SchemaDesign
