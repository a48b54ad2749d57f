import SchemaDesign.Proofs.Ddl.Scripts
import SchemaDesign.Proofs.Execution.Soundness

/-!
# Creation scripts that are carried out

In a session without tables the statements of a creation script succeed one after the other, and
they leave the tables and relationships for which the script was written.
-/

namespace SchemaDesign

open Sql (StatementSource)

/-- A session that stands and whose schema has an outline. -/
def Session.Shows (outline : Outline) (session : Session) : Prop :=
  session.Stands ∧ session.schema.outline = outline

namespace Execution

open Session (Shows)

/-! ## Tables -/

theorem hasTable_of_outline
    {schema : Schema} {name : String}
    (new : ∀ spec ∈ schema.outline.tables, Text.same spec.name name = false) :
    schema.hasTable name = false := by
  rw [Schema.hasTable_eq_false_iff]
  intro table member
  exact new table.spec.unmarked (List.mem_map_of_mem (List.mem_map_of_mem member))

section

variable {outline : Outline} (unrelated : outline.relationships = [])

include unrelated

theorem shows_addTable
    {name : String} {columns : List ColumnSpec}
    (new : ∀ spec ∈ outline.tables, Text.same spec.name name = false)
    (unmarked : ∀ column ∈ columns, column.isForeignKey = false)
    (keys : ∀ column ∈ columns, column.KeyNotNull) :
    Succeeds (Shows outline) (always (SessionM.addTable { name, columns }))
      (Shows (outline.withTable { name, columns })) := by
  apply Leads.always
  rintro session ⟨stands, rfl⟩
  constructor
  · exact stands.perform (.addTable { name, columns }) unmarked ⟨hasTable_of_outline new, keys⟩
  · have bare : session.workspace.schema.relationships = [] := List.map_eq_nil_iff.mp unrelated
    have added : (session.workspace.newTable { name, columns }).spec = { name, columns } := by
      rw [Table.spec, Workspace.newTable, numberedFrom_specs]
    have shown := Schema.outline_withTable bare (session.workspace.newTable { name, columns })
    rw [added, TableSpec.unmarked_eq_self unmarked] at shown
    rw [SessionM.addTable, SessionM.run_carry, Edit.run_addTable, Session.schema,
      Session.finished_workspace]
    exact shown

theorem shows_createTable
    {table : Table} (new : ∀ spec ∈ outline.tables, Text.same spec.name table.name = false)
    (portable : ∀ column ∈ table.columns, column.toColumnSpec.Portable) :
    Succeeds (Shows outline) (createTable (Sql.creationOf table))
      (Shows (outline.withTable table.spec.unmarked)) := by
  let columns := table.columns.map fun column => column.toColumnSpec.unmarked
  have spec : table.spec.unmarked = { name := table.name, columns } := by
    rw [TableSpec.unmarked, Table.spec, List.map_map]
    rfl
  have read : (Sql.creationOf table).columns.map columnOf = columns := by
    rw [Sql.creationOf, List.map_map]
    apply List.map_congr_left
    intro column member
    exact Sql.columnOf_definitionOf (portable column member)
  have adds : Succeeds (Shows outline) (always (SessionM.addTable { name := table.name, columns }))
      (Shows (outline.withTable table.spec.unmarked)) := by
    rw [spec]
    apply shows_addTable unrelated new
    · intro column member
      obtain ⟨old, _, rfl⟩ := List.mem_map.mp member
      rfl
    · intro column member
      obtain ⟨old, oldMember, rfl⟩ := List.mem_map.mp member
      intro primary
      exact ((portable old oldMember).primaryKey primary).1
  apply Leads.current_bind
  rintro session ⟨stands, rfl⟩
  have free : session.schema.hasTable table.name = false := hasTable_of_outline new
  change Leads _ (if session.schema.hasTable table.name then _ else _) _ _
  rw [free, if_neg Bool.false_ne_true]
  rw [← read] at adds
  apply Leads.bind (adds.strengthen fun _ holds => holds.1)
  intro id
  apply Leads.bind
  · apply Leads.mapM
    intro definition member
    obtain ⟨column, _, rfl⟩ := List.mem_map.mp member
    change Leads _ (pure []) _ _
    exact Leads.pure fun _ holds => holds
  · intro extras
    apply Leads.bind
    · apply Leads.mapM
      intro constraint none
      cases none
    · intro others
      exact Leads.pure fun _ holds => holds

end

/-! ## Relationships -/

section

variable {schema : Schema}

theorem shows_addRelationship {spec : RelationshipSpec} (joins : schema.Joins spec) :
    Succeeds (fun session => session.Stands ∧ session.schema = schema)
      (always (discard (SessionM.addRelationship spec)))
      (Shows (schema.outline.withRelationship (schema.named? spec))) := by
  apply Leads.always
  rintro session ⟨stands, rfl⟩
  constructor
  · exact stands.perform (.addRelationship spec) joins trivial
  · let id : RelationshipId := { number := session.workspace.nextId }
    change ((SessionM.addRelationship spec).run session).2.schema.outline = _
    rw [SessionM.addRelationship, SessionM.run_carry, Session.schema, Session.finished_workspace]
    exact Schema.outline_addRelationship session.schema { spec with id }

variable {source target : Table} {sourceColumn targetColumn : Column}
variable (differ : schema.NamesDiffer)
variable (sourceMember : source ∈ schema.tables) (sourceHeld : sourceColumn ∈ source.columns)
variable (targetMember : target ∈ schema.tables) (targetHeld : targetColumn ∈ target.columns)

/-- The relationship that a foreign key between two columns stands for. -/
def keySpec (name : String) (source : Table) (sourceColumn : Column) (target : Table)
    (targetColumn : Column) : RelationshipSpec :=
  { name := some name
    sourceTable := source.id
    sourceColumn := sourceColumn.id
    targetTable := target.id
    targetColumn := targetColumn.id
    cardinality := .oneToMany }

include differ sourceMember sourceHeld targetMember targetHeld

theorem links_named (name tableName : String) :
    ({ name := some name, columns := [sourceColumn.name]
       references := { table := target.name, columns := [targetColumn.name] } } : ForeignKey).links
      schema tableName source =
        { relationships := [keySpec name source sourceColumn target targetColumn] } := by
  have targetFound := differ.tableNamed? targetMember
  have targetColumnFound := differ.columnNamed? targetMember targetHeld
  have sourceColumnFound := differ.columnNamed? sourceMember sourceHeld
  simp [ForeignKey.links, ForeignKey.targetColumns, ForeignKey.countWarnings, ForeignKey.pairLinks,
    targetFound, targetColumnFound, sourceColumnFound, keySpec]

theorem shows_linkForeignKey (distinct : schema.tableIds.Nodup) (name : String) :
    Succeeds (fun session => session.Stands ∧ session.schema = schema)
      (linkForeignKey source.id source.name
        { name := some name, columns := [sourceColumn.name]
          references := { table := target.name, columns := [targetColumn.name] } })
      (Shows (schema.outline.withRelationship
        (schema.named? (keySpec name source sourceColumn target targetColumn)))) := by
  have joins : schema.Joins (keySpec name source sourceColumn target targetColumn) :=
    ⟨⟨source, sourceMember, rfl, sourceColumn, sourceHeld, rfl⟩,
      ⟨target, targetMember, rfl, targetColumn, targetHeld, rfl⟩⟩
  have sourceFound : schema.table? source.id = some source :=
    (Schema.table?_eq_some_iff distinct).mpr ⟨sourceMember, rfl⟩
  have links := links_named differ sourceMember sourceHeld targetMember targetHeld name source.name
  apply Leads.current_bind
  rintro session ⟨_, rfl⟩
  simp only [sourceFound, links]
  have adds := (shows_addRelationship joins).bind fun _ => .pure ()
  apply Succeeds.bind
  · exact adds.strengthen fun _ holds => holds.1
  · intro _
    exact .pure _

theorem shows_linkOf (distinct : schema.tableIds.Nodup) (name text : String) :
    Succeeds (fun session => session.Stands ∧ session.schema = schema)
      (apply text (Sql.linkOf name source sourceColumn target targetColumn))
      (Shows (schema.outline.withRelationship
        (schema.named? (keySpec name source sourceColumn target targetColumn)))) := by
  have links :=
    shows_linkForeignKey differ sourceMember sourceHeld targetMember targetHeld distinct name
  apply Leads.current_bind
  rintro session ⟨_, rfl⟩
  simp only [differ.tableNamed? sourceMember]
  apply Succeeds.bind
  · apply Succeeds.bind
    · apply Succeeds.bind
      · exact links.strengthen fun _ holds => holds.1
      · intro warnings
        exact .pure _
    · intro effect
      exact .pure _
  · intro effects
    exact .pure _

end

/-- What is read for a relationship adds the relationship to a schema that has the same tables but
for identities and marks. -/
theorem shows_link
    {schema : Schema} (differ : schema.NamesDiffer) {outline : Outline}
    (tables : outline.tables = schema.outline.tables) {relationship : RelationshipSpec}
    (oneToMany : relationship.cardinality = .oneToMany) {statement : Sql.Statement}
    (link : schema.link? relationship = some statement) (text : String) :
    Succeeds (Shows outline) (apply text statement)
      (Shows (outline.withRelationship (schema.named? relationship))) := by
  obtain ⟨name, source, sourceColumn, target, targetColumn, named, ends, rfl⟩ :=
    Schema.link?_eq_some link
  obtain ⟨sourceFound, targetFound⟩ := Schema.endpoints?_eq_some_iff.mp ends
  obtain ⟨sourceMember, sourceHeld⟩ := Schema.mem_of_endpoint? sourceFound
  obtain ⟨targetMember, targetHeld⟩ := Schema.mem_of_endpoint? targetFound
  rintro session ⟨stands, rfl⟩
  have specs : session.schema.tableSpecs.map TableSpec.unmarked =
      schema.tableSpecs.map TableSpec.unmarked := tables
  obtain ⟨start, startMember, startName, startColumn, startHeld, startColumnName⟩ :=
    Schema.exists_place_of_specs specs.symm sourceMember sourceHeld
  obtain ⟨finish, finishMember, finishName, finishColumn, finishHeld, finishColumnName⟩ :=
    Schema.exists_place_of_specs specs.symm targetMember targetHeld
  have linked := stands.settled.linked
  have sameStatement : Sql.linkOf name source sourceColumn target targetColumn =
      Sql.linkOf name start startColumn finish finishColumn := by
    rw [Sql.linkOf, Sql.linkOf, startName, startColumnName, finishName, finishColumnName]
  have sameNames : session.schema.named? (keySpec name start startColumn finish finishColumn) =
      schema.named? relationship := by
    have startFound := linked.endpoint?_eq_some startMember startHeld
    have finishFound := linked.endpoint?_eq_some finishMember finishHeld
    have found : session.schema.endpoints? (keySpec name start startColumn finish finishColumn) =
        some ((start, startColumn), (finish, finishColumn)) :=
      Schema.endpoints?_eq_some_iff.mpr ⟨startFound, finishFound⟩
    rw [Schema.named?_eq_some found, Schema.named?_eq_some ends, named, oneToMany, startName,
      startColumnName, finishName, finishColumnName]
    rfl
  rw [sameStatement, ← sameNames]
  exact shows_linkOf (differ.of_specs specs) startMember startHeld finishMember finishHeld
    linked.tables name text session ⟨stands, rfl⟩

end Execution

/-! ## Scripts -/

namespace Session

open Execution (Succeeds apply)

/-- Statements that succeed one after the other lead from sessions of one kind to sessions of
another. -/
def Runs (before : Session → Prop) (sources : List StatementSource) (after : Session → Prop) :
    Prop :=
  ∀ session, before session →
    let ran := (sources.mapM SessionM.executeStatement).run session
    ran.1.length = sources.length ∧ (∀ report ∈ ran.1, report.success = true) ∧ after ran.2

section

variable {before middle after : Session → Prop}

theorem Runs.nil : Runs before [] before := by
  intro session holds
  refine ⟨rfl, ?_, holds⟩
  intro report none
  cases none

theorem Runs.cons
    {source : StatementSource} {sources : List StatementSource} {statement : Sql.Statement}
    (read : Sql.Statement.ofText source.text = .ok statement)
    (first : Succeeds before (apply source.text statement) middle)
    (rest : Runs middle sources after) : Runs before (source :: sources) after := by
  intro session holds
  have led := first session holds
  rw [← Execution.applyText_of_read read] at led
  cases ran : (Execution.applyText source.text).run.run session with
  | mk result later =>
      rw [ran] at led
      cases result with
      | error error => exact led.elim
      | ok effect =>
          have executed : (SessionM.executeStatement source).run session =
              (.of source (.ok effect), later) := by
            rw [SessionM.executeStatement, SessionM.run_bind, ran]
            rfl
          obtain ⟨length, succeeded, reached⟩ := rest later led
          intro whole
          have split : whole = (.of source (.ok effect) ::
              ((sources.mapM SessionM.executeStatement).run later).1,
                ((sources.mapM SessionM.executeStatement).run later).2) := by
            simp only [whole, List.mapM_cons, SessionM.run_bind, executed]
            rfl
          rw [split]
          refine ⟨congrArg (· + 1) length, ?_, reached⟩
          intro report member
          rcases List.mem_cons.mp member with rfl | member
          · rfl
          · exact succeeded report member

theorem Runs.append
    {sources others : List StatementSource} (first : Runs before sources middle)
    (second : Runs middle others after) : Runs before (sources ++ others) after := by
  intro session holds
  obtain ⟨length, succeeded, reached⟩ := first session holds
  obtain ⟨otherLength, otherSucceeded, finished⟩ := second _ reached
  intro whole
  have split : whole =
      (((sources.mapM SessionM.executeStatement).run session).1 ++
        ((others.mapM SessionM.executeStatement).run
          ((sources.mapM SessionM.executeStatement).run session).2).1,
        ((others.mapM SessionM.executeStatement).run
          ((sources.mapM SessionM.executeStatement).run session).2).2) := by
    simp only [whole, List.mapM_append, SessionM.run_bind]
    rfl
  rw [split]
  refine ⟨?_, ?_, finished⟩
  · rw [List.length_append, List.length_append, length, otherLength]
  · intro report member
    rcases List.mem_append.mp member with member | member
    · exact succeeded report member
    · exact otherSucceeded report member

/-- Statements for the items of a list succeed when each leads from the sessions in which the items
before it are done to those in which it is done too. -/
theorem runs_each
    {α : Type} {items : List α} {statement : α → Sql.Statement} {done : List α → Session → Prop}
    (steps : ∀ earlier item later, items = earlier ++ item :: later → ∀ text,
      Succeeds (done earlier) (apply text (statement item)) (done (earlier ++ [item])))
    {sources : List StatementSource}
    (read : sources.map (fun source => Sql.Statement.ofText source.text) =
      items.map fun item => .ok (statement item)) :
    Runs (done []) sources (done items) := by
  have remaining : ∀ todo earlier, items = earlier ++ todo →
      ∀ sources : List StatementSource,
        sources.map (fun source => Sql.Statement.ofText source.text) =
            todo.map (fun item => .ok (statement item)) →
          Runs (done earlier) sources (done items) := by
    intro todo
    induction todo with
    | nil =>
        intro earlier all sources read
        rw [List.map_nil, List.map_eq_nil_iff] at read
        rw [read, all, List.append_nil]
        exact .nil
    | cons item todo ih =>
        intro earlier all sources read
        obtain ⟨source, others, rfl, first, rest⟩ := List.map_eq_cons_iff.mp read
        apply Runs.cons first
        · exact steps earlier item todo all source.text
        · apply ih (earlier ++ [item])
          · rw [all, List.append_assoc, List.singleton_append]
          · exact rest
  exact remaining items [] rfl sources read

end

section

variable {schema : Schema} (portable : schema.Portable) {sources : List StatementSource}

include portable

theorem runs_tables
    {outline : Outline} (unrelated : outline.relationships = [])
    (read : sources.map (fun source => Sql.Statement.ofText source.text) =
      schema.tables.map fun table => .ok (.createTable (Sql.creationOf table))) :
    Runs (Shows { outline with tables := [] }) sources
      (Shows { outline with tables := schema.outline.tables }) := by
  let specOf (table : Table) : TableSpec := table.spec.unmarked
  let done (tables : List Table) : Session → Prop :=
    Shows { outline with tables := tables.map specOf }
  have runs : Runs (done []) sources (done schema.tables) := by
    apply runs_each _ read
    intro earlier table later all text
    let reached : Outline := { outline with tables := earlier.map specOf }
    have adds : done (earlier ++ [table]) = Shows (reached.withTable (specOf table)) := by
      simp only [done, List.map_append]
      rfl
    have alone : reached.relationships = [] := unrelated
    have member : table ∈ schema.tables := by
      rw [all]
      exact List.mem_append_right _ List.mem_cons_self
    have apart := portable.names.tables
    rw [all, List.pairwise_append] at apart
    rw [adds]
    apply Execution.shows_createTable alone
    · intro spec specMember
      obtain ⟨other, otherMember, rfl⟩ := List.mem_map.mp specMember
      exact apart.2.2 other otherMember table List.mem_cons_self
    · exact portable.columns table member
  have specs : schema.outline.tables = schema.tables.map specOf := List.map_map
  rw [specs]
  exact runs

theorem runs_relationships
    {outline : Outline} (tables : outline.tables = schema.outline.tables)
    (read : sources.map (fun source => Sql.Statement.ofText source.text) =
      (schema.relationships.filterMap fun relationship =>
        schema.link? relationship.toRelationshipSpec).map Except.ok) :
    Runs (Shows { outline with relationships := [] }) sources
      (Shows { outline with relationships := schema.outline.relationships }) := by
  let namedOf (relationship : Relationship) : Option NamedRelationship :=
    schema.named? relationship.toRelationshipSpec
  let done (relationships : List Relationship) : Session → Prop :=
    Shows { outline with relationships := relationships.map namedOf }
  have resolved : ∀ relationship ∈ schema.relationships,
      ∃ statement, schema.link? relationship.toRelationshipSpec = some statement := by
    intro relationship member
    obtain ⟨_, _, _, _, _, _, _, link⟩ := portable.link? member
    exact ⟨_, link⟩
  have inhabited : Nonempty Sql.Statement := ⟨.passthrough⟩
  choose! statement link using resolved
  rw [List.filterMap_eq_map_iff_forall_eq_some.mpr link, List.map_map] at read
  have runs : Runs (done []) sources (done schema.relationships) := by
    apply runs_each _ read
    intro earlier relationship later all text
    let reached : Outline := { outline with relationships := earlier.map namedOf }
    have adds : done (earlier ++ [relationship]) =
        Shows (reached.withRelationship (namedOf relationship)) := by
      simp only [done, List.map_append]
      rfl
    have sameTables : reached.tables = schema.outline.tables := tables
    have member : relationship ∈ schema.relationships := by
      rw [all]
      exact List.mem_append_right _ List.mem_cons_self
    rw [adds]
    exact Execution.shows_link portable.names sameTables (portable.oneToMany relationship member)
      (link relationship member) text
  exact runs

/-- A creation script makes, in a session without tables, the tables and relationships for which it
was written, and nothing else. -/
theorem runs_script
    {dialect : Dialect} (noBrackets : dialect ≠ .sqlServer) (outline : Outline) :
    Runs (Shows { outline with tables := [], relationships := [] })
      (Sql.statements (Ddl.script dialect schema))
      (Shows { outline with
        tables := schema.outline.tables
        relationships := schema.outline.relationships }) := by
  have read : (Sql.statements (Ddl.script dialect schema)).map
      (fun source => Sql.Statement.ofText source.text) = schema.statements.map Except.ok := by
    have texts := Sql.readScript_script noBrackets portable
    rwa [Sql.readScript, ← Sql.statements_texts, List.map_map] at texts
  rw [Schema.statements, List.map_append, List.map_eq_append_iff, List.map_map] at read
  obtain ⟨creations, links, split, creationsRead, linksRead⟩ := read
  let made : Outline := { outline with tables := schema.outline.tables, relationships := [] }
  have unrelated : made.relationships = [] := rfl
  have sameTables : made.tables = schema.outline.tables := rfl
  have tables := runs_tables portable unrelated creationsRead
  have relationships := runs_relationships portable sameTables linksRead
  rw [split]
  exact tables.append relationships

end

/-- In a session without tables a creation script succeeds, one statement for each table and each
relationship, and brings back the tables with their columns and the relationships between them. -/
theorem script_recreates
    {dialect : Dialect} (noBrackets : dialect ≠ .sqlServer) {schema : Schema}
    (portable : schema.Portable) {session : Session} (empty : session.schema.IsEmpty) :
    let ran := (SessionM.execute (Ddl.script dialect schema)).run session
    ran.1.length = schema.tables.length + schema.relationships.length ∧
      (∀ report ∈ ran.1, report.success = true) ∧
      ran.2.schema.tableSpecs = schema.tableSpecs ∧
      ran.2.schema.namedRelationships = schema.namedRelationships ∧
      ran.2.schema.indexes = [] ∧ ran.2.schema.constraints = [] ∧
      ran.2.schema.users = session.schema.users ∧
      ran.2.schema.permissions = session.schema.permissions := by
  have bare : session.schema.outline =
      { session.schema.outline with tables := [], relationships := [] } := by
    simp [Schema.outline, Schema.tableSpecs, Schema.namedRelationships, empty.tables,
      empty.relationships]
  have start : Shows { session.schema.outline with tables := [], relationships := [] } session :=
    ⟨stands_of_isEmpty empty, bare⟩
  let script := Ddl.script dialect schema
  have runs : Runs _ (Sql.statements script) _ :=
    runs_script portable noBrackets session.schema.outline
  have texts : (Sql.statements script).length =
      schema.tables.length + schema.relationships.length := by
    have read := congrArg List.length (Sql.readScript_script noBrackets portable)
    rwa [Sql.readScript, ← Sql.statements_texts, List.length_map, List.length_map,
      List.length_map, portable.length_statements] at read
  intro ran
  obtain ⟨length, succeeded, stands, shown⟩ := runs session start
  rw [texts] at length
  change ran.1.length = _ at length
  change ∀ report ∈ ran.1, _ at succeeded
  change ran.2.Stands at stands
  change ran.2.schema.outline = _ at shown
  -- Nothing more is to be learnt from what the script is, and to unfold it is slow.
  clear_value ran
  have tables : ran.2.schema.outline.tables = schema.outline.tables := by rw [shown]
  have relationships : ran.2.schema.outline.relationships = schema.outline.relationships := by
    rw [shown]
  have specs : ran.2.schema.tableSpecs = schema.tableSpecs :=
    portable.names.tableSpecs_eq portable.resolves portable.marks stands.settled.linked tables
      relationships
  refine ⟨length, succeeded, specs, relationships, ?_, ?_, ?_, ?_⟩
  · exact (congrArg Outline.indexes shown).trans empty.indexes
  · exact (congrArg Outline.constraints shown).trans empty.constraints
  · exact congrArg Outline.users shown
  · exact congrArg Outline.permissions shown

theorem script_recreates_shop :
    let users : Table :=
      { (default : Table) with
        id := { number := 0 }
        name := "users; all"
        columns :=
          [{ name := "id", dataType := "INT", nullable := false, isPrimaryKey := true
             id := { number := 1 } }] }
    let orders : Table :=
      { (default : Table) with
        id := { number := 2 }
        name := "a user's orders"
        columns :=
          [{ name := "user", dataType := "INT", defaultValue := some "-1", isForeignKey := true
             id := { number := 3 } },
            { name := "note", dataType := "VARCHAR(20)", defaultValue := some "'it''s'"
              id := { number := 4 } }] }
    let buys : Relationship :=
      { name := some "buys", sourceTable := orders.id, sourceColumn := { number := 3 }
        targetTable := users.id, targetColumn := { number := 1 }, cardinality := .oneToMany
        id := { number := 5 } }
    let schema : Schema :=
      { Schema.new "shop" default with tables := [users, orders], relationships := [buys] }
    let session : Session := .ofConfig {} 0 default
    let ran := (SessionM.execute (Ddl.script .oracle schema)).run session
    Dialect.oracle ≠ .sqlServer ∧ schema.Portable ∧ session.schema.IsEmpty ∧
      ran.1.length = 3 ∧ (∀ report ∈ ran.1, report.success = true) ∧
      ran.2.schema.tableSpecs = schema.tableSpecs ∧
      ran.2.schema.namedRelationships = schema.namedRelationships := by
  intro users orders buys schema session
  have portable : schema.Portable := by
    constructor
    · decide
    · exact ⟨by decide, by decide⟩
    · intro table member
      have sized : DataType.Portable ("VARCHAR" ++ "(" ++ ",".intercalate ["20"] ++ ")") :=
        .sized (by decide) (by simp [IsNumeral])
      have signed : ColumnSpec.PortableDefault (String.singleton '-' ++ "1") :=
        .signed (.inr rfl) (by simp [IsNumeral])
      have escaped : ColumnSpec.PortableDefault "'it''s'" := .literal "it's"
      simp only [schema, List.mem_cons, List.not_mem_nil, or_false] at member
      rcases member with rfl | rfl
      · simp only [users, List.forall_mem_singleton]
        exact ⟨.named (by decide), by simp, by simp, rfl⟩
      · simp only [orders, List.forall_mem_cons]
        refine ⟨⟨.named (by decide), by simpa using signed, by simp, rfl⟩, ?_, by simp⟩
        exact ⟨sized, by simpa using escaped, by simp, rfl⟩
    · decide
    · decide
    · unfold Schema.Resolves
      decide
    · unfold Schema.MarksEnds
      decide
    · rfl
    · rfl
    · rfl
    · rfl
  have empty : session.schema.IsEmpty := ⟨rfl, rfl, rfl, rfl⟩
  have dialect : Dialect.oracle ≠ .sqlServer := by decide
  obtain ⟨length, succeeded, tables, relationships, _⟩ := script_recreates dialect portable empty
  exact ⟨dialect, portable, empty, length, succeeded, tables, relationships⟩

end Session

end SchemaDesign
