import SchemaDesign.Proofs.Ddl.Creations
import SchemaDesign.Proofs.Session.Findings

/-!
# Declarations at the database

A database that has been told of every table, index and relationship as it was declared has been
told what a creation script says, but for the indexes that columns have without a declaration.
-/

namespace SchemaDesign

/-- Whether a command declares something: a table, an index of a table that exists, or a
relationship between ends that exist. -/
def Command.Declares (schema : Schema) : Command → Prop
  | .addTable _ => True
  | .addIndex spec => (schema.table? spec.table).isSome
  | .addRelationship spec => (schema.endpoints? spec).isSome
  | _ => False

/-- What holds of a workspace in which everything has been declared: tables have identities of their
own, and indexes and relationships lead to tables and columns that exist. -/
structure Workspace.IsDeclared (workspace : Workspace) : Prop where
  fresh : ∀ id ∈ workspace.schema.tableIds, id.number < workspace.nextId
  distinct : workspace.schema.tableIds.Nodup
  carried : ∀ index ∈ workspace.schema.indexes, (workspace.schema.table? index.table).isSome
  resolves : workspace.schema.Resolves
  unconstrained : workspace.schema.constraints = []

namespace Session

/-- Each command of a run declares something in the schema that it finds. -/
def AllDeclare (session : Session) : List Command → Prop
  | [] => True
  | command :: commands =>
      command.Declares session.schema ∧ (session.after (.perform command)).AllDeclare commands

/-- The session after commands. -/
def afterAll (session : Session) (commands : List Command) : Session :=
  commands.foldl (fun session command => session.after (.perform command)) session

end Session

theorem Schema.IsEmpty.isDeclared
    {workspace : Workspace} (empty : workspace.schema.IsEmpty) : workspace.IsDeclared := by
  have noTables : workspace.schema.tableIds = [] := by
    rw [Schema.tableIds, empty.tables]
    rfl
  constructor
  · rw [noTables]
    exact List.forall_mem_nil _
  · rw [noTables]
    exact List.nodup_nil
  · rw [empty.indexes]
    exact List.forall_mem_nil _
  · rw [Schema.Resolves, empty.relationships]
    exact List.forall_mem_nil _
  · exact empty.constraints

theorem Schema.endpoints?_isSome_iff {schema : Schema} {relationship : RelationshipSpec} :
    (schema.endpoints? relationship).isSome ↔ (schema.named? relationship).isSome := by
  rw [endpoints?, named?, endNames?, endNames?]
  cases schema.endpoint? relationship.sourceTable relationship.sourceColumn with
  | none => rfl
  | some source =>
      cases schema.endpoint? relationship.targetTable relationship.targetColumn with
      | none => rfl
      | some target => rfl

namespace Workspace

variable {before after : Workspace}

/-- A table that is added is found by its new identity. -/
theorem IsDeclared.addTable
    (declared : before.IsDeclared) {spec : TableSpec} (step : before.Step (.addTable spec) after) :
    after.IsDeclared ∧
      after.schema.table? (before.newTable spec).id = some (before.newTable spec) := by
  cases step with
  | addTable =>
      let table := before.newTable spec
      let later : Schema := { before.schema with tables := before.schema.tables ++ [table] }
      -- The identity of the table comes after those of its columns, which are the next ones.
      have unknown : table.id ∉ before.schema.tableIds := by
        intro member
        have bound : before.nextId + spec.columns.length < before.nextId :=
          declared.fresh table.id member
        omega
      have ids : later.tableIds = before.schema.tableIds ++ [table.id] := List.map_append
      have found := Ddl.table?_of_appended (show later.tables = _ from rfl)
      refine ⟨⟨?_, ?_, ?_, ?_, declared.unconstrained⟩, ?_⟩
      · intro id member
        change id ∈ later.tableIds at member
        change id.number < before.nextId + (spec.columns.length + 1)
        rw [ids] at member
        rcases List.mem_append.mp member with old | new
        · have bound := declared.fresh id old
          omega
        · rw [List.mem_singleton.mp new]
          exact Nat.lt_succ_self _
      · change later.tableIds.Nodup
        rw [ids, ← List.concat_eq_append]
        exact declared.distinct.concat unknown
      · intro index member
        have known := declared.carried index member
        change (later.table? index.table).isSome
        rw [found _ known]
        exact known
      · intro relationship member
        have known := declared.resolves relationship member
        change (later.endpoints? relationship.toRelationshipSpec).isSome
        rw [Ddl.endpoints?_of_found found known]
        exact known
      · change (before.schema.tables ++ [table]).find? (fun other => other.id == table.id) = _
        have absent : before.schema.tables.find? (fun other => other.id == table.id) = none := by
          rw [List.find?_eq_none]
          intro other member same
          exact unknown (List.mem_map.mpr ⟨other, member, eq_of_beq same⟩)
        rw [List.find?_append, absent, Option.none_or]
        exact List.find?_cons_of_pos (beq_iff_eq.mpr rfl)

theorem IsDeclared.addIndex
    (declared : before.IsDeclared) {spec : IndexSpec} (step : before.Step (.addIndex spec) after)
    (known : (before.schema.table? spec.table).isSome) : after.IsDeclared := by
  cases step with
  | addIndex =>
      constructor
      · intro id member
        exact Nat.lt_succ_of_lt (declared.fresh id member)
      · exact declared.distinct
      · intro index member
        rcases List.mem_append.mp member with old | new
        · exact declared.carried index old
        · cases List.mem_singleton.mp new
          exact known
      · exact declared.resolves
      · exact declared.unconstrained

theorem IsDeclared.addRelationship
    (declared : before.IsDeclared) {spec : RelationshipSpec}
    (step : before.Step (.addRelationship spec) after)
    (known : (before.schema.endpoints? spec).isSome) : after.IsDeclared := by
  cases step with
  | addRelationship =>
      let marked := before.schema.changeTable spec.sourceTable (Table.mark spec.sourceColumn)
      have ids : marked.tableIds = before.schema.tableIds := map_changeFirst fun _ _ => rfl
      have labels : marked.labels = before.schema.labels := by
        apply map_changeFirst
        intro table _
        exact Ddl.label_of_shape rfl (Table.shape_mark spec.sourceColumn table)
      have resolves (relationship : RelationshipSpec)
          (known : (before.schema.endpoints? relationship).isSome) :
          (marked.endpoints? relationship).isSome := by
        rw [Schema.endpoints?_isSome_iff, Schema.named?_of_labels labels,
          ← Schema.endpoints?_isSome_iff]
        exact known
      constructor
      · intro id member
        change id ∈ marked.tableIds at member
        rw [ids] at member
        exact Nat.lt_succ_of_lt (declared.fresh id member)
      · change marked.tableIds.Nodup
        rw [ids]
        exact declared.distinct
      · intro index member
        have known := declared.carried index member
        change (marked.table? index.table).isSome
        rw [Schema.table?_isSome_iff, ids, ← Schema.table?_isSome_iff]
        exact known
      · intro relationship member
        rcases List.mem_append.mp member with old | new
        · exact resolves _ (declared.resolves relationship old)
        · cases List.mem_singleton.mp new
          exact resolves spec known
      · exact declared.unconstrained

end Workspace

namespace Session

/-- What holds of a session whose database has been told of everything that was declared. -/
structure Mirrors (dialect : Dialect) (received : List Request) (session : Session)
    (statements : List String) : Prop where
  declared : session.workspace.IsDeclared
  speaks : session.mirrorDialect = dialect
  told : session.backend.map Backend.journal = some (received ++ statements.map Request.run)
  complete : statements.Perm (Ddl.declarations dialect session.schema)

variable {dialect : Dialect} {received : List Request} {session : Session}
variable {statements : List String}

/-- A change of which the database is told. -/
theorem Mirrors.finished
    (mirrors : session.Mirrors dialect received statements) {after : Workspace}
    (declared : after.IsDeclared) {told : List String}
    (adds : (Ddl.declarations dialect after.schema).Perm
      (Ddl.declarations dialect session.schema ++ told)) :
    (session.finished true after told).Mirrors dialect received (statements ++ told) := by
  constructor
  · rw [finished_workspace]
    exact declared
  · rw [finished_mirrorDialect]
    exact mirrors.speaks
  · obtain ⟨backend, attached, journal⟩ := Option.map_eq_some_iff.mp mirrors.told
    rw [finished_backend, attached, Option.map_some, Option.map_some, journal_runAll, journal,
      List.map_append, List.append_assoc]
  · rw [Session.schema, finished_workspace]
    exact (mirrors.complete.append_right _).trans adds.symm

/-! ### One command -/

theorem Mirrors.addTable
    (mirrors : session.Mirrors dialect received statements) (spec : TableSpec) :
    ∃ told,
      (session.after (.perform (.addTable spec))).Mirrors dialect received (statements ++ told) := by
  let table := session.workspace.newTable spec
  let later := session.workspace.changed (spec.columns.length + 1) fun schema =>
    { schema with tables := schema.tables ++ [table] }
  have step : session.workspace.Step (.addTable spec) later := .addTable spec
  obtain ⟨declared, found⟩ := mirrors.declared.addTable step
  have ran : session.after (.perform (.addTable spec)) = session.finished true later
      [Ddl.createTable dialect later.schema table] := by
    change ((SessionM.addTable spec).run session).2 = _
    rw [SessionM.addTable, SessionM.run_carry, Edit.run_addTable]
    dsimp only
    rw [SessionM.creation, found, mirrors.speaks]
    rfl
  have tables : later.schema.tables = session.schema.tables ++ [table] := rfl
  have adds := Ddl.declarations_addTable dialect mirrors.declared.carried
    mirrors.declared.resolves tables rfl rfl rfl
  rw [ran]
  exact ⟨_, mirrors.finished declared adds⟩

theorem Mirrors.addIndex
    (mirrors : session.Mirrors dialect received statements) {spec : IndexSpec}
    (known : (session.schema.table? spec.table).isSome) :
    ∃ told,
      (session.after (.perform (.addIndex spec))).Mirrors dialect received (statements ++ told) := by
  let index : Index := { spec with id := { number := session.workspace.nextId } }
  let later := session.workspace.changed 1 fun schema =>
    { schema with indexes := schema.indexes ++ [index] }
  have step : session.workspace.Step (.addIndex spec) later := .addIndex spec
  have ran : session.after (.perform (.addIndex spec)) = session.finished true later
      (Ddl.declaredIndex? dialect session.schema spec).toList := by
    change ((SessionM.addIndex spec).run session).2 = _
    rw [SessionM.addIndex, SessionM.run_carry, mirrors.speaks]
    rfl
  have indexes : later.schema.indexes = session.schema.indexes ++ [index] := rfl
  have tables : later.schema.tables = session.schema.tables := rfl
  have adds := Ddl.declarations_addIndex dialect tables indexes rfl rfl
  rw [ran]
  exact ⟨_, mirrors.finished (mirrors.declared.addIndex step known) adds⟩

theorem Mirrors.addRelationship
    (mirrors : session.Mirrors dialect received statements) {spec : RelationshipSpec}
    (known : (session.schema.endpoints? spec).isSome) :
    ∃ told, (session.after (.perform (.addRelationship spec))).Mirrors dialect received
      (statements ++ told) := by
  let relationship : Relationship := { spec with id := { number := session.workspace.nextId } }
  let later := session.workspace.changed 1 fun schema =>
    { schema.changeTable spec.sourceTable (Table.mark spec.sourceColumn) with
      relationships := schema.relationships ++ [relationship] }
  have step : session.workspace.Step (.addRelationship spec) later := .addRelationship spec
  have ran : session.after (.perform (.addRelationship spec)) = session.finished true later
      (Ddl.foreignKey? dialect later.schema spec).toList := by
    change ((SessionM.addRelationship spec).run session).2 = _
    rw [SessionM.addRelationship, SessionM.run_carry, mirrors.speaks]
    rfl
  have tables : later.schema.tables =
      (session.schema.changeTable spec.sourceTable (Table.mark spec.sourceColumn)).tables := rfl
  have relationships :
      later.schema.relationships = session.schema.relationships ++ [relationship] := rfl
  have keepsId (table : Table) : (table.mark spec.sourceColumn).id = table.id := rfl
  have unconstrained : later.schema.constraints = [] := mirrors.declared.unconstrained
  have adds := Ddl.declarations_addRelationship dialect keepsId
    (Table.shape_mark spec.sourceColumn) mirrors.declared.unconstrained unconstrained tables rfl
    relationships
  rw [ran]
  exact ⟨_, mirrors.finished (mirrors.declared.addRelationship step known) adds⟩

theorem Mirrors.step
    (mirrors : session.Mirrors dialect received statements) {command : Command}
    (declares : command.Declares session.schema) :
    ∃ told, (session.after (.perform command)).Mirrors dialect received (statements ++ told) := by
  cases command with
  | addTable spec => exact mirrors.addTable spec
  | addIndex spec => exact mirrors.addIndex declares
  | addRelationship spec => exact mirrors.addRelationship declares
  | _ => exact declares.elim

/-! ### A run of commands -/

theorem Mirrors.afterAll
    (mirrors : session.Mirrors dialect received statements) {commands : List Command}
    (declare : session.AllDeclare commands) :
    ∃ told, (session.afterAll commands).Mirrors dialect received told := by
  induction commands generalizing session statements with
  | nil => exact ⟨statements, mirrors⟩
  | cons command commands ih =>
      obtain ⟨declares, rest⟩ := declare
      obtain ⟨told, later⟩ := mirrors.step declares
      exact ih later rest

/-- After tables, indexes of tables that exist and relationships between ends that exist have been
added to an empty schema, the database has been told what the creation script of the schema says,
in some order, but for the indexes that are implied. -/
theorem mirrored_perm_creations
    {backend : Backend} {commands : List Command} (attached : session.backend = some backend)
    (empty : session.schema.IsEmpty) (declare : session.AllDeclare commands) :
    let later := session.afterAll commands
    ∃ told statements, later.backend = some told ∧
      told.journal = backend.journal ++ statements.map Request.run ∧
        (statements ++ Ddl.impliedStatements session.mirrorDialect later.schema).Perm
          (Ddl.creations session.mirrorDialect later.schema) := by
  intro later
  have start : session.Mirrors session.mirrorDialect backend.journal [] := by
    constructor
    · exact empty.isDeclared
    · rfl
    · rw [attached, Option.map_some, List.map_nil, List.append_nil]
    · rw [Ddl.declarations, empty.tables, empty.indexes, empty.relationships]
      exact .refl _
  obtain ⟨statements, mirrors⟩ := start.afterAll declare
  obtain ⟨told, attachedLater, journal⟩ := Option.map_eq_some_iff.mp mirrors.told
  refine ⟨told, statements, attachedLater, journal, ?_⟩
  exact (mirrors.complete.append_right _).trans
    (Ddl.declarations_perm session.mirrorDialect mirrors.declared.distinct)

/-- Two tables, an index and a relationship between them, where one column is marked as indexed. -/
theorem mirrored_perm_creations_shop :
    let session := { Session.ofConfig {} 0 default with
      backend := some { respond := fun _ _ => .ok default }
      mirrorDialect := .oracle }
    let commands : List Command :=
      [.addTable { name := "users", columns := [{ name := "email", dataType := "TEXT" }] },
        .addTable
          { name := "orders"
            columns := [{ name := "buyer", dataType := "TEXT", isIndexed := true }] },
        .addIndex { name := "by_email", table := ⟨1⟩, columns := ["email"], isUnique := true },
        .addRelationship
          { name := none
            sourceTable := ⟨3⟩
            sourceColumn := ⟨2⟩
            targetTable := ⟨1⟩
            targetColumn := ⟨0⟩
            cardinality := .oneToMany }]
    let later := session.afterAll commands
    session.schema.IsEmpty ∧ session.AllDeclare commands ∧
      ∃ told statements, later.backend = some told ∧
        told.journal = statements.map Request.run ∧
          (statements ++ Ddl.impliedStatements .oracle later.schema).Perm
            (Ddl.creations .oracle later.schema) := by
  intro session commands later
  have empty : session.schema.IsEmpty := ⟨rfl, rfl, rfl, rfl⟩
  have declare : session.AllDeclare commands := ⟨trivial, trivial, rfl, rfl, trivial⟩
  have attached : session.backend = some { respond := fun _ _ => .ok default } := rfl
  exact ⟨empty, declare, mirrored_perm_creations attached empty declare⟩

/-- The database is not told of the index that a column `email` has for being marked as indexed. -/
theorem mirrored_misses_implied_index :
    let session := { Session.ofConfig {} 0 default with
      backend := some { respond := fun _ _ => .ok default }
      mirrorDialect := .postgreSql }
    let commands : List Command :=
      [.addTable
        { name := "users"
          columns := [{ name := "email", dataType := "TEXT", isIndexed := true }] }]
    let later := session.afterAll commands
    session.schema.IsEmpty ∧ session.AllDeclare commands ∧
      ∀ (told : Backend) (statements : List String), later.backend = some told →
        told.journal = statements.map Request.run →
          ¬ statements.Perm (Ddl.creations .postgreSql later.schema) := by
  intro session commands later
  refine ⟨⟨rfl, rfl, rfl, rfl⟩, ⟨trivial, trivial⟩, ?_⟩
  intro told statements attached journal same
  have once : later.backend.map (fun told => told.journal.length) = some 1 := by
    decide +kernel
  have twice : (Ddl.creations .postgreSql later.schema).length = 2 := by
    decide +kernel
  rw [attached, Option.map_some, journal, List.length_map, same.length_eq, twice] at once
  cases once

end Session

end SchemaDesign
