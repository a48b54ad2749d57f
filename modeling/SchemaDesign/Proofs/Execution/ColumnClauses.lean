import SchemaDesign.Proofs.Execution.ForeignKeys
import SchemaDesign.Proofs.Execution.SingleSteps
import SchemaDesign.Proofs.Schema.Consistency

/-!
# Checks and references in the definitions of columns

The check and the reference that the definition of a column brings with it are added once the
column exists.  They only add to the schema: what was added stays, and names go on meaning the same.
So what a definition has kept of its clauses is found in the end, or a warning tells why not.  The
definition that a column is modified to is used without its clauses.
-/

namespace SchemaDesign

open Sql (ColumnDef CreateTable Modifier Statement StatementSource TableConstraint)

/-! ## Schemas that grow -/

namespace Schema

/-- The constraints of a schema, without their identities. -/
def constraintSpecs (schema : Schema) : List ConstraintSpec :=
  schema.constraints.map fun constraint => constraint.toConstraintSpec

/-- The identities of the tables with the identities and names of their columns. -/
def namedColumns (schema : Schema) : List (TableId × List (ColumnId × String)) :=
  schema.tables.map fun table =>
    (table.id, table.columns.map fun column => (column.id, column.name))

/-- The identity of the first column of a name in the table of an identity. -/
def columnCalled? (schema : Schema) (id : TableId) (name : String) : Option ColumnId :=
  ((schema.table? id).bind fun table => table.columnNamed? name).map fun column => column.id

theorem columnCalled?_eq (schema : Schema) (id : TableId) (name : String) :
    schema.columnCalled? id name =
      (schema.namedColumns.find? fun entry => entry.1 == id).bind fun entry =>
        (entry.2.find? fun column => Text.same column.2 name).map fun column => column.1 := by
  rw [namedColumns, List.find?_map, columnCalled?, table?]
  change _ = ((schema.tables.find? fun table => table.id == id).map _).bind _
  cases schema.tables.find? fun table => table.id == id with
  | none => rfl
  | some table =>
      change (table.columnNamed? name).map _ =
        ((table.columns.map fun column => (column.id, column.name)).find? _).map _
      rw [List.find?_map, Option.map_map]
      rfl

theorem columnCalled?_isSome_iff {schema : Schema} {id : TableId} {table : Table} {name : String}
    (found : schema.table? id = some table) :
    (schema.columnCalled? id name).isSome ↔
      ∃ column ∈ table.columns, Text.same column.name name = true := by
  rw [columnCalled?, found, Option.isSome_map, Option.bind_some, Table.columnNamed?,
    List.find?_isSome]

/-- A schema has the tables and columns of an earlier one under the same names, and its constraints
and relationships, perhaps with more after them. -/
structure Extends (earlier later : Schema) : Prop where
  tables : later.tableNames = earlier.tableNames
  columns : later.namedColumns = earlier.namedColumns
  constraints : earlier.constraintSpecs <+: later.constraintSpecs
  relationships : earlier.relationshipSpecs <+: later.relationshipSpecs

theorem Extends.refl (schema : Schema) : schema.Extends schema :=
  ⟨rfl, rfl, List.prefix_rfl, List.prefix_rfl⟩

section

variable {first middle last : Schema}

theorem Extends.trans (start : first.Extends middle) (rest : middle.Extends last) :
    first.Extends last :=
  ⟨rest.tables.trans start.tables, rest.columns.trans start.columns,
    start.constraints.trans rest.constraints, start.relationships.trans rest.relationships⟩

theorem Extends.called? (grows : first.Extends last) (name : String) :
    last.called? name = first.called? name := by
  rw [called?_eq, called?_eq, grows.tables]

theorem Extends.columnCalled? (grows : first.Extends last) (id : TableId) (name : String) :
    last.columnCalled? id name = first.columnCalled? id name := by
  rw [columnCalled?_eq, columnCalled?_eq, grows.columns]

end

end Schema

/-- Whether a command adds a relationship, an index or a constraint. -/
def Command.IsAddition : Command → Prop
  | .addRelationship _ | .addIndex _ | .addConstraint _ => True
  | _ => False

theorem Workspace.Step.extends
    {before after : Workspace} {command : Command} (step : before.Step command after)
    (addition : command.IsAddition) : before.schema.Extends after.schema := by
  cases step with
  | addRelationship spec =>
      refine ⟨map_changeFirst fun _ _ => rfl, map_changeFirst ?_, List.prefix_rfl, ?_⟩
      · intro table _
        exact congrArg (Prod.mk table.id) (map_changeFirst fun _ _ => rfl)
      · exact (List.prefix_append _ _).map _
  | addIndex spec => exact ⟨rfl, rfl, List.prefix_rfl, List.prefix_rfl⟩
  | addConstraint spec =>
      exact ⟨rfl, rfl, (List.prefix_append _ _).map _, List.prefix_rfl⟩
  | _ => exact addition.elim

/-! ## Clauses -/

/-- An entry of a list that comes after the entries of an earlier one. -/
def Gained {α : Type} (earlier later : List α) (x : α) : Prop :=
  ∃ added, later = earlier ++ added ∧ x ∈ added

theorem Gained.mono
    {α : Type} {earliest earlier later latest : List α} {x : α} (gained : Gained earlier later x)
    (start : earliest <+: earlier) (rest : later <+: latest) : Gained earliest latest x := by
  obtain ⟨added, rfl, member⟩ := gained
  obtain ⟨before, rfl⟩ := start
  obtain ⟨after, rfl⟩ := rest
  refine ⟨before ++ added ++ after, by simp only [List.append_assoc], ?_⟩
  exact List.mem_append_left _ (List.mem_append_right _ member)

namespace Sql

namespace Modifier

/-- Whether a modifier takes the place of another in the definition of a column. -/
def replaces : Modifier → Modifier → Bool
  | .check _, .check _ => true
  | .references _, .references _ => true
  | _, _ => false

/-- The modifiers that no later one replaces. -/
def lasting : List Modifier → List Modifier
  | [] => []
  | modifier :: modifiers =>
      if modifiers.any fun later => later.replaces modifier then lasting modifiers
      else modifier :: lasting modifiers

/-- What a modifier asks for beyond the column has been added to a schema: a check of the column, or
a relationship from the column to the table that it refers to. -/
def IsApplied (before after : Schema) (table : TableId) (column : ColumnId) : Modifier → Prop
  | .check expression =>
      ∃ name, Gained before.constraintSpecs after.constraintSpecs
        { name, kind := .check, table, column := some column, expression := some expression }
  | .references target =>
      ∃ spec, Gained before.relationshipSpecs after.relationshipSpecs spec ∧
        spec.sourceTable = table ∧ spec.sourceColumn = column ∧
        after.called? target.table = some spec.targetTable
  | _ => True

theorem IsApplied.mono
    {earliest earlier later latest : Schema} {table : TableId} {column : ColumnId}
    {modifier : Modifier} (applied : modifier.IsApplied earlier later table column)
    (constraints : earliest.constraintSpecs <+: earlier.constraintSpecs)
    (relationships : earliest.relationshipSpecs <+: earlier.relationshipSpecs)
    (grows : later.Extends latest) : modifier.IsApplied earliest latest table column := by
  cases modifier with
  | check expression =>
      obtain ⟨name, gained⟩ := applied
      exact ⟨name, gained.mono constraints grows.constraints⟩
  | references target =>
      obtain ⟨spec, gained, source, sourceColumn, called⟩ := applied
      refine ⟨spec, gained.mono relationships grows.relationships, source, sourceColumn, ?_⟩
      rw [grows.called?]
      exact called
  | _ => trivial

end Modifier

namespace ColumnDef

/-- The check and the reference that are left of the modifiers of a column. -/
def clauses (column : ColumnDef) : List Modifier :=
  (column.check.map Modifier.check).toList ++ (column.references.map Modifier.references).toList

theorem modify_clauses_of_unreplaced
    {clause modifier : Modifier} {column : ColumnDef} (kept : clause ∈ column.clauses)
    (unreplaced : modifier.replaces clause = false) :
    clause ∈ (column.modify modifier).clauses := by
  cases modifier with
  | check expression =>
      rcases List.mem_append.mp kept with check | references
      · obtain ⟨old, _, rfl⟩ := Option.map_eq_some_iff.mp (Option.mem_toList.mp check)
        cases unreplaced
      · exact List.mem_append_right _ references
  | references target =>
      rcases List.mem_append.mp kept with check | references
      · exact List.mem_append_left _ check
      · obtain ⟨old, _, rfl⟩ := Option.map_eq_some_iff.mp (Option.mem_toList.mp references)
        cases unreplaced
  | _ => exact kept

theorem foldl_modify_clauses
    {clause : Modifier} {modifiers : List Modifier} {column : ColumnDef}
    (kept : clause ∈ column.clauses)
    (unreplaced : ∀ modifier ∈ modifiers, modifier.replaces clause = false) :
    clause ∈ (modifiers.foldl modify column).clauses := by
  induction modifiers generalizing column with
  | nil => exact kept
  | cons modifier modifiers ih =>
      apply ih (modify_clauses_of_unreplaced kept (unreplaced modifier List.mem_cons_self))
      intro later member
      exact unreplaced later (List.mem_cons_of_mem _ member)

/-- A modifier that no later one replaces is among the clauses of the column, or it has nothing to
add beyond the column. -/
theorem mem_clauses_of_lasting
    {clause : Modifier} {modifiers : List Modifier} {column : ColumnDef}
    (member : clause ∈ Modifier.lasting modifiers) :
    clause ∈ (modifiers.foldl modify column).clauses ∨
      ∀ before after table columnId, clause.IsApplied before after table columnId := by
  induction modifiers generalizing column with
  | nil => cases member
  | cons modifier modifiers ih =>
      rw [Modifier.lasting] at member
      split at member
      · exact ih member
      · next unreplaced =>
          rcases List.mem_cons.mp member with rfl | member
          · have unreplaced : ∀ later ∈ modifiers, later.replaces clause = false := by
              simpa using unreplaced
            cases clause with
            | check expression =>
                have kept : .check expression ∈ (column.modify (.check expression)).clauses :=
                  List.mem_append_left _ List.mem_cons_self
                left
                rw [List.foldl_cons]
                exact foldl_modify_clauses kept unreplaced
            | references target =>
                have kept : .references target ∈ (column.modify (.references target)).clauses :=
                  List.mem_append_right _ List.mem_cons_self
                left
                rw [List.foldl_cons]
                exact foldl_modify_clauses kept unreplaced
            | _ => exact .inr fun _ _ _ _ => trivial
          · exact ih member

/-- A table has a column of the name of a definition, and the clauses of the definition have been
added for it. -/
def IsApplied (before after : Schema) (table : TableId) (column : ColumnDef) : Prop :=
  ∃ columnId, after.columnCalled? table column.name = some columnId ∧
    ∀ clause ∈ column.clauses, clause.IsApplied before after table columnId

theorem IsApplied.mono
    {earliest earlier later latest : Schema} {table : TableId} {column : ColumnDef}
    (applied : column.IsApplied earlier later table)
    (constraints : earliest.constraintSpecs <+: earlier.constraintSpecs)
    (relationships : earliest.relationshipSpecs <+: earlier.relationshipSpecs)
    (grows : later.Extends latest) : column.IsApplied earliest latest table := by
  obtain ⟨columnId, called, clauses⟩ := applied
  refine ⟨columnId, (grows.columnCalled? table column.name).trans called, ?_⟩
  intro clause member
  exact (clauses clause member).mono constraints relationships grows

end ColumnDef

end Sql

namespace Execution

/-! ## Steps that only add -/

section

variable {held : Schema → Prop}
variable (grows : ∀ {earlier later : Schema}, held earlier → earlier.Extends later → held later)

include grows

/-- What a schema does not lose as it grows is kept by what adds to it. -/
theorem keeps_addition (command : Command) (addition : command.IsAddition) :
    (SessionM.perform command).Keeps fun session => held session.schema := by
  intro session holds
  rcases session.perform_workspace command with unchanged | step
  · change held (Session.workspace _).schema
    rw [unchanged]
    exact holds
  · exact grows holds (step.extends addition)

theorem keeps_linkForeignKey_of_grows (id : TableId) (tableName : String) (key : ForeignKey) :
    Keeps (fun session => held session.schema) (linkForeignKey id tableName key) := by
  apply keeps_linkForeignKey
  intro spec
  exact keeps_addition grows (.addRelationship spec) trivial

theorem keeps_addFree
    (id : TableId) (tableName : String) {constraint : TableConstraint} (free : IsFree constraint) :
    Keeps (fun session => held session.schema) (addConstraint id tableName constraint) := by
  have indexes (name : String) (columns : List String) (isUnique : Bool) :
      Keeps (fun session => held session.schema) (addIndex id name columns isUnique) :=
    .always (keeps_addition grows (.addIndex { name, table := id, columns, isUnique }) trivial)
  cases constraint with
  | primaryKey columns => exact free.elim
  | unique name columns =>
      have several : 1 < columns.length := free
      change Keeps _ (if 1 < columns.length then _ else _)
      rw [if_pos several]
      apply Keeps.bind (indexes _ _ _)
      intro _
      exact .pure _
  | index name columns =>
      apply Keeps.bind (indexes _ _ _)
      intro _
      exact .pure _
  | check name expression =>
      have checks (spec : ConstraintSpec) :
          (SessionM.perform (.addConstraint spec)).Keeps fun session => held session.schema :=
        keeps_addition grows (.addConstraint spec) trivial
      exact keeps_check checks tableName name expression
  | foreignKey name columns references =>
      exact keeps_linkForeignKey_of_grows grows id tableName _

end

/-! ## The clauses of a column -/

/-- A foreign key of one column that exists becomes one relationship, unless there is a warning. -/
theorem links_of_silent
    {schema : Schema} {source : Table} {name tableName : String} {references : Sql.ForeignRef}
    {sourceColumn : Column} (found : source.columnNamed? name = some sourceColumn)
    (silent : (ForeignKey.links { name := none, columns := [name], references } schema tableName
      source).warnings = []) :
    ∃ target targetColumn, schema.tableNamed? references.table = some target ∧
      (ForeignKey.links { name := none, columns := [name], references } schema tableName
        source).relationships =
          [keySpec ("fk_" ++ tableName ++ "_" ++ sourceColumn.name) source sourceColumn target
            targetColumn] := by
  cases targetFound : schema.tableNamed? references.table with
  | none => simp [ForeignKey.links, targetFound] at silent
  | some target =>
      simp only [ForeignKey.links, targetFound, List.append_eq_nil_iff] at silent ⊢
      obtain ⟨⟨_, counted⟩, _⟩ := silent
      -- Without a warning on the numbers of columns there is one column to refer to.
      rw [ForeignKey.countWarnings] at counted
      split at counted
      · next single =>
          obtain ⟨targetColumn, only⟩ := List.length_eq_one_iff.mp single
          refine ⟨target, targetColumn, rfl, ?_⟩
          rw [only, List.zip_cons_cons, ForeignKey.pairLinks, found]
          rfl
      · cases counted

section

variable {id : TableId} {before : Schema} (tableName : String)

theorem applies_reference
    {name : String} {columnId : ColumnId} (references : Sql.ForeignRef)
    (called : before.columnCalled? id name = some columnId) :
    Leads (fun session => session.schema = before)
      (linkForeignKey id tableName { name := none, columns := [name], references })
      (fun warnings later => before.Extends later.schema ∧
        (warnings = [] →
          (Modifier.references references).IsApplied before later.schema id columnId))
      fun _ => False := by
  rintro session rfl
  obtain ⟨sourceColumn, held, rfl⟩ := Option.map_eq_some_iff.mp called
  obtain ⟨source, found, columnFound⟩ := Option.bind_eq_some_iff.mp held
  obtain ⟨later, ran, added⟩ :=
    linkForeignKey_specs found tableName { name := none, columns := [name], references }
  have kept := keeps_linkForeignKey_of_grows Schema.Extends.trans id tableName
    { name := none, columns := [name], references } session (.refl session.schema)
  rw [ran] at kept ⊢
  refine ⟨kept, fun silent => ?_⟩
  obtain ⟨target, targetColumn, targetFound, single⟩ := links_of_silent columnFound silent
  refine ⟨_, ⟨_, added, single ▸ List.mem_singleton_self _⟩, ?_, rfl, ?_⟩
  · exact (Schema.mem_of_table? found).2
  · rw [kept.called?, Schema.called?, targetFound]
    rfl

theorem addConstraint_specs (spec : ConstraintSpec) :
    Succeeds (fun session => session.schema = before)
      (always (discard (SessionM.addConstraint spec)))
      (fun later => before.Extends later.schema ∧
        later.schema.constraintSpecs = before.constraintSpecs ++ [spec]) := by
  apply Leads.always
  rintro session rfl
  constructor
  · exact keeps_addition Schema.Extends.trans (.addConstraint spec) trivial session (.refl _)
  · change ((SessionM.addConstraint spec).run session).2.schema.constraintSpecs = _
    rw [SessionM.addConstraint, SessionM.run_carry, Session.schema, Session.finished_workspace]
    exact List.map_append

/-- The reference of a column is added to a schema that the check has been added to. -/
theorem applies_checked
    {column : ColumnDef} {columnId : ColumnId} {middle : Schema}
    (called : before.columnCalled? id column.name = some columnId)
    (grown : before.Extends middle)
    (checked : ∀ expression, column.check = some expression →
      (Modifier.check expression).IsApplied before middle id columnId) :
    Leads (fun session => session.schema = middle)
      (addExtras id tableName { column with check := none })
      (fun warnings later => before.Extends later.schema ∧
        (warnings = [] → column.IsApplied before later.schema id))
      fun _ => False := by
  rw [addExtras]
  cases referred : column.references with
  | none =>
      apply Leads.pure
      rintro session rfl
      refine ⟨grown, fun _ => ⟨columnId, (grown.columnCalled? id _).trans called, ?_⟩⟩
      intro clause member
      rw [ColumnDef.clauses, referred, Option.map_none, Option.toList_none, List.append_nil,
        Option.mem_toList, Option.map_eq_some_iff] at member
      obtain ⟨expression, found, rfl⟩ := member
      exact checked expression found
  | some references =>
      have adds := applies_reference tableName references
        ((grown.columnCalled? id column.name).trans called)
      apply Leads.weaken adds _ fun _ impossible => impossible
      rintro warnings later ⟨grows, applied⟩
      refine ⟨grown.trans grows, fun silent => ?_⟩
      refine ⟨columnId, ((grown.trans grows).columnCalled? id _).trans called, ?_⟩
      intro clause member
      rcases List.mem_append.mp member with check | reference
      · obtain ⟨expression, found, rfl⟩ := Option.map_eq_some_iff.mp (Option.mem_toList.mp check)
        exact (checked expression found).mono List.prefix_rfl List.prefix_rfl grows
      · rw [referred] at reference
        obtain rfl := List.mem_singleton.mp reference
        exact (applied silent).mono grown.constraints grown.relationships (.refl _)

/-- The clauses of a column that exists are added, or there is a warning. -/
theorem applies_addExtras
    {column : ColumnDef} {columnId : ColumnId}
    (called : before.columnCalled? id column.name = some columnId) :
    Leads (fun session => session.schema = before) (addExtras id tableName column)
      (fun warnings later => before.Extends later.schema ∧
        (warnings = [] → column.IsApplied before later.schema id))
      fun _ => False := by
  cases asked : column.check with
  | none =>
      have same : { column with check := none } = column := by rw [← asked]
      have adds := applies_checked tableName called (.refl before) (by simp [asked])
      rwa [same] at adds
  | some expression =>
      rw [addExtras, asked]
      apply Leads.current_bind
      rintro session rfl
      have known : ((session.schema.table? id).bind fun table =>
          table.columnNamed? column.name).map (fun known => known.id) = some columnId := called
      dsimp only
      rw [known]
      apply Leads.strengthen _ fun _ both => both.1
      apply Leads.bind ((addConstraint_specs _).leads fun _ _ added => added)
      intro _ later added
      refine applies_checked tableName called added.1 ?_ later rfl
      intro other found
      cases asked.symm.trans found
      exact ⟨_, [_], added.2, List.mem_singleton_self _⟩

theorem applies_columns
    {columns : List ColumnDef}
    (called : ∀ column ∈ columns, (before.columnCalled? id column.name).isSome) :
    Leads (fun session => session.schema = before) (columns.mapM (addExtras id tableName))
      (fun warnings later => before.Extends later.schema ∧
        (warnings.flatten = [] → ∀ column ∈ columns, column.IsApplied before later.schema id))
      fun _ => False := by
  induction columns generalizing before with
  | nil =>
      rw [List.mapM_nil]
      apply Leads.pure
      rintro session rfl
      exact ⟨.refl _, fun _ _ member => absurd member List.not_mem_nil⟩
  | cons column columns ih =>
      rw [List.mapM_cons]
      obtain ⟨columnId, found⟩ := Option.isSome_iff_exists.mp (called column List.mem_cons_self)
      apply Leads.bind (applies_addExtras tableName found)
      intro first session middle
      have calledRest : ∀ other ∈ columns,
          (session.schema.columnCalled? id other.name).isSome := by
        intro other member
        rw [middle.1.columnCalled?]
        exact called other (List.mem_cons_of_mem _ member)
      refine Leads.bind (ih calledRest) ?_ session rfl
      intro others
      apply Leads.pure
      rintro later ⟨grows, applied⟩
      refine ⟨middle.1.trans grows, fun silent => ?_⟩
      rw [List.flatten_cons, List.append_eq_nil_iff] at silent
      intro other member
      rcases List.mem_cons.mp member with rfl | member
      · exact (middle.2 silent.1).mono List.prefix_rfl List.prefix_rfl grows
      · exact (applied silent.2 other member).mono middle.1.constraints middle.1.relationships
          (.refl _)

/-- The clauses that have been added stay when the constraints of a table are added. -/
theorem keeps_applied
    (id : TableId) (before : Schema) (warnings : List (List String)) (columns : List ColumnDef)
    {constraints : List TableConstraint} (free : ∀ constraint ∈ constraints, IsFree constraint) :
    Keeps
      (fun later => before.Extends later.schema ∧
        (warnings.flatten = [] → ∀ column ∈ columns, column.IsApplied before later.schema id))
      (constraints.mapM (addConstraint id tableName)) := by
  let held (schema : Schema) : Prop :=
    before.Extends schema ∧
      (warnings.flatten = [] → ∀ column ∈ columns, column.IsApplied before schema id)
  have grows {earlier later : Schema} (holds : held earlier) (more : earlier.Extends later) :
      held later := by
    refine ⟨holds.1.trans more, fun silent column member => ?_⟩
    exact (holds.2 silent column member).mono List.prefix_rfl List.prefix_rfl more
  apply Keeps.mapM
  intro constraint member
  exact keeps_addFree grows id tableName (free constraint member)

end

/-! ## Tables and their columns -/

section

variable {session : Session}

/-- The name of a new table means it, and the names of its columns mean columns of it. -/
theorem calls_addTable
    (spec : TableSpec) (fresh : session.workspace.IsFresh)
    (free : session.schema.hasTable spec.name = false) :
    Leads (fun begun => begun = session) (always (SessionM.addTable spec))
      (fun id later =>
        later.schema.constraintSpecs = session.schema.constraintSpecs ∧
          later.schema.relationshipSpecs = session.schema.relationshipSpecs ∧
          later.schema.called? spec.name = some id ∧
          ∀ column ∈ spec.columns, (later.schema.columnCalled? id column.name).isSome)
      fun _ => False := by
  apply Leads.always
  rintro session rfl
  rw [SessionM.addTable, SessionM.run_carry, Edit.run_addTable, Session.schema,
    Session.finished_workspace]
  let table := session.workspace.newTable spec
  let after : Schema :=
    { session.schema with
      tables := session.schema.tables ++ [table]
      updatedAt := session.workspace.now }
  have called : after.tableNamed? spec.name = some table :=
    find?_append_cons [] (Schema.hasTable_eq_false_iff.mp free) (Text.same_refl spec.name)
  have found : after.table? table.id = some table := by
    have self : (table.id == table.id) = true := beq_self_eq_true table.id
    refine find?_append_cons [] ?_ self
    intro other member
    have bound := fresh.tables other.id (List.mem_map_of_mem member)
    apply beq_false_of_ne
    intro same
    rw [same] at bound
    change session.workspace.nextId + spec.columns.length < session.workspace.nextId at bound
    omega
  refine ⟨rfl, rfl, ?_, ?_⟩
  · change (after.tableNamed? spec.name).map _ = some table.id
    rw [called]
    rfl
  · intro column member
    obtain ⟨numbered, numberedMember, rfl⟩ := exists_mem_numberedFrom member
    exact (Schema.columnCalled?_isSome_iff found).mpr
      ⟨numbered, numberedMember, Text.same_refl _⟩

/-- A name of a table goes on meaning it when it is given a column, whose name means one of its
columns. -/
theorem calls_alterTable_add
    {id : TableId} {tableName : String} (called : session.schema.called? tableName = some id)
    (spec : ColumnSpec) :
    Leads (fun later => later.schema = session.schema)
      (discard (attempt (SessionM.alterTable id (.add spec))))
      (fun _ later =>
        later.schema.constraintSpecs = session.schema.constraintSpecs ∧
          later.schema.relationshipSpecs = session.schema.relationshipSpecs ∧
          later.schema.called? tableName = some id ∧
          (later.schema.columnCalled? id spec.name).isSome)
      fun _ => True := by
  have performs : SessionM.perform (.alterTable id (.add spec)) =
      do return (← SessionM.alterTable id (.add spec)).map Answer.id := rfl
  apply Leads.discard
  apply Leads.weaken (Leads.attempt_command performs _) (fun _ _ holds => holds)
    (fun _ _ => trivial)
  intro later same workspace statements step
  have names := step.keeps_tableNames trivial
  rw [← same] at called ⊢
  rw [Session.schema, Session.finished_workspace]
  cases step with
  | addColumn spec found =>
      refine ⟨rfl, rfl, ?_, ?_⟩
      · rw [Schema.called?_eq, names, ← Schema.called?_eq]
        exact called
      · let change (table : Table) : Table :=
          { table with
            columns := table.columns ++ [{ spec with id := { number := later.workspace.nextId } }] }
        have keepsId (table : Table) : (change table).id = table.id := rfl
        have changed : (later.schema.changeTable id change).table? id =
            (later.schema.table? id).map change := Schema.table?_changeTable keepsId
        rw [Session.schema, found] at changed
        exact (Schema.columnCalled?_isSome_iff changed).mpr
          ⟨_, List.mem_append_right _ (List.mem_singleton_self _), Text.same_refl _⟩

/-- After the columns everything else is added to the table, and nothing is lost by that. -/
theorem applies_createTable (definition : CreateTable) (fresh : session.workspace.IsFresh) :
    Leads (fun begun => begun = session) (createTable definition)
      (fun effect later => effect.warnings = [] →
        session.schema.hasTable definition.name = false →
        ∃ id, later.schema.called? definition.name = some id ∧
          ∀ column ∈ definition.columns, column.IsApplied session.schema later.schema id)
      fun _ => True := by
  apply Leads.current_bind
  rintro session rfl
  apply Leads.strengthen _ fun _ known => known.1
  change Leads _ (if session.schema.hasTable definition.name then _ else _) _ _
  split
  · next taken =>
      split
      · apply Leads.pure
        intro _ _ _ free
        cases taken.symm.trans free
      · exact Leads.throw_bind fun _ _ => trivial
  · next free =>
      let name := definition.name
      let start : TablePlan :=
        { columns := definition.columns.map columnOf, deferred := [], warnings := [] }
      let plan := definition.constraints.foldl (TablePlan.constrain name) start
      have new : session.schema.hasTable name = false := by simpa using free
      have names : plan.columns.map (fun column => column.name) =
          definition.columns.map fun column => column.name :=
        (names_foldl_constrain name start definition.constraints).trans List.map_map
      apply Leads.bind (calls_addTable { name, columns := plan.columns } fresh new).of_unfailing
      rintro id middle ⟨constraints, relationships, called, columnsCalled⟩
      have columnsCalled : ∀ column ∈ definition.columns,
          (middle.schema.columnCalled? id column.name).isSome := by
        intro column member
        have listed : column.name ∈ plan.columns.map fun column => column.name :=
          names ▸ List.mem_map_of_mem (f := fun column : ColumnDef => column.name) member
        obtain ⟨planned, plannedMember, same⟩ := List.mem_map.mp listed
        exact same ▸ columnsCalled planned plannedMember
      refine Leads.bind (applies_columns name columnsCalled).of_unfailing ?_ middle rfl
      intro extras
      have none : ∀ waiting ∈ start.deferred, IsFree waiting := nofun
      have others := keeps_applied name id middle.schema extras definition.columns
        (free_of_mem_deferred name none definition.constraints)
      apply Leads.bind (Leads.weaken others (fun _ _ holds => holds) fun _ _ => trivial)
      intro rest
      apply Leads.pure
      rintro later ⟨more, applied⟩ silent _
      simp only [List.append_eq_nil_iff] at silent
      refine ⟨id, (more.called? name).trans called, fun column member => ?_⟩
      refine (applied silent.1.2 column member).mono ?_ ?_ (.refl _)
      · exact constraints ▸ List.prefix_rfl
      · exact relationships ▸ List.prefix_rfl

/-- A statement of one change says what the change says. -/
theorem leads_alterTable
    {tableName : String} {action : Sql.AlterAction} {after : ActionEffect → Session → Prop}
    (performs : ∀ id, session.schema.called? tableName = some id →
      Leads (fun later => later.schema = session.schema) (perform id tableName action) after
        fun _ => True) :
    Leads (fun begun => begun = session) (alterTable tableName [action])
      (fun effect later => ∃ made, effect.warnings = made.warnings ∧ after made later)
      fun _ => True := by
  apply Leads.current_bind
  rintro session rfl
  apply Leads.strengthen _ fun _ known => known.2
  cases found : session.schema.tableNamed? tableName with
  | none => exact Leads.throw fun _ _ => trivial
  | some table =>
      have called : session.schema.called? tableName = some table.id := by
        rw [Schema.called?, found]
        rfl
      have single : Leads (fun later => later.schema = session.schema)
          (performAll table.id tableName [action])
          (fun effects later => ∃ made, effects = [made] ∧ after made later) fun _ => True := by
        apply Leads.bind (performs table.id called)
        intro made
        exact Leads.pure fun later holds => ⟨made, rfl, holds⟩
      apply Leads.bind single
      intro effects
      apply Leads.pure
      rintro later ⟨made, rfl, holds⟩
      exact ⟨made, List.append_nil _, holds⟩

/-- A column that is added to a table has the clauses of its definition. -/
theorem applies_addColumn (tableName : String) (column : ColumnDef) :
    Leads (fun begun => begun = session) (alterTable tableName [.addColumn column])
      (fun effect later => effect.warnings = [] →
        ∃ id, later.schema.called? tableName = some id ∧
          column.IsApplied session.schema later.schema id)
      fun _ => True := by
  have performs (id : TableId) (called : session.schema.called? tableName = some id) :
      Leads (fun later => later.schema = session.schema)
        (perform id tableName (.addColumn column))
        (fun made later => made.warnings = [] →
          ∃ id, later.schema.called? tableName = some id ∧
            column.IsApplied session.schema later.schema id)
        fun _ => True := by
    apply Leads.bind (calls_alterTable_add called (columnOf column))
    rintro - middle ⟨constraints, relationships, calledMiddle, columnCalled⟩
    obtain ⟨columnId, columnCalled⟩ := Option.isSome_iff_exists.mp columnCalled
    refine Leads.bind (applies_addExtras tableName columnCalled).of_unfailing ?_ middle rfl
    intro warnings
    apply Leads.pure
    rintro later ⟨grows, applied⟩ silent
    refine ⟨id, (grows.called? tableName).trans calledMiddle, ?_⟩
    refine (applied silent).mono ?_ ?_ (.refl _)
    · exact constraints ▸ List.prefix_rfl
    · exact relationships ▸ List.prefix_rfl
  apply Leads.weaken (leads_alterTable performs) _ fun _ _ => trivial
  rintro effect later ⟨made, same, applied⟩ silent
  exact applied (same.symm.trans silent)

theorem unclaused_alterTable_modify (id : TableId) (name : String) (spec : ColumnSpec) :
    Leads (fun later => later.schema = session.schema)
      (discard (attempt (SessionM.alterTable id (.modify name spec))))
      (fun _ later => later.schema.constraintSpecs = session.schema.constraintSpecs ∧
        later.schema.relationshipSpecs = session.schema.relationshipSpecs)
      fun _ => True := by
  have performs : SessionM.perform (.alterTable id (.modify name spec)) =
      do return (← SessionM.alterTable id (.modify name spec)).map Answer.id := rfl
  apply Leads.discard
  apply Leads.weaken (Leads.attempt_command performs _) (fun _ _ holds => holds)
    (fun _ _ => trivial)
  intro later same workspace statements step
  rw [Session.schema, Session.finished_workspace, ← same]
  cases step with
  | modifyColumn _ found named =>
      dsimp only [Workspace.changed]
      split
      · exact ⟨rfl, rfl⟩
      · exact ⟨rfl, rfl⟩

/-- The definition that a column is modified to leaves its clauses behind. -/
theorem drops_modifyColumn (tableName : String) (column : ColumnDef) :
    Leads (fun begun => begun = session) (alterTable tableName [.modifyColumn column])
      (fun _ later => later.schema.constraintSpecs = session.schema.constraintSpecs ∧
        later.schema.relationshipSpecs = session.schema.relationshipSpecs)
      fun _ => True := by
  have performs (id : TableId) (_ : session.schema.called? tableName = some id) :
      Leads (fun later => later.schema = session.schema)
        (perform id tableName (.modifyColumn column))
        (fun _ later => later.schema.constraintSpecs = session.schema.constraintSpecs ∧
          later.schema.relationshipSpecs = session.schema.relationshipSpecs)
        fun _ => True := by
    apply Leads.bind (unclaused_alterTable_modify id column.name (columnOf column))
    intro _
    exact Leads.pure fun _ holds => holds
  apply Leads.weaken (leads_alterTable performs) _ fun _ _ => trivial
  rintro effect later ⟨_, _, same⟩
  exact same

end

end Execution

/-! ## Statements -/

/-- Whether a statement defines a column of the table of a name: the table is new and has that
column, or the column is all that it is given. -/
def Sql.Statement.Defines (schema : Schema) (tableName : String) (column : ColumnDef) :
    Statement → Prop
  | .createTable definition =>
      schema.hasTable definition.name = false ∧ definition.name = tableName ∧
        column ∈ definition.columns
  | .alterTable name actions => name = tableName ∧ actions = [.addColumn column]
  | _ => False

namespace Execution

theorem applies_defined
    {session : Session} (fresh : session.workspace.IsFresh) (text : String)
    {statement : Statement} {tableName : String} {column : ColumnDef}
    (defines : statement.Defines session.schema tableName column) :
    Leads (fun begun => begun = session) (apply text statement)
      (fun effect later => effect.warnings = [] →
        ∃ id, later.schema.called? tableName = some id ∧
          column.IsApplied session.schema later.schema id)
      fun _ => True := by
  cases statement with
  | createTable definition =>
      obtain ⟨free, rfl, member⟩ := defines
      apply Leads.weaken (applies_createTable definition fresh) _ fun _ _ => trivial
      intro effect later applied silent
      obtain ⟨id, called, columns⟩ := applied silent free
      exact ⟨id, called, columns column member⟩
  | alterTable name actions =>
      obtain ⟨rfl, rfl⟩ := defines
      exact applies_addColumn name column
  | dropTable tables ifExists => exact defines.elim
  | passthrough => exact defines.elim

end Execution

namespace Session

variable {session : Session} {source : StatementSource} {statement : Statement}

/-- What holds after a statement that succeeds holds of its report and the session after it. -/
theorem leads_executeStatement
    {after : Execution.Effect → Session → Prop}
    (read : Statement.ofText source.text = .ok statement)
    (leads : Execution.Leads (fun begun => begun = session) (Execution.apply source.text statement)
      after fun _ => True)
    (success : ((SessionM.executeStatement source).run session).1.success = true) :
    after ((SessionM.executeStatement source).run session).1.toEffect
      ((SessionM.executeStatement source).run session).2 := by
  have led := leads session rfl
  rw [Execution.run_executeStatement, Execution.applyText_of_read read] at success ⊢
  cases ran : (Execution.apply source.text statement).run.run session with
  | mk result later =>
      rw [ran] at led success
      cases result with
      | error error => cases success
      | ok effect => exact led

/-- When a statement defines columns and nothing is said about it, every column that it defines has
what its modifiers ask for, as far as they are not replaced: checks on the column and relationships
from the column.  A column that is only modified gets neither. -/
theorem column_clauses_applied
    (fresh : session.workspace.IsFresh) (read : Statement.ofText source.text = .ok statement)
    (success : ((SessionM.executeStatement source).run session).1.success = true) :
    let ran := (SessionM.executeStatement source).run session
    (ran.1.warnings = [] →
      ∀ tableName column, statement.Defines session.schema tableName column →
      ∀ modifiers : List Modifier, column = modifiers.foldl ColumnDef.modify
          { name := column.name, dataType := column.dataType } →
        ∃ id columnId, ran.2.schema.called? tableName = some id ∧
          ran.2.schema.columnCalled? id column.name = some columnId ∧
          ∀ modifier ∈ Modifier.lasting modifiers,
            modifier.IsApplied session.schema ran.2.schema id columnId) ∧
      ∀ tableName column, statement = .alterTable tableName [.modifyColumn column] →
        ran.2.schema.constraintSpecs = session.schema.constraintSpecs ∧
          ran.2.schema.relationshipSpecs = session.schema.relationshipSpecs := by
  intro ran
  constructor
  · intro silent tableName column defines modifiers made
    obtain ⟨id, called, columnId, columnCalled, applied⟩ := leads_executeStatement read
      (Execution.applies_defined fresh source.text defines) success silent
    refine ⟨id, columnId, called, columnCalled, ?_⟩
    intro modifier member
    rcases ColumnDef.mem_clauses_of_lasting member with clause | nothing
    · exact applied modifier (made ▸ clause)
    · exact nothing _ _ id columnId
  · rintro tableName column rfl
    exact leads_executeStatement read (Execution.drops_modifyColumn tableName column) success

/-- A new table refers to itself. -/
theorem column_clauses_applied_shop :
    let session : Session := .ofConfig {} 0 default
    let source : StatementSource :=
      ⟨"CREATE TABLE staff (id INT, boss INT CHECK (boss > 0) REFERENCES Staff (id))",
        default, default, true⟩
    let modifiers : List Modifier :=
      [.check "boss > 0", .references { table := "Staff", columns := ["id"] }]
    let column := modifiers.foldl ColumnDef.modify { name := "boss", dataType := "INT" }
    let ran := (SessionM.executeStatement source).run session
    session.workspace.IsFresh ∧
      Statement.ofText source.text = .ok (.createTable
        { name := "staff"
          ifNotExists := false
          columns := [{ name := "id", dataType := "INT" }, column]
          constraints := [] }) ∧
      ran.1.success = true ∧ ran.1.warnings = [] ∧
      ∃ id columnId, ran.2.schema.called? "staff" = some id ∧
        ran.2.schema.columnCalled? id "boss" = some columnId ∧
        ∀ modifier ∈ modifiers, modifier.IsApplied session.schema ran.2.schema id columnId := by
  intro session source modifiers column ran
  have fresh : session.workspace.IsFresh := Workspace.new_isFresh _ _ _
  have read : Statement.ofText source.text = .ok (.createTable
      { name := "staff"
        ifNotExists := false
        columns := [{ name := "id", dataType := "INT" }, column]
        constraints := [] }) := by
    decide +kernel
  have success : ran.1.success = true := by
    decide +kernel
  have silent : ran.1.warnings = [] := by
    decide +kernel
  have defines : (Statement.createTable
      { name := "staff"
        ifNotExists := false
        columns := [{ name := "id", dataType := "INT" }, column]
        constraints := [] }).Defines session.schema "staff" column :=
    ⟨rfl, rfl, List.mem_cons_of_mem _ List.mem_cons_self⟩
  have applied := (column_clauses_applied fresh read success).1 silent "staff" column defines
    modifiers rfl
  exact ⟨fresh, read, success, silent, applied⟩

/-- Nothing is added of the check and the reference that a column is modified to have, and nothing
is said about it. -/
theorem column_clauses_left_behind :
    let session := ((SessionM.execute "CREATE TABLE users (id INT, age INT)").run
      (.ofConfig {} 0 default)).2
    let source : StatementSource :=
      ⟨"ALTER TABLE users MODIFY age INT CHECK (age > 0) REFERENCES users (id)",
        default, default, true⟩
    let column : ColumnDef :=
      { name := "age"
        dataType := "INT"
        check := some "age > 0"
        references := some { table := "users", columns := ["id"] } }
    let ran := (SessionM.executeStatement source).run session
    Statement.ofText source.text = .ok (.alterTable "users" [.modifyColumn column]) ∧
      ran.1.success = true ∧ ran.1.warnings = [] ∧
      ran.2.schema.constraints = [] ∧ ran.2.schema.relationships = [] := by
  decide +kernel

end Session

end SchemaDesign
