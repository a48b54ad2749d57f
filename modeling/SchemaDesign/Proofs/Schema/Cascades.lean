import SchemaDesign.Proofs.Schema.LinkedChanges
import SchemaDesign.Proofs.Schema.Steps

/-!
# What a removal takes along

A table or a column that is removed takes along what refers to it and nothing else.  Indexes lose
their entries of a column's name and go when no entry is left, and columns from which no
relationship starts any more lose their mark.  All else stays as it was, in its order.
-/

namespace SchemaDesign

/-- What can be taken out of a schema. -/
inductive Removal where
  | table (id : TableId)
  | column (table : TableId) (column : Column)

namespace Removal

/-- Whether a place, a table or a column in it, is taken away. -/
def takes (removal : Removal) (table : TableId) (column : Option ColumnId) : Bool :=
  match removal with
  | .table id => table == id
  | .column id taken => table == id && column == some taken.id

/-- Whether an end of a relationship is taken away. -/
def takesEnd (removal : Removal) (relationship : RelationshipSpec) : Bool :=
  removal.takes relationship.sourceTable (some relationship.sourceColumn) ||
    removal.takes relationship.targetTable (some relationship.targetColumn)

/-- What is left of an index, if anything is. -/
def remainder? (removal : Removal) (index : Index) : Option Index :=
  match removal with
  | .table id => if index.table = id then none else some index
  | .column id taken =>
      let names := index.columns.filter fun name => !Text.same name taken.name
      if index.table = id then
        if names.isEmpty then none else some { index with columns := names }
      else some index

end Removal

namespace Schema

/-- The parts of a schema that a removal does not take, with the marks that they have. -/
def spared (schema : Schema) (removal : Removal) : Schema :=
  { schema with
    tables := (schema.tables.filter fun table => !removal.takes table.id none).map fun table =>
      { table with
        columns := table.columns.filter fun column => !removal.takes table.id (some column.id) }
    relationships := schema.relationships.filter fun relationship =>
      !removal.takesEnd relationship.toRelationshipSpec
    indexes := schema.indexes.filterMap removal.remainder?
    constraints := schema.constraints.filter fun constraint =>
      !removal.takes constraint.table constraint.column
    permissions := schema.permissions.filter fun permission =>
      !permission.table.any fun table => removal.takes table none }

/-- The schema in which no column is marked as a foreign key unless a relationship starts there. -/
def unmarkEnds (schema : Schema) : Schema :=
  schema.mapColumns fun column =>
    { column with
      isForeignKey := column.isForeignKey &&
        schema.relationships.any fun relationship => relationship.sourceColumn == column.id }

/-- What is left of a schema after a removal. -/
def remains (schema : Schema) (removal : Removal) : Schema :=
  (schema.spared removal).unmarkEnds

variable {schema : Schema}

theorem mapColumns_congr
    {change other : Column → Column}
    (agree : ∀ table ∈ schema.tables, ∀ column ∈ table.columns, change column = other column) :
    schema.mapColumns change = schema.mapColumns other := by
  have tables : ∀ table ∈ schema.tables,
      { table with columns := table.columns.map change } =
        { table with columns := table.columns.map other } := by
    intro table member
    rw [List.map_congr_left (agree table member)]
  exact congrArg (fun tables => { schema with tables }) (List.map_congr_left tables)

/-- Marking exactly the sources only takes marks away where all sources have been marked. -/
theorem markForeignKeys_eq_unmarkEnds
    (marked : ∀ table ∈ schema.tables, ∀ column ∈ table.columns,
      ∀ relationship ∈ schema.relationships, relationship.sourceColumn = column.id →
        column.isForeignKey = true) :
    schema.markForeignKeys = schema.unmarkEnds := by
  apply mapColumns_congr
  intro table member column columnMember
  have mark : (schema.relationships.any fun relationship =>
      relationship.sourceColumn == column.id) =
      (column.isForeignKey && schema.relationships.any fun relationship =>
        relationship.sourceColumn == column.id) := by
    rw [Bool.eq_and_self]
    intro starts
    obtain ⟨relationship, known, source⟩ := List.any_eq_true.mp starts
    exact marked table member column columnMember relationship known (by simpa using source)
  exact congrArg (fun mark => { column with isForeignKey := mark }) mark

/-- In a linked schema the parts that a removal spares have marks on all their sources. -/
theorem Linked.mark_spared (linked : schema.Linked) (removal : Removal) :
    (schema.spared removal).markForeignKeys = schema.remains removal := by
  apply markForeignKeys_eq_unmarkEnds
  intro table member column columnMember relationship known source
  obtain ⟨owner, ownerMember, rfl⟩ := List.mem_map.mp member
  rw [linked.foreignKeys owner (List.mem_of_mem_filter ownerMember) column
    (List.mem_of_mem_filter columnMember)]
  exact ⟨relationship, List.mem_of_mem_filter known, source⟩

/-! ## Tables -/

theorem Linked.withoutTable_eq (linked : schema.Linked) (id : TableId) :
    schema.withoutTable id = schema.remains (.table id) := by
  have tables : (schema.tables.eraseP fun table => table.id == id) =
      (schema.spared (.table id)).tables := by
    rw [eraseP_key_eq_filter linked.tables, spared, ← List.map_id (schema.tables.filter _)]
    have sameFilter : (schema.tables.filter fun table =>
        !(Removal.table id).takes table.id none) =
        schema.tables.filter fun table => decide (table.id ≠ id) := by
      apply List.filter_congr
      intro table _
      rw [Bool.eq_iff_iff]
      simp [Removal.takes]
    rw [sameFilter]
    apply List.map_congr_left
    intro table member
    have other : table.id ≠ id := by simpa using (List.mem_filter.mp member).2
    have all : (table.columns.filter fun column =>
        !(Removal.table id).takes table.id (some column.id)) = table.columns := by
      simp [Removal.takes, other]
    rw [all, id_eq]
  have indexes : (schema.indexes.filter fun index => index.table != id) =
      (schema.spared (.table id)).indexes := by
    rw [spared, ← List.filterMap_eq_filter]
    apply List.filterMap_congr
    intro index _
    by_cases here : index.table = id <;> simp [Removal.remainder?, Option.guard, here]
  have permissions : (schema.permissions.filter fun permission => permission.table != some id) =
      (schema.spared (.table id)).permissions := by
    apply List.filter_congr
    intro permission _
    cases permission.table <;> simp [Removal.takes, bne]
  rw [← linked.mark_spared, Schema.withoutTable, tables, indexes, permissions]
  rfl

/-! ## Columns -/

section

variable {table : Table} (member : table ∈ schema.tables) {column : Column}
variable (columnMember : column ∈ table.columns)

include member columnMember

/-- In a linked schema the identity of a column tells its place. -/
theorem Linked.takes_column_eq
    (linked : schema.Linked) {other : TableId} {columnId : ColumnId}
    (held : schema.Holds other columnId) :
    (Removal.column table.id column).takes other (some columnId) = (columnId == column.id) := by
  obtain ⟨owner, ownerMember, rfl, kept, keptMember, rfl⟩ := held
  rw [Removal.takes]
  by_cases same : kept.id = column.id
  · obtain ⟨rfl, rfl⟩ :=
      place_eq linked.columns ownerMember member keptMember columnMember same
    simp
  · simp [same]

theorem Linked.spared_tables (linked : schema.Linked) :
    (schema.spared (.column table.id column)).tables =
      (schema.filterColumns fun other => decide (other.id ≠ column.id)).tables := by
  have all : (schema.tables.filter fun owner =>
      !(Removal.column table.id column).takes owner.id none) = schema.tables := by
    simp [Removal.takes]
  rw [spared, all]
  apply List.map_congr_left
  intro owner ownerMember
  congr 1
  apply List.filter_congr
  intro other otherMember
  rw [linked.takes_column_eq member columnMember
    ⟨owner, ownerMember, rfl, other, otherMember, rfl⟩, Bool.eq_iff_iff]
  simp

theorem Linked.spared_relationships (linked : schema.Linked) :
    (schema.spared (.column table.id column)).relationships =
      schema.relationships.filter fun relationship =>
        relationship.sourceColumn != column.id && relationship.targetColumn != column.id := by
  apply List.filter_congr
  intro relationship known
  obtain ⟨source, target⟩ := linked.joins relationship known
  rw [Removal.takesEnd, linked.takes_column_eq member columnMember source,
    linked.takes_column_eq member columnMember target, Bool.not_or]
  rfl

theorem Linked.spared_constraints (linked : schema.Linked) :
    (schema.spared (.column table.id column)).constraints =
      schema.constraints.filter fun constraint => constraint.column != some column.id := by
  apply List.filter_congr
  intro constraint known
  cases named : constraint.column with
  | none => simp [Removal.takes]
  | some columnId =>
      have held := (linked.bears constraint known).2 columnId named
      rw [linked.takes_column_eq member columnMember held]
      simp [bne]

end

/-- No index of a linked schema is empty, so those that are empty afterwards have lost entries. -/
theorem Linked.spared_indexes (linked : schema.Linked) (id : TableId) (column : Column) :
    (schema.spared (.column id column)).indexes =
      (schema.indexes.map fun index =>
        if index.table == id then
          { index with columns := index.columns.filter fun name => !Text.same name column.name }
        else index).filter fun index => !index.columns.isEmpty := by
  rw [← List.filterMap_eq_filter (p := fun index : Index => !index.columns.isEmpty),
    List.filterMap_map]
  apply List.filterMap_congr
  intro index known
  by_cases here : index.table = id
  · cases left : (index.columns.filter fun name => !Text.same name column.name).isEmpty <;>
      simp only [Removal.remainder?, Option.guard, Function.comp_apply, here, left,
        beq_self_eq_true, if_true, Bool.not_true, Bool.not_false, Bool.false_eq_true, if_false]
  · have entries : index.columns ≠ [] := linked.indexColumns index known
    simp [Removal.remainder?, Option.guard, here, entries]

theorem spared_permissions (id : TableId) (column : Column) :
    (schema.spared (.column id column)).permissions = schema.permissions := by
  apply List.filter_eq_self.mpr
  intro permission _
  cases permission.table <;> simp [Removal.takes]

theorem Linked.dropColumn_eq
    (linked : schema.Linked) {table : Table} (member : table ∈ schema.tables)
    {isMeant : Column → Bool} {column : Column}
    (found : table.columns.find? isMeant = some column) :
    (schema.changeTable table.id fun table =>
        { table with columns := table.columns.eraseP isMeant }).withoutReferencesTo
        table.id column =
      schema.remains (.column table.id column) := by
  have columnMember := List.mem_of_find?_eq_some found
  have parts : schema.spared (.column table.id column) =
      { schema with
        tables := (schema.spared (.column table.id column)).tables
        relationships := (schema.spared (.column table.id column)).relationships
        indexes := (schema.spared (.column table.id column)).indexes
        constraints := (schema.spared (.column table.id column)).constraints
        permissions := (schema.spared (.column table.id column)).permissions } :=
    rfl
  rw [linked.spared_tables member columnMember, linked.spared_relationships member columnMember,
    linked.spared_indexes, linked.spared_constraints member columnMember,
    spared_permissions] at parts
  rw [changeTable_eraseP linked.tables linked.columns member found, ← linked.mark_spared, parts]
  rfl

end Schema

/-! ## The changes -/

namespace Edit

variable {workspace after : Workspace} {id : TableId}

theorem run_removeTable_eq_ok_iff {removed : Table} :
    (removeTable id).run workspace = (.ok removed, after) ↔
      workspace.schema.table? id = some removed ∧
        after = workspace.changed 0 fun schema => schema.withoutTable id := by
  cases found : workspace.schema.table? id with
  | none =>
      have run : (removeTable id).run workspace = (.error (.tableNotFound id.text), workspace) := by
        simp only [removeTable, run_bind, run_current, found]
        rfl
      rw [run, Prod.mk.injEq]
      simp
  | some table =>
      have run : (removeTable id).run workspace =
          (.ok table, workspace.changed 0 fun schema => schema.withoutTable id) := by
        simp only [removeTable, run_bind, run_current, found]
        rfl
      rw [run, Prod.mk.injEq, Except.ok.injEq, Option.some.injEq, eq_comm (a := after)]

theorem run_drop_eq_ok_iff {name : String} {columnId : ColumnId} :
    (alterTable id (.drop name)).run workspace = (.ok columnId, after) ↔
      ∃ table column, workspace.schema.table? id = some table ∧
        table.columnNamed? name = some column ∧ column.id = columnId ∧
        after = workspace.changed 0 fun schema =>
          (schema.changeTable id fun table =>
            { table with
              columns := table.columns.eraseP fun column => Text.same column.name name })
            |>.withoutReferencesTo id column := by
  cases found : workspace.schema.table? id with
  | none =>
      rw [run_alterTable_missing found, Prod.mk.injEq]
      simp
  | some table =>
      cases named : table.columnNamed? name with
      | none =>
          have run : (alterTable id (.drop name)).run workspace =
              (.error (.columnNotFound table.name name), workspace) := by
            simp only [alterTable, dropColumn, run_bind, run_current, found, named]
            rfl
          rw [run, Prod.mk.injEq]
          simp [named]
      | some column =>
          have run : (alterTable id (.drop name)).run workspace =
              (.ok column.id, workspace.changed 0 fun schema =>
                (schema.changeTable id fun table =>
                  { table with
                    columns := table.columns.eraseP fun column => Text.same column.name name })
                  |>.withoutReferencesTo id column) := by
            simp only [alterTable, dropColumn, run_bind, run_current, found, named]
            rfl
          rw [run, Prod.mk.injEq, Except.ok.injEq, eq_comm (b := after)]
          simp [named]

end Edit

namespace Workspace

/-- In a linked schema the removal of a table that exists and the drop of a column that exists leave
exactly what does not refer to it, and all other removals fail. -/
theorem removals_exact (workspace : Workspace) (linked : workspace.schema.Linked) :
    (∀ id removed after,
      (Edit.removeTable id).run workspace = (.ok removed, after) ↔
        workspace.schema.table? id = some removed ∧
          after = workspace.changed 0 fun schema => schema.remains (.table id)) ∧
    ∀ id name columnId after,
      (Edit.alterTable id (.drop name)).run workspace = (.ok columnId, after) ↔
        ∃ table column, workspace.schema.table? id = some table ∧
          table.columnNamed? name = some column ∧ column.id = columnId ∧
          after = workspace.changed 0 fun schema => schema.remains (.column id column) := by
  constructor
  · intro id removed after
    rw [Edit.run_removeTable_eq_ok_iff, changed, changed, linked.withoutTable_eq]
  · intro id name columnId after
    rw [Edit.run_drop_eq_ok_iff]
    refine exists_congr fun table => exists_congr fun column => ?_
    refine and_congr_right fun found => and_congr_right fun named => and_congr_right fun _ => ?_
    obtain ⟨member, rfl⟩ := Schema.mem_of_table? found
    rw [changed, changed, linked.dropColumn_eq member named]

theorem removals_exact_shop :
    let users : Table :=
      { id := ⟨0⟩
        name := "users"
        columns := [{ name := "id", dataType := "INT", isPrimaryKey := true, id := ⟨1⟩ }]
        position := default
        rowCount := 0
        rows := [] }
    let buyer : Column :=
      { name := "buyer_id", dataType := "INT", isForeignKey := true, id := ⟨3⟩ }
    let sum : Column := { name := "sum", dataType := "INT", id := ⟨4⟩ }
    let orders : Table :=
      { id := ⟨2⟩
        name := "orders"
        columns := [buyer, sum]
        position := default
        rowCount := 0
        rows := [] }
    let buys : Relationship :=
      { name := none
        sourceTable := ⟨2⟩
        sourceColumn := ⟨3⟩
        targetTable := ⟨0⟩
        targetColumn := ⟨1⟩
        cardinality := .oneToMany
        id := ⟨5⟩ }
    let byBuyer : Index :=
      { name := "by_buyer", table := ⟨2⟩, columns := ["BUYER_ID"], isUnique := false, id := ⟨6⟩ }
    let bySum : Index :=
      { name := "by_sum", table := ⟨2⟩, columns := ["sum", "buyer_id"], isUnique := false, id := ⟨7⟩ }
    let positive : Constraint :=
      { name := "positive"
        kind := .check
        table := ⟨2⟩
        column := none
        expression := some "sum > 0"
        id := ⟨8⟩ }
    let schema : Schema :=
      { Schema.new "shop" default with
        tables := [users, orders]
        relationships := [buys]
        indexes := [byBuyer, bySum]
        constraints := [positive] }
    let workspace : Workspace := { schema, nextId := 9, now := default }
    schema.Linked ∧
      (Edit.removeTable ⟨0⟩).run workspace =
        (.ok users,
          { workspace with
            schema :=
              { schema with
                tables :=
                  [{ orders with columns := [{ buyer with isForeignKey := false }, sum] }]
                relationships := [] } }) ∧
      (Edit.alterTable ⟨2⟩ (.drop "Buyer_Id")).run workspace =
        (.ok ⟨3⟩,
          { workspace with
            schema :=
              { schema with
                tables := [users, { orders with columns := [sum] }]
                relationships := []
                indexes := [{ bySum with columns := ["sum"] }] } }) := by
  intro users buyer sum orders buys byBuyer bySum positive schema workspace
  have linked : schema.Linked := by
    refine ⟨?_, ?_, ?_, ?_, ?_, ?_, ?_, ?_, ?_⟩
    · decide
    · decide
    · decide
    · decide
    · unfold Schema.MarksSources
      decide
    · decide
    · decide
    · decide
    · intro constraint member column named
      rw [List.mem_singleton.mp member] at named
      cases named
  obtain ⟨tables, columns⟩ := removals_exact workspace linked
  refine ⟨linked, (tables _ _ _).mpr ⟨rfl, ?_⟩, (columns _ _ _ _).mpr ?_⟩
  · decide
  · exact ⟨orders, buyer, rfl, by decide, rfl, by decide⟩

end Workspace

end SchemaDesign
