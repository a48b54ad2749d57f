import Mathlib.Data.List.Flatten
import SchemaDesign.Proofs.Schema.Linked

/-!
# Changes that keep a schema linked

Tables, columns and relationships come with identities of their own, and what goes takes along all
that refers to it.
-/

namespace SchemaDesign

namespace Schema

variable {schema : Schema}

theorem Holds.mem_columnIds {id : TableId} {columnId : ColumnId}
    (holds : schema.Holds id columnId) : columnId ∈ schema.columnIds := by
  obtain ⟨table, member, _, column, columnMember, rfl⟩ := holds
  exact List.mem_flatMap.mpr ⟨table, member, List.mem_map_of_mem columnMember⟩

/-- No relationship starts at a column that the schema does not have. -/
theorem Linked.no_source
    (linked : schema.Linked) {columnId : ColumnId} (new : columnId ∉ schema.columnIds) :
    ¬∃ relationship ∈ schema.relationships, relationship.sourceColumn = columnId := by
  rintro ⟨relationship, member, rfl⟩
  exact new (linked.joins relationship member).1.mem_columnIds

/-! ## Additions -/

theorem Linked.addTable
    (linked : schema.Linked) {table : Table} (newTable : table.id ∉ schema.tableIds)
    (distinct : (table.columns.map fun column => column.id).Nodup)
    (newColumns : ∀ column ∈ table.columns, column.id ∉ schema.columnIds)
    (unmarked : ∀ column ∈ table.columns, column.isForeignKey = false) :
    Linked { schema with tables := schema.tables ++ [table] } := by
  have keeps : ∀ id column, schema.Holds id column →
      Holds { schema with tables := schema.tables ++ [table] } id column := by
    rintro id column ⟨owner, member, rest⟩
    exact ⟨owner, List.mem_append_left _ member, rest⟩
  have keepsTables : ∀ id ∈ schema.tableIds,
      id ∈ tableIds { schema with tables := schema.tables ++ [table] } := by
    intro id member
    simp only [tableIds, List.map_append]
    exact List.mem_append_left _ member
  rw [linked_iff]
  refine ⟨?_, ?_, ?_, ?_, ?_, ?_⟩
  · simp only [tableIds, List.map_append, List.map_cons, List.map_nil]
    rw [List.nodup_append]
    refine ⟨linked.tables, List.nodup_singleton _, ?_⟩
    rintro id member _ (_ | ⟨_, ⟨⟩⟩) rfl
    exact newTable member
  · simp only [columnIds, List.flatMap_append, List.flatMap_cons, List.flatMap_nil,
      List.append_nil]
    rw [List.nodup_append]
    refine ⟨linked.columns, distinct, ?_⟩
    rintro id member _ newMember rfl
    obtain ⟨column, columnMember, rfl⟩ := List.mem_map.mp newMember
    exact newColumns column columnMember member
  · intro other member column columnMember
    rcases List.mem_append.mp member with member | member
    · exact linked.foreignKeys other member column columnMember
    · rw [List.mem_singleton.mp member] at columnMember
      rw [unmarked column columnMember]
      constructor
      · intro marked
        cases marked
      · intro source
        exact absurd source (linked.no_source (newColumns column columnMember))
  · intro relationship member
    exact (linked.joins relationship member).mono keeps
  · intro index member
    exact (linked.carries index member).mono keepsTables
  · intro constraint member
    exact (linked.bears constraint member).mono keepsTables keeps

/-- Adding a column to the first table that is meant adds its identity to those of all columns. -/
theorem columnIds_addColumn
    {isMeant : Table → Bool} {tables : List Table} (column : Column)
    (exists_meant : ∃ table ∈ tables, isMeant table = true) :
    ((changeFirst isMeant (fun table => { table with columns := table.columns ++ [column] })
        tables).flatMap fun table => table.columns.map fun column => column.id).Perm
      (column.id :: tables.flatMap fun table => table.columns.map fun column => column.id) := by
  induction tables with
  | nil =>
      obtain ⟨_, member, _⟩ := exists_meant
      cases member
  | cons first rest ih =>
      by_cases meant : isMeant first = true
      · simp only [changeFirst, if_pos meant, List.flatMap_cons, List.map_append, List.map_cons,
          List.map_nil, List.append_assoc, List.singleton_append]
        exact List.perm_middle
      · have later : ∃ table ∈ rest, isMeant table = true := by
          obtain ⟨table, member, tableMeant⟩ := exists_meant
          rcases List.mem_cons.mp member with rfl | member
          · exact absurd tableMeant meant
          · exact ⟨table, member, tableMeant⟩
        simp only [changeFirst, if_neg meant, List.flatMap_cons]
        exact ((ih later).append_left _).trans List.perm_middle

theorem Linked.addColumn
    (linked : schema.Linked) {id : TableId} (found : id ∈ schema.tableIds) {column : Column}
    (new : column.id ∉ schema.columnIds) (unmarked : column.isForeignKey = false) :
    (schema.changeTable id fun table =>
      { table with columns := table.columns ++ [column] }).Linked := by
  have tables := changeTable_tables linked.tables id fun table =>
    { table with columns := table.columns ++ [column] }
  have sameTables : (schema.changeTable id fun table =>
      { table with columns := table.columns ++ [column] }).tableIds = schema.tableIds := by
    simp only [tableIds, tables, List.map_map]
    apply List.map_congr_left
    intro table _
    simp only [Function.comp_apply]
    split <;> rfl
  have keeps : ∀ other columnId, schema.Holds other columnId →
      (schema.changeTable id fun table =>
        { table with columns := table.columns ++ [column] }).Holds other columnId := by
    rintro _ _ ⟨owner, member, rfl, held, heldMember, rfl⟩
    refine ⟨_, tables ▸ List.mem_map_of_mem member, ?_, held, ?_, rfl⟩
    · split <;> rfl
    · split
      · exact List.mem_append_left _ heldMember
      · exact heldMember
  have keepsTables : ∀ other ∈ schema.tableIds, other ∈ (schema.changeTable id fun table =>
      { table with columns := table.columns ++ [column] }).tableIds := by
    intro other member
    rwa [sameTables]
  rw [linked_iff]
  refine ⟨?_, ?_, ?_, ?_, ?_, ?_⟩
  · rw [sameTables]
    exact linked.tables
  · obtain ⟨table, member, identity⟩ := List.mem_map.mp found
    have meant : ∃ table ∈ schema.tables, (table.id == id) = true :=
      ⟨table, member, by simpa using identity⟩
    have permutation := columnIds_addColumn column meant
    exact permutation.nodup_iff.mpr (List.nodup_cons.mpr ⟨new, linked.columns⟩)
  · intro other member held heldMember
    rw [tables] at member
    obtain ⟨table, tableMember, rfl⟩ := List.mem_map.mp member
    have marked := linked.foreignKeys table tableMember
    split at heldMember
    · rcases List.mem_append.mp heldMember with heldMember | heldMember
      · exact marked held heldMember
      · rw [List.mem_singleton.mp heldMember, unmarked]
        constructor
        · intro marked
          cases marked
        · intro source
          exact absurd source (linked.no_source new)
    · exact marked held heldMember
  · intro relationship member
    exact (linked.joins relationship member).mono keeps
  · intro index member
    exact (linked.carries index member).mono keepsTables
  · intro constraint member
    exact (linked.bears constraint member).mono keepsTables keeps

/-! ## Columns that are changed where they are -/

section

theorem tableIds_mapColumns (schema : Schema) (change : Column → Column) :
    (schema.mapColumns change).tableIds = schema.tableIds := by
  simp [tableIds, mapColumns, Function.comp_def]

variable {change : Column → Column} (keepsId : ∀ column, (change column).id = column.id)

include keepsId

theorem columnIds_mapColumns : (schema.mapColumns change).columnIds = schema.columnIds := by
  simp [columnIds, mapColumns, List.flatMap_map, Function.comp_def, keepsId]

theorem holds_mapColumns (schema : Schema) (id : TableId) (columnId : ColumnId) :
    (schema.mapColumns change).Holds id columnId ↔ schema.Holds id columnId := by
  simp [Holds, mapColumns, keepsId]

end

theorem Linked.addRelationship
    (linked : schema.Linked) (relationship : Relationship)
    (joins : schema.Joins relationship.toRelationshipSpec) :
    Linked
      { schema.changeTable relationship.sourceTable fun table =>
          { table with
            columns := changeFirst (fun column => column.id == relationship.sourceColumn)
              (fun column => { column with isForeignKey := true }) table.columns } with
        relationships := schema.relationships ++ [relationship] } := by
  obtain ⟨table, member, identity, column, columnMember, columnIdentity⟩ := joins.1
  have columnFound := (find?_key_eq_some_iff (columns_nodup linked.columns member)).mpr
    ⟨columnMember, columnIdentity⟩
  have changed := changeTable_changeFirst linked.tables linked.columns member columnFound
    fun column => { column with isForeignKey := true }
  rw [identity] at changed
  rw [changed]
  have keepsId : ∀ other : Column,
      (if other.id = column.id then { other with isForeignKey := true } else other).id =
        other.id := by
    intro other
    split <;> rfl
  have held := schema.holds_mapColumns keepsId
  have sameTables := schema.tableIds_mapColumns fun other =>
    if other.id = column.id then { other with isForeignKey := true } else other
  rw [linked_iff]
  refine ⟨?_, ?_, ?_, ?_, ?_, ?_⟩
  · exact sameTables ▸ linked.tables
  · change (schema.mapColumns _).columnIds.Nodup
    rw [columnIds_mapColumns keepsId]
    exact linked.columns
  · intro other otherMember held heldMember
    obtain ⟨source, sourceMember, rfl⟩ := List.mem_map.mp otherMember
    obtain ⟨old, oldMember, rfl⟩ := List.mem_map.mp heldMember
    have marked := linked.foreignKeys source sourceMember old oldMember
    by_cases equality : old.id = column.id
    · rw [if_pos equality]
      constructor
      · intro _
        exact ⟨relationship, List.mem_append_right _ (List.mem_singleton.mpr rfl),
          columnIdentity ▸ equality.symm⟩
      · intro _
        rfl
    · rw [if_neg equality, marked]
      constructor
      · rintro ⟨known, knownMember, source⟩
        exact ⟨known, List.mem_append_left _ knownMember, source⟩
      · rintro ⟨known, knownMember, source⟩
        rcases List.mem_append.mp knownMember with knownMember | knownMember
        · exact ⟨known, knownMember, source⟩
        · rw [List.mem_singleton.mp knownMember, ← columnIdentity] at source
          exact absurd source.symm equality
  · intro known knownMember
    rcases List.mem_append.mp knownMember with knownMember | knownMember
    · exact (linked.joins known knownMember).mono fun id columnId => (held id columnId).mpr
    · rw [List.mem_singleton.mp knownMember]
      exact joins.mono fun id columnId => (held id columnId).mpr
  · intro index indexMember
    exact (linked.carries index indexMember).mono fun id idMember => sameTables.symm ▸ idMember
  · intro constraint constraintMember
    exact (linked.bears constraint constraintMember).mono
      (fun id idMember => sameTables.symm ▸ idMember)
      fun id columnId => (held id columnId).mpr

/-! ## Removals -/

theorem tableIds_markForeignKeys (schema : Schema) :
    schema.markForeignKeys.tableIds = schema.tableIds := by
  simp [tableIds, markForeignKeys, Function.comp_def]

theorem columnIds_markForeignKeys (schema : Schema) :
    schema.markForeignKeys.columnIds = schema.columnIds := by
  simp [columnIds, markForeignKeys, List.flatMap_map, Function.comp_def]

/-- A schema with nothing dangling is linked once its foreign keys are marked. -/
theorem linked_markForeignKeys
    (tables : schema.tableIds.Nodup) (columns : schema.columnIds.Nodup)
    (joins : ∀ relationship ∈ schema.relationships, schema.Joins relationship.toRelationshipSpec)
    (carries : ∀ index ∈ schema.indexes, schema.Carries index.toIndexSpec)
    (bears : ∀ constraint ∈ schema.constraints, schema.Bears constraint.toConstraintSpec) :
    schema.markForeignKeys.Linked := by
  let mark (column : Column) : Column :=
    { column with
      isForeignKey := schema.relationships.any fun relationship =>
        relationship.sourceColumn == column.id }
  have keepsId : ∀ column, (mark column).id = column.id := fun _ => rfl
  have marked : schema.markForeignKeys = schema.mapColumns mark := rfl
  have sameTables := schema.tableIds_mapColumns mark
  have held := schema.holds_mapColumns keepsId
  rw [marked, linked_iff]
  refine ⟨?_, ?_, ?_, ?_, ?_, ?_⟩
  · rwa [sameTables]
  · rwa [columnIds_mapColumns keepsId]
  · intro other otherMember column columnMember
    obtain ⟨table, _, rfl⟩ := List.mem_map.mp otherMember
    obtain ⟨old, _, rfl⟩ := List.mem_map.mp columnMember
    simp [mark, mapColumns]
  · intro relationship member
    exact (joins relationship member).mono fun id columnId => (held id columnId).mpr
  · intro index member
    exact (carries index member).mono fun id idMember => sameTables.symm ▸ idMember
  · intro constraint member
    exact (bears constraint member).mono (fun id idMember => sameTables.symm ▸ idMember)
      fun id columnId => (held id columnId).mpr

theorem Linked.withoutTable (linked : schema.Linked) (id : TableId) :
    (schema.withoutTable id).Linked := by
  have erased := eraseP_key_eq_filter linked.tables id
  have keeps : ∀ other column, other ≠ id → schema.Holds other column →
      ∃ owner ∈ schema.tables.eraseP (fun table => table.id == id), owner.id = other ∧
        ∃ held ∈ owner.columns, held.id = column := by
    rintro _ column different ⟨owner, member, rfl, held⟩
    rw [erased]
    exact ⟨owner, List.mem_filter.mpr ⟨member, by simpa using different⟩, rfl, held⟩
  have keepsTables : ∀ other ∈ schema.tableIds, other ≠ id →
      other ∈ (schema.tables.eraseP fun table => table.id == id).map fun table => table.id := by
    intro other member different
    obtain ⟨owner, ownerMember, rfl⟩ := List.mem_map.mp member
    rw [erased]
    exact List.mem_map_of_mem (List.mem_filter.mpr ⟨ownerMember, by simpa using different⟩)
  apply linked_markForeignKeys
  · exact linked.tables.sublist (List.eraseP_sublist.map _)
  · exact linked.columns.sublist (List.eraseP_sublist.flatMap _)
  · intro relationship member
    obtain ⟨known, apart⟩ := List.mem_filter.mp member
    simp only [RelationshipSpec.touches, Bool.not_eq_true', Bool.or_eq_false_iff,
      beq_eq_false_iff_ne] at apart
    have joins := linked.joins relationship known
    exact ⟨keeps _ _ apart.1 joins.1, keeps _ _ apart.2 joins.2⟩
  · intro index member
    obtain ⟨known, apart⟩ := List.mem_filter.mp member
    have carries := linked.carries index known
    exact ⟨keepsTables _ carries.1 (by simpa using apart), carries.2⟩
  · intro constraint member
    obtain ⟨known, apart⟩ := List.mem_filter.mp member
    have different : constraint.table ≠ id := by simpa using apart
    have bears := linked.bears constraint known
    exact ⟨keepsTables _ bears.1 different,
      fun column named => keeps _ _ different (bears.2 column named)⟩

theorem Linked.dropColumn
    (linked : schema.Linked) {table : Table} (member : table ∈ schema.tables)
    {isMeant : Column → Bool} {column : Column}
    (found : table.columns.find? isMeant = some column) :
    ((schema.changeTable table.id fun table =>
        { table with columns := table.columns.eraseP isMeant }).withoutReferencesTo
      table.id column).Linked := by
  rw [changeTable_eraseP linked.tables linked.columns member found]
  have keeps : ∀ id columnId, columnId ≠ column.id → schema.Holds id columnId →
      (schema.filterColumns fun other => decide (other.id ≠ column.id)).Holds id columnId := by
    rintro _ _ different ⟨owner, ownerMember, rfl, held, heldMember, rfl⟩
    refine ⟨_, List.mem_map_of_mem ownerMember, rfl, held, ?_, rfl⟩
    exact List.mem_filter.mpr ⟨heldMember, decide_eq_true different⟩
  have sameTables :
      (schema.filterColumns fun other => decide (other.id ≠ column.id)).tableIds =
        schema.tableIds := by
    simp [tableIds, filterColumns, Function.comp_def]
  apply linked_markForeignKeys
  · exact sameTables ▸ linked.tables
  · simp only [columnIds, filterColumns, List.flatMap_map]
    refine linked.columns.sublist (List.Sublist.flatMap_right _ ?_)
    intro owner _
    exact List.filter_sublist.map _
  · intro relationship relationshipMember
    obtain ⟨known, apart⟩ := List.mem_filter.mp relationshipMember
    simp only [Bool.and_eq_true, bne_iff_ne] at apart
    have joins := linked.joins relationship known
    exact ⟨keeps _ _ apart.1 joins.1, keeps _ _ apart.2 joins.2⟩
  · intro index indexMember
    obtain ⟨narrowed, nonempty⟩ := List.mem_filter.mp indexMember
    obtain ⟨known, knownMember, rfl⟩ := List.mem_map.mp narrowed
    have owned : known.table ∈ schema.tableIds := (linked.carries known knownMember).1
    refine ⟨?_, by simpa using nonempty⟩
    change _ ∈ (schema.filterColumns _).tableIds
    rw [sameTables]
    split <;> exact owned
  · intro constraint constraintMember
    obtain ⟨known, apart⟩ := List.mem_filter.mp constraintMember
    have bears := linked.bears constraint known
    refine ⟨?_, ?_⟩
    · change _ ∈ (schema.filterColumns _).tableIds
      rw [sameTables]
      exact bears.1
    · intro columnId named
      rw [named, bne_iff_ne, ne_eq, Option.some.injEq] at apart
      exact keeps _ _ apart (bears.2 columnId named)

theorem Linked.removeRelationship (linked : schema.Linked) (isMeant : Relationship → Bool) :
    (markForeignKeys
      { schema with relationships := schema.relationships.eraseP isMeant }).Linked := by
  apply linked_markForeignKeys
  · exact linked.tables
  · exact linked.columns
  · intro relationship member
    exact linked.joins relationship (List.mem_of_mem_eraseP member)
  · exact linked.carries
  · exact linked.bears

end Schema

end SchemaDesign
