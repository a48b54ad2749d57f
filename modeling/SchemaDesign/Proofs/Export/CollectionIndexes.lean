import SchemaDesign.Export.MongoDb
import Mathlib.Data.List.Infix

/-!
# Uniqueness in collections

The indexes of a collection begin with the declared ones of its table as they are.  A unique column
keeps its values apart, unless it is declared an index of its own that does not.
-/

namespace SchemaDesign.Export.MongoDb

/-- The index of a collection for a declared index. -/
def declaredIndex (index : IndexSpec) : CollectionIndex :=
  { keys := index.columns, isUnique := index.isUnique }

/-- The unique index on one column. -/
def uniqueOn (columnName : String) : CollectionIndex :=
  { keys := [columnName], isUnique := true }

/-- A column has declared indexes of its own, and none of them is unique. -/
structure OnlyPlainlyIndexed (schema : Schema) (table : Table) (columnName : String) : Prop where
  indexed : ∃ index ∈ schema.indexesOf table.id, index.columns = [columnName]
  plain : ∀ index ∈ schema.indexesOf table.id, index.columns = [columnName] →
    index.isUnique = false

section

variable {indexes : List CollectionIndex} {entry : CollectionIndex}

/-! ## One unique column -/

theorem prefix_addUnique (indexes : List CollectionIndex) (column : Column) :
    indexes <+: addUnique indexes column := by
  rw [addUnique]
  split
  · exact List.prefix_refl indexes
  · exact List.prefix_append indexes _

/-- A unique column adds its index where no index has exactly its key. -/
theorem mem_addUnique {column : Column} :
    entry ∈ addUnique indexes column ↔
      entry ∈ indexes ∨
        entry = uniqueOn column.name ∧ ∀ index ∈ indexes, index.keys ≠ entry.keys := by
  rw [addUnique]
  split
  · rename_i covered
    obtain ⟨index, member, keys⟩ := List.any_eq_true.mp covered
    constructor
    · exact .inl
    · rintro (known | ⟨rfl, new⟩)
      · exact known
      · exact absurd (beq_iff_eq.mp keys) (new index member)
  · rename_i uncovered
    have new : ∀ index ∈ indexes, index.keys ≠ [column.name] := by simpa using uncovered
    rw [List.mem_append, List.mem_singleton]
    constructor
    · rintro (known | rfl)
      · exact .inl known
      · exact .inr ⟨rfl, new⟩
    · rintro (known | ⟨added, _⟩)
      · exact .inl known
      · exact .inr added

/-! ## All unique columns -/

theorem prefix_addUniques (indexes : List CollectionIndex) (columns : List Column) :
    indexes <+: columns.foldl addUnique indexes := by
  induction columns generalizing indexes with
  | nil => exact List.prefix_refl indexes
  | cons column columns ih => exact (prefix_addUnique indexes column).trans (ih _)

/-- The unique columns add exactly the indexes whose keys no earlier index has. -/
theorem mem_addUniques {columns : List Column} :
    entry ∈ columns.foldl addUnique indexes ↔
      entry ∈ indexes ∨
        (∃ column ∈ columns, entry = uniqueOn column.name) ∧
          ∀ index ∈ indexes, index.keys ≠ entry.keys := by
  induction columns generalizing indexes with
  | nil => simp
  | cons column columns ih =>
      rw [List.foldl_cons, ih, mem_addUnique]
      constructor
      · rintro ((known | ⟨added, new⟩) | ⟨⟨later, member, added⟩, new⟩)
        · exact .inl known
        · exact .inr ⟨⟨column, List.mem_cons_self, added⟩, new⟩
        · refine .inr ⟨⟨later, List.mem_cons_of_mem _ member, added⟩, ?_⟩
          intro index known
          exact new index (mem_addUnique.mpr (.inl known))
      · rintro (known | ⟨⟨later, member, added⟩, new⟩)
        · exact .inl (.inl known)
        · rcases List.mem_cons.mp member with rfl | member
          · exact .inl (.inr ⟨added, new⟩)
          · by_cases first : entry = uniqueOn column.name
            · exact .inl (.inr ⟨first, new⟩)
            · refine .inr ⟨⟨later, member, added⟩, ?_⟩
              intro index known sameKeys
              rcases mem_addUnique.mp known with known | ⟨rfl, _⟩
              · exact new index known sameKeys
              · -- Both are unique indexes on one column, so equal keys make them equal.
                subst added
                exact first (congrArg (CollectionIndex.mk · true) sameKeys.symm)

end

/-! ## The indexes of a collection -/

variable {schema : Schema} {table : Table} {column : Column}

theorem collectionIndexes_eq (schema : Schema) (table : Table) :
    collectionIndexes schema table =
      (table.columns.filter fun column => column.isUnique && !column.isPrimaryKey).foldl addUnique
        ((schema.indexesOf table.id).map fun index => declaredIndex index.toIndexSpec) :=
  rfl

/-- A unique column has a unique index of its own unless it is declared indexes of its own that
are all plain. -/
theorem exists_unique_iff
    (member : column ∈ table.columns) (unique : column.isUnique = true)
    (noKey : column.isPrimaryKey = false) :
    (∃ entry ∈ collectionIndexes schema table,
        entry.keys = [column.name] ∧ entry.isUnique = true) ↔
      ¬ OnlyPlainlyIndexed schema table column.name := by
  have kept : column ∈ table.columns.filter fun column =>
      column.isUnique && !column.isPrimaryKey := by
    simp [member, unique, noKey]
  constructor
  · rintro ⟨entry, entryMember, keys, isUnique⟩ ⟨⟨index, indexMember, columns⟩, plain⟩
    rw [collectionIndexes_eq, mem_addUniques] at entryMember
    rcases entryMember with declared | ⟨_, new⟩
    · obtain ⟨other, otherMember, rfl⟩ := List.mem_map.mp declared
      exact absurd isUnique (by simp [declaredIndex, plain other otherMember keys])
    · refine new _ (List.mem_map_of_mem indexMember) ?_
      exact columns.trans keys.symm
  · intro free
    by_cases declared : ∃ index ∈ schema.indexesOf table.id,
        index.columns = [column.name] ∧ index.isUnique = true
    · obtain ⟨index, indexMember, columns, isUnique⟩ := declared
      refine ⟨declaredIndex index.toIndexSpec, ?_, columns, isUnique⟩
      rw [collectionIndexes_eq, mem_addUniques]
      exact .inl (List.mem_map_of_mem indexMember)
    · refine ⟨uniqueOn column.name, ?_, rfl, rfl⟩
      rw [collectionIndexes_eq, mem_addUniques]
      refine .inr ⟨⟨column, kept, rfl⟩, ?_⟩
      intro entry known keys
      obtain ⟨index, indexMember, rfl⟩ := List.mem_map.mp known
      refine free ⟨⟨index, indexMember, keys⟩, ?_⟩
      intro other otherMember columns
      by_contra isUnique
      exact declared ⟨other, otherMember, columns, by simpa using isUnique⟩

/-! ## The script -/

/-- A text stands somewhere in another. -/
def IsPartOf (part whole : String) : Prop :=
  ∃ before after, whole = before ++ part ++ after

theorem IsPartOf.trans
    {part middle whole : String} (inner : IsPartOf part middle) (outer : IsPartOf middle whole) :
    IsPartOf part whole := by
  obtain ⟨before, after, rfl⟩ := inner
  obtain ⟨start, finish, rfl⟩ := outer
  exact ⟨start ++ before, after ++ finish, by simp only [String.append_assoc]⟩

theorem isPartOf_append (start part : String) : IsPartOf part (start ++ part) :=
  ⟨start, "", String.append_empty.symm⟩

theorem isPartOf_join {text : String} {texts : List String} (member : text ∈ texts) :
    IsPartOf text (String.join texts) := by
  obtain ⟨before, after, rfl⟩ := List.append_of_mem member
  refine ⟨String.join before, String.join after, ?_⟩
  rw [String.join_append, String.join_cons, String.append_assoc]

/-- The script of a schema creates each index of each collection. -/
theorem createIndex_isPartOf
    (member : table ∈ schema.tables) {entry : CollectionIndex}
    (entryMember : entry ∈ collectionIndexes schema table) :
    IsPartOf (createIndex table.name entry) (generate schema) := by
  have among : IsPartOf (createIndex table.name entry)
      (String.join ((collectionIndexes schema table).map (createIndex table.name))) :=
    isPartOf_join (List.mem_map_of_mem entryMember)
  have inCollection : IsPartOf (createIndex table.name entry) (collection schema table) :=
    among.trans (isPartOf_append _ _)
  have inCollections : IsPartOf (collection schema table)
      (String.join (schema.tables.map (collection schema))) :=
    isPartOf_join (List.mem_map_of_mem member)
  exact (inCollection.trans inCollections).trans (isPartOf_append (header schema) _)

/-- The script creates every declared index of a table with its columns and its uniqueness, and for
every unique column that is no primary key a unique index on exactly this column, unless the column
is declared indexes of its own that are all plain. -/
theorem collection_keeps_uniqueness
    (schema : Schema) (table : Table) (member : table ∈ schema.tables) :
    ((schema.indexesOf table.id).map fun index => declaredIndex index.toIndexSpec) <+:
        collectionIndexes schema table ∧
      (∀ column ∈ table.columns, column.isUnique = true → column.isPrimaryKey = false →
        ((∃ entry ∈ collectionIndexes schema table,
            entry.keys = [column.name] ∧ entry.isUnique = true) ↔
          ¬ OnlyPlainlyIndexed schema table column.name)) ∧
      ∀ entry ∈ collectionIndexes schema table,
        IsPartOf (createIndex table.name entry) (generate schema) := by
  refine ⟨?_, ?_, ?_⟩
  · rw [collectionIndexes_eq]
    exact prefix_addUniques _ _
  · intro column columnMember unique noKey
    exact exists_unique_iff columnMember unique noKey
  · intro entry entryMember
    exact createIndex_isPartOf member entryMember

theorem collection_keeps_uniqueness_shop :
    let email : Column := { name := "email", dataType := "TEXT", isUnique := true, id := ⟨1⟩ }
    let nick : Column := { name := "nick", dataType := "TEXT", isUnique := true, id := ⟨2⟩ }
    let users : Table :=
      { id := ⟨0⟩
        name := "users"
        columns := [email, nick]
        position := default
        rowCount := 0
        rows := [] }
    let both : Index :=
      { name := "by_both", table := ⟨0⟩, columns := ["email", "nick"], isUnique := false, id := ⟨3⟩ }
    let plain : Index :=
      { name := "by_nick", table := ⟨0⟩, columns := ["nick"], isUnique := false, id := ⟨4⟩ }
    let schema : Schema :=
      { Schema.new "shop" default with tables := [users], indexes := [both, plain] }
    users ∈ schema.tables ∧
      (email ∈ users.columns ∧ email.isUnique = true ∧ email.isPrimaryKey = false ∧
        ∃ entry ∈ collectionIndexes schema users,
          entry.keys = ["email"] ∧ entry.isUnique = true) ∧
      (nick ∈ users.columns ∧ nick.isUnique = true ∧ nick.isPrimaryKey = false ∧
        ¬ ∃ entry ∈ collectionIndexes schema users,
          entry.keys = ["nick"] ∧ entry.isUnique = true) := by
  intro email nick users both plain schema
  have member : users ∈ schema.tables := List.mem_singleton.mpr rfl
  obtain ⟨_, keeps, _⟩ := collection_keeps_uniqueness schema users member
  have emailMember : email ∈ users.columns := List.mem_cons_self
  have nickMember : nick ∈ users.columns := List.mem_cons_of_mem _ List.mem_cons_self
  refine ⟨member, ⟨emailMember, rfl, rfl, ?_⟩, ⟨nickMember, rfl, rfl, ?_⟩⟩
  · refine (keeps email emailMember rfl rfl).mpr ?_
    rintro ⟨indexed, _⟩
    revert indexed
    decide
  · intro found
    refine (keeps nick nickMember rfl rfl).mp found ⟨?_, ?_⟩ <;> decide

/-- A plain index on a unique column keeps the unique one out of the script. -/
theorem plain_index_hides_uniqueness :
    let email : Column := { name := "email", dataType := "TEXT", isUnique := true, id := ⟨1⟩ }
    let users : Table :=
      { id := ⟨0⟩
        name := "users"
        columns := [email]
        position := default
        rowCount := 0
        rows := [] }
    let index : Index :=
      { name := "by_email", table := ⟨0⟩, columns := ["email"], isUnique := false, id := ⟨2⟩ }
    let schema : Schema :=
      { Schema.new "shop" default with tables := [users], indexes := [index] }
    users ∈ schema.tables ∧ email ∈ users.columns ∧
      email.isUnique = true ∧ email.isPrimaryKey = false ∧
      ¬ ∃ entry ∈ collectionIndexes schema users,
        entry.keys = [email.name] ∧ entry.isUnique = true := by
  decide

end SchemaDesign.Export.MongoDb
