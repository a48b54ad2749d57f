import Mathlib.Data.Finset.Card
import SchemaDesign.Proofs.Schema.Places
import SchemaDesign.Proofs.Schema.Steps
import SchemaDesign.Proofs.Validation.ByRule

/-!
# Automatic fixes come to an end

A fix of a primary key can bring up new findings on indexes, because the columns that it unmarks may
be sources of relationships.  So the findings need not become fewer.  What becomes fewer with every
fix are the tables with too many keys and the source columns that begin no index together, where a
source column counts whether or not it is a key.
-/

namespace SchemaDesign

/-- The column without what fixes change. -/
def Column.unkeyed (column : Column) : Column :=
  { column with isPrimaryKey := false }

/-- The table without what fixes change. -/
def Table.unkeyed (table : Table) : Table :=
  { table with columns := table.columns.map Column.unkeyed }

namespace Schema

/-- The schema without what fixes change: the keys, the indexes and the time of the last change. -/
def unkeyed (schema : Schema) : Schema :=
  { schema with
    tables := schema.tables.map Table.unkeyed
    indexes := []
    updatedAt := default }

/-- How many tables have more than one column of their primary key. -/
def overkeyed (schema : Schema) : Nat :=
  schema.tables.countP fun table => decide (1 < table.primaryKeys.length)

/-- The source columns of relationships, each with its table, as far as they exist. -/
def sources (schema : Schema) : Finset (TableId × ColumnId) :=
  (schema.relationships.map fun relationship =>
    (relationship.sourceTable, relationship.sourceColumn)).toFinset.filter fun place =>
      (schema.endpoint? place.1 place.2).isSome

/-- The source columns that begin no index. -/
def uncovered (schema : Schema) : Finset (TableId × ColumnId) :=
  schema.sources.filter fun place =>
    (schema.endpoint? place.1 place.2).any fun (table, column) =>
      !Validation.hasLeadingIndex schema table column

/-- How many fixes there can still be, as far as keys and indexes tell. -/
def fixesLeft (schema : Schema) : Nat :=
  schema.overkeyed + schema.uncovered.card

/-- The schema in which a table keeps the first column of its primary key only. -/
def withFirstKey (schema : Schema) (table : Table) : Schema :=
  schema.changeTable table.id fun old =>
    { old with columns := Validation.keepFirstKey false table.columns }

/-- The schema with an index that begins with a column. -/
def withLeadingIndex (schema : Schema) (table : Table) (column : Column) (id : IndexId) : Schema :=
  { schema with
    indexes := schema.indexes ++
      [{ name := Validation.foreignKeyIndexName table.name column.name
         table := table.id
         columns := [column.name]
         isUnique := false
         id }] }

/-- What the fix of a finding makes of a schema, with the number of the next identity and the time
at which it is applied. -/
def fixed (schema : Schema) (finding : Finding) (nextId : Nat) (now : Timestamp) :
    Except SchemaError String × Schema :=
  let (answer, after) := (Edit.applyFix finding).run { schema, nextId, now }
  (answer, after.schema)

/-- Fixes one after another, each of a finding on the schema that the fixes before it have left. -/
inductive Fixes : Schema → List Finding → Schema → Prop where
  | none (schema : Schema) : Fixes schema [] schema
  | next {schema last : Schema} {finding : Finding} {findings : List Finding} (nextId : Nat)
      (now : Timestamp) (found : finding ∈ schema.validate) (fixable : finding.autoFixable = true)
      (rest : Fixes (schema.fixed finding nextId now).2 findings last) :
      Fixes schema (finding :: findings) last

/-- What a fix of a finding achieves. -/
structure Improves (before after : Schema) (finding : Finding) : Prop where
  unkeyed : after.unkeyed = before.unkeyed
  indexes : before.indexes <+: after.indexes
  left : after.fixesLeft < before.fixesLeft
  gone : finding ∉ after.validate

variable {schema : Schema}

theorem tableIds_unkeyed (schema : Schema) : schema.unkeyed.tableIds = schema.tableIds := by
  rw [tableIds, unkeyed, List.map_map]
  rfl

theorem column?_unkeyed (table : Table) (id : ColumnId) :
    table.unkeyed.column? id = (table.column? id).map Column.unkeyed := by
  rw [Table.column?, Table.unkeyed, List.find?_map]
  rfl

theorem endpoint?_unkeyed (schema : Schema) (id : TableId) (columnId : ColumnId) :
    schema.unkeyed.endpoint? id columnId =
      (schema.endpoint? id columnId).map (Prod.map Table.unkeyed Column.unkeyed) := by
  have owner : schema.unkeyed.table? id = (schema.table? id).map Table.unkeyed := by
    rw [table?, unkeyed, List.find?_map]
    rfl
  exact endpoint?_eq_map owner fun table => column?_unkeyed table columnId

theorem sources_unkeyed (schema : Schema) : schema.unkeyed.sources = schema.sources := by
  simp only [sources, endpoint?_unkeyed, Option.isSome_map]
  rfl

theorem mem_uncovered_iff {place : TableId × ColumnId} :
    place ∈ schema.uncovered ↔ place ∈ schema.sources ∧
      ∃ table column, schema.endpoint? place.1 place.2 = some (table, column) ∧
        Validation.hasLeadingIndex schema table column = false := by
  rw [uncovered, Finset.mem_filter]
  cases schema.endpoint? place.1 place.2 with
  | none => simp
  | some ends => simp [Prod.ext_iff]

theorem mem_sources_of_endpoint?
    {relationship : Relationship} (member : relationship ∈ schema.relationships)
    (resolved : (schema.endpoint? relationship.sourceTable relationship.sourceColumn).isSome) :
    (relationship.sourceTable, relationship.sourceColumn) ∈ schema.sources := by
  rw [sources, Finset.mem_filter, List.mem_toFinset]
  exact ⟨List.mem_map_of_mem member, resolved⟩

theorem fixesLeft_le (schema : Schema) :
    schema.fixesLeft ≤ schema.overkeyed + schema.sources.card :=
  Nat.add_le_add_left (Finset.card_filter_le _ _) _

section

variable {before after : Schema} (kept : after.unkeyed = before.unkeyed)

include kept

theorem sources_eq_of_unkeyed : after.sources = before.sources := by
  rw [← sources_unkeyed, kept, sources_unkeyed]

/-- A source column that begins an index before a fix begins one after it. -/
theorem uncovered_subset (indexes : before.indexes ⊆ after.indexes) :
    after.uncovered ⊆ before.uncovered := by
  intro place member
  obtain ⟨source, table, column, resolved, lacks⟩ := mem_uncovered_iff.mp member
  have places := congrArg (fun schema => schema.endpoint? place.1 place.2) kept
  simp only [endpoint?_unkeyed, resolved, Option.map_some] at places
  obtain ⟨⟨oldTable, oldColumn⟩, oldResolved, same⟩ := Option.map_eq_some_iff.mp places.symm
  have owner : oldTable.id = table.id := congrArg (fun ends => ends.1.id) same
  have name : oldColumn.name = column.name := congrArg (fun ends => ends.2.name) same
  rw [sources_eq_of_unkeyed kept] at source
  refine mem_uncovered_iff.mpr ⟨source, oldTable, oldColumn, oldResolved, ?_⟩
  simp only [Validation.hasLeadingIndex, indexesOf, List.any_eq_false, List.mem_filter] at lacks ⊢
  rintro index ⟨indexMember, ofTable⟩
  rw [owner] at ofTable
  rw [name]
  exact lacks index ⟨indexes indexMember, ofTable⟩

end

/-! ## The fix of a primary key -/

section

variable (distinct : schema.tableIds.Nodup) {table : Table}
variable (found : schema.table? table.id = some table)
variable (overkeyed : 1 < table.primaryKeys.length)

theorem length_primaryKeys_keepFirstKey (table : Table) :
    ({ table with columns := Validation.keepFirstKey false table.columns }
      : Table).primaryKeys.length = min 1 table.primaryKeys.length := by
  rw [Table.primaryKeys, Validation.filter_keepFirstKey, if_neg Bool.false_ne_true,
    List.length_take, Table.primaryKeys]

include found

theorem unkeyed_withFirstKey : (schema.withFirstKey table).unkeyed = schema.unkeyed := by
  have columns : (Validation.keepFirstKey false table.columns).map Column.unkeyed =
      table.columns.map Column.unkeyed :=
    Validation.map_keepFirstKey Column.unkeyed (fun _ _ => rfl) false table.columns
  have tables : (schema.withFirstKey table).tables.map Table.unkeyed =
      schema.tables.map Table.unkeyed := by
    apply map_changeFirst
    intro old meant
    obtain rfl : table = old := Option.some.inj (found.symm.trans meant)
    simp only [Table.unkeyed, columns]
  simp only [unkeyed, tables]
  rfl

include overkeyed

theorem overkeyed_withFirstKey :
    (schema.withFirstKey table).overkeyed + 1 = schema.overkeyed := by
  apply countP_changeFirst found
  · rwa [decide_eq_true_iff]
  · rw [length_primaryKeys_keepFirstKey, decide_eq_false_iff_not]
    omega

include distinct

theorem primaryKeys_withFirstKey
    {other : Table} (member : other ∈ (schema.withFirstKey table).tables)
    (same : other.id = table.id) : other.primaryKeys.length = 1 := by
  rw [withFirstKey, changeTable_tables distinct] at member
  obtain ⟨old, oldMember, rfl⟩ := List.mem_map.mp member
  by_cases meant : old.id = table.id
  · obtain rfl : table = old :=
      Option.some.inj (found.symm.trans ((table?_eq_some_iff distinct).mpr ⟨oldMember, meant⟩))
    rw [if_pos meant, length_primaryKeys_keepFirstKey]
    omega
  · rw [if_neg meant] at same
    exact absurd same meant

theorem improves_withFirstKey
    {finding : Finding} (rule : finding.rule = .primaryKey) (owner : finding.table = some table.id)
    (now : Timestamp) :
    schema.Improves { schema.withFirstKey table with updatedAt := now } finding := by
  have kept := unkeyed_withFirstKey found
  constructor
  · exact kept
  · exact List.prefix_refl _
  · have keys := overkeyed_withFirstKey found overkeyed
    have sources := Finset.card_le_card (uncovered_subset kept (List.Subset.refl _))
    have left : (schema.withFirstKey table).fixesLeft < schema.fixesLeft := by
      rw [fixesLeft, fixesLeft]
      omega
    exact left
  · intro member
    rw [Validation.mem_validate_iff, rule] at member
    obtain ⟨_, other, otherMember, otherOwner, several, _⟩ :=
      Validation.mem_primaryKeyFindings member
    have same : other.id = table.id := Option.some.inj (otherOwner.symm.trans owner)
    exact several (primaryKeys_withFirstKey distinct found overkeyed otherMember same)

end

/-! ## The fix of a missing index -/

section

variable {finding : Finding}

/-- A finding on an index that is missing names the table and the column that it is about. -/
theorem exists_uncovered
    (member : finding ∈ schema.validate) (rule : finding.rule = .missingForeignKeyIndex) :
    ∃ table column, schema.endpoint? table.id column.id = some (table, column) ∧
      (table.id, column.id) ∈ schema.uncovered ∧
      finding.table = some table.id ∧ finding.column = some column.id := by
  rw [Validation.mem_validate_iff, rule] at member
  obtain ⟨relationship, related, table, column, resolved, lacks, rfl⟩ :=
    Validation.mem_missingIndexFindings member
  obtain ⟨tableFound, columnFound⟩ := endpoint?_eq_some_iff.mp resolved
  have owner : table.id = relationship.sourceTable := (mem_of_table? tableFound).2
  have held : column.id = relationship.sourceColumn := (mem_of_column? columnFound).2
  have source := mem_sources_of_endpoint? related (by rw [resolved]; rfl)
  rw [← owner, ← held] at resolved source
  have bare := mem_uncovered_iff.mpr ⟨source, table, column, resolved, lacks⟩
  exact ⟨table, column, resolved, bare, rfl, rfl⟩

variable {table : Table} {column : Column}
variable (resolved : schema.endpoint? table.id column.id = some (table, column))

theorem hasLeadingIndex_withLeadingIndex
    (schema : Schema) (table : Table) (column : Column) (id : IndexId) :
    Validation.hasLeadingIndex (schema.withLeadingIndex table column id) table column = true := by
  simp [Validation.hasLeadingIndex, indexesOf, withLeadingIndex, Ddl.leadsWith]

include resolved

theorem notMem_uncovered_withLeadingIndex (id : IndexId) :
    (table.id, column.id) ∉ (schema.withLeadingIndex table column id).uncovered := by
  intro uncovered
  obtain ⟨_, other, otherColumn, otherResolved, lacks⟩ := mem_uncovered_iff.mp uncovered
  have ends : some (table, column) = some (other, otherColumn) :=
    resolved.symm.trans otherResolved
  cases ends
  rw [hasLeadingIndex_withLeadingIndex] at lacks
  cases lacks

theorem improves_withLeadingIndex
    (uncovered : (table.id, column.id) ∈ schema.uncovered)
    (rule : finding.rule = .missingForeignKeyIndex) (owner : finding.table = some table.id)
    (named : finding.column = some column.id) (id : IndexId) (now : Timestamp) :
    schema.Improves { schema.withLeadingIndex table column id with updatedAt := now } finding := by
  have kept : (schema.withLeadingIndex table column id).unkeyed = schema.unkeyed := rfl
  have covered := notMem_uncovered_withLeadingIndex resolved id
  constructor
  · exact kept
  · exact List.prefix_append _ _
  · have fewer : (schema.withLeadingIndex table column id).uncovered ⊂ schema.uncovered := by
      refine (Finset.ssubset_iff_of_subset ?_).mpr ⟨_, uncovered, covered⟩
      exact uncovered_subset kept (List.subset_append_left _ _)
    exact Nat.add_lt_add_left (Finset.card_lt_card fewer) schema.overkeyed
  · intro member
    obtain ⟨other, otherColumn, _, otherUncovered, otherOwner, otherNamed⟩ :=
      exists_uncovered member rule
    have sameTable : other.id = table.id := Option.some.inj (otherOwner.symm.trans owner)
    have sameColumn : otherColumn.id = column.id := Option.some.inj (otherNamed.symm.trans named)
    rw [sameTable, sameColumn] at otherUncovered
    exact covered otherUncovered

end

/-! ## Fixes one after another -/

section

variable (distinct : schema.tableIds.Nodup)

include distinct

/-- A finding that can be fixed is fixed, and something is gained. -/
theorem fixed_improves
    {finding : Finding} (member : finding ∈ schema.validate) (fixable : finding.autoFixable = true)
    (nextId : Nat) (now : Timestamp) :
    ∃ text after, schema.fixed finding nextId now = (.ok text, after) ∧
      schema.Improves after finding := by
  have found := Validation.mem_validate_iff.mp member
  -- Only these two rules have findings that can be fixed.
  rcases (Validation.rule_of_mem_ofRule found).2 fixable with rule | rule
  · rw [rule] at found
    obtain ⟨_, table, tableMember, owner, _, several⟩ := Validation.mem_primaryKeyFindings found
    have tableFound := (table?_eq_some_iff distinct).mpr ⟨tableMember, rfl⟩
    have run : (Edit.applyFix finding).run { schema, nextId, now } = _ :=
      Edit.run_applyFix_keys fixable owner tableFound rule
    rw [fixed, run]
    exact ⟨_, _, rfl, improves_withFirstKey distinct tableFound (several fixable) rule owner now⟩
  · obtain ⟨table, column, resolved, uncovered, owner, named⟩ := exists_uncovered member rule
    obtain ⟨tableFound, columnFound⟩ := endpoint?_eq_some_iff.mp resolved
    have run : (Edit.applyFix finding).run { schema, nextId, now } = _ :=
      Edit.run_applyFix_index fixable owner tableFound rule named columnFound
    rw [fixed, run]
    exact ⟨_, _, rfl, improves_withLeadingIndex resolved uncovered rule owner named _ now⟩

theorem unfixable_of_fixesLeft_eq_zero (none : schema.fixesLeft = 0) :
    ∀ finding ∈ schema.validate, finding.autoFixable = false := by
  intro finding member
  by_contra fixable
  obtain ⟨_, _, _, improves⟩ :=
    fixed_improves distinct member (Bool.not_eq_false _ ▸ fixable) 0 default
  have left := improves.left
  omega

end

theorem Fixes.improves
    {last : Schema} {findings : List Finding} (distinct : schema.tableIds.Nodup)
    (fixes : schema.Fixes findings last) :
    last.unkeyed = schema.unkeyed ∧ schema.indexes <+: last.indexes ∧
      findings.length + last.fixesLeft ≤ schema.fixesLeft := by
  induction fixes with
  | none schema => exact ⟨rfl, List.prefix_refl _, by simp⟩
  | @next schema last finding findings nextId now found fixable rest ih =>
      obtain ⟨text, after, run, improves⟩ := fixed_improves distinct found fixable nextId now
      rw [run] at ih
      -- What a fix leaves alone includes the identities of the tables.
      have distinctAfter : after.tableIds.Nodup := by
        rwa [← tableIds_unkeyed, improves.unkeyed, tableIds_unkeyed]
      obtain ⟨kept, indexes, left⟩ := ih distinctAfter
      dsimp only at left
      refine ⟨kept.trans improves.unkeyed, improves.indexes.trans indexes, ?_⟩
      have gained := improves.left
      rw [List.length_cons]
      omega

/-- However findings are chosen, fixing them changes keys and indexes only and comes to an end
without a finding that can be fixed; as long as there is one, its fix succeeds and it is gone. -/
theorem fixing_converges
    {schema last : Schema} {findings : List Finding} (distinct : schema.tableIds.Nodup)
    (fixes : schema.Fixes findings last) :
    findings.length ≤ schema.overkeyed + schema.sources.card ∧
      (findings.length = schema.overkeyed + schema.sources.card →
        ∀ finding ∈ last.validate, finding.autoFixable = false) ∧
      last.unkeyed = schema.unkeyed ∧ schema.indexes <+: last.indexes ∧
      ∀ finding ∈ last.validate, finding.autoFixable = true → ∀ nextId now,
        ∃ text after, last.fixed finding nextId now = (.ok text, after) ∧
          finding ∉ after.validate := by
  obtain ⟨kept, indexes, left⟩ := fixes.improves distinct
  have limit := schema.fixesLeft_le
  have distinctLast : last.tableIds.Nodup := by
    rwa [← tableIds_unkeyed, kept, tableIds_unkeyed]
  refine ⟨by omega, ?_, kept, indexes, ?_⟩
  · intro exhausted
    exact unfixable_of_fixesLeft_eq_zero distinctLast (by omega)
  · intro finding member fixable nextId now
    obtain ⟨text, after, run, improves⟩ := fixed_improves distinctLast member fixable nextId now
    exact ⟨text, after, run, improves.gone⟩

/-- Orders have two keys, the second of which refers to a user: unmarking it brings up that it
begins no index. -/
theorem fixing_converges_shop :
    let users : Table :=
      { id := ⟨0⟩
        name := "users"
        columns := [{ name := "id", dataType := "INT", isPrimaryKey := true, id := ⟨1⟩ }]
        position := default
        rowCount := 0
        rows := [] }
    let orders : Table :=
      { id := ⟨2⟩
        name := "orders"
        columns :=
          [{ name := "id", dataType := "INT", isPrimaryKey := true, id := ⟨3⟩ },
            { name := "user_id", dataType := "INT", isPrimaryKey := true, isForeignKey := true,
              id := ⟨4⟩ }]
        position := default
        rowCount := 0
        rows := [] }
    let places : Relationship :=
      { name := none
        sourceTable := ⟨2⟩
        sourceColumn := ⟨4⟩
        targetTable := ⟨0⟩
        targetColumn := ⟨1⟩
        cardinality := .oneToMany
        id := ⟨5⟩ }
    let schema : Schema :=
      { new "shop" default with tables := [users, orders], relationships := [places] }
    ∃ findings last, schema.tableIds.Nodup ∧ schema.Fixes findings last ∧ findings.length = 2 ∧
      ∀ finding ∈ last.validate, finding.autoFixable = false := by
  intro users orders places schema
  let keys : Finding :=
    { rule := .primaryKey
      severity := .error
      message := "Table '" ++ orders.name ++ "' has " ++ toString 2 ++
        " primary key columns; only one is allowed"
      table := some orders.id
      suggestion := some "Keep the first primary key column and unmark the others"
      autoFixable := true }
  let unmarked : Column :=
    { name := "user_id", dataType := "INT", isForeignKey := true, id := ⟨4⟩ }
  let index := Validation.missingIndex places orders unmarked
  have distinct : schema.tableIds.Nodup := by decide
  have keysFound : keys ∈ schema.validate := by
    rw [Validation.mem_validate_iff]
    exact List.mem_filterMap.mpr ⟨orders, by simp [schema], rfl⟩
  have indexFound : index ∈ (schema.fixed keys 6 default).2.validate := by
    rw [Validation.mem_validate_iff]
    exact List.mem_singleton_self index
  have fixes : schema.Fixes [keys, index] _ :=
    .next 6 default keysFound rfl (.next 6 default indexFound rfl (.none _))
  have converges := fixing_converges distinct fixes
  exact ⟨_, _, distinct, fixes, rfl, converges.2.1 (by decide)⟩

end Schema

end SchemaDesign
