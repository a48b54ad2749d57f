import SchemaDesign.Proofs.Ddl.LeadingColumns
import SchemaDesign.Proofs.Schema.Outlines
import SchemaDesign.Proofs.Schema.Places
import SchemaDesign.Proofs.Validation.ByRule

/-!
# Foreign key columns that begin an index

Validation finds a foreign key column without an index exactly where the statements that create the
indexes of its table begin none with it, and finds it once however many relationships start there.
-/

namespace SchemaDesign

namespace Ddl

/-- Whether a statement creates an index that begins with a column of a name, in any letter case. -/
def beginsWith (dialect : Dialect) (statement columnName : String) : Bool :=
  (leadingColumn? dialect statement).any fun leading => Text.same leading columnName

variable {dialect : Dialect} {schema : Schema} {table : Table} {column : Column}

theorem beginsWith_createIndex {tableName columnName : String} {index : IndexSpec} :
    beginsWith dialect (createIndex dialect tableName index) columnName =
      leadsWith index columnName := by
  rw [beginsWith, leadingColumn?_createIndex, leadsWith]
  cases index.columns <;> rfl

theorem any_beginsWith {columnName : String} :
    (indexStatements dialect schema table).any (beginsWith dialect · columnName) =
      (tableIndexes schema table).any (leadsWith · columnName) := by
  rw [indexStatements, List.any_map]
  exact List.any_congr rfl fun index => beginsWith_createIndex

/-- An implied index begins with the one column that it is for. -/
theorem leadsWith_impliedIndex
    (named : table.columns.Pairwise fun left right => Text.same left.name right.name = false)
    (member : column ∈ table.columns) {other : Column} (otherMember : other ∈ table.columns) :
    leadsWith (impliedIndex table other) column.name = true ↔ other = column := by
  constructor
  · exact Schema.eq_of_same_name named otherMember member
  · rintro rfl
    exact Text.same_refl other.name

/-- The statements for the indexes of a table begin one with a column if a declared index does so or
the column is marked as indexed and is no primary key. -/
theorem any_beginsWith_iff
    (dialect : Dialect) (schema : Schema)
    (named : table.columns.Pairwise fun left right => Text.same left.name right.name = false)
    (member : column ∈ table.columns) :
    (indexStatements dialect schema table).any (beginsWith dialect · column.name) = true ↔
      Validation.hasLeadingIndex schema table column = true ∨
        column.isIndexed = true ∧ column.isPrimaryKey = false := by
  have declared : ((schema.indexesOf table.id).map Index.toIndexSpec).any
      (leadsWith · column.name) = Validation.hasLeadingIndex schema table column := by
    rw [List.any_map, Validation.hasLeadingIndex]
    rfl
  rw [any_beginsWith, tableIndexes, List.any_append, Bool.or_eq_true, declared]
  constructor
  · rintro (leads | implied)
    · exact .inl leads
    · obtain ⟨_, made, leads⟩ := List.any_eq_true.mp implied
      obtain ⟨other, kept, rfl⟩ := List.mem_map.mp made
      obtain ⟨otherMember, marked⟩ := List.mem_filter.mp kept
      obtain rfl := (leadsWith_impliedIndex named member otherMember).mp leads
      simp only [Bool.and_eq_true, Bool.not_eq_true'] at marked
      exact .inr marked.1
  · intro covered
    cases leads : Validation.hasLeadingIndex schema table column with
    | true => exact .inl rfl
    | false =>
        obtain ⟨indexed, plain⟩ := covered.resolve_left (by simp [leads])
        refine .inr (List.any_eq_true.mpr ⟨impliedIndex table column, List.mem_map_of_mem ?_,
          (leadsWith_impliedIndex named member member).mpr rfl⟩)
        rw [List.mem_filter, indexed, plain, declared, leads]
        exact ⟨member, rfl⟩

end Ddl

namespace Validation

variable {schema : Schema} {table : Table} {column : Column}

/-- Whether a foreign key column is to begin an index and does not. -/
def lacksIndex (schema : Schema) (table : Table) (column : Column) : Bool :=
  !column.isPrimaryKey && !column.isIndexed && !hasLeadingIndex schema table column

/-- The statements for the indexes of a table show which of its columns lack an index. -/
theorem lacksIndex_eq
    (dialect : Dialect)
    (named : table.columns.Pairwise fun left right => Text.same left.name right.name = false)
    (member : column ∈ table.columns) :
    lacksIndex schema table column =
      (!column.isPrimaryKey && !(Ddl.indexStatements dialect schema table).any
        (Ddl.beginsWith dialect · column.name)) := by
  have covered := Ddl.any_beginsWith_iff dialect schema named member
  rw [lacksIndex, Bool.eq_iff_iff]
  simp only [Bool.and_eq_true, Bool.not_eq_true', ← Bool.not_eq_true, covered]
  cases column.isPrimaryKey <;> cases column.isIndexed <;> simp

/-- Whether a relationship starts at a column. -/
def startsAt (schema : Schema) (column : Column) (relationship : Relationship) : Bool :=
  (schema.endpoint? relationship.sourceTable relationship.sourceColumn).any
    fun (_, held) => held.id == column.id

/-- A column that lacks an index is found once, by the first relationship that starts at it. -/
theorem countP_missingIndexFindings
    (single : ∀ relationship : Relationship, ∀ other held,
      schema.endpoint? relationship.sourceTable relationship.sourceColumn = some (other, held) →
        held.id = column.id → other = table ∧ held = column)
    (seen : List ColumnId) (relationships : List Relationship) :
    (missingIndexFindings schema seen relationships).countP
        (fun finding => finding.column == some column.id) =
      if lacksIndex schema table column && !seen.contains column.id &&
          relationships.any (startsAt schema column) then 1
      else 0 := by
  induction relationships generalizing seen with
  | nil => simp [missingIndexFindings]
  | cons relationship relationships ih =>
      rw [missingIndexFindings, List.any_cons, startsAt]
      cases resolved : schema.endpoint? relationship.sourceTable relationship.sourceColumn with
      | none => simp [ih]
      | some ends =>
          obtain ⟨other, held⟩ := ends
          dsimp only
          by_cases same : held.id = column.id
          · -- The relationship starts at the column, which has been seen from here on.
            obtain ⟨rfl, rfl⟩ := single relationship other held resolved same
            cases passed : held.isPrimaryKey || held.isIndexed || seen.contains held.id with
            | true =>
                have covered :
                    (lacksIndex schema other held && !seen.contains held.id) = false := by
                  rw [Bool.eq_false_iff]
                  intro lacks
                  simp_all [lacksIndex]
                rw [if_pos rfl, ih, covered]
                rfl
            | false =>
                simp only [Bool.or_eq_false_iff] at passed
                cases leads : hasLeadingIndex schema other held with
                | true => simp [ih, lacksIndex, leads]
                | false =>
                    have unseen : held.id ∉ seen := by simpa using passed.2
                    simp [ih, lacksIndex, leads, passed.1, unseen, missingIndex]
          · -- A finding on another column counts for nothing, nor does having seen it.
            have apart : ¬ column.id = held.id := fun equal => same equal.symm
            cases held.isPrimaryKey || held.isIndexed || seen.contains held.id <;>
              cases hasLeadingIndex schema other held <;> simp [ih, apart, missingIndex, same]

/-- Validation and the statements for the indexes of a table agree on which of the columns that
relationships start at are to get an index, and validation finds each of them once. -/
theorem countP_missingForeignKeyIndex
    (dialect : Dialect) (columns : schema.columnIds.Nodup)
    (named : ∀ table ∈ schema.tables,
      table.columns.Pairwise fun left right => Text.same left.name right.name = false)
    {relationship : Relationship} (member : relationship ∈ schema.relationships)
    (starts : schema.endpoint? relationship.sourceTable relationship.sourceColumn =
      some (table, column)) :
    schema.validate.countP (fun finding =>
        finding.rule == .missingForeignKeyIndex && finding.column == some column.id) =
      if column.isPrimaryKey || (Ddl.indexStatements dialect schema table).any
          (Ddl.beginsWith dialect · column.name) then 0
      else 1 := by
  obtain ⟨tableFound, columnFound⟩ := Schema.endpoint?_eq_some_iff.mp starts
  have tableMember := (Schema.mem_of_table? tableFound).1
  have columnMember := (Schema.mem_of_column? columnFound).1
  have single : ∀ relationship : Relationship, ∀ other held,
      schema.endpoint? relationship.sourceTable relationship.sourceColumn = some (other, held) →
        held.id = column.id → other = table ∧ held = column := by
    intro relationship other held resolved same
    obtain ⟨otherFound, heldFound⟩ := Schema.endpoint?_eq_some_iff.mp resolved
    exact Schema.place_eq columns (Schema.mem_of_table? otherFound).1 tableMember
      (Schema.mem_of_column? heldFound).1 columnMember same
  have started : schema.relationships.any (startsAt schema column) = true :=
    List.any_eq_true.mpr ⟨relationship, member, by simp [startsAt, starts]⟩
  have counted : schema.validate.countP (fun finding =>
      finding.rule == .missingForeignKeyIndex && finding.column == some column.id) =
        (foreignKeyIndexFindings schema).countP
          (fun finding => finding.column == some column.id) := by
    rw [← ofRule, ← filter_validate, List.countP_filter]
    simp only [Bool.and_comm]
  rw [counted, foreignKeyIndexFindings, countP_missingIndexFindings single, started,
    lacksIndex_eq dialect (named table tableMember) columnMember]
  cases column.isPrimaryKey <;>
    cases (Ddl.indexStatements dialect schema table).any (Ddl.beginsWith dialect · column.name) <;>
    rfl

theorem countP_missingForeignKeyIndex_shop :
    let users : Table :=
      { id := ⟨0⟩
        name := "users"
        columns := [{ name := "id", dataType := "INT", isPrimaryKey := true, id := ⟨1⟩ }]
        position := default
        rowCount := 0
        rows := [] }
    let user : Column :=
      { name := "User_Id", dataType := "INT", isForeignKey := true, id := ⟨4⟩ }
    let orders : Table :=
      { id := ⟨2⟩
        name := "orders"
        columns := [{ name := "id", dataType := "INT", isPrimaryKey := true, id := ⟨3⟩ }, user]
        position := default
        rowCount := 0
        rows := [] }
    let places : Relationship :=
      { name := none
        sourceTable := ⟨2⟩
        sourceColumn := ⟨4⟩
        targetTable := ⟨0⟩
        targetColumn := ⟨1⟩
        cardinality := .oneToMany
        id := ⟨5⟩ }
    let pays : Relationship := { places with name := some "pays", id := ⟨6⟩ }
    let index : Index :=
      { name := "by_id", table := ⟨2⟩, columns := ["id", "user_id"], isUnique := true, id := ⟨7⟩ }
    let schema : Schema :=
      { Schema.new "shop" default with
        tables := [users, orders]
        relationships := [places, pays]
        indexes := [index] }
    schema.columnIds.Nodup ∧
      (∀ table ∈ schema.tables,
        table.columns.Pairwise fun left right => Text.same left.name right.name = false) ∧
      places ∈ schema.relationships ∧ pays ∈ schema.relationships ∧
      schema.endpoint? places.sourceTable places.sourceColumn = some (orders, user) ∧
      schema.validate.countP (fun finding =>
        finding.rule == .missingForeignKeyIndex && finding.column == some user.id) = 1 := by
  intro users user orders places pays index schema
  have columns : schema.columnIds.Nodup := by decide
  have named : ∀ table ∈ schema.tables,
      table.columns.Pairwise fun left right => Text.same left.name right.name = false := by
    decide
  have member : places ∈ schema.relationships := List.mem_cons_self
  have starts : schema.endpoint? places.sourceTable places.sourceColumn = some (orders, user) := rfl
  have uncovered : (Ddl.indexStatements .mySql schema orders).any
      (Ddl.beginsWith .mySql · user.name) = false := by
    rw [Ddl.any_beginsWith]
    decide
  have counted := countP_missingForeignKeyIndex .mySql columns named member starts
  rw [uncovered] at counted
  exact ⟨columns, named, member, List.mem_cons_of_mem _ List.mem_cons_self, starts, counted⟩

end Validation

end SchemaDesign
