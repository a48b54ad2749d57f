import SchemaDesign.Proofs.Schema.Places

/-!
# References that lead somewhere

A schema is linked when its identities are distinct, all that it refers to exists, and exactly the
columns from which relationships start are marked as foreign keys.  Each kind of change keeps this.
-/

namespace SchemaDesign

namespace Schema

/-- Exactly the columns from which relationships start are marked as foreign keys. -/
def MarksSources (schema : Schema) : Prop :=
  ∀ table ∈ schema.tables, ∀ column ∈ table.columns,
    column.isForeignKey = true ↔
      ∃ relationship ∈ schema.relationships, relationship.sourceColumn = column.id

/-- What is referred to exists, under one identity each, and the marks of foreign keys tell the
truth. -/
structure Linked (schema : Schema) : Prop where
  tables : schema.tableIds.Nodup
  columns : schema.columnIds.Nodup
  sources : ∀ relationship ∈ schema.relationships,
    (schema.endpoint? relationship.sourceTable relationship.sourceColumn).isSome
  targets : ∀ relationship ∈ schema.relationships,
    (schema.endpoint? relationship.targetTable relationship.targetColumn).isSome
  foreignKeys : schema.MarksSources
  indexTables : ∀ index ∈ schema.indexes, (schema.table? index.table).isSome
  indexColumns : ∀ index ∈ schema.indexes, index.columns ≠ []
  constraintTables : ∀ constraint ∈ schema.constraints, (schema.table? constraint.table).isSome
  constraintColumns : ∀ constraint ∈ schema.constraints, ∀ column,
    constraint.column = some column → (schema.endpoint? constraint.table column).isSome

/-- A schema without tables and without anything that belongs to tables. -/
structure IsEmpty (schema : Schema) : Prop where
  tables : schema.tables = []
  relationships : schema.relationships = []
  indexes : schema.indexes = []
  constraints : schema.constraints = []

/-- Both ends of a relationship are columns of the schema. -/
def Joins (schema : Schema) (relationship : RelationshipSpec) : Prop :=
  schema.Holds relationship.sourceTable relationship.sourceColumn ∧
    schema.Holds relationship.targetTable relationship.targetColumn

/-- An index belongs to a table of the schema and has columns. -/
def Carries (schema : Schema) (index : IndexSpec) : Prop :=
  index.table ∈ schema.tableIds ∧ index.columns ≠ []

/-- A constraint belongs to a table of the schema, and to one of its columns if it names one. -/
def Bears (schema : Schema) (constraint : ConstraintSpec) : Prop :=
  constraint.table ∈ schema.tableIds ∧
    ∀ column, constraint.column = some column → schema.Holds constraint.table column

theorem linked_iff {schema : Schema} :
    schema.Linked ↔
      schema.tableIds.Nodup ∧ schema.columnIds.Nodup ∧ schema.MarksSources ∧
        (∀ relationship ∈ schema.relationships, schema.Joins relationship.toRelationshipSpec) ∧
        (∀ index ∈ schema.indexes, schema.Carries index.toIndexSpec) ∧
        ∀ constraint ∈ schema.constraints, schema.Bears constraint.toConstraintSpec := by
  constructor
  · intro linked
    have held := endpoint?_isSome_iff linked.tables
    refine ⟨linked.tables, linked.columns, linked.foreignKeys, ?_, ?_, ?_⟩
    · intro relationship member
      exact ⟨(held _ _).mp (linked.sources relationship member),
        (held _ _).mp (linked.targets relationship member)⟩
    · intro index member
      exact ⟨table?_isSome_iff.mp (linked.indexTables index member),
        linked.indexColumns index member⟩
    · intro constraint member
      refine ⟨table?_isSome_iff.mp (linked.constraintTables constraint member), ?_⟩
      intro column named
      exact (held _ _).mp (linked.constraintColumns constraint member column named)
  · rintro ⟨tables, columns, foreignKeys, joins, carries, bears⟩
    have held := endpoint?_isSome_iff tables
    constructor
    · exact tables
    · exact columns
    · intro relationship member
      exact (held _ _).mpr (joins relationship member).1
    · intro relationship member
      exact (held _ _).mpr (joins relationship member).2
    · exact foreignKeys
    · intro index member
      exact table?_isSome_iff.mpr (carries index member).1
    · intro index member
      exact (carries index member).2
    · intro constraint member
      exact table?_isSome_iff.mpr (bears constraint member).1
    · intro constraint member column named
      exact (held _ _).mpr ((bears constraint member).2 column named)

theorem Linked.joins {schema : Schema} (linked : schema.Linked) :
    ∀ relationship ∈ schema.relationships, schema.Joins relationship.toRelationshipSpec :=
  (linked_iff.mp linked).2.2.2.1

theorem Linked.carries {schema : Schema} (linked : schema.Linked) :
    ∀ index ∈ schema.indexes, schema.Carries index.toIndexSpec :=
  (linked_iff.mp linked).2.2.2.2.1

theorem Linked.bears {schema : Schema} (linked : schema.Linked) :
    ∀ constraint ∈ schema.constraints, schema.Bears constraint.toConstraintSpec :=
  (linked_iff.mp linked).2.2.2.2.2

/-! ## References follow their columns -/

section

variable {schema changed : Schema}

theorem Joins.mono
    (keeps : ∀ id column, schema.Holds id column → changed.Holds id column)
    {relationship : RelationshipSpec} (joins : schema.Joins relationship) :
    changed.Joins relationship :=
  ⟨keeps _ _ joins.1, keeps _ _ joins.2⟩

theorem Carries.mono
    (keeps : ∀ id ∈ schema.tableIds, id ∈ changed.tableIds)
    {index : IndexSpec} (carries : schema.Carries index) : changed.Carries index :=
  ⟨keeps _ carries.1, carries.2⟩

theorem Bears.mono
    (keepsTables : ∀ id ∈ schema.tableIds, id ∈ changed.tableIds)
    (keeps : ∀ id column, schema.Holds id column → changed.Holds id column)
    {constraint : ConstraintSpec} (bears : schema.Bears constraint) : changed.Bears constraint :=
  ⟨keepsTables _ bears.1, fun column named => keeps _ _ (bears.2 column named)⟩

end

/-! ## Changes that leave the columns where they are -/

/-- What other entities can refer to in a table, with the marks of its columns. -/
def Frame (table : Table) : TableId × List (ColumnId × Bool) :=
  (table.id, table.columns.map fun column => (column.id, column.isForeignKey))

/-- The tables of a schema as far as others can refer to them. -/
def frames (schema : Schema) : List (TableId × List (ColumnId × Bool)) :=
  schema.tables.map Frame

theorem tableIds_eq_frames (schema : Schema) : schema.tableIds = schema.frames.map Prod.fst := by
  simp [tableIds, frames, Frame, Function.comp_def]

theorem columnIds_eq_frames (schema : Schema) :
    schema.columnIds = schema.frames.flatMap fun frame => frame.2.map Prod.fst := by
  simp [columnIds, frames, Frame, List.flatMap_map, Function.comp_def]

theorem holds_iff_frames {schema : Schema} {id : TableId} {column : ColumnId} :
    schema.Holds id column ↔
      ∃ frame ∈ schema.frames, frame.1 = id ∧ ∃ mark ∈ frame.2, mark.1 = column := by
  simp only [Holds, frames, Frame, List.mem_map, exists_exists_and_eq_and]

theorem marksSources_iff_frames {schema : Schema} :
    schema.MarksSources ↔
      ∀ frame ∈ schema.frames, ∀ mark ∈ frame.2, mark.2 = true ↔
        ∃ relationship ∈ schema.relationships, relationship.sourceColumn = mark.1 := by
  simp only [MarksSources, frames, Frame, List.mem_map, forall_exists_index, and_imp,
    forall_apply_eq_imp_iff₂]

theorem frames_changeTable
    {schema : Schema} {id : TableId} {change : Table → Table}
    (unseen : ∀ table, schema.table? id = some table → Frame (change table) = Frame table) :
    (schema.changeTable id change).frames = schema.frames :=
  map_changeFirst unseen

theorem Linked.of_frames
    {schema changed : Schema} (linked : schema.Linked) (frames : changed.frames = schema.frames)
    (relationships : changed.relationships = schema.relationships)
    (carries : ∀ index ∈ changed.indexes, schema.Carries index.toIndexSpec)
    (bears : ∀ constraint ∈ changed.constraints, schema.Bears constraint.toConstraintSpec) :
    changed.Linked := by
  have tables : changed.tableIds = schema.tableIds := by
    rw [tableIds_eq_frames, tableIds_eq_frames, frames]
  have columns : changed.columnIds = schema.columnIds := by
    rw [columnIds_eq_frames, columnIds_eq_frames, frames]
  have keeps : ∀ id column, schema.Holds id column → changed.Holds id column := by
    intro id column holds
    rw [holds_iff_frames] at holds ⊢
    rwa [frames]
  have keepsTables : ∀ id ∈ schema.tableIds, id ∈ changed.tableIds := by
    intro id member
    rwa [tables]
  rw [linked_iff]
  refine ⟨tables ▸ linked.tables, columns ▸ linked.columns, ?_, ?_, ?_, ?_⟩
  · have marks := marksSources_iff_frames.mp linked.foreignKeys
    rw [marksSources_iff_frames, frames, relationships]
    exact marks
  · rw [relationships]
    intro relationship member
    exact (linked.joins relationship member).mono keeps
  · intro index member
    exact (carries index member).mono keepsTables
  · intro constraint member
    exact (bears constraint member).mono keepsTables keeps

theorem Linked.stamped
    {schema : Schema} (linked : schema.Linked) (time : Timestamp) :
    Linked { schema with updatedAt := time } :=
  linked.of_frames rfl rfl linked.carries linked.bears

end Schema

end SchemaDesign
