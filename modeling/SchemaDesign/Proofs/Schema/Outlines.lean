import SchemaDesign.Proofs.Schema.Linked

/-!
# What a schema says without identities

Tables by name and definition, and relationships by the names of their ends.  Which columns are
foreign keys follows from the names of the ends.
-/

namespace SchemaDesign

/-- The definition of a table. -/
def Table.spec (table : Table) : TableSpec :=
  { name := table.name, columns := table.columns.map fun column => column.toColumnSpec }

/-- The definition of a column without its mark as a foreign key. -/
def ColumnSpec.unmarked (column : ColumnSpec) : ColumnSpec :=
  { column with isForeignKey := false }

/-- The definition of a table in which no column is marked as a foreign key. -/
def TableSpec.unmarked (spec : TableSpec) : TableSpec :=
  { spec with columns := spec.columns.map ColumnSpec.unmarked }

/-- The definition of a table in which the columns of some names are marked as foreign keys. -/
def TableSpec.marked (spec : TableSpec) (sources : List (String × String)) : TableSpec :=
  { spec with
    columns := spec.columns.map fun column =>
      { column with isForeignKey := decide ((spec.name, column.name) ∈ sources) } }

/-- A relationship by the names of its ends, each a table and a column. -/
structure NamedRelationship where
  name : Option String
  source : String × String
  target : String × String
  cardinality : Cardinality
deriving DecidableEq, Repr

/-- What a schema says without identities, but for the marks that follow from its relationships. -/
structure Outline where
  tables : List TableSpec
  relationships : List (Option NamedRelationship)
  indexes : List Index
  constraints : List Constraint
  users : List User
  permissions : List Permission
deriving DecidableEq

/-- An outline with one more table. -/
def Outline.withTable (outline : Outline) (spec : TableSpec) : Outline :=
  { outline with tables := outline.tables ++ [spec] }

/-- An outline with one more relationship. -/
def Outline.withRelationship (outline : Outline) (named : Option NamedRelationship) : Outline :=
  { outline with relationships := outline.relationships ++ [named] }

namespace Schema

/-- The names of the table and column at an end. -/
def endNames? (schema : Schema) (table : TableId) (column : ColumnId) :
    Option (String × String) :=
  (schema.endpoint? table column).map fun found => (found.1.name, found.2.name)

/-- A relationship by the names of its ends, if both exist. -/
def named? (schema : Schema) (relationship : RelationshipSpec) : Option NamedRelationship := do
  let source ← schema.endNames? relationship.sourceTable relationship.sourceColumn
  let target ← schema.endNames? relationship.targetTable relationship.targetColumn
  some { name := relationship.name, source, target, cardinality := relationship.cardinality }

/-- The definitions of the tables. -/
def tableSpecs (schema : Schema) : List TableSpec :=
  schema.tables.map Table.spec

/-- The relationships by the names of their ends. -/
def namedRelationships (schema : Schema) : List (Option NamedRelationship) :=
  schema.relationships.map fun relationship => schema.named? relationship.toRelationshipSpec

/-- The outline of a schema. -/
def outline (schema : Schema) : Outline :=
  { tables := schema.tableSpecs.map TableSpec.unmarked
    relationships := schema.namedRelationships
    indexes := schema.indexes
    constraints := schema.constraints
    users := schema.users
    permissions := schema.permissions }

/-- The names of the ends from which relationships start. -/
def sourceNames (schema : Schema) : List (String × String) :=
  schema.namedRelationships.filterMap fun named => named.map fun named => named.source

/-- Names tell the tables apart, and the columns of each table. -/
structure NamesDiffer (schema : Schema) : Prop where
  tables : schema.tables.Pairwise fun left right => Text.same left.name right.name = false
  columns : ∀ table ∈ schema.tables,
    table.columns.Pairwise fun left right => Text.same left.name right.name = false

/-- Exactly the columns to which the source of a relationship leads are marked as foreign keys. -/
def MarksEnds (schema : Schema) : Prop :=
  ∀ table ∈ schema.tables, ∀ column ∈ table.columns,
    column.isForeignKey = true ↔ ∃ relationship ∈ schema.relationships,
      schema.endpoint? relationship.sourceTable relationship.sourceColumn = some (table, column)

/-- Both ends of every relationship exist. -/
def Resolves (schema : Schema) : Prop :=
  ∀ relationship ∈ schema.relationships,
    (schema.endpoints? relationship.toRelationshipSpec).isSome

end Schema

theorem TableSpec.unmarked_eq_self
    {spec : TableSpec} (unmarked : ∀ column ∈ spec.columns, column.isForeignKey = false) :
    spec.unmarked = spec := by
  have columns : spec.columns.map ColumnSpec.unmarked = spec.columns.map id := by
    apply List.map_congr_left
    intro column member
    rw [ColumnSpec.unmarked, ← unmarked column member, id_eq]
  rw [TableSpec.unmarked, columns, List.map_id]

namespace Schema

variable {schema : Schema}

/-! ## Names that differ -/

theorem eq_of_same_name
    {α : Type} {name : α → String} {xs : List α}
    (differ : xs.Pairwise fun left right => Text.same (name left) (name right) = false)
    {x y : α} (xMember : x ∈ xs) (yMember : y ∈ xs) (same : Text.same (name x) (name y) = true) :
    x = y := by
  induction differ with
  | nil => cases xMember
  | @cons first rest apart _ ih =>
      rcases List.mem_cons.mp xMember with rfl | xLater
      · rcases List.mem_cons.mp yMember with rfl | yLater
        · rfl
        · cases same.symm.trans (apart y yLater)
      · rcases List.mem_cons.mp yMember with rfl | yLater
        · rw [Text.same_comm] at same
          cases same.symm.trans (apart x xLater)
        · exact ih xLater yLater

theorem find?_same_name
    {α : Type} {name : α → String} {xs : List α}
    (differ : xs.Pairwise fun left right => Text.same (name left) (name right) = false)
    {x : α} (member : x ∈ xs) :
    xs.find? (fun other => Text.same (name other) (name x)) = some x := by
  cases found : xs.find? fun other => Text.same (name other) (name x) with
  | none =>
      have none := List.find?_eq_none.mp found x member
      exact absurd (Text.same_refl (name x)) none
  | some other =>
      have same := List.find?_some found
      rw [eq_of_same_name differ (List.mem_of_find?_eq_some found) member same]

section

variable {changed : Schema}
variable (specs : changed.tableSpecs.map TableSpec.unmarked =
  schema.tableSpecs.map TableSpec.unmarked)

theorem columnNames_of_spec
    {left right : Table} (same : left.spec.unmarked = right.spec.unmarked) :
    left.columns.map (fun column => column.name) = right.columns.map fun column => column.name := by
  have names := congrArg (fun spec => spec.columns.map fun column => column.name) same
  simpa [Table.spec, TableSpec.unmarked, ColumnSpec.unmarked, Function.comp_def] using names

include specs

theorem exists_table_of_specs {table : Table} (member : table ∈ changed.tables) :
    ∃ other ∈ schema.tables, other.spec.unmarked = table.spec.unmarked := by
  have known : table.spec.unmarked ∈ schema.tableSpecs.map TableSpec.unmarked := by
    rw [← specs]
    exact List.mem_map_of_mem (List.mem_map_of_mem member)
  obtain ⟨_, specMember, sameSpec⟩ := List.mem_map.mp known
  obtain ⟨other, otherMember, rfl⟩ := List.mem_map.mp specMember
  exact ⟨other, otherMember, sameSpec⟩

/-- Schemas that have the same tables but for identities and marks have columns of the same
names. -/
theorem exists_place_of_specs
    {table : Table} (member : table ∈ changed.tables) {column : Column}
    (columnMember : column ∈ table.columns) :
    ∃ other ∈ schema.tables, other.name = table.name ∧
      ∃ held ∈ other.columns, held.name = column.name := by
  obtain ⟨other, otherMember, same⟩ := exists_table_of_specs specs member
  have named : column.name ∈ other.columns.map fun column => column.name := by
    rw [columnNames_of_spec same]
    exact List.mem_map_of_mem columnMember
  obtain ⟨held, heldMember, sameName⟩ := List.mem_map.mp named
  exact ⟨other, otherMember, congrArg TableSpec.name same, held, heldMember, sameName⟩

/-- The names differ in schemas that have the same tables but for identities and marks. -/
theorem NamesDiffer.of_specs (differ : schema.NamesDiffer) : changed.NamesDiffer := by
  have tables : changed.tables.map (fun table => table.name) =
      schema.tables.map fun table => table.name := by
    have names := congrArg (List.map fun spec => spec.name) specs
    simpa [tableSpecs, Table.spec, TableSpec.unmarked, Function.comp_def] using names
  constructor
  · have apart : (schema.tables.map fun table => table.name).Pairwise
        fun left right => Text.same left right = false := by
      rw [List.pairwise_map]
      exact differ.tables
    rw [← tables, List.pairwise_map] at apart
    exact apart
  · intro table member
    obtain ⟨other, otherMember, same⟩ := exists_table_of_specs specs member
    have apart : (other.columns.map fun column => column.name).Pairwise
        fun left right => Text.same left right = false := by
      rw [List.pairwise_map]
      exact differ.columns other otherMember
    rw [columnNames_of_spec same, List.pairwise_map] at apart
    exact apart

end

theorem NamesDiffer.tableNamed?
    (differ : schema.NamesDiffer) {table : Table} (member : table ∈ schema.tables) :
    schema.tableNamed? table.name = some table :=
  find?_same_name differ.tables member

theorem NamesDiffer.columnNamed?
    (differ : schema.NamesDiffer) {table : Table} (member : table ∈ schema.tables)
    {column : Column} (columnMember : column ∈ table.columns) :
    table.columnNamed? column.name = some column :=
  find?_same_name (differ.columns table member) columnMember

/-! ## Ends by name -/

theorem endpoints?_eq_some_iff
    {relationship : RelationshipSpec} {source target : Table × Column} :
    schema.endpoints? relationship = some (source, target) ↔
      schema.endpoint? relationship.sourceTable relationship.sourceColumn = some source ∧
        schema.endpoint? relationship.targetTable relationship.targetColumn = some target := by
  simp only [endpoints?, Option.bind_eq_bind, Option.bind_eq_some_iff, Option.some.injEq,
    Prod.mk.injEq]
  constructor
  · rintro ⟨source, sourceFound, target, targetFound, rfl, rfl⟩
    exact ⟨sourceFound, targetFound⟩
  · rintro ⟨sourceFound, targetFound⟩
    exact ⟨source, sourceFound, target, targetFound, rfl, rfl⟩

theorem named?_eq_some
    {relationship : RelationshipSpec} {source target : Table} {sourceColumn targetColumn : Column}
    (ends : schema.endpoints? relationship =
      some ((source, sourceColumn), (target, targetColumn))) :
    schema.named? relationship =
      some
        { name := relationship.name
          source := (source.name, sourceColumn.name)
          target := (target.name, targetColumn.name)
          cardinality := relationship.cardinality } := by
  obtain ⟨sourceFound, targetFound⟩ := endpoints?_eq_some_iff.mp ends
  simp [named?, endNames?, sourceFound, targetFound]

/-- The identity and name of a table and of each of its columns. -/
def Label (table : Table) : TableId × String × List (ColumnId × String) :=
  (table.id, table.name, table.columns.map fun column => (column.id, column.name))

/-- The identities and names of the tables and their columns. -/
def labels (schema : Schema) : List (TableId × String × List (ColumnId × String)) :=
  schema.tables.map Label

theorem endNames?_eq_labels (schema : Schema) (table : TableId) (column : ColumnId) :
    schema.endNames? table column =
      (schema.labels.find? fun label => label.1 == table).bind fun label =>
        (label.2.2.find? fun held => held.1 == column).map fun held => (label.2.1, held.2) := by
  rw [endNames?, endpoint?, labels, List.find?_map]
  change ((schema.table? table).bind _).map _ = ((schema.table? table).map _).bind _
  cases schema.table? table with
  | none => rfl
  | some found =>
      change ((found.column? column).bind _).map _ = Option.map _ (List.find? _ (List.map _ _))
      rw [List.find?_map]
      change _ = Option.map _ (Option.map _ (found.column? column))
      cases found.column? column with
      | none => rfl
      | some held => rfl

/-- What relationships are called by depends on the identities and names only. -/
theorem named?_of_labels
    {changed : Schema} (labels : changed.labels = schema.labels) (relationship : RelationshipSpec) :
    changed.named? relationship = schema.named? relationship := by
  simp only [named?, endNames?_eq_labels, labels]

/-! ## Outlines of changed schemas -/

theorem outline_withTable (unrelated : schema.relationships = []) (table : Table) :
    ({ schema with tables := schema.tables ++ [table] } : Schema).outline =
      schema.outline.withTable table.spec.unmarked := by
  simp [outline, Outline.withTable, tableSpecs, namedRelationships, unrelated]

section

variable {id : TableId} {change : Table → Table}
variable (keepsLabel : ∀ table, Label (change table) = Label table)

include keepsLabel

theorem named?_changeTable (relationship : RelationshipSpec) :
    (schema.changeTable id change).named? relationship = schema.named? relationship := by
  have labels : (schema.changeTable id change).labels = schema.labels :=
    map_changeFirst fun table _ => keepsLabel table
  exact named?_of_labels labels relationship

theorem outline_changeTable
    (keepsSpec : ∀ table, (change table).spec.unmarked = table.spec.unmarked) :
    (schema.changeTable id change).outline = schema.outline := by
  have tables : (schema.changeTable id change).tableSpecs.map TableSpec.unmarked =
      schema.tableSpecs.map TableSpec.unmarked := by
    rw [tableSpecs, tableSpecs, List.map_map, List.map_map]
    exact map_changeFirst fun table _ => keepsSpec table
  have relationships : (schema.changeTable id change).namedRelationships =
      schema.namedRelationships :=
    List.map_congr_left fun relationship _ => named?_changeTable keepsLabel _
  rw [outline, tables, relationships]
  rfl

end

/-- A new relationship shows in an outline by the names of its ends only. -/
theorem outline_addRelationship (schema : Schema) (relationship : Relationship) :
    ({ schema.changeTable relationship.sourceTable fun table =>
        { table with
          columns := changeFirst (fun column => column.id == relationship.sourceColumn)
            (fun column => { column with isForeignKey := true }) table.columns } with
      relationships := schema.relationships ++ [relationship] } : Schema).outline =
      schema.outline.withRelationship (schema.named? relationship.toRelationshipSpec) := by
  let mark (table : Table) : Table :=
    { table with
      columns := changeFirst (fun column => column.id == relationship.sourceColumn)
        (fun column => { column with isForeignKey := true }) table.columns }
  have keepsLabel (table : Table) : Label (mark table) = Label table := by
    have columns : (mark table).columns.map (fun column => (column.id, column.name)) =
        table.columns.map fun column => (column.id, column.name) :=
      map_changeFirst fun column _ => rfl
    rw [Label, columns]
    rfl
  have keepsSpec (table : Table) : (mark table).spec.unmarked = table.spec.unmarked := by
    have columns : (mark table).columns.map (fun column => column.toColumnSpec.unmarked) =
        table.columns.map fun column => column.toColumnSpec.unmarked :=
      map_changeFirst fun column _ => rfl
    simpa [Table.spec, TableSpec.unmarked, Function.comp_def] using ⟨rfl, columns⟩
  let marked := schema.changeTable relationship.sourceTable mark
  have same : marked.outline = schema.outline := outline_changeTable keepsLabel keepsSpec
  have named : marked.named? relationship.toRelationshipSpec =
      schema.named? relationship.toRelationshipSpec := named?_changeTable keepsLabel _
  have extended :
      ({ marked with relationships := schema.relationships ++ [relationship] } : Schema).outline =
        marked.outline.withRelationship (marked.named? relationship.toRelationshipSpec) := by
    rw [outline, namedRelationships, List.map_append]
    rfl
  rw [extended, same, named]

/-! ## Marks from names -/

theorem mem_sourceNames_iff
    (differ : schema.NamesDiffer) (resolves : schema.Resolves) {table : Table} {column : Column}
    (member : table ∈ schema.tables) (columnMember : column ∈ table.columns) :
    (table.name, column.name) ∈ schema.sourceNames ↔
      ∃ relationship ∈ schema.relationships,
        schema.endpoint? relationship.sourceTable relationship.sourceColumn =
          some (table, column) := by
  simp only [sourceNames, namedRelationships, List.mem_filterMap, List.mem_map,
    exists_exists_and_eq_and, Option.map_eq_some_iff]
  constructor
  · rintro ⟨relationship, relationshipMember, named, found, names⟩
    obtain ⟨⟨⟨source, sourceColumn⟩, ⟨target, targetColumn⟩⟩, ends⟩ :=
      Option.isSome_iff_exists.mp (resolves relationship relationshipMember)
    rw [named?_eq_some ends] at found
    cases found
    obtain ⟨sameTable, sameColumn⟩ := Prod.mk.inj names
    obtain ⟨sourceFound, _⟩ := endpoints?_eq_some_iff.mp ends
    obtain ⟨tableFound, columnFound⟩ := endpoint?_eq_some_iff.mp sourceFound
    have owner : source = table :=
      eq_of_same_name differ.tables (mem_of_table? tableFound).1 member
        (sameTable ▸ Text.same_refl _)
    subst owner
    have held : sourceColumn = column :=
      eq_of_same_name (differ.columns source member) (mem_of_column? columnFound).1 columnMember
        (sameColumn ▸ Text.same_refl _)
    subst held
    exact ⟨relationship, relationshipMember, sourceFound⟩
  · rintro ⟨relationship, relationshipMember, sourceFound⟩
    obtain ⟨⟨source, target, targetColumn⟩, ends⟩ :=
      Option.isSome_iff_exists.mp (resolves relationship relationshipMember)
    obtain ⟨otherFound, _⟩ := endpoints?_eq_some_iff.mp ends
    cases sourceFound.symm.trans otherFound
    exact ⟨relationship, relationshipMember, _, named?_eq_some ends, rfl⟩

/-- The marks of foreign keys can be restored from the names of the ends of relationships. -/
theorem tableSpecs_eq_marked
    (differ : schema.NamesDiffer) (resolves : schema.Resolves) (marks : schema.MarksEnds) :
    schema.tableSpecs =
      (schema.tableSpecs.map TableSpec.unmarked).map
        fun spec => spec.marked schema.sourceNames := by
  rw [tableSpecs, List.map_map, List.map_map]
  apply List.map_congr_left
  intro table member
  have restored : ∀ column ∈ table.columns,
      column.isForeignKey = decide ((table.name, column.name) ∈ schema.sourceNames) := by
    intro column columnMember
    rw [Bool.eq_iff_iff, decide_eq_true_iff,
      mem_sourceNames_iff differ resolves member columnMember]
    exact marks table member column columnMember
  simp only [Table.spec, Function.comp_apply, TableSpec.unmarked, TableSpec.marked, List.map_map,
    TableSpec.mk.injEq, true_and, and_true]
  apply List.map_congr_left
  intro column columnMember
  exact congrArg (fun isForeignKey => { column.toColumnSpec with isForeignKey })
    (restored column columnMember)

theorem mem_of_endpoint?
    {id : TableId} {columnId : ColumnId} {table : Table} {column : Column}
    (found : schema.endpoint? id columnId = some (table, column)) :
    table ∈ schema.tables ∧ column ∈ table.columns := by
  obtain ⟨tableFound, columnFound⟩ := endpoint?_eq_some_iff.mp found
  exact ⟨(mem_of_table? tableFound).1, (mem_of_column? columnFound).1⟩

/-! ## Linked schemas -/

theorem Linked.endpoint?_eq_some
    (linked : schema.Linked) {table : Table} (member : table ∈ schema.tables) {column : Column}
    (columnMember : column ∈ table.columns) :
    schema.endpoint? table.id column.id = some (table, column) := by
  rw [endpoint?_eq_some_iff]
  constructor
  · exact (table?_eq_some_iff linked.tables).mpr ⟨member, rfl⟩
  · exact (find?_key_eq_some_iff (columns_nodup linked.columns member)).mpr ⟨columnMember, rfl⟩

/-- In a linked schema the marks are on the columns to which sources lead. -/
theorem Linked.marksEnds (linked : schema.Linked) : schema.MarksEnds := by
  intro table member column columnMember
  rw [linked.foreignKeys table member column columnMember]
  constructor
  · rintro ⟨relationship, relationshipMember, same⟩
    refine ⟨relationship, relationshipMember, ?_⟩
    obtain ⟨⟨source, sourceColumn⟩, found⟩ :=
      Option.isSome_iff_exists.mp (linked.sources relationship relationshipMember)
    obtain ⟨tableFound, columnFound⟩ := endpoint?_eq_some_iff.mp found
    obtain ⟨held, identity⟩ := mem_of_column? columnFound
    obtain ⟨rfl, rfl⟩ := place_eq linked.columns (mem_of_table? tableFound).1 member held
      columnMember (identity.trans same)
    exact found
  · rintro ⟨relationship, relationshipMember, found⟩
    obtain ⟨_, columnFound⟩ := endpoint?_eq_some_iff.mp found
    exact ⟨relationship, relationshipMember, (mem_of_column? columnFound).2.symm⟩

theorem Linked.resolves (linked : schema.Linked) : schema.Resolves := by
  intro relationship member
  obtain ⟨source, sourceFound⟩ := Option.isSome_iff_exists.mp (linked.sources relationship member)
  obtain ⟨target, targetFound⟩ := Option.isSome_iff_exists.mp (linked.targets relationship member)
  rw [endpoints?_eq_some_iff.mpr ⟨sourceFound, targetFound⟩]
  rfl

/-- The outline of a schema and the marks that follow from it determine its tables. -/
theorem NamesDiffer.tableSpecs_eq
    (differ : schema.NamesDiffer) (resolves : schema.Resolves) (marks : schema.MarksEnds)
    {changed : Schema} (linked : changed.Linked)
    (tables : changed.outline.tables = schema.outline.tables)
    (relationships : changed.outline.relationships = schema.outline.relationships) :
    changed.tableSpecs = schema.tableSpecs := by
  have specs : changed.tableSpecs.map TableSpec.unmarked =
      schema.tableSpecs.map TableSpec.unmarked := tables
  have named : changed.namedRelationships = schema.namedRelationships := relationships
  have sources : changed.sourceNames = schema.sourceNames := by
    rw [sourceNames, named, sourceNames]
  rw [tableSpecs_eq_marked (differ.of_specs specs) linked.resolves linked.marksEnds, specs, sources,
    ← tableSpecs_eq_marked differ resolves marks]

end Schema

end SchemaDesign
