import SchemaDesign.Proofs.Schema.Places

/-!
# Other identities

A relabel gives every entity of a schema another identity of its kind, and no two of them the same.
Lookups in a renamed schema find the renamed entities.
-/

namespace SchemaDesign

/-- New identities for old ones of every kind, with different ones for different ones.  A schema has
finitely many identities, so an injection on those extends to all. -/
structure Relabeling where
  apply : (kind : EntityKind) → Id kind → Id kind
  injective : ∀ kind, Function.Injective (apply kind)

variable (relabel : Relabeling)

namespace Relabeling

variable {kind : EntityKind} {α : Type}

theorem beq_apply (left right : Id kind) :
    (relabel.apply kind left == relabel.apply kind right) = (left == right) := by
  rw [Bool.eq_iff_iff, beq_iff_eq, beq_iff_eq]
  exact (relabel.injective kind).eq_iff

variable (key : α → Id kind) (move : α → α)
variable (moves : ∀ x, key (move x) = relabel.apply kind (key x))

include moves

theorem beq_key (id : Id kind) :
    ((fun x => key x == relabel.apply kind id) ∘ move) = fun x => key x == id := by
  funext x
  rw [Function.comp_apply, moves, relabel.beq_apply]

theorem find?_map (xs : List α) (id : Id kind) :
    ((xs.map move).find? fun x => key x == relabel.apply kind id) =
      (xs.find? fun x => key x == id).map move := by
  rw [List.find?_map, relabel.beq_key key move moves]

theorem filter_map (xs : List α) (id : Id kind) :
    ((xs.map move).filter fun x => key x == relabel.apply kind id) =
      (xs.filter fun x => key x == id).map move := by
  rw [List.filter_map, relabel.beq_key key move moves]

end Relabeling

/-! ## Relabeled entities -/

def Column.relabeled (column : Column) : Column :=
  { column with id := relabel.apply .column column.id }

def Table.relabeled (table : Table) : Table :=
  { table with
    id := relabel.apply .table table.id
    columns := table.columns.map (Column.relabeled relabel) }

def RelationshipSpec.relabeled (relationship : RelationshipSpec) : RelationshipSpec :=
  { relationship with
    sourceTable := relabel.apply .table relationship.sourceTable
    sourceColumn := relabel.apply .column relationship.sourceColumn
    targetTable := relabel.apply .table relationship.targetTable
    targetColumn := relabel.apply .column relationship.targetColumn }

def Relationship.relabeled (relationship : Relationship) : Relationship :=
  { relationship.toRelationshipSpec.relabeled relabel with
    id := relabel.apply .relationship relationship.id }

def IndexSpec.relabeled (index : IndexSpec) : IndexSpec :=
  { index with table := relabel.apply .table index.table }

def Index.relabeled (index : Index) : Index :=
  { index.toIndexSpec.relabeled relabel with id := relabel.apply .index index.id }

def ConstraintSpec.relabeled (constraint : ConstraintSpec) : ConstraintSpec :=
  { constraint with
    table := relabel.apply .table constraint.table
    column := constraint.column.map (relabel.apply .column) }

def Constraint.relabeled (constraint : Constraint) : Constraint :=
  { constraint.toConstraintSpec.relabeled relabel with
    id := relabel.apply .constraint constraint.id }

def User.relabeled (user : User) : User :=
  { user with id := relabel.apply .user user.id }

def Permission.relabeled (permission : Permission) : Permission :=
  { permission with
    id := relabel.apply .permission permission.id
    user := relabel.apply .user permission.user
    table := permission.table.map (relabel.apply .table) }

/-- The schema under new identities, also of what it refers to in vain. -/
def Schema.relabeled (schema : Schema) : Schema :=
  { schema with
    tables := schema.tables.map (Table.relabeled relabel)
    relationships := schema.relationships.map (Relationship.relabeled relabel)
    indexes := schema.indexes.map (Index.relabeled relabel)
    constraints := schema.constraints.map (Constraint.relabeled relabel)
    users := schema.users.map (User.relabeled relabel)
    permissions := schema.permissions.map (Permission.relabeled relabel) }

/-! ## Parts of relabeled entities -/

namespace RelationshipSpec

variable (relationship : RelationshipSpec)

@[simp]
theorem sourceTable_relabeled :
    (relationship.relabeled relabel).sourceTable =
      relabel.apply .table relationship.sourceTable :=
  rfl

@[simp]
theorem sourceColumn_relabeled :
    (relationship.relabeled relabel).sourceColumn =
      relabel.apply .column relationship.sourceColumn :=
  rfl

@[simp]
theorem targetTable_relabeled :
    (relationship.relabeled relabel).targetTable =
      relabel.apply .table relationship.targetTable :=
  rfl

@[simp]
theorem targetColumn_relabeled :
    (relationship.relabeled relabel).targetColumn =
      relabel.apply .column relationship.targetColumn :=
  rfl

end RelationshipSpec

@[simp]
theorem Relationship.toRelationshipSpec_relabeled (relationship : Relationship) :
    (relationship.relabeled relabel).toRelationshipSpec =
      relationship.toRelationshipSpec.relabeled relabel :=
  rfl

namespace Column

@[simp]
theorem id_relabeled (column : Column) :
    (column.relabeled relabel).id = relabel.apply .column column.id :=
  rfl

@[simp]
theorem toColumnSpec_relabeled (column : Column) :
    (column.relabeled relabel).toColumnSpec = column.toColumnSpec :=
  rfl

end Column

namespace Table

variable (table : Table)

@[simp]
theorem id_relabeled : (table.relabeled relabel).id = relabel.apply .table table.id :=
  rfl

@[simp]
theorem name_relabeled : (table.relabeled relabel).name = table.name :=
  rfl

theorem columns_relabeled :
    (table.relabeled relabel).columns = table.columns.map (Column.relabeled relabel) :=
  rfl

/-- What does not depend on identities is the same of the relabeled columns. -/
theorem map_columns_relabeled
    {α : Type} (view : Column → α)
    (unseen : ∀ column : Column, view (column.relabeled relabel) = view column) :
    (table.relabeled relabel).columns.map view = table.columns.map view := by
  rw [columns_relabeled, List.map_map]
  exact List.map_congr_left fun column _ => unseen column

theorem filter_columns_relabeled (kept : ColumnSpec → Bool) :
    ((table.relabeled relabel).columns.filter fun column => kept column.toColumnSpec) =
      (table.columns.filter fun column => kept column.toColumnSpec).map
        (Column.relabeled relabel) := by
  rw [columns_relabeled, List.filter_map]
  rfl

end Table

namespace Schema

variable (schema : Schema)

theorem tables_relabeled :
    (schema.relabeled relabel).tables = schema.tables.map (Table.relabeled relabel) :=
  rfl

theorem name_relabeled : (schema.relabeled relabel).name = schema.name :=
  rfl

theorem relationships_relabeled :
    (schema.relabeled relabel).relationships =
      schema.relationships.map (Relationship.relabeled relabel) :=
  rfl

/-- Two views agree on the tables when they agree on each table under its two identities. -/
theorem map_tables_relabeled
    {α : Type} (view other : Table → α)
    (same : ∀ table : Table, view (table.relabeled relabel) = other table) :
    (schema.relabeled relabel).tables.map view = schema.tables.map other := by
  rw [tables_relabeled, List.map_map]
  exact List.map_congr_left fun table _ => same table

end Schema

/-! ## Lookups -/

theorem Table.column?_relabeled (table : Table) (id : ColumnId) :
    (table.relabeled relabel).column? (relabel.apply .column id) =
      (table.column? id).map (Column.relabeled relabel) :=
  relabel.find?_map Column.id (Column.relabeled relabel) (fun _ => rfl) table.columns id

namespace Schema

variable (schema : Schema)

theorem table?_relabeled (id : TableId) :
    (schema.relabeled relabel).table? (relabel.apply .table id) =
      (schema.table? id).map (Table.relabeled relabel) :=
  relabel.find?_map Table.id (Table.relabeled relabel) (fun _ => rfl) schema.tables id

theorem user?_relabeled (id : UserId) :
    (schema.relabeled relabel).user? (relabel.apply .user id) =
      (schema.user? id).map (User.relabeled relabel) :=
  relabel.find?_map User.id (User.relabeled relabel) (fun _ => rfl) schema.users id

theorem indexesOf_relabeled (id : TableId) :
    (schema.relabeled relabel).indexesOf (relabel.apply .table id) =
      (schema.indexesOf id).map (Index.relabeled relabel) :=
  relabel.filter_map (fun index : Index => index.table) (Index.relabeled relabel) (fun _ => rfl)
    schema.indexes id

theorem constraintsOf_relabeled (id : TableId) :
    (schema.relabeled relabel).constraintsOf (relabel.apply .table id) =
      (schema.constraintsOf id).map (Constraint.relabeled relabel) :=
  relabel.filter_map (fun constraint : Constraint => constraint.table)
    (Constraint.relabeled relabel) (fun _ => rfl) schema.constraints id

theorem endpoint?_relabeled (id : TableId) (columnId : ColumnId) :
    (schema.relabeled relabel).endpoint? (relabel.apply .table id)
        (relabel.apply .column columnId) =
      (schema.endpoint? id columnId).map
        (Prod.map (Table.relabeled relabel) (Column.relabeled relabel)) :=
  endpoint?_eq_map (schema.table?_relabeled relabel id) fun table =>
    table.column?_relabeled relabel columnId

theorem endpoints?_relabeled (relationship : RelationshipSpec) :
    (schema.relabeled relabel).endpoints? (relationship.relabeled relabel) =
      (schema.endpoints? relationship).map
        (Prod.map (Prod.map (Table.relabeled relabel) (Column.relabeled relabel))
          (Prod.map (Table.relabeled relabel) (Column.relabeled relabel))) := by
  simp only [endpoints?, RelationshipSpec.sourceTable_relabeled,
    RelationshipSpec.sourceColumn_relabeled, RelationshipSpec.targetTable_relabeled,
    RelationshipSpec.targetColumn_relabeled, endpoint?_relabeled]
  cases schema.endpoint? relationship.sourceTable relationship.sourceColumn with
  | none => rfl
  | some source =>
      cases schema.endpoint? relationship.targetTable relationship.targetColumn with
      | none => rfl
      | some target => rfl

end Schema

end SchemaDesign
