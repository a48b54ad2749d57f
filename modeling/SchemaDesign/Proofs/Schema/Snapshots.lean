import SchemaDesign.Proofs.Json.Records
import SchemaDesign.Proofs.Schema.Identities
import SchemaDesign.Schema.Snapshot

/-!
# Snapshots restore schemas

The JSON form of every entity gives the entity back, and so the text of a schema gives the schema
back, where its numbers are in their ranges and the values of its rows are not nested too deep.
-/

namespace SchemaDesign

open Json (Document Fields Restores Storable document)

variable {kind : EntityKind} (depth : Nat)

/-! ## Identities and names of alternatives -/

theorem Id.restores {id : Id kind} (uuid : id.IsUuid) :
    Restores Id.ofDocument? depth id.json id :=
  Json.restores_text (Id.ofText?_text uuid)

theorem Id.restores_json? {id : Option (Id kind)} (uuid : ∀ present ∈ id, present.IsUuid) :
    Restores (Document.nullable? Id.ofDocument?) depth (Id.json? id) id := by
  cases id with
  | none => exact ⟨.null, rfl⟩
  | some id => exact (Id.restores depth (uuid id rfl)).nullable Json.noConfusion

theorem Cardinality.restores (cardinality : Cardinality) :
    Restores Cardinality.ofDocument? depth (.string cardinality.text) cardinality := by
  refine ⟨.string _, ?_⟩
  cases cardinality <;> rfl

theorem ConstraintKind.restores (kind : ConstraintKind) :
    Restores ConstraintKind.ofDocument? depth (.string kind.text) kind := by
  refine ⟨.string _, ?_⟩
  cases kind <;> rfl

theorem Privilege.restores (privilege : Privilege) :
    Restores Privilege.ofDocument? depth (.string privilege.tag) privilege := by
  refine ⟨.string _, ?_⟩
  cases privilege <;> rfl

/-! ## Columns, accounts and what stands between tables -/

theorem Column.restores {column : Column} (uuid : column.id.IsUuid) :
    Restores Column.ofDocument? (depth + 1) column.json column := by
  have id := Id.restores depth uuid
  have defaultValue := Json.restores_ofString? depth column.defaultValue
  -- The names that are written are the names that are read, and no two are the same.
  refine Json.restores_record rfl (by decide) ?storable ?restored
  case storable => simp [id.storable, defaultValue.storable]
  case restored => simp [List.lookup_cons, id.restored, defaultValue.restored]

theorem User.restores {user : User} (uuid : user.id.IsUuid) :
    Restores User.ofDocument? (depth + 1) user.json user := by
  have id := Id.restores depth uuid
  refine Json.restores_record rfl (by decide) ?storable ?restored
  case storable => simp [id.storable]
  case restored => simp [List.lookup_cons, id.restored]

/-- Whether the identities that a relationship names have 128 bits. -/
structure Relationship.IsStorable (relationship : Relationship) : Prop where
  id : relationship.id.IsUuid
  sourceTable : relationship.sourceTable.IsUuid
  sourceColumn : relationship.sourceColumn.IsUuid
  targetTable : relationship.targetTable.IsUuid
  targetColumn : relationship.targetColumn.IsUuid

theorem Relationship.IsStorable.restores
    {relationship : Relationship} (storable : relationship.IsStorable) :
    Restores Relationship.ofDocument? (depth + 1) relationship.json relationship := by
  have id := Id.restores depth storable.id
  have name := Json.restores_ofString? depth relationship.name
  have sourceTable := Id.restores depth storable.sourceTable
  have sourceColumn := Id.restores depth storable.sourceColumn
  have targetTable := Id.restores depth storable.targetTable
  have targetColumn := Id.restores depth storable.targetColumn
  have cardinality := Cardinality.restores depth relationship.cardinality
  refine Json.restores_record rfl (by decide) ?storable ?restored
  case storable =>
    simp [id.storable, name.storable, sourceTable.storable, sourceColumn.storable,
      targetTable.storable, targetColumn.storable]
  case restored =>
    simp [List.lookup_cons, id.restored, name.restored, sourceTable.restored,
      sourceColumn.restored, targetTable.restored, targetColumn.restored, cardinality.restored]

/-- Whether the identities that an index names have 128 bits. -/
structure Index.IsStorable (index : Index) : Prop where
  id : index.id.IsUuid
  table : index.table.IsUuid

theorem Index.IsStorable.restores {index : Index} (storable : index.IsStorable) :
    Restores Index.ofDocument? (depth + 2) index.json index := by
  have id := Id.restores (depth + 1) storable.id
  have table := Id.restores (depth + 1) storable.table
  have columns : Restores (Document.list? Document.string?) (depth + 1)
      (.strings index.columns) index.columns :=
    Json.restores_array fun column _ => Json.restores_string depth column
  refine Json.restores_record rfl (by decide) ?storable ?restored
  case storable => simp [id.storable, table.storable, columns.storable]
  case restored => simp [List.lookup_cons, id.restored, table.restored, columns.restored]

/-- Whether the identities that a constraint names have 128 bits. -/
structure Constraint.IsStorable (constraint : Constraint) : Prop where
  id : constraint.id.IsUuid
  table : constraint.table.IsUuid
  column : ∀ column ∈ constraint.column, column.IsUuid

theorem Constraint.IsStorable.restores
    {constraint : Constraint} (storable : constraint.IsStorable) :
    Restores Constraint.ofDocument? (depth + 1) constraint.json constraint := by
  have id := Id.restores depth storable.id
  have kind := ConstraintKind.restores depth constraint.kind
  have table := Id.restores depth storable.table
  have column := Id.restores_json? depth storable.column
  have expression := Json.restores_ofString? depth constraint.expression
  refine Json.restores_record rfl (by decide) ?storable ?restored
  case storable =>
    simp [id.storable, kind.storable, table.storable, column.storable, expression.storable]
  case restored =>
    simp [List.lookup_cons, id.restored, kind.restored, table.restored, column.restored,
      expression.restored]

/-- Whether the identities that a permission names have 128 bits. -/
structure Permission.IsStorable (permission : Permission) : Prop where
  id : permission.id.IsUuid
  user : permission.user.IsUuid
  table : ∀ table ∈ permission.table, table.IsUuid

theorem Permission.IsStorable.restores
    {permission : Permission} (storable : permission.IsStorable) :
    Restores Permission.ofDocument? (depth + 2) permission.json permission := by
  have id := Id.restores (depth + 1) storable.id
  have user := Id.restores (depth + 1) storable.user
  have table := Id.restores_json? (depth + 1) storable.table
  have privileges : Restores (Document.list? Privilege.ofDocument?) (depth + 1)
      (.strings (permission.privileges.map Privilege.tag)) permission.privileges := by
    rw [Json.strings, List.map_map]
    exact Json.restores_array fun privilege _ => privilege.restores depth
  refine Json.restores_record rfl (by decide) ?storable ?restored
  case storable => simp [id.storable, user.storable, table.storable, privileges.storable]
  case restored =>
    simp [List.lookup_cons, id.restored, user.restored, table.restored, privileges.restored]

/-! ## Rows -/

variable {depth}

namespace Row

theorem insertEntry_above
    {name : String} {entries : List (String × Json)} (value : Json)
    (above : ∀ entry ∈ entries, entry.1 < name) :
    insertEntry name value entries = entries ++ [(name, value)] := by
  induction entries with
  | nil => rfl
  | cons entry entries ih =>
      obtain ⟨known, old⟩ := entry
      obtain ⟨below, others⟩ := List.forall_mem_cons.mp above
      have notBelow : ¬name < known := String.lt_asymm below
      have different : name ≠ known := fun same => String.lt_irrefl known (same ▸ below)
      rw [insertEntry, if_neg notBelow, if_neg different, ih others, List.cons_append]

/-- Reading entries in ascending order above those of a row appends them to it. -/
theorem entries?_memberDocuments
    {limit : Nat} {members : List (String × Json)} (row : Row)
    (ordered : (row.entries ++ members).Pairwise fun left right => left.1 < right.1)
    (each : ∀ member ∈ members, (document member.2).value? limit = some member.2) :
    entries? limit row (Json.memberDocuments members) =
      some { entries := row.entries ++ members, ordered } := by
  induction members generalizing row with
  | nil => simp [Json.memberDocuments, entries?]
  | cons member members ih =>
      obtain ⟨name, value⟩ := member
      obtain ⟨first, others⟩ := List.forall_mem_cons.mp each
      have inserted : (row.insert name value).entries = row.entries ++ [(name, value)] := by
        refine insertEntry_above value fun entry present => ?_
        exact (List.pairwise_append.mp ordered).2.2 entry present (name, value)
          List.mem_cons_self
      have step : (row.insert name value).entries ++ members =
          row.entries ++ (name, value) :: members := by
        rw [inserted, List.append_assoc]
        rfl
      rw [Json.memberDocuments, entries?, first]
      simp only [Option.bind_eq_bind, Option.bind_some]
      rw [ih (row.insert name value) (step ▸ ordered) others]
      simp only [step]

theorem restores
    {row : Row} (storable : ∀ entry ∈ row.entries, Storable depth entry.2)
    (shallow : depth < Json.levelLimit - level) :
    Restores Row.ofDocument? (depth + 1) row.json row := by
  have distinct : (row.entries.map fun entry => entry.1).Nodup := by
    refine List.pairwise_map.mpr (row.ordered.imp ?_)
    intro left right below same
    exact String.lt_irrefl right.1 (same ▸ below)
  refine ⟨.object distinct storable, ?_⟩
  rw [json, document, ofDocument?]
  exact entries?_memberDocuments .empty row.ordered fun entry present =>
    (storable entry present).value?_document shallow

end Row

/-! ## Tables and schemas -/

theorem Position.restores
    (depth : Nat) {position : Position} (x : position.x.ReadsBack) (y : position.y.ReadsBack) :
    Restores Position.ofDocument? (depth + 1) position.json position := by
  constructor
  · refine .array fun coordinate member => ?_
    rcases List.mem_pair.mp member with rfl | rfl
    · exact .float x
    · exact .float y
  · rw [json, document, Json.documents, Json.documents, Json.documents, document, document]
    rfl

/-- Whether JSON text can hold a table: its numbers are in their ranges, and the values of its rows
have some number of levels at most. -/
structure Table.IsStorable (depth : Nat) (table : Table) : Prop where
  id : table.id.IsUuid
  columns : ∀ column ∈ table.columns, column.id.IsUuid
  x : table.position.x.ReadsBack
  y : table.position.y.ReadsBack
  rowCount : table.rowCount ≤ Json.greatestInteger
  rows : ∀ row ∈ table.rows, ∀ entry ∈ row.entries, Storable depth entry.2

variable (shallow : depth < Json.levelLimit - Row.level)

include shallow in
theorem Table.IsStorable.restores {table : Table} (storable : table.IsStorable depth) :
    Restores Table.ofDocument? (depth + 3) table.json table := by
  have id := Id.restores (depth + 2) storable.id
  have columns : Restores (Document.list? Column.ofDocument?) (depth + 2)
      (.array (table.columns.map Column.json)) table.columns :=
    Json.restores_array fun column member => Column.restores depth (storable.columns column member)
  have position := Position.restores (depth + 1) storable.x storable.y
  have rowCount := Json.restores_nat (depth + 2) storable.rowCount
  have rows : Restores (Document.list? Row.ofDocument?) (depth + 2)
      (.array (table.rows.map Row.json)) table.rows :=
    Json.restores_array fun row member => Row.restores (storable.rows row member) shallow
  refine Json.restores_record rfl (by decide) ?storable ?restored
  case storable =>
    simp [id.storable, columns.storable, position.storable, rowCount.storable, rows.storable]
  case restored =>
    simp [List.lookup_cons, id.restored, columns.restored, position.restored, rowCount.restored,
      rows.restored]

/-- Whether a point in time is read back from its text. -/
def Timestamp.ReadsBack (t : Timestamp) : Prop :=
  Timestamp.ofText? t.text = some t

instance (t : Timestamp) : Decidable t.ReadsBack :=
  inferInstanceAs (Decidable (Timestamp.ofText? t.text = some t))

/-- Whether JSON text can hold a schema: its numbers are in their ranges, its times are read back,
and the values of its rows have some number of levels at most. -/
structure Schema.IsStorable (depth : Nat) (schema : Schema) : Prop where
  tables : ∀ table ∈ schema.tables, table.IsStorable depth
  relationships : ∀ relationship ∈ schema.relationships, relationship.IsStorable
  indexes : ∀ index ∈ schema.indexes, index.IsStorable
  constraints : ∀ constraint ∈ schema.constraints, constraint.IsStorable
  users : ∀ user ∈ schema.users, user.id.IsUuid
  permissions : ∀ permission ∈ schema.permissions, permission.IsStorable
  createdAt : schema.createdAt.ReadsBack
  updatedAt : schema.updatedAt.ReadsBack

namespace Schema

variable {schema : Schema}

include shallow in
theorem IsStorable.restores (storable : schema.IsStorable depth) :
    Restores Schema.ofDocument? (depth + 5) schema.json schema := by
  have tables : Restores (Document.list? Table.ofDocument?) (depth + 4)
      (.array (schema.tables.map Table.json)) schema.tables :=
    Json.restores_array fun table member => (storable.tables table member).restores shallow
  have relationships : Restores (Document.list? Relationship.ofDocument?) (depth + 4)
      (.array (schema.relationships.map Relationship.json)) schema.relationships :=
    Json.restores_array fun relationship member =>
      (storable.relationships relationship member).restores (depth + 2)
  have indexes : Restores (Document.list? Index.ofDocument?) (depth + 4)
      (.array (schema.indexes.map Index.json)) schema.indexes :=
    Json.restores_array fun index member => (storable.indexes index member).restores (depth + 1)
  have constraints : Restores (Document.list? Constraint.ofDocument?) (depth + 4)
      (.array (schema.constraints.map Constraint.json)) schema.constraints :=
    Json.restores_array fun constraint member =>
      (storable.constraints constraint member).restores (depth + 2)
  have users : Restores (Document.list? User.ofDocument?) (depth + 4)
      (.array (schema.users.map User.json)) schema.users :=
    Json.restores_array fun user member => User.restores (depth + 2) (storable.users user member)
  have permissions : Restores (Document.list? Permission.ofDocument?) (depth + 4)
      (.array (schema.permissions.map Permission.json)) schema.permissions :=
    Json.restores_array fun permission member =>
      (storable.permissions permission member).restores (depth + 1)
  have createdAt : Restores Timestamp.ofDocument? (depth + 4) (.string schema.createdAt.text)
      schema.createdAt :=
    Json.restores_text storable.createdAt
  have updatedAt : Restores Timestamp.ofDocument? (depth + 4) (.string schema.updatedAt.text)
      schema.updatedAt :=
    Json.restores_text storable.updatedAt
  refine Json.restores_record rfl (by decide) ?storable ?restored
  case storable =>
    simp [entities, tables.storable, relationships.storable, indexes.storable,
      constraints.storable, users.storable, permissions.storable]
  case restored =>
    simp [entities, List.lookup_cons, tables.restored, relationships.restored, indexes.restored,
      constraints.restored, users.restored, permissions.restored, createdAt.restored,
      updatedAt.restored]

/-- The text of a schema is read as that schema.  The levels that the values of rows may have leave
room for the five above them. -/
theorem ofSnapshot?_snapshot
    (storable : schema.IsStorable depth) (shallow : depth < Json.levelLimit - Row.level) :
    ofSnapshot? schema.snapshot = some schema := by
  obtain ⟨stored, restored⟩ := storable.restores shallow
  rw [ofSnapshot?, snapshot, stored.ofText?_pretty, Option.bind_some, restored]

/-- The values of a row reach the hundredth level, a text needs every kind of escape, and an
identity is the greatest one. -/
theorem ofSnapshot?_snapshot_shop :
    let row : Row :=
      { entries :=
          [("id", .integer (-7)), ("name", .string "\"a\\b\"\n\u0001é"),
            ("tags", .object [("deep", Nat.repeat (fun value => .array [value]) 99 .null),
              ("", .bool true)])]
        ordered := by decide }
    let users : Table :=
      { id := ⟨0⟩
        name := "users"
        columns :=
          [{ name := "id", dataType := "INT", defaultValue := some "0", id := ⟨2 ^ 128 - 1⟩ }]
        position := { x := .ofNat 100, y := .ofNat 350 }
        rowCount := 1
        rows := [row] }
    let parent : Relationship :=
      { name := none
        sourceTable := ⟨0⟩
        sourceColumn := ⟨2 ^ 128 - 1⟩
        targetTable := ⟨0⟩
        targetColumn := ⟨2 ^ 128 - 1⟩
        cardinality := .manyToMany
        id := ⟨2⟩ }
    let index : Index :=
      { name := "by_id", table := ⟨0⟩, columns := ["id", "id"], isUnique := true, id := ⟨3⟩ }
    let positive : Constraint :=
      { name := "positive"
        kind := .check
        table := ⟨0⟩
        column := some ⟨2 ^ 128 - 1⟩
        expression := some "id > 0"
        id := ⟨4⟩ }
    let user : User := { username := "app", id := ⟨5⟩ }
    let permission : Permission :=
      { user := ⟨5⟩, table := none, privileges := [.all, .select], id := ⟨6⟩ }
    let schema : Schema :=
      { name := "shop"
        tables := [users]
        relationships := [parent]
        indexes := [index]
        constraints := [positive]
        users := [user]
        permissions := [permission]
        createdAt := .epoch
        updatedAt := { seconds := 1709210096, nanoseconds := 789000000 } }
    schema.IsStorable 100 ∧ ofSnapshot? schema.snapshot = some schema := by
  intro row users parent index positive user permission schema
  have nested : ∀ levels : Nat,
      Storable levels (Nat.repeat (fun value => .array [value]) levels .null) := by
    intro levels
    induction levels with
    | zero => exact .null
    | succ levels ih => exact .array (List.forall_mem_singleton.mpr ih)
  have values : ∀ entry ∈ row.entries, Storable 100 entry.2 := by
    have id : Storable 100 (.integer (-7)) := .integer ⟨by decide, by decide⟩
    have tags : Storable 100 (.object
        [("deep", Nat.repeat (fun value => .array [value]) 99 .null), ("", .bool true)]) :=
      .object (by decide) (by simp [nested 99])
    simp [row, id, tags]
  have table : users.IsStorable 100 :=
    { id := by decide
      columns := by decide
      x := by decide +kernel
      y := by decide +kernel
      rowCount := by decide
      rows := List.forall_mem_singleton.mpr values }
  have storable : schema.IsStorable 100 :=
    { tables := List.forall_mem_singleton.mpr table
      relationships := List.forall_mem_singleton.mpr
        ⟨by decide, by decide, by decide, by decide, by decide⟩
      indexes := List.forall_mem_singleton.mpr ⟨by decide, by decide⟩
      constraints := List.forall_mem_singleton.mpr ⟨by decide, by decide, by decide⟩
      users := by decide
      permissions := List.forall_mem_singleton.mpr ⟨by decide, by decide, by decide⟩
      createdAt := by decide +kernel
      updatedAt := by decide +kernel }
  exact ⟨storable, ofSnapshot?_snapshot storable (by decide)⟩

end Schema

end SchemaDesign
