import SchemaDesign.Json.Fields
import SchemaDesign.Json.Printer
import SchemaDesign.Schema.Basic

/-!
# Snapshots

The JSON form of a schema and of its entities, in which a schema is stored and exchanged.
-/

namespace SchemaDesign

open Json (Document Fields)

/-! ## Writing -/

/-- The JSON form of an identity. -/
def Id.json (id : Id kind) : Json :=
  .string id.text

/-- The JSON form of an identity that may be missing. -/
def Id.json? : Option (Id kind) → Json
  | none => .null
  | some id => id.json

/-- The JSON form of a column. -/
def Column.json (column : Column) : Json :=
  .object
    [("id", column.id.json),
      ("name", .string column.name),
      ("data_type", .string column.dataType),
      ("nullable", .bool column.nullable),
      ("default_value", .ofString? column.defaultValue),
      ("is_primary_key", .bool column.isPrimaryKey),
      ("is_foreign_key", .bool column.isForeignKey),
      ("is_unique", .bool column.isUnique),
      ("is_indexed", .bool column.isIndexed)]

/-- The JSON form of a place: its two coordinates. -/
def Position.json (position : Position) : Json :=
  .array [.float position.x, .float position.y]

/-- The JSON form of a row: its values by column name. -/
def Row.json (row : Row) : Json :=
  .object row.entries

/-- The JSON form of a table. -/
def Table.json (table : Table) : Json :=
  .object
    [("id", table.id.json),
      ("name", .string table.name),
      ("columns", .array (table.columns.map Column.json)),
      ("position", table.position.json),
      ("row_count", .nat table.rowCount),
      ("data", .array (table.rows.map Row.json))]

/-- The JSON form of a relationship. -/
def Relationship.json (relationship : Relationship) : Json :=
  .object
    [("id", relationship.id.json),
      ("name", .ofString? relationship.name),
      ("source_table_id", relationship.sourceTable.json),
      ("source_column_id", relationship.sourceColumn.json),
      ("target_table_id", relationship.targetTable.json),
      ("target_column_id", relationship.targetColumn.json),
      ("cardinality", .string relationship.cardinality.text)]

/-- The JSON form of an index. -/
def Index.json (index : Index) : Json :=
  .object
    [("id", index.id.json),
      ("name", .string index.name),
      ("table_id", index.table.json),
      ("columns", .strings index.columns),
      ("is_unique", .bool index.isUnique)]

/-- The JSON form of a constraint. -/
def Constraint.json (constraint : Constraint) : Json :=
  .object
    [("id", constraint.id.json),
      ("name", .string constraint.name),
      ("kind", .string constraint.kind.text),
      ("table_id", constraint.table.json),
      ("column_id", Id.json? constraint.column),
      ("expression", .ofString? constraint.expression)]

/-- The JSON form of an account. -/
def User.json (user : User) : Json :=
  .object
    [("id", user.id.json),
      ("username", .string user.username),
      ("host", .string user.host)]

/-- The JSON form of a permission. -/
def Permission.json (permission : Permission) : Json :=
  .object
    [("id", permission.id.json),
      ("user_id", permission.user.json),
      ("table_id", Id.json? permission.table),
      ("privileges", .strings (permission.privileges.map Privilege.tag))]

/-- The JSON form of a schema without its times. -/
def Schema.entities (schema : Schema) : List (String × Json) :=
  [("name", .string schema.name),
    ("tables", .array (schema.tables.map Table.json)),
    ("relationships", .array (schema.relationships.map Relationship.json)),
    ("indexes", .array (schema.indexes.map Index.json)),
    ("constraints", .array (schema.constraints.map Constraint.json)),
    ("users", .array (schema.users.map User.json)),
    ("permissions", .array (schema.permissions.map Permission.json))]

/-- The JSON form of a schema: its entities and its times. -/
def Schema.json (schema : Schema) : Json :=
  .object (schema.entities ++
    [("created_at", .string schema.createdAt.text),
      ("updated_at", .string schema.updatedAt.text)])

/-- The text of a schema: its JSON form, indented. -/
def Schema.snapshot (schema : Schema) : String :=
  schema.json.pretty

/-! ## Reading -/

/-- The identity that a document names. -/
def Id.ofDocument? (document : Document) : Option (Id kind) :=
  document.string?.bind Id.ofText?

/-- The point in time that a document names. -/
def Timestamp.ofDocument? (document : Document) : Option Timestamp :=
  document.string?.bind Timestamp.ofText?

/-- The column that a document holds. -/
def Column.ofDocument? (document : Document) : Option Column := do
  let fields ← Fields.ofDocument?
    ["id", "name", "data_type", "nullable", "default_value", "is_primary_key", "is_foreign_key",
      "is_unique", "is_indexed"] document
  let id ← fields.required "id" Id.ofDocument?
  let name ← fields.required "name" Document.string?
  let dataType ← fields.required "data_type" Document.string?
  let nullable ← fields.required "nullable" Document.bool?
  let defaultValue ← fields.optional "default_value" Document.string?
  let isPrimaryKey ← fields.required "is_primary_key" Document.bool?
  let isForeignKey ← fields.required "is_foreign_key" Document.bool?
  let isUnique ← fields.required "is_unique" Document.bool?
  let isIndexed ← fields.required "is_indexed" Document.bool?
  some
    { id, name, dataType, nullable, defaultValue, isPrimaryKey, isForeignKey, isUnique, isIndexed }

/-- The place that a document gives: two numbers. -/
def Position.ofDocument? : Document → Option Position
  | .array [x, y] => do
      let x ← x.float?
      let y ← y.float?
      some { x, y }
  | _ => none

/-- The number of levels that a row stands below the top of a schema's text. -/
def Row.level : Nat := 5

/-- Reads the entries of a row; of entries with one name the last counts. -/
def Row.entries? (limit : Nat) (row : Row) : List (Option String × Document) → Option Row
  | [] => some row
  | (name, document) :: members => do
      let name ← name
      let value ← document.value? limit
      Row.entries? limit (row.insert name value) members

/-- The row that a document holds. -/
def Row.ofDocument? : Document → Option Row
  | .object members => Row.entries? (Json.levelLimit - Row.level) .empty members
  | _ => none

/-- The table that a document holds; rows may be absent. -/
def Table.ofDocument? (document : Document) : Option Table := do
  let fields ← Fields.ofDocument?
    ["id", "name", "columns", "position", "row_count", "data"] document
  let id ← fields.required "id" Id.ofDocument?
  let name ← fields.required "name" Document.string?
  let columns ← fields.required "columns" (Document.list? Column.ofDocument?)
  let position ← fields.required "position" Position.ofDocument?
  let rowCount ← fields.required "row_count" Document.nat?
  let rows ← fields.defaulted "data" [] (Document.list? Row.ofDocument?)
  some { id, name, columns, position, rowCount, rows }

/-- The cardinality that a document names. -/
def Cardinality.ofDocument? : Document → Option Cardinality :=
  Document.choice? Cardinality.text Cardinality.all

/-- The relationship that a document holds. -/
def Relationship.ofDocument? (document : Document) : Option Relationship := do
  let fields ← Fields.ofDocument?
    ["id", "name", "source_table_id", "source_column_id", "target_table_id", "target_column_id",
      "cardinality"] document
  let id ← fields.required "id" Id.ofDocument?
  let name ← fields.optional "name" Document.string?
  let sourceTable ← fields.required "source_table_id" Id.ofDocument?
  let sourceColumn ← fields.required "source_column_id" Id.ofDocument?
  let targetTable ← fields.required "target_table_id" Id.ofDocument?
  let targetColumn ← fields.required "target_column_id" Id.ofDocument?
  let cardinality ← fields.required "cardinality" Cardinality.ofDocument?
  some { id, name, sourceTable, sourceColumn, targetTable, targetColumn, cardinality }

/-- The index that a document holds. -/
def Index.ofDocument? (document : Document) : Option Index := do
  let fields ← Fields.ofDocument? ["id", "name", "table_id", "columns", "is_unique"] document
  let id ← fields.required "id" Id.ofDocument?
  let name ← fields.required "name" Document.string?
  let table ← fields.required "table_id" Id.ofDocument?
  let columns ← fields.required "columns" (Document.list? Document.string?)
  let isUnique ← fields.required "is_unique" Document.bool?
  some { id, name, table, columns, isUnique }

/-- The kind of constraint that a document names. -/
def ConstraintKind.ofDocument? : Document → Option ConstraintKind :=
  Document.choice? ConstraintKind.text ConstraintKind.all

/-- The constraint that a document holds. -/
def Constraint.ofDocument? (document : Document) : Option Constraint := do
  let fields ← Fields.ofDocument?
    ["id", "name", "kind", "table_id", "column_id", "expression"] document
  let id ← fields.required "id" Id.ofDocument?
  let name ← fields.required "name" Document.string?
  let kind ← fields.required "kind" ConstraintKind.ofDocument?
  let table ← fields.required "table_id" Id.ofDocument?
  let column ← fields.optional "column_id" Id.ofDocument?
  let expression ← fields.optional "expression" Document.string?
  some { id, name, kind, table, column, expression }

/-- The account that a document holds. -/
def User.ofDocument? (document : Document) : Option User := do
  let fields ← Fields.ofDocument? ["id", "username", "host"] document
  let id ← fields.required "id" Id.ofDocument?
  let username ← fields.required "username" Document.string?
  let host ← fields.required "host" Document.string?
  some { id, username, host }

/-- The privilege that a document names. -/
def Privilege.ofDocument? : Document → Option Privilege :=
  Document.choice? Privilege.tag Privilege.every

/-- The permission that a document holds. -/
def Permission.ofDocument? (document : Document) : Option Permission := do
  let fields ← Fields.ofDocument? ["id", "user_id", "table_id", "privileges"] document
  let id ← fields.required "id" Id.ofDocument?
  let user ← fields.required "user_id" Id.ofDocument?
  let table ← fields.optional "table_id" Id.ofDocument?
  let privileges ← fields.required "privileges" (Document.list? Privilege.ofDocument?)
  some { id, user, table, privileges }

/-- The schema that a document holds; users and permissions may be absent. -/
def Schema.ofDocument? (document : Document) : Option Schema := do
  let fields ← Fields.ofDocument?
    ["name", "tables", "relationships", "indexes", "constraints", "users", "permissions",
      "created_at", "updated_at"] document
  let name ← fields.required "name" Document.string?
  let tables ← fields.required "tables" (Document.list? Table.ofDocument?)
  let relationships ← fields.required "relationships" (Document.list? Relationship.ofDocument?)
  let indexes ← fields.required "indexes" (Document.list? Index.ofDocument?)
  let constraints ← fields.required "constraints" (Document.list? Constraint.ofDocument?)
  let users ← fields.defaulted "users" [] (Document.list? User.ofDocument?)
  let permissions ← fields.defaulted "permissions" [] (Document.list? Permission.ofDocument?)
  let createdAt ← fields.required "created_at" Timestamp.ofDocument?
  let updatedAt ← fields.required "updated_at" Timestamp.ofDocument?
  some
    { name, tables, relationships, indexes, constraints, users, permissions, createdAt, updatedAt }

/-- The schema that a text holds, if it is the JSON form of one. -/
def Schema.ofSnapshot? (text : String) : Option Schema :=
  (Document.ofText? text).bind Schema.ofDocument?

end SchemaDesign
