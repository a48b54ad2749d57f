import SchemaDesign.Export.TypeMapping
import SchemaDesign.Json.Printer
import SchemaDesign.Schema.Basic

/-!
# JSON Schema

The export of a schema as a JSON Schema document that describes each table as an object.
-/

namespace SchemaDesign.Export.JsonSchema

/-- The object of some members; of members of one name the last gives the value and the first the
place. -/
def objectOf (members : List (String × Json)) : Json :=
  .object (members.foldl (fun object member => Json.put member.1 member.2 object) [])

/-- The format keyword of a data type. -/
def format? (dataType : String) : Option String :=
  if DataType.mentions dataType "TIMESTAMP" || DataType.mentions dataType "DATETIME" then
    some "date-time"
  else if DataType.mentions dataType "DATE" then some "date"
  else if DataType.mentions dataType "UUID" then some "uuid"
  else none

/-- The description of a column. -/
def columnSchema (column : Column) : Json :=
  let jsonType := Json.string (TypeTable.jsonSchema.lookup column.dataType "string")
  .object
    ([("type", if column.nullable then .array [jsonType, .string "null"] else jsonType)] ++
      (match format? column.dataType with
        | some format => [("format", .string format)]
        | none => []) ++
      (match DataType.charLength? column.dataType with
        | some length => [("maxLength", .nat length)]
        | none => []) ++
      (if column.isPrimaryKey then [("x-primaryKey", .bool true)] else []))

/-- The names of the columns that every object of a table must have. -/
def required (table : Table) : List String :=
  (table.columns.filter fun column => !column.nullable).map fun column => column.name

/-- The description of a table. -/
def tableSchema (table : Table) : Json :=
  .object
    [("type", .string "object"),
      ("properties", objectOf (table.columns.map fun column => (column.name, columnSchema column))),
      ("required", .strings (required table))]

/-- The description of a relationship, if both of its ends exist. -/
def relationshipSchema? (schema : Schema) (relationship : Relationship) : Option Json := do
  let ((source, sourceColumn), (target, targetColumn)) ←
    schema.endpoints? relationship.toRelationshipSpec
  some (.object
    ((match relationship.name with
        | some name => [("name", .string name)]
        | none => []) ++
      [("from", .string (source.name ++ "." ++ sourceColumn.name)),
        ("to", .string (target.name ++ "." ++ targetColumn.name)),
        ("cardinality", .string relationship.cardinality.text)]))

/-- The document of a schema. -/
def document (schema : Schema) : Json :=
  .object
    [("$schema", .string "http://json-schema.org/draft-07/schema#"),
      ("title", .string schema.name),
      ("type", .string "object"),
      ("properties", objectOf (schema.tables.map fun table => (table.name, tableSchema table))),
      ("x-relationships", .array (schema.relationships.filterMap (relationshipSchema? schema)))]

/-- The text of the document. -/
def generate (schema : Schema) : String :=
  (document schema).pretty

end SchemaDesign.Export.JsonSchema
