import SchemaDesign.Export.JsonSchema

/-!
# MongoDB

The export of a schema as a shell script that creates a collection with a validator for each table,
and its indexes.
-/

namespace SchemaDesign.Export.MongoDb

/-- The lines at the top of a script. -/
def header (schema : Schema) : String :=
  "// Schema: " ++ schema.name ++ "\n// Generated by SchemaForge\n"

/-- The type of a column; a nullable column may also be null. -/
def columnSchema (column : Column) : Json :=
  let bsonType := Json.string (TypeTable.bson.lookup column.dataType "string")
  .object
    [("bsonType", if column.nullable then .array [bsonType, .string "null"] else bsonType)]

/-- The validator of a collection. -/
def collectionSchema (table : Table) : Json :=
  .object
    [("bsonType", .string "object"),
      ("required", .strings (JsonSchema.required table)),
      ("properties",
        JsonSchema.objectOf (table.columns.map fun column => (column.name, columnSchema column)))]

/-- The keys of a collection's index and whether it is unique. -/
structure CollectionIndex where
  keys : List String
  isUnique : Bool
deriving DecidableEq, Repr

/-- Adds an index on a unique column, if no index has exactly its key. -/
def addUnique (indexes : List CollectionIndex) (column : Column) : List CollectionIndex :=
  if indexes.any fun index => index.keys == [column.name] then indexes
  else indexes ++ [{ keys := [column.name], isUnique := true }]

/-- The declared indexes of a table, then one for each unique column that is no primary key and has
none yet. -/
def collectionIndexes (schema : Schema) (table : Table) : List CollectionIndex :=
  let declared := (schema.indexesOf table.id).map fun index =>
    { keys := index.columns, isUnique := index.isUnique }
  let unique := table.columns.filter fun column => column.isUnique && !column.isPrimaryKey
  unique.foldl addUnique declared

/-- The statement that creates an index. -/
def createIndex (tableName : String) (index : CollectionIndex) : String :=
  let keys := JsonSchema.objectOf (index.keys.map fun key => (key, Json.integer 1))
  "db.getCollection(" ++ (Json.string tableName).compact ++ ").createIndex(" ++ keys.compact ++
    (if index.isUnique then ", \x7b unique: true \x7d" else "") ++ ");\n"

/-- The statements of a table. -/
def collection (schema : Schema) (table : Table) : String :=
  let options : Json :=
    .object [("validator", .object [("$jsonSchema", collectionSchema table)])]
  "\ndb.createCollection(" ++ (Json.string table.name).compact ++ ", " ++ options.pretty ++
    ");\n" ++ String.join ((collectionIndexes schema table).map (createIndex table.name))

/-- The script of a schema. -/
def generate (schema : Schema) : String :=
  header schema ++ String.join (schema.tables.map (collection schema))

end SchemaDesign.Export.MongoDb
