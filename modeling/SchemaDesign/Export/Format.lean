import SchemaDesign.Ddl.Script
import SchemaDesign.Export.MongoDb
import SchemaDesign.Export.Prisma
import SchemaDesign.Export.TypeScript

/-!
# Export formats

The targets that a schema can be exported to, their names, and the export itself.
-/

namespace SchemaDesign

/-- A target of the export. -/
inductive ExportFormat where
  | mySql
  | postgreSql
  | sqlServer
  | oracle
  | mongoDb
  | jsonSchema
  | typeScript
  | prisma
deriving DecidableEq, Repr

namespace ExportFormat

/-- All targets. -/
def all : List ExportFormat :=
  [.mySql, .postgreSql, .sqlServer, .oracle, .mongoDb, .jsonSchema, .typeScript, .prisma]

/-- The name of a target, as it is chosen by. -/
def name : ExportFormat → String
  | .mySql => "mysql"
  | .postgreSql => "postgresql"
  | .sqlServer => "sqlserver"
  | .oracle => "oracle"
  | .mongoDb => "mongodb"
  | .jsonSchema => "jsonschema"
  | .typeScript => "typescript"
  | .prisma => "prisma"

/-- The name of a target, as it is shown. -/
def label : ExportFormat → String
  | .mySql => "MySQL"
  | .postgreSql => "PostgreSQL"
  | .sqlServer => "SQL Server"
  | .oracle => "Oracle"
  | .mongoDb => "MongoDB"
  | .jsonSchema => "JSON Schema"
  | .typeScript => "TypeScript"
  | .prisma => "Prisma"

/-- The file extension of a target. -/
def fileExtension : ExportFormat → String
  | .mySql | .postgreSql | .sqlServer | .oracle => "sql"
  | .mongoDb => "js"
  | .jsonSchema => "json"
  | .typeScript => "ts"
  | .prisma => "prisma"

/-- The dialect of a target that is a database with SQL. -/
def dialect? : ExportFormat → Option Dialect
  | .mySql => some .mySql
  | .postgreSql => some .postgreSql
  | .sqlServer => some .sqlServer
  | .oracle => some .oracle
  | _ => none

/-- The targets by the names that they may be chosen by. -/
def byName : List (String × ExportFormat) :=
  [("mysql", .mySql), ("postgresql", .postgreSql), ("postgres", .postgreSql), ("pg", .postgreSql),
    ("sqlserver", .sqlServer), ("mssql", .sqlServer), ("oracle", .oracle), ("mongodb", .mongoDb),
    ("mongo", .mongoDb), ("jsonschema", .jsonSchema), ("json-schema", .jsonSchema),
    ("json", .jsonSchema), ("typescript", .typeScript), ("ts", .typeScript), ("prisma", .prisma)]

/-- A name of no target; it is kept in small letters and without blanks around it. -/
structure UnknownFormat where
  name : String
deriving DecidableEq, Repr

/-- The text shown for an unknown name. -/
def UnknownFormat.message (error : UnknownFormat) : String :=
  "Unknown export format '" ++ error.name ++ "'"

/-- The target that a text chooses, in any letter case and with blanks around it. -/
def ofText (text : String) : Except UnknownFormat ExportFormat :=
  let name := Text.lowerCase (Text.trimmed text)
  match byName.lookup name with
  | some format => .ok format
  | none => .error { name }

end ExportFormat

/-- The text of a schema in a format. -/
def Schema.export (schema : Schema) : ExportFormat → String
  | .mySql => Ddl.script .mySql schema
  | .postgreSql => Ddl.script .postgreSql schema
  | .sqlServer => Ddl.script .sqlServer schema
  | .oracle => Ddl.script .oracle schema
  | .mongoDb => Export.MongoDb.generate schema
  | .jsonSchema => Export.JsonSchema.generate schema
  | .typeScript => Export.TypeScript.generate schema
  | .prisma => Export.Prisma.generate schema

end SchemaDesign
