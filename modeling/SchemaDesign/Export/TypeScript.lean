import SchemaDesign.Export.TypeMapping
import SchemaDesign.Identifier
import SchemaDesign.Schema.Basic

/-!
# TypeScript

The export of a schema as an interface for each table.
-/

namespace SchemaDesign.Export.TypeScript

/-- Whether a character may begin a bare property name. -/
def isNameStart (c : Char) : Bool :=
  c.isAlpha || c == '_' || c == '$'

/-- Whether a character may stand in a bare property name. -/
def isNamePart (c : Char) : Bool :=
  c.isAlphanum || c == '_' || c == '$'

/-- A property name, in quotes unless it is an identifier. -/
def propertyName (name : String) : String :=
  match name.toList with
  | first :: rest =>
      if isNameStart first && rest.all isNamePart then name
      else "\"" ++ Text.replaceChar '"' ['\\', '"'] name ++ "\""
  | [] => "\"\""

/-- The line of a column; a nullable one is optional. -/
def property (column : Column) : String :=
  "  " ++ propertyName column.name ++ (if column.nullable then "?" else "") ++ ": " ++
    TypeTable.typeScript.lookup column.dataType "string" ++ ";\n"

/-- The interface of a table. -/
def interface (table : Table) : String :=
  "\nexport interface " ++ Identifier.pascalCase table.name ++ " \x7b\n" ++
    String.join (table.columns.map property) ++ "\x7d\n"

/-- The module of a schema. -/
def generate (schema : Schema) : String :=
  "// Schema: " ++ schema.name ++ "\n// Generated by SchemaForge\n" ++
    String.join (schema.tables.map interface)

end SchemaDesign.Export.TypeScript
