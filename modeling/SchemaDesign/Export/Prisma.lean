import SchemaDesign.Export.TypeMapping
import SchemaDesign.Identifier
import SchemaDesign.Schema.Basic

/-!
# Prisma

The export of a schema as a Prisma file with a model for each table.
-/

namespace SchemaDesign.Export.Prisma

/-- The text after a sign, if it has one. -/
def afterSign : List Char → List Char
  | '+' :: rest => rest
  | '-' :: rest => rest
  | text => text

/-- Whether a text is the exponent of a numeral, or nothing. -/
def isExponent : List Char → Bool
  | [] => true
  | c :: rest =>
      let digits := afterSign rest
      (c == 'e' || c == 'E') && !digits.isEmpty && digits.all Char.isDigit

/-- Whether a text is a numeral: a sign, digits with a point among or beside them, and an exponent,
or one of the names of infinity and of what is no number. -/
def isNumeral (text : List Char) : Bool :=
  let unsigned := afterSign text
  let small := String.ofList (unsigned.map Char.toLower)
  let whole := unsigned.takeWhile Char.isDigit
  let rest := unsigned.dropWhile Char.isDigit
  small == "inf" || small == "infinity" || small == "nan" ||
    match rest with
    | '.' :: rest =>
        !(whole.isEmpty && (rest.takeWhile Char.isDigit).isEmpty) &&
          isExponent (rest.dropWhile Char.isDigit)
    | rest => !whole.isEmpty && isExponent rest

/-- What stands between single quotes, if the text is in them. -/
def unquoted? : List Char → Option (List Char)
  | '\'' :: rest => if rest.getLast? = some '\'' then some rest.dropLast else none
  | _ => none

/-- A text in double quotes; a double quote inside it has a backslash before it. -/
def quotedText (text : List Char) : String :=
  "\"" ++ Text.replaceChar '"' ['\\', '"'] (String.ofList text) ++ "\""

/-- The default of a column as an expression: the current time, a truth value, a number and a text
are written as such, and all else is left to the database. -/
def defaultExpression (sql : String) : String :=
  let trimmed := Text.trim sql.toList
  let upper := Text.upperCase (String.ofList trimmed)
  if upper = "CURRENT_TIMESTAMP" ∨ upper = "NOW()" ∨ upper = "CURRENT_TIMESTAMP()" then "now()"
  else if upper = "TRUE" then "true"
  else if upper = "FALSE" then "false"
  else if isNumeral trimmed then String.ofList trimmed
  else
    match unquoted? trimmed with
    | some inner => quotedText (Text.undoubled '\'' inner)
    | none => "dbgenerated(" ++ quotedText trimmed ++ ")"

/-- The attributes of a column. -/
def attributes (column : Column) : String :=
  let key :=
    if column.isPrimaryKey then ["@id"]
    else if column.isUnique then ["@unique"]
    else []
  let default :=
    match column.defaultValue with
    | some value => ["@default(" ++ defaultExpression value ++ ")"]
    | none => []
  " ".intercalate (key ++ default)

/-- The type of a column; one that may be null has a question mark. -/
def fieldType (column : Column) : String :=
  TypeTable.prisma.lookup column.dataType "String" ++
    (if column.nullable && !column.isPrimaryKey then "?" else "")

/-- A text with blanks after it up to a width in characters. -/
def padded (width : Nat) (text : String) : List Char :=
  text.toList ++ List.replicate (width - text.length) ' '

/-- The greatest number of bytes that one of some texts takes. -/
def widest (texts : List String) : Nat :=
  texts.foldl (fun width text => max width text.utf8ByteSize) 0

/-- The line of a column, its parts aligned with those of the other columns and no blanks at its
end. -/
def field (nameWidth typeWidth : Nat) (column : Column) : String :=
  String.ofList (Text.trimEnd (' ' :: ' ' :: padded nameWidth column.name ++ ' ' ::
    padded typeWidth (fieldType column) ++ ' ' :: (attributes column).toList)) ++ "\n"

/-- The model of a table.  A table whose name is not the model's name is mapped to it. -/
def model (table : Table) : String :=
  let name := Identifier.pascalCase table.name
  let nameWidth := widest (table.columns.map fun column => column.name)
  let typeWidth := widest (table.columns.map fieldType)
  "\nmodel " ++ name ++ " \x7b\n" ++
    String.join (table.columns.map (field nameWidth typeWidth)) ++
    (if name = table.name then "" else "\n  @@map(\"" ++ table.name ++ "\")\n") ++ "\x7d\n"

/-- The file of a schema. -/
def generate (schema : Schema) : String :=
  "// Schema: " ++ schema.name ++ "\n// Generated by SchemaForge\n\n" ++
    "datasource db \x7b\n  provider = \"mysql\"\n  url      = env(\"DATABASE_URL\")\n\x7d\n\n" ++
    "generator client \x7b\n  provider = \"prisma-client-js\"\n\x7d\n" ++
    String.join (schema.tables.map model)

end SchemaDesign.Export.Prisma
