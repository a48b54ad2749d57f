import SchemaDesign.Text.Blank
import SchemaDesign.Text.LetterCase
import SchemaDesign.Text.Search
import SchemaDesign.Number.Decimal

/-!
# Data types

A data type is free text such as `VARCHAR(255)`; its base name is what stands before arguments and
modifiers.
-/

namespace SchemaDesign.DataType

/-- The base names that are known. -/
def catalog : List String :=
  ["INT", "INTEGER", "TINYINT", "SMALLINT", "MEDIUMINT", "BIGINT", "SERIAL", "BIGSERIAL",
    "DECIMAL", "NUMERIC", "FLOAT", "DOUBLE", "REAL", "BOOLEAN", "BOOL", "BIT", "CHAR", "VARCHAR",
    "NVARCHAR", "TEXT", "TINYTEXT", "MEDIUMTEXT", "LONGTEXT", "CLOB", "BLOB", "BINARY",
    "VARBINARY", "BYTEA", "DATE", "TIME", "DATETIME", "TIMESTAMP", "YEAR", "JSON", "JSONB", "UUID",
    "ENUM"]

/-- The name of a type without arguments and modifiers, in capitals. -/
def baseName (dataType : String) : String :=
  let base := (Text.trim dataType.toList).takeWhile fun c => !(c == '(' || Text.isBlank c)
  Text.upperCase (String.ofList base)

/-- Whether the base name is in the catalogue. -/
def isKnown (dataType : String) : Bool :=
  catalog.contains (baseName dataType)

/-- Whether a text in capitals occurs in the type's capital form. -/
def mentions (dataType needle : String) : Bool :=
  Text.occurs needle.toList (Text.upperCase dataType).toList

/-- The number that a text spells: digits after an optional plus sign, within 64 bits. -/
def number? (text : List Char) : Option Nat :=
  let digits :=
    match text with
    | '+' :: rest => rest
    | _ => text
  if digits.isEmpty || !digits.all Char.isDigit then none
  else
    let value := Number.valueOfDigits digits
    if value < Nat.pow 2 64 then some value else none

/-- The declared length of a character type: the number in its first parentheses. -/
def charLength? (dataType : String) : Option Nat := do
  let upper := (Text.upperCase dataType).toList
  if !Text.occurs "CHAR".toList upper then none
  else
    let (_, rest) ← Text.cutAt? ['('] upper
    let (arguments, _) ← Text.cutAt? [')'] rest
    number? (Text.trim arguments)

end SchemaDesign.DataType
