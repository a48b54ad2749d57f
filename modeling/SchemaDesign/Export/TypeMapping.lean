import SchemaDesign.DataType

/-!
# Types of the export targets

Each target has a table of needles and names; the first row with a needle that occurs in a data
type, in any letter case, names its type there.  Special needles stand before general ones.
-/

namespace SchemaDesign.Export

/-- Rows of needles and the name that they stand for, in the order in which they are tried. -/
abbrev TypeTable := List (List String × String)

namespace TypeTable

/-- The types of properties. -/
def typeScript : TypeTable :=
  [(["JSON"], "object"),
    (["BOOL", "BIT"], "boolean"),
    (["DATE", "TIME"], "Date"),
    (["INT", "SERIAL", "DECIMAL", "NUMERIC", "FLOAT", "DOUBLE", "REAL"], "number")]

/-- The scalar types of fields. -/
def prisma : TypeTable :=
  [(["JSON"], "Json"),
    (["BOOL", "BIT"], "Boolean"),
    (["DATE", "TIME"], "DateTime"),
    (["DECIMAL", "NUMERIC", "FLOAT", "DOUBLE", "REAL"], "Float"),
    (["INT", "SERIAL"], "Int")]

/-- The types of JSON values. -/
def jsonSchema : TypeTable :=
  [(["JSON"], "object"),
    (["BOOL", "BIT"], "boolean"),
    (["DECIMAL", "NUMERIC", "FLOAT", "DOUBLE", "REAL"], "number"),
    (["INT", "SERIAL"], "integer")]

/-- The types of stored documents. -/
def bson : TypeTable :=
  [(["BIGINT", "BIGSERIAL"], "long"),
    (["JSON"], "object"),
    (["BOOL", "BIT"], "bool"),
    (["DATE", "TIME"], "date"),
    (["DECIMAL", "NUMERIC"], "decimal"),
    (["FLOAT", "DOUBLE", "REAL"], "double"),
    (["INT", "SERIAL"], "int"),
    (["BLOB", "BINARY", "BYTEA"], "binData")]

/-- The name of a data type in a table, or the fallback when no needle occurs in it. -/
def lookup (table : TypeTable) (dataType fallback : String) : String :=
  match table.find? fun row => row.1.any (DataType.mentions dataType) with
  | some row => row.2
  | none => fallback

end TypeTable

end SchemaDesign.Export
