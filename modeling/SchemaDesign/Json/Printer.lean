import SchemaDesign.Json.Basic

/-!
# JSON text

The compact form, without blanks, and the indented form, with one member or item a line.
-/

namespace SchemaDesign.Json

/-- A hexadecimal digit in small letters. -/
def hexDigit (n : Nat) : Char :=
  Nat.digitChar n

/-- A character as it stands inside a quoted text. -/
def escaped (c : Char) : List Char :=
  if c = '"' then ['\\', '"']
  else if c = '\\' then ['\\', '\\']
  else if c = '\n' then ['\\', 'n']
  else if c = '\r' then ['\\', 'r']
  else if c = '\t' then ['\\', 't']
  else if c.toNat = 8 then ['\\', 'b']
  else if c.toNat = 12 then ['\\', 'f']
  else if c.toNat < 32 then ['\\', 'u', '0', '0', hexDigit (c.toNat / 16), hexDigit (c.toNat % 16)]
  else [c]

/-- A text in quotes. -/
def quoted (s : String) : List Char :=
  '"' :: (s.toList.flatMap escaped ++ ['"'])

/-- The decimal text of an integer. -/
def integerText (n : Int) : List Char :=
  if n < 0 then '-' :: Number.digits n.natAbs else Number.digits n.natAbs

mutual

/-- The compact text of a value. -/
def compactText : Json → List Char
  | .null => ['n', 'u', 'l', 'l']
  | .bool true => ['t', 'r', 'u', 'e']
  | .bool false => ['f', 'a', 'l', 's', 'e']
  | .integer n => integerText n
  | .float x => x.text.toList
  | .string s => quoted s
  | .array [] => ['[', ']']
  | .array (item :: items) => '[' :: (compactText item ++ compactItems items)
  | .object [] => ['{', '}']
  | .object ((name, value) :: members) =>
      '{' :: (quoted name ++ ':' :: (compactText value ++ compactMembers members))

/-- The further items of an array and its end. -/
def compactItems : List Json → List Char
  | [] => [']']
  | item :: items => ',' :: (compactText item ++ compactItems items)

/-- The further members of an object and its end. -/
def compactMembers : List (String × Json) → List Char
  | [] => ['}']
  | (name, value) :: members =>
      ',' :: (quoted name ++ ':' :: (compactText value ++ compactMembers members))

end

/-- A line break and the indentation of a nesting level. -/
def newLine (level : Nat) : List Char :=
  '\n' :: List.replicate (2 * level) ' '

mutual

/-- The indented text of a value at a nesting level. -/
def prettyText (level : Nat) : Json → List Char
  | .null => ['n', 'u', 'l', 'l']
  | .bool true => ['t', 'r', 'u', 'e']
  | .bool false => ['f', 'a', 'l', 's', 'e']
  | .integer n => integerText n
  | .float x => x.text.toList
  | .string s => quoted s
  | .array [] => ['[', ']']
  | .array (item :: items) =>
      '[' :: (newLine (level + 1) ++ (prettyText (level + 1) item ++ prettyItems level items))
  | .object [] => ['{', '}']
  | .object ((name, value) :: members) =>
      '{' :: (newLine (level + 1) ++ (quoted name ++ ':' :: ' ' ::
        (prettyText (level + 1) value ++ prettyMembers level members)))

/-- The further items of an array at a nesting level and its end. -/
def prettyItems (level : Nat) : List Json → List Char
  | [] => newLine level ++ [']']
  | item :: items =>
      ',' :: (newLine (level + 1) ++ (prettyText (level + 1) item ++ prettyItems level items))

/-- The further members of an object at a nesting level and its end. -/
def prettyMembers (level : Nat) : List (String × Json) → List Char
  | [] => newLine level ++ ['}']
  | (name, value) :: members =>
      ',' :: (newLine (level + 1) ++ (quoted name ++ ':' :: ' ' ::
        (prettyText (level + 1) value ++ prettyMembers level members)))

end

/-- The compact form. -/
def compact (value : Json) : String :=
  String.ofList (compactText value)

/-- The indented form. -/
def pretty (value : Json) : String :=
  String.ofList (prettyText 0 value)

end SchemaDesign.Json
