/-!
# Places in a source text

A place is given by line and column, which count characters from 1, and by the number of bytes
before it in UTF-8.
-/

namespace SchemaDesign.Sql

/-- A place in a source text. -/
structure SourcePosition where
  line : Nat
  column : Nat
  /-- The number of bytes before the place. -/
  offset : Nat
deriving DecidableEq, Repr, Inhabited

/-- The number of bytes of a text in UTF-8. -/
def byteLength : List Char → Nat
  | [] => 0
  | c :: rest => c.utf8Size + byteLength rest

/-- The line and column after a text, when it starts at a given line and column. -/
def advance (line column : Nat) : List Char → Nat × Nat
  | [] => (line, column)
  | c :: rest => if c = '\n' then advance (line + 1) 1 rest else advance line (column + 1) rest

/-- The characters of a text that begin before a byte offset. -/
def beforeOffset : Nat → List Char → List Char
  | _, [] => []
  | 0, _ => []
  | offset + 1, c :: rest => c :: beforeOffset (offset + 1 - c.utf8Size) rest

/-- The place at a byte offset. -/
def SourcePosition.ofOffset (source : List Char) (offset : Nat) : SourcePosition :=
  let (line, column) := advance 1 1 (beforeOffset offset source)
  { line, column, offset }

end SchemaDesign.Sql
