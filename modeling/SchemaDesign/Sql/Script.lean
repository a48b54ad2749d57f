import SchemaDesign.Sql.Position
import SchemaDesign.Text.Blank
import SchemaDesign.Text.Search

/-!
# Scripts and their statements

A script is cut at the semicolons outside quotes and comments before anything else is made of it,
so that a broken statement cannot harm its neighbours.  Pieces that hold blanks and comments only
are no statements.
-/

namespace SchemaDesign.Sql

/-- A statement of a script. -/
structure StatementSource where
  /-- The statement without comments before it, blanks around it and its semicolon. -/
  text : String
  /-- Where the text begins. -/
  start : SourcePosition
  /-- Where its semicolon stands, or the end of the script. -/
  finish : SourcePosition
  /-- Whether it has a semicolon. -/
  terminated : Bool
deriving DecidableEq, Repr

/-- What the characters before a place have opened and not closed. -/
inductive Mode where
  | code
  | quoted (mark : Char)
  | lineComment
  /-- After the slash of a comment's opening mark. -/
  | blockOpening
  | blockComment
  /-- After the star of a comment's closing mark. -/
  | blockClosing
deriving DecidableEq, Repr

/-- Whether a character opens a quotation. -/
def isQuote (c : Char) : Bool :=
  c == '\'' || c == '"' || c == Char.ofNat 0x60

/-- The mode after a character, given the one that follows it. -/
def Mode.next (mode : Mode) (c : Char) (following : Option Char) : Mode :=
  match mode with
  | .code =>
      if isQuote c then .quoted c
      else if c = '-' ∧ following = some '-' then .lineComment
      else if c = '/' ∧ following = some '*' then .blockOpening
      else .code
  | .quoted mark => if c = mark then .code else .quoted mark
  | .lineComment => if c = '\n' then .code else .lineComment
  | .blockOpening => .blockComment
  | .blockComment =>
      if c = '*' ∧ following = some '/' then .blockClosing else .blockComment
  | .blockClosing => .code

/-- The pieces with one more character at the start of the first. -/
def prependToFirst (c : Char) : List (List Char) → List (List Char)
  | [] => [[c]]
  | piece :: pieces => (c :: piece) :: pieces

/-- The pieces of a text between its semicolons outside quotes and comments, when it begins in a
mode. -/
def pieces : Mode → List Char → List (List Char)
  | _, [] => [[]]
  | mode, c :: rest =>
      if mode = .code ∧ c = ';' then [] :: pieces .code rest
      else prependToFirst c (pieces (mode.next c rest.head?) rest)

theorem length_trimStart (text : List Char) : (Text.trimStart text).length ≤ text.length := by
  exact (List.dropWhile_suffix _).length_le

set_option linter.unusedVariables false in
/-- The text from its first character outside blanks and comments, if there is one.  A comment ends
with its line, or with the first closing mark that comes after its opening slash. -/
def meaningful? (text : List Char) : Option (List Char) :=
  match trimmedText : Text.trimStart text with
  | [] => none
  | '-' :: '-' :: rest =>
      match found : Text.cutAt? ['\n'] rest with
      | none => none
      | some (_, after) => meaningful? after
  | '/' :: '*' :: rest =>
      match found : Text.cutAt? ['*', '/'] ('*' :: rest) with
      | none => none
      | some (_, after) => meaningful? after
  | c :: rest => some (c :: rest)
termination_by text.length
decreasing_by
  · have shorter := length_trimStart text
    have cut := Text.length_of_cutAt? found
    rw [trimmedText] at shorter
    simp at shorter cut
    omega
  · have shorter := length_trimStart text
    have cut := Text.length_of_cutAt? found
    rw [trimmedText] at shorter
    simp at shorter cut
    omega

/-- The statement of a piece that begins at a byte offset of a script, if it has one. -/
def statementOf? (source : List Char) (offset : Nat) (piece : List Char) (terminated : Bool) :
    Option StatementSource :=
  (meaningful? piece).map fun text =>
    { text := String.ofList (Text.trimEnd text)
      start := .ofOffset source (offset + (byteLength piece - byteLength text))
      finish := .ofOffset source (offset + byteLength piece)
      terminated }

/-- The statements of some pieces, the first of which begins at a byte offset of a script.  All but
the last piece end with a semicolon. -/
def statementsFrom (source : List Char) (offset : Nat) : List (List Char) → List StatementSource
  | [] => []
  | [piece] => (statementOf? source offset piece false).toList
  | piece :: next :: rest =>
      (statementOf? source offset piece true).toList ++
        statementsFrom source (offset + byteLength piece + 1) (next :: rest)

/-- The statements of a script. -/
def statements (script : String) : List StatementSource :=
  let source := script.toList
  statementsFrom source 0 (pieces .code source)

end SchemaDesign.Sql
