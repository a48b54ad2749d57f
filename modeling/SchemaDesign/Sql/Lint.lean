import SchemaDesign.Sql.Script
import SchemaDesign.Text.IgnoringCase

/-!
# Advice on scripts

What is likely to be wrong with a script, whether or not it is run: a table without columns, and
statements without their semicolons.
-/

namespace SchemaDesign.Sql

/-- How much an advice matters. -/
inductive LintSeverity where
  | warning
  | hint
deriving DecidableEq, Repr

/-- The word for a severity. -/
def LintSeverity.text : LintSeverity → String
  | .warning => "warning"
  | .hint => "hint"

/-- An advice on a place of a script. -/
structure LintDiagnostic where
  severity : LintSeverity
  message : String
  code : String
  position : SourcePosition
  suggestion : Option String
deriving DecidableEq, Repr

/-- The line shown for an advice. -/
def LintDiagnostic.text (diagnostic : LintDiagnostic) : String :=
  toString diagnostic.position.line ++ ":" ++ toString diagnostic.position.column ++ ": " ++
    diagnostic.severity.text ++ "[" ++ diagnostic.code ++ "]: " ++ diagnostic.message ++
    (match diagnostic.suggestion with
      | some suggestion => " (" ++ suggestion ++ ")"
      | none => "")

namespace Lint

/-- A word that begins a line begins a statement. -/
def statementKeywords : List String :=
  ["CREATE", "ALTER", "DROP", "INSERT", "UPDATE", "DELETE", "TRUNCATE"]

/-- A word that begins a line begins a query, which may belong to the statement before it. -/
def queryKeywords : List String := ["SELECT", "WITH"]

/-- A statement that begins with one of these may go on with a query. -/
def queryHosts : List String := ["INSERT", "WITH", "EXPLAIN"]

/-- After a line that ends with one of these a query belongs to the same statement. -/
def queryJoiners : List String :=
  ["AS", "UNION", "ALL", "DISTINCT", "EXCEPT", "INTERSECT", "MINUS"]

/-- Whether a word is in a list, in any letter case. -/
def isOneOf (keywords : List String) (word : List Char) : Bool :=
  keywords.any fun keyword => Text.same (String.ofList word) keyword

/-- Whether the first word of a text is in a list. -/
def beginsWithOneOf (keywords : List String) (text : List Char) : Bool :=
  match Text.words text with
  | word :: _ => isOneOf keywords word
  | [] => false

/-- Whether the last word of a text is in a list. -/
def endsWithOneOf (keywords : List String) (text : List Char) : Bool :=
  match (Text.words text).getLast? with
  | some word => isOneOf keywords word
  | none => false

/-- Whether a text begins with the words that create a table. -/
def createsTable (text : List Char) : Bool :=
  match Text.words text with
  | create :: table :: _ => isOneOf ["CREATE"] create && isOneOf ["TABLE"] table
  | _ => false

/-- The advice on a table that is created without columns. -/
def missingColumns (statement : StatementSource) : List LintDiagnostic :=
  if createsTable statement.text.toList && !statement.text.toList.contains '(' then
    [{ severity := .warning
       message := "CREATE TABLE without column list"
       code := "missing-column-list"
       position := statement.start
       suggestion := some "Add a column list, e.g. CREATE TABLE name (id INT PRIMARY KEY)" }]
  else []

/-- The advice to end a statement at a place. -/
def missingSemicolon (position : SourcePosition) : LintDiagnostic :=
  { severity := .warning
    message := "Statement is not terminated with ';'"
    code := "missing-semicolon"
    position
    suggestion := some "Add ';' at the end of the statement" }

/-- A line of a statement: the byte offset of its start in the statement, and its text without
blanks at the end. -/
structure Line where
  offset : Nat
  text : List Char
deriving DecidableEq, Repr

/-- Whether a line holds more than blanks or a comment. -/
def hasCode (line : List Char) : Bool :=
  !(Text.trim line).isEmpty && !Text.startsWith ['-', '-'] (Text.trimStart line)

/-- The lines of a statement that hold code, the first of which begins at a byte offset. -/
def linesFrom (offset : Nat) : List (List Char) → List Line
  | [] => []
  | line :: lines =>
      let rest := linesFrom (offset + byteLength line + 1) lines
      if hasCode line then { offset, text := Text.trimEnd line } :: rest else rest

/-- How many more parentheses a text opens than it closes. -/
def depthOf (text : List Char) : Int :=
  (text.count '(' : Int) - text.count ')'

/-- Whether a line outside parentheses is the end of a statement, seen from the line after it. -/
def endsStatement (hostsQuery : Bool) (line next : List Char) : Bool :=
  let next := Text.trimStart next
  let continues := Text.endsWith [','] line || Text.endsWith ['('] line ||
    Text.startsWith ['('] next
  let opensQuery := beginsWithOneOf queryKeywords next && !hostsQuery &&
    !endsWithOneOf queryJoiners line
  !continues && (beginsWithOneOf statementKeywords next || opensQuery)

/-- The byte offsets in a statement at which a semicolon is missing, when some parentheses are open
before its lines. -/
def missingEnds (terminated hostsQuery : Bool) (depth : Int) : List Line → List Nat
  | [] => []
  | [last] => if terminated then [] else [last.offset + byteLength last.text]
  | line :: next :: lines =>
      let depth := depth + depthOf line.text
      let rest := missingEnds terminated hostsQuery depth (next :: lines)
      if depth ≤ 0 && endsStatement hostsQuery line.text next.text then
        (line.offset + byteLength line.text) :: rest
      else rest

/-- The advice on missing semicolons: where a line begins another statement, and at the end of a
script. -/
def missingSemicolons (source : List Char) (statement : StatementSource) : List LintDiagnostic :=
  let text := statement.text.toList
  let lines := linesFrom 0 (Text.split (· == '\n') text)
  (missingEnds statement.terminated (beginsWithOneOf queryHosts text) 0 lines).map fun offset =>
    missingSemicolon (.ofOffset source (statement.start.offset + offset))

end Lint

/-- All advice on a script. -/
def lint (script : String) : List LintDiagnostic :=
  (statements script).flatMap fun statement =>
    Lint.missingColumns statement ++ Lint.missingSemicolons script.toList statement

end SchemaDesign.Sql
