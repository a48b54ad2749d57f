import SchemaDesign.Text.Blank
import SchemaDesign.Text.Letter
import SchemaDesign.Text.Search

/-!
# Files of environment variables

A file of assignments such as `NAME="some value" # remark`, read before a program starts.  A value
may be quoted, may hold escapes, and may refer to other variables as `$NAME` or `$` and a name in
braces.  Reading ends at the first line that makes no sense; the assignments before it count.  A
variable that already has a value keeps it.
-/

namespace SchemaDesign.EnvironmentFile

/-- A part of a value. -/
inductive Piece where
  | character (c : Char)
  /-- The value of the named variable. -/
  | reference (name : String)
deriving DecidableEq, Repr

/-- A variable and the value that a file gives it. -/
structure Assignment where
  name : String
  value : List Piece
deriving DecidableEq, Repr

/-! ## Lines

A line break inside quotes does not end a line. -/

/-- What the characters of a line so far leave open. -/
inductive LineMode where
  | plain
  /-- After a blank, where a number sign begins a remark. -/
  | blank
  | escape
  | quoted (mark : Char)
  | quotedEscape (mark : Char)
deriving DecidableEq, Repr

/-- Whether a character quotes. -/
def isQuote (c : Char) : Bool :=
  c == '"' || c == '\''

/-- The mode after a character. -/
def LineMode.next (mode : LineMode) (c : Char) : LineMode :=
  match mode with
  | .plain | .blank =>
      if c = '\\' then .escape
      else if isQuote c then .quoted c
      else if mode = .plain ∧ Text.isBlank c ∧ c ≠ '\n' ∧ c ≠ '\r' then .blank
      else .plain
  | .escape => .plain
  | .quoted mark =>
      if c = '\\' then .quotedEscape mark else if c = mark then .plain else .quoted mark
  | .quotedEscape mark => .quoted mark

/-- The text up to a remark, and the mode at its end unless there is a remark. -/
def scan (mode : LineMode) : List Char → List Char × Option LineMode
  | [] => ([], some mode)
  | c :: rest =>
      if mode = .blank ∧ c = '#' then ([], none)
      else
        let (text, finish) := scan (mode.next c) rest
        (c :: text, finish)

/-- The text cut after each line feed. -/
def physicalLines : List Char → List (List Char)
  | [] => []
  | c :: rest =>
      if c = '\n' then [c] :: physicalLines rest
      else
        match physicalLines rest with
        | [] => [[c]]
        | line :: lines => (c :: line) :: lines

/-- The line without its line feed and a carriage return before that. -/
def withoutEnd (line : List Char) : List Char :=
  match line.reverse with
  | '\n' :: '\r' :: rest => rest.reverse
  | '\n' :: rest => rest.reverse
  | _ => line

/-- The logical lines of some physical lines, after the text and mode of a line that goes on.  A
line that is still open at the end is none. -/
def logicalLines (before : List Char) (mode : LineMode) : List (List Char) → List (List Char)
  | [] => []
  | line :: lines =>
      if Text.startsWith ['#'] (Text.trimStart (before ++ line)) then logicalLines [] .plain lines
      else
        match scan mode line with
        | (text, none) => (before ++ text) :: logicalLines [] .plain lines
        | (text, some .plain) => withoutEnd (before ++ text) :: logicalLines [] .plain lines
        | (text, some finish) => logicalLines (before ++ text) finish lines

/-! ## Assignments -/

/-- What the characters of a value so far leave open, inside double quotes or outside. -/
inductive ValueMode where
  | plain (quoted : Bool)
  | escape (quoted : Bool)
  /-- Inside single quotes. -/
  | literal
  /-- After a dollar sign and the first characters of a name. -/
  | reference (quoted : Bool) (name : List Char)
  /-- After an opening brace and the first characters of a name. -/
  | braced (quoted : Bool) (name : List Char)
  /-- After a blank, where only a remark may follow. -/
  | finished
deriving DecidableEq, Repr

/-- The opening and closing brace around a name. -/
def braces : Char × Char :=
  (Char.ofNat 0x7B, Char.ofNat 0x7D)

/-- The character that an escape stands for. -/
def escaped? (c : Char) : Option Char :=
  if ['\\', '\'', '"', '$', ' '].contains c then some c
  else if c = 'n' then some '\n'
  else none

/-- The pieces of a value, if it is well formed. -/
def value? : ValueMode → List Char → Option (List Piece)
  | .plain false, [] | .escape false, [] | .finished, [] => some []
  | .reference false name, [] => some [.reference (String.ofList name)]
  | _, [] => none
  | .plain quoted, c :: rest =>
      if c = '$' then value? (.reference quoted []) rest
      else if c = '\\' then value? (.escape quoted) rest
      else if c = '"' then value? (.plain !quoted) rest
      else if !quoted && c == '\'' then value? .literal rest
      else if !quoted && (c == ' ' || c == '\t') then value? .finished rest
      else (value? (.plain quoted) rest).map (.character c :: ·)
  | .escape quoted, c :: rest =>
      match escaped? c with
      | none => none
      | some meant => (value? (.plain quoted) rest).map (.character meant :: ·)
  | .literal, c :: rest =>
      if c = '\'' then value? (.plain false) rest
      else (value? .literal rest).map (.character c :: ·)
  | .reference quoted name, c :: rest =>
      let finished := Piece.reference (String.ofList name)
      if Text.isAlphabetic c || Text.isNumeral c then value? (.reference quoted (name ++ [c])) rest
      else if c = braces.1 ∧ name = [] then value? (.braced quoted []) rest
      else if c = '$' then (value? (.reference quoted []) rest).map (finished :: ·)
      else (value? (.plain quoted) rest).map fun pieces => finished :: .character c :: pieces
  | .braced quoted name, c :: rest =>
      if c = braces.2 then
        (value? (.plain quoted) rest).map (.reference (String.ofList name) :: ·)
      else value? (.braced quoted (name ++ [c])) rest
  | .finished, c :: rest =>
      if c = ' ' ∨ c = '\t' then value? .finished rest
      else if c = '#' then some []
      else none

/-- Whether a name may begin with a character. -/
def isNameStart (c : Char) : Bool :=
  c.isAlpha || c == '_'

/-- Whether a name may go on with a character. -/
def isNamePart (c : Char) : Bool :=
  c.isAlphanum || c == '_' || c == '.'

/-- A name at the start of a text, and the text after it and blanks. -/
def readName? : List Char → Option (String × List Char)
  | [] => none
  | c :: rest =>
      if isNameStart c then
        some (String.ofList (c :: rest.takeWhile isNamePart),
          Text.trimStart (rest.dropWhile isNamePart))
      else none

/-- A name and an equals sign at the start of a text, and the text after them and blanks. -/
def readTarget? (text : List Char) : Option (String × List Char) :=
  match readName? text with
  | some (name, '=' :: rest) => some (name, Text.trimStart rest)
  | _ => none

/-- The assignment of a line, or nothing if the line has no assignment; a line that makes no sense
has no answer.  The word `export` may stand before the name. -/
def assignment? (line : List Char) : Option (Option Assignment) :=
  let text := Text.trim line
  if text.isEmpty || Text.startsWith ['#'] text then some none
  else do
    let (name, rest) ←
      match readName? text with
      | some ("export", '=' :: _) => readTarget? text
      | some ("export", rest) => readTarget? rest
      | _ => readTarget? text
    if rest.isEmpty || Text.startsWith ['#'] rest then some (some { name, value := [] })
    else (value? (.plain false) rest).map fun value => some { name, value }

/-- The assignments of some lines up to the first line that makes no sense. -/
def assignmentsOf : List (List Char) → List Assignment
  | [] => []
  | line :: lines =>
      match assignment? line with
      | none => []
      | some none => assignmentsOf lines
      | some (some assignment) => assignment :: assignmentsOf lines

/-- The assignments of a file, which may begin with a byte order mark. -/
def assignments (text : String) : List Assignment :=
  let characters := text.toList
  let body := (Text.afterStart? [Char.ofNat 0xFEFF] characters).getD characters
  assignmentsOf (logicalLines [] .plain (physicalLines body))

/-! ## Environments -/

/-- The value of a variable.  An environment is searched as texts of a name, an equals sign and a
value: what is asked for and one more equals sign must begin a text, and the rest is the value.  A
name with an equals sign in it so reaches into the value of another variable. -/
def valueOf? (environment : List (String × String)) (name : String) : Option String :=
  if name.isEmpty then none
  else
    environment.findSome? fun (known, value) =>
      (Text.afterStart? (name ++ "=").toList (known ++ "=" ++ value).toList).map String.ofList

/-- The names of the variables that some assignments set or refer to. -/
def names (assignments : List Assignment) : List String :=
  assignments.flatMap fun assignment =>
    assignment.name :: assignment.value.filterMap fun piece =>
      match piece with
      | .character _ => none
      | .reference name => some name

/-- The text of a value in an environment, where missing variables are empty. -/
def valueText (environment : List (String × String)) (value : List Piece) : String :=
  String.ofList (value.flatMap fun piece =>
    match piece with
    | .character c => [c]
    | .reference name => ((valueOf? environment name).getD "").toList)

/-- The environment after some assignments; a variable that has a value keeps it. -/
def load (environment : List (String × String)) : List Assignment → List (String × String)
  | [] => environment
  | assignment :: rest =>
      if (valueOf? environment assignment.name).isSome then load environment rest
      else
        load (environment ++ [(assignment.name, valueText environment assignment.value)]) rest

end SchemaDesign.EnvironmentFile
