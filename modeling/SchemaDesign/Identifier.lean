import SchemaDesign.Text.Blank
import SchemaDesign.Text.LetterCase

/-!
# Names of tables and columns

Which names are conventional, which are reserved words of SQL, and how a usable name is made of any
text.
-/

namespace SchemaDesign.Identifier

/-- The words that need quoting when they are used as names. -/
def reservedWords : List String :=
  ["ADD", "ALL", "ALTER", "AND", "ANY", "AS", "ASC", "BETWEEN", "BY", "CASE", "CHECK", "COLUMN",
    "CONSTRAINT", "CREATE", "CROSS", "CURRENT_DATE", "CURRENT_TIME", "CURRENT_TIMESTAMP",
    "CURRENT_USER", "DATABASE", "DEFAULT", "DELETE", "DESC", "DISTINCT", "DROP", "ELSE", "END",
    "EXISTS", "FALSE", "FETCH", "FOR", "FOREIGN", "FROM", "FULL", "GRANT", "GROUP", "HAVING", "IF",
    "IN", "INDEX", "INNER", "INSERT", "INTO", "IS", "JOIN", "KEY", "LEFT", "LIKE", "LIMIT", "NOT",
    "NULL", "OFFSET", "ON", "OR", "ORDER", "OUTER", "PRIMARY", "REFERENCES", "RIGHT", "SELECT",
    "SET", "TABLE", "THEN", "TO", "TRUE", "UNION", "UNIQUE", "UPDATE", "USING", "VALUES", "WHEN",
    "WHERE", "WITH",
    "AUTO_INCREMENT", "CHANGE", "COLLATE", "EXPLAIN", "FORCE", "IGNORE", "INTERVAL", "MODIFY",
    "PROCEDURE", "RENAME", "REPLACE", "SCHEMA", "SHOW", "TRIGGER", "TRUNCATE", "UNSIGNED", "VIEW",
    "ZEROFILL",
    "ANALYSE", "ANALYZE", "ARRAY", "AUTHORIZATION", "BOTH", "CAST", "CONCURRENTLY", "DEFERRABLE",
    "DO", "EXCEPT", "ILIKE", "INITIALLY", "INTERSECT", "LATERAL", "LEADING", "NATURAL", "ONLY",
    "PLACING", "RETURNING", "SESSION_USER", "SIMILAR", "SOME", "SYMMETRIC", "TRAILING", "USER",
    "VARIADIC", "WINDOW"]

/-- Whether a name is a reserved word in any letter case. -/
def isReserved (name : String) : Bool :=
  reservedWords.contains (Text.upperCase name)

/-- Whether a character is a letter from `a` to `z`, a digit or an underscore. -/
def isPlain (c : Char) : Bool :=
  c.isLower || c.isDigit || c == '_'

/-- Whether a name starts with a small letter and goes on with small letters, digits and
underscores. -/
def isConventional (name : String) : Bool :=
  match name.toList with
  | [] => false
  | first :: rest => first.isLower && rest.all isPlain

/-- What the characters before a place have made of the name. -/
inductive Progress where
  /-- Nothing has been written. -/
  | start
  /-- An underscore was written last. -/
  | gap
  /-- A capital was written last. -/
  | capital
  /-- A small letter or a digit was written last. -/
  | small
deriving DecidableEq, Repr

/-- The words of a text in small letters, joined by underscores: a capital after a small letter or
a digit begins a word, and other characters stand between words. -/
def snakeFrom : Progress → List Char → List Char
  | _, [] => []
  | progress, c :: rest =>
      if c.isUpper then
        if progress = .small then '_' :: c.toLower :: snakeFrom .capital rest
        else c.toLower :: snakeFrom .capital rest
      else if c.isAlphanum then c :: snakeFrom .small rest
      else if progress = .start ∨ progress = .gap then snakeFrom progress rest
      else '_' :: snakeFrom .gap rest

/-- The name in small letters with underscores between its words. -/
def snakeCase (name : String) : String :=
  String.ofList (Text.trimMatching (· == '_') (snakeFrom .start (Text.trim name.toList)))

/-- A word with a capital letter. -/
def capitalized : List Char → List Char
  | [] => []
  | first :: rest => first.toUpper :: rest

/-- The letters and digits of the name, with a capital at the start of each of its words. -/
def pascalCase (name : String) : String :=
  String.ofList ((Text.split (fun c => !c.isAlphanum) name.toList).flatMap capitalized)

/-- The character that stands for a character in a plain name, if any. -/
def plainFor? (c : Char) : Option Char :=
  if c.isAlphanum || c == '_' then some c
  else if c = ' ' ∨ c = '-' then some '_'
  else none

/-- The text with one underscore for each run of underscores. -/
def singleUnderscores : List Char → List Char
  | [] => []
  | [c] => [c]
  | c :: d :: rest =>
      if c = '_' ∧ d = '_' then singleUnderscores (d :: rest)
      else c :: singleUnderscores (d :: rest)

/-- The longest name that every supported database accepts. -/
def maxLength : Nat := 64

/-- The name without the characters that an unquoted name cannot have, if a letter is left. -/
def sanitize? (name : String) : Option String :=
  let replaced := (Text.trim name.toList).filterMap plainFor?
  let collapsed := singleUnderscores (replaced.dropWhile Char.isDigit)
  let result := Text.trimMatching (· == '_') collapsed
  if result.any Char.isAlpha then some (String.ofList (result.take maxLength)) else none

/-- A conventional name that is no reserved word, made of a name, or of a word for the kind of
thing when the name has nothing to offer. -/
def suggest (name kind : String) : String :=
  match (sanitize? name).map snakeCase with
  | some candidate =>
      if isReserved candidate then kind ++ "_" ++ candidate
      else if candidate.isEmpty then kind ++ "_1"
      else candidate
  | none => kind ++ "_1"

end SchemaDesign.Identifier
