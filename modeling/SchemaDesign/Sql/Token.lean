import SchemaDesign.Text.IgnoringCase
import SchemaDesign.Dialect

/-!
# Tokens of SQL

The tokens of a statement, the text that stands for each, and the readable text of several.
-/

namespace SchemaDesign.Sql

/-- A token of a statement. -/
inductive Token where
  /-- A keyword or a name, which may have been in quotes. -/
  | word (value : String) (quoted : Bool)
  | number (digits : String)
  /-- A text in single quotes. -/
  | literal (value : String)
  | openParen
  | closeParen
  | comma
  | period
  /-- An operator or anything else. -/
  | other (text : String)
deriving DecidableEq, Repr, Inhabited

namespace Token

/-- Whether a token is a word without quotes that spells a keyword in any letter case. -/
def isKeyword (token : Token) (keyword : String) : Bool :=
  match token with
  | .word value false => Text.same value keyword
  | _ => false

/-- Whether a token is a word. -/
def isWord : Token → Bool
  | .word _ _ => true
  | _ => false

/-- The text that stands for a token; words are written without quotes. -/
def text : Token → String
  | .word value _ => value
  | .number digits => digits
  | .literal value => quotedLiteral value
  | .openParen => "("
  | .closeParen => ")"
  | .comma => ","
  | .period => "."
  | .other text => text

/-- Whether no blank is written between two tokens. -/
def sticks : Token → Token → Bool
  | .openParen, _ => true
  | .period, _ => true
  | _, .closeParen => true
  | _, .comma => true
  | _, .period => true
  | .word _ _, .openParen => true
  | _, _ => false

/-- The text of tokens after another one, when it is known whether anything has been written. -/
def renderAfter (previous : Token) (written : Bool) : List Token → String
  | [] => ""
  | token :: rest =>
      (if written && !previous.sticks token then " " else "") ++ token.text ++
        renderAfter token (written || !token.text.isEmpty) rest

/-- The readable text of some tokens. -/
def render : List Token → String
  | [] => ""
  | token :: rest => token.text ++ renderAfter token (!token.text.isEmpty) rest

end Token

end SchemaDesign.Sql
