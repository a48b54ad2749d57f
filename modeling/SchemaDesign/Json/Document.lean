import SchemaDesign.Json.Basic
import SchemaDesign.Text.Search

/-!
# Reading JSON text

A document is the tree that a JSON text spells.  It keeps repeated members, and it has a leaf for
a scalar that is well formed but has no value: a number beyond the range of numbers, or a text
with one half of a surrogate pair.  What becomes of those is for the reader of the document to
say, who may pass over a member that holds them.
-/

namespace SchemaDesign.Json

/-- The tree of a JSON text. -/
inductive Document where
  | null
  | bool (value : Bool)
  | integer (value : Int)
  | float (value : Number.Binary64)
  | string (value : String)
  /-- A well-formed number or text without a value. -/
  | unreadable
  | array (items : List Document)
  /-- The members in the order written; a name without a value is missing. -/
  | object (members : List (Option String × Document))
deriving Inhabited, Repr

/-- Whether a character may stand between the parts of a document. -/
def isGap (c : Char) : Bool :=
  c == ' ' || c == '\n' || c == '\t' || c == '\r'

/-- The text from its first character that is no gap. -/
def skipGap (text : List Char) : List Char :=
  text.dropWhile isGap

/-! ## Numbers -/

/-- The greatest natural number that is kept as an integer. -/
def greatestInteger : Nat := Nat.pow 2 64 - 1

/-- Appends digits to a significand while it stays within 64 bits: the significand reached, the
number of digits taken and the digits left. -/
def takeDigits (significand taken : Nat) : List Char → Nat × Nat × List Char
  | [] => (significand, taken, [])
  | c :: rest =>
      let next := 10 * significand + (c.toNat - '0'.toNat)
      if greatestInteger < next then (significand, taken, c :: rest)
      else takeDigits next (taken + 1) rest

/-- The value of a numeral.  Whole digits alone are an integer if they fit one.  Otherwise the
digits that no longer fit 64 bits are passed over, whole ones counting as a power of ten. -/
def numeralValue
    (negative : Bool) (whole : List Char) (fraction : Option (List Char)) (exponent : Option Int) :
    Document :=
  let (integral, _, excess) := takeDigits 0 0 whole
  if excess.isEmpty && fraction.isNone && exponent.isNone then
    if negative then
      if integral = 0 then .float (.zero true)
      else if integral ≤ Nat.pow 2 63 then .integer (-integral)
      else .float { Number.Binary64.ofNat integral with negative := true }
    else .integer integral
  else
    let (significand, places, _) := takeDigits integral 0 (fraction.getD [])
    let power : Int := (excess.length : Int) - places + exponent.getD 0
    match Number.Binary64.ofDecimal? negative significand power with
    | some x => .float x
    | none => .unreadable

/-- A run of digits at the start of a text and what follows it, if there is a digit. -/
def readDigits? (text : List Char) : Option (List Char × List Char) :=
  match text.span Char.isDigit with
  | ([], _) => none
  | (run, rest) => some (run, rest)

/-- The fraction of a numeral, if a point comes next; a point needs a digit after it. -/
def readFraction? : List Char → Option (Option (List Char) × List Char)
  | '.' :: rest => (readDigits? rest).map fun (run, rest) => (some run, rest)
  | rest => some (none, rest)

/-- The exponent of a numeral, if its mark comes next; the mark needs a digit after it. -/
def readExponent? (text : List Char) : Option (Option Int × List Char) :=
  match text with
  | c :: rest =>
      if c == 'e' || c == 'E' then
        let (negative, rest) : Bool × List Char :=
          match rest with
          | '+' :: rest => (false, rest)
          | '-' :: rest => (true, rest)
          | rest => (false, rest)
        (readDigits? rest).map fun (run, rest) =>
          let size : Int := Number.valueOfDigits run
          (some (if negative then -size else size), rest)
      else some (none, text)
  | [] => some (none, [])

/-- The numeral at the start of a text and what follows it; a zero is not followed by digits. -/
def readNumber? (text : List Char) : Option (Document × List Char) := do
  let (negative, text) : Bool × List Char :=
    match text with
    | '-' :: rest => (true, rest)
    | text => (false, text)
  let (whole, text) ← readDigits? text
  if whole.head? = some '0' ∧ whole.length ≠ 1 then none
  else
    let (fraction, text) ← readFraction? text
    let (exponent, text) ← readExponent? text
    some (numeralValue negative whole fraction exponent, text)

/-! ## Texts -/

/-- A character of a quoted text, or a code unit of 16 bits that was written as an escape. -/
inductive Piece where
  | char (value : Char)
  | codeUnit (value : Nat)
deriving DecidableEq, Repr

/-- The value of a hexadecimal digit. -/
def hexValue? (c : Char) : Option Nat :=
  if c.isDigit then some (c.toNat - '0'.toNat)
  else if 'a' ≤ c ∧ c ≤ 'f' then some (c.toNat - 'a'.toNat + 10)
  else if 'A' ≤ c ∧ c ≤ 'F' then some (c.toNat - 'A'.toNat + 10)
  else none

/-- The value of four hexadecimal digits. -/
def hexWord? (a b c d : Char) : Option Nat := do
  let a ← hexValue? a
  let b ← hexValue? b
  let c ← hexValue? c
  let d ← hexValue? d
  some (((a * 16 + b) * 16 + c) * 16 + d)

/-- The character that a backslash and a letter stand for. -/
def unescaped? (c : Char) : Option Char :=
  if c = '"' ∨ c = '\\' ∨ c = '/' then some c
  else if c = 'b' then some (Char.ofNat 8)
  else if c = 'f' then some (Char.ofNat 12)
  else if c = 'n' then some '\n'
  else if c = 'r' then some '\r'
  else if c = 't' then some '\t'
  else none

/-- The pieces up to the closing quote and what follows it. -/
def readPieces? : List Char → Option (List Piece × List Char)
  | [] => none
  | '"' :: rest => some ([], rest)
  | '\\' :: 'u' :: a :: b :: c :: d :: rest => do
      let unit ← hexWord? a b c d
      let (pieces, rest) ← readPieces? rest
      some (.codeUnit unit :: pieces, rest)
  | '\\' :: e :: rest => do
      let c ← unescaped? e
      let (pieces, rest) ← readPieces? rest
      some (.char c :: pieces, rest)
  | c :: rest =>
      if c.toNat < 32 ∨ c = '\\' then none
      else do
        let (pieces, rest) ← readPieces? rest
        some (.char c :: pieces, rest)

/-- Whether a code unit is the first half of a pair. -/
def isLeading (unit : Nat) : Bool :=
  0xD800 ≤ unit && unit ≤ 0xDBFF

/-- Whether a code unit is the second half of a pair. -/
def isTrailing (unit : Nat) : Bool :=
  0xDC00 ≤ unit && unit ≤ 0xDFFF

/-- The characters of the pieces, if every half of a pair stands beside its other half. -/
def joinPieces? : List Piece → Option (List Char)
  | [] => some []
  | .char c :: rest => (joinPieces? rest).map (c :: ·)
  | .codeUnit high :: .codeUnit low :: rest =>
      if isLeading high then
        if isTrailing low then
          (joinPieces? rest).map
            (Char.ofNat (0x10000 + (high - 0xD800) * 0x400 + (low - 0xDC00)) :: ·)
        else none
      else if isTrailing high then none
      else (joinPieces? (.codeUnit low :: rest)).map (Char.ofNat high :: ·)
  | .codeUnit unit :: rest =>
      if isLeading unit || isTrailing unit then none
      else (joinPieces? rest).map (Char.ofNat unit :: ·)

/-- The text after an opening quote, which is missing if it has no value, and what follows it. -/
def readText? (text : List Char) : Option (Option String × List Char) :=
  (readPieces? text).map fun (pieces, rest) => ((joinPieces? pieces).map String.ofList, rest)

/-! ## Documents -/

mutual

/-- The value at the start of a text, gaps before it passed over, and what follows it. -/
def readValue? : Nat → List Char → Option (Document × List Char)
  | 0, _ => none
  | fuel + 1, text =>
      match skipGap text with
      | [] => none
      | 'n' :: rest => (Text.afterStart? ['u', 'l', 'l'] rest).map fun rest => (.null, rest)
      | 't' :: rest => (Text.afterStart? ['r', 'u', 'e'] rest).map fun rest => (.bool true, rest)
      | 'f' :: rest =>
          (Text.afterStart? ['a', 'l', 's', 'e'] rest).map fun rest => (.bool false, rest)
      | '"' :: rest =>
          (readText? rest).map fun
            | (some s, rest) => (.string s, rest)
            | (none, rest) => (.unreadable, rest)
      | '[' :: rest =>
          match skipGap rest with
          | ']' :: rest => some (.array [], rest)
          | rest => do
              let (item, rest) ← readValue? fuel rest
              let (items, rest) ← readItems? fuel rest
              some (.array (item :: items), rest)
      | '{' :: rest =>
          match skipGap rest with
          | '}' :: rest => some (.object [], rest)
          | rest => do
              let (member, rest) ← readMember? fuel rest
              let (members, rest) ← readMembers? fuel rest
              some (.object (member :: members), rest)
      | text => readNumber? text

/-- The further items of an array up to its end. -/
def readItems? : Nat → List Char → Option (List Document × List Char)
  | 0, _ => none
  | fuel + 1, text =>
      match skipGap text with
      | ']' :: rest => some ([], rest)
      | ',' :: rest => do
          let (item, rest) ← readValue? fuel rest
          let (items, rest) ← readItems? fuel rest
          some (item :: items, rest)
      | _ => none

/-- A member of an object: its quoted name, a colon and its value. -/
def readMember? : Nat → List Char → Option ((Option String × Document) × List Char)
  | 0, _ => none
  | fuel + 1, text =>
      match skipGap text with
      | '"' :: rest => do
          let (name, rest) ← readText? rest
          match skipGap rest with
          | ':' :: rest =>
              let (value, rest) ← readValue? fuel rest
              some ((name, value), rest)
          | _ => none
      | _ => none

/-- The further members of an object up to its end. -/
def readMembers? : Nat → List Char → Option (List (Option String × Document) × List Char)
  | 0, _ => none
  | fuel + 1, text =>
      match skipGap text with
      | '}' :: rest => some ([], rest)
      | ',' :: rest => do
          let (member, rest) ← readMember? fuel rest
          let (members, rest) ← readMembers? fuel rest
          some (member :: members, rest)
      | _ => none

end

/-- The document that a text spells, gaps around it passed over.  Every step of the reader passes
over a character, but for the one from an object to its first member, so twice the length of the
text is fuel enough. -/
def Document.ofText? (text : String) : Option Document :=
  let chars := text.toList
  match readValue? (2 * chars.length + 2) chars with
  | some (document, rest) => if (skipGap rest).isEmpty then some document else none
  | none => none

/-- The number of levels of arrays and objects that a document may have, and one more. -/
def levelLimit : Nat := 128

mutual

/-- The value of a document, if all its scalars have one and it has fewer levels than the limit.
Of members of one name the last gives the value and the first the place. -/
def Document.value? (limit : Nat) : Document → Option Json
  | .null => some .null
  | .bool b => some (.bool b)
  | .integer n => some (.integer n)
  | .float x => some (.float x)
  | .string s => some (.string s)
  | .unreadable => none
  | .array items =>
      if limit ≤ 1 then none else (valuesOf? (limit - 1) items).map .array
  | .object members =>
      if limit ≤ 1 then none else (membersOf? (limit - 1) [] members).map .object

/-- The values of some documents. -/
def valuesOf? (limit : Nat) : List Document → Option (List Json)
  | [] => some []
  | item :: items => do
      let value ← item.value? limit
      let values ← valuesOf? limit items
      some (value :: values)

/-- The members before some documents, followed by theirs. -/
def membersOf? (limit : Nat) (before : List (String × Json)) :
    List (Option String × Document) → Option (List (String × Json))
  | [] => some before
  | (name, document) :: members => do
      let name ← name
      let value ← document.value? limit
      membersOf? limit (put name value before) members

end

/-- The value that a text spells. -/
def ofText? (text : String) : Option Json :=
  match Document.ofText? text with
  | some document => document.value? levelLimit
  | none => none

mutual

/-- The document of a value. -/
def document : Json → Document
  | .null => .null
  | .bool b => .bool b
  | .integer n => .integer n
  | .float x => .float x
  | .string s => .string s
  | .array items => .array (documents items)
  | .object members => .object (memberDocuments members)

/-- The documents of some values. -/
def documents : List Json → List Document
  | [] => []
  | item :: items => document item :: documents items

/-- The documents of some members. -/
def memberDocuments : List (String × Json) → List (Option String × Document)
  | [] => []
  | (name, value) :: members => (some name, document value) :: memberDocuments members

end

end SchemaDesign.Json
