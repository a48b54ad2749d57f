import SchemaDesign.Json.Document
import SchemaDesign.Text.Search

/-!
# Comments and quotations in SQL

How the extent of a comment or of a quoted text is found and what the quoted text stands for.  Each
reader takes a start of the text away and answers with what is left.  A failure keeps the text from
the place that it is about.
-/

namespace SchemaDesign.Sql

/-- Why a text could not be cut into tokens. -/
inductive LexFault where
  | openComment
  | openLiteral
  | openEscapedLiteral
  | openUnicodeLiteral
  | openQuotedWord (mark : Char)
  | strayUnderscore
  | noHexDigit (found : Char)
  | noCodePoint (code : Nat)
  | endInEscape
  | openDollarLiteral
  | openTaggedLiteral
deriving DecidableEq, Repr

/-- The text shown for a fault. -/
def LexFault.message : LexFault → String
  | .openComment => "Unexpected EOF while in a multi-line comment"
  | .openLiteral => "Unterminated string literal"
  | .openEscapedLiteral => "Unterminated encoded string literal"
  | .openUnicodeLiteral => "Unterminated unicode encoded string literal"
  | .openQuotedWord mark =>
      "Expected close delimiter '" ++ String.singleton mark ++ "' before EOF."
  | .strayUnderscore => "Unexpected character '_'"
  | .noHexDigit found =>
      "Invalid hex digit in escaped unicode string: " ++ String.singleton found
  | .noCodePoint code =>
      "Invalid unicode character: " ++ String.ofList (Nat.toDigits 16 code)
  | .endInEscape => "Unexpected EOF while parsing hex digit in escaped unicode string."
  | .openDollarLiteral => "Unterminated dollar-quoted string"
  | .openTaggedLiteral => "Unterminated dollar-quoted, expected $"

/-- A fault and the text from the place that it is about to the end. -/
structure LexError where
  fault : LexFault
  rest : List Char
deriving DecidableEq, Repr

/-- The result of reading a part of a text, and what follows it. -/
abbrev Reading (α : Type) := Except LexError (α × List Char)

/-! ## Comments and quotations -/

/-- What follows a block comment in which some more comments are open. -/
def afterComment? : Nat → List Char → Option (List Char)
  | _, [] => none
  | inner, c :: rest =>
      match c, rest with
      | '/', '*' :: rest => afterComment? (inner + 1) rest
      | '*', '/' :: rest =>
          match inner with
          | 0 => some rest
          | inner + 1 => afterComment? inner rest
      | _, rest => afterComment? inner rest

/-- The text up to a closing mark, in which a doubled mark stands for one, and what follows. -/
def readQuoted? (mark : Char) : List Char → Option (List Char × List Char)
  | [] => none
  | c :: rest =>
      if c = mark then
        match rest with
        | [] => some ([], [])
        | d :: after =>
            if d = mark then
              (readQuoted? mark after).map fun (text, rest) => (mark :: text, rest)
            else some ([], d :: after)
      else (readQuoted? mark rest).map fun (text, rest) => (c :: text, rest)

/-- The character that a letter after a backslash stands for in a binary literal. -/
def controlFor (c : Char) : Char :=
  if c = '0' then Char.ofNat 0
  else if c = 'a' then Char.ofNat 7
  else if c = 'b' then Char.ofNat 8
  else if c = 'f' then Char.ofNat 12
  else if c = 'n' then '\n'
  else if c = 'r' then '\r'
  else if c = 't' then '\t'
  else if c = 'Z' then Char.ofNat 26
  else c

/-- The text up to a closing quote, in which also a backslash changes the next character. -/
def readBackslashed? : List Char → Option (List Char × List Char)
  | [] => none
  | c :: rest =>
      match c, rest with
      | '\'', '\'' :: rest => (readBackslashed? rest).map fun (text, rest) => ('\'' :: text, rest)
      | '\'', rest => some ([], rest)
      | '\\', [] => none
      | '\\', d :: rest =>
          (readBackslashed? rest).map fun (text, rest) => (controlFor d :: text, rest)
      | c, rest => (readBackslashed? rest).map fun (text, rest) => (c :: text, rest)

/-- The text of an opened literal, or the fault that it is open from a place on. -/
def closedOr (place : List Char) (fault : LexFault) :
    Option (List Char × List Char) → Reading (List Char)
  | some found => .ok found
  | none => .error { fault, rest := place }

/-- A raw literal after its letter: two quotes are an empty one, and three open one that runs to
the next three. -/
def readRaw (mark : Char) (text : List Char) : Reading (List Char × List Char) :=
  match text with
  | a :: b :: c :: rest =>
      if a = mark ∧ b = mark ∧ c = mark then
        match Text.cutAt? [mark, mark, mark] rest with
        | some (inner, after) => .ok (([mark, mark, mark], inner), after)
        | none => .error { fault := .openLiteral, rest }
      else if a = mark ∧ b = mark then .ok (([mark], []), c :: rest)
      else single (b :: c :: rest)
  | [a, b] => if a = mark ∧ b = mark then .ok (([mark], []), []) else single [b]
  | _ => single []
where
  single (rest : List Char) : Reading (List Char × List Char) :=
    (closedOr rest .openLiteral (readQuoted? mark rest)).map
      fun (inner, after) => (([mark], inner), after)

/-! ## Escapes -/

/-- The value of some hexadecimal digits, which may have a plus sign before them. -/
def hexValue? (digits : List Char) : Option Nat :=
  let digits :=
    match digits with
    | '+' :: rest => rest
    | digits => digits
  if digits.isEmpty then none
  else digits.foldlM (fun value c => (Json.hexValue? c).map fun digit => 16 * value + digit) 0

/-- The character of a code, if there is one. -/
def charOf? (code : Nat) : Option Char :=
  if code.isValidChar then some (Char.ofNat code) else none

/-- The character of a code given by hexadecimal digits. -/
def hexChar? (digits : List Char) : Option Char :=
  (hexValue? digits).bind charOf?

/-- The ASCII character of the last eight bits of a number. -/
def byteChar? (value : Nat) : Option Char :=
  let byte := value % 256
  if byte ≤ 127 then some (Char.ofNat byte) else none

/-- Whether a character is a hexadecimal digit. -/
def isHexDigit (c : Char) : Bool :=
  (Json.hexValue? c).isSome

/-- Whether a character is an octal digit. -/
def isOctalDigit (c : Char) : Bool :=
  '0' ≤ c && c ≤ '7'

/-- The value of some octal digits. -/
def octalValue (digits : List Char) : Nat :=
  digits.foldl (fun value c => 8 * value + (c.toNat - '0'.toNat)) 0

/-- At most so many characters of a class at the start of a text, and what follows them. -/
def takeUpTo (limit : Nat) (isMeant : Char → Bool) (text : List Char) : List Char × List Char :=
  let taken := (text.take limit).takeWhile isMeant
  (taken, text.drop taken.length)

/-- The character that an escape of an escaped literal stands for, given the text after its
backslash, and what follows it. -/
def readEscape? : List Char → Option (Char × List Char)
  | [] => none
  | c :: rest =>
      if c = 'b' then some (Char.ofNat 8, rest)
      else if c = 'f' then some (Char.ofNat 12, rest)
      else if c = 'n' then some ('\n', rest)
      else if c = 'r' then some ('\r', rest)
      else if c = 't' then some ('\t', rest)
      else if c = 'u' then codePoint 4 rest
      else if c = 'U' then codePoint 8 rest
      else if c = 'x' then
        let (digits, after) := takeUpTo 2 isHexDigit rest
        if digits.isEmpty then some ('x', rest)
        else ((hexValue? digits).bind byteChar?).map fun c => (c, after)
      else if isOctalDigit c then
        let (digits, after) := takeUpTo 2 isOctalDigit rest
        (byteChar? (octalValue (c :: digits))).map fun c => (c, after)
      else some (c, rest)
where
  codePoint (width : Nat) (text : List Char) : Option (Char × List Char) :=
    if text.length < width then none
    else (hexChar? (text.take width)).map fun c => (c, text.drop width)

theorem length_of_readEscape?
    {text after : List Char} {c : Char} (found : readEscape? text = some (c, after)) :
    after.length < text.length := by
  have dropped (width : Nat) (source : List Char)
      (found : readEscape?.codePoint width source = some (c, after)) :
      after.length ≤ source.length := by
    simp only [readEscape?.codePoint] at found
    split at found
    · simp at found
    · obtain ⟨_, _, equality⟩ := Option.map_eq_some_iff.1 found
      simp only [Prod.mk.injEq] at equality
      rw [← equality.2]
      simp
  have taken (limit : Nat) (isMeant : Char → Bool) (source : List Char) :
      (takeUpTo limit isMeant source).2.length ≤ source.length := by
    simp [takeUpTo]
  cases text with
  | nil => simp [readEscape?] at found
  | cons first rest =>
      simp only [readEscape?] at found
      simp only [List.length_cons]
      have bound : after.length ≤ rest.length := by
        repeat' split at found
        all_goals first
          | exact dropped _ _ found
          | (simp only [Option.some.injEq, Prod.mk.injEq] at found
             exact Nat.le_of_eq (congrArg List.length found.2.symm))
          | (obtain ⟨_, _, equality⟩ := Option.map_eq_some_iff.1 found
             simp only [Prod.mk.injEq] at equality
             exact equality.2 ▸ taken _ _ _)
      omega

set_option linter.unusedVariables false in
/-- The text of an escaped literal up to its closing quote, and what follows it.  No escape may
stand for the character of code 0. -/
def readEscaped? (text : List Char) : Option (List Char × List Char) :=
  match text with
  | [] => none
  | '\'' :: '\'' :: rest => (readEscaped? rest).map fun (text, rest) => ('\'' :: text, rest)
  | '\'' :: rest => some ([], rest)
  | '\\' :: rest =>
      match found : readEscape? rest with
      | none => none
      | some (c, after) =>
          if c.toNat = 0 then none
          else (readEscaped? after).map fun (text, rest) => (c :: text, rest)
  | c :: rest => (readEscaped? rest).map fun (text, rest) => (c :: text, rest)
termination_by text.length
decreasing_by
  · simp only [List.length_cons]
    omega
  · have := length_of_readEscape? found
    simp only [List.length_cons]
    omega
  · simp only [List.length_cons]
    omega

/-- The character whose code the next hexadecimal digits give, after a part of it was read. -/
def readCode (value : Nat) : Nat → List Char → Reading Char
  | 0, text =>
      match charOf? value with
      | some c => .ok (c, text)
      | none => .error { fault := .noCodePoint value, rest := text }
  | _ + 1, [] => .error { fault := .endInEscape, rest := [] }
  | count + 1, c :: rest =>
      match Json.hexValue? c with
      | some digit => readCode (value * 16 + digit) count rest
      | none => .error { fault := .noHexDigit c, rest }

theorem length_of_readCode
    {value count : Nat} {text after : List Char} {c : Char}
    (found : readCode value count text = .ok (c, after)) : after.length ≤ text.length := by
  induction count generalizing value text with
  | zero =>
      simp only [readCode] at found
      split at found
      · simp only [Except.ok.injEq, Prod.mk.injEq] at found
        simp [found.2]
      · simp at found
  | succ count induction =>
      cases text with
      | nil => simp [readCode] at found
      | cons first rest =>
          simp only [readCode] at found
          split at found
          · have := induction found
            simp only [List.length_cons]
            omega
          · simp at found

set_option linter.unusedVariables false in
/-- The text of a literal with coded characters up to its closing quote, and what follows it. -/
def readUnicode (text : List Char) : Reading (List Char) :=
  match text with
  | [] => .error { fault := .openUnicodeLiteral, rest := [] }
  | '\'' :: '\'' :: rest => (readUnicode rest).map fun (text, rest) => ('\'' :: text, rest)
  | '\'' :: rest => .ok ([], rest)
  | '\\' :: '\\' :: rest => (readUnicode rest).map fun (text, rest) => ('\\' :: text, rest)
  | '\\' :: '+' :: digits =>
      match found : readCode 0 6 digits with
      | .error error => .error error
      | .ok (c, after) => (readUnicode after).map fun (text, rest) => (c :: text, rest)
  | '\\' :: digits =>
      match found : readCode 0 4 digits with
      | .error error => .error error
      | .ok (c, after) => (readUnicode after).map fun (text, rest) => (c :: text, rest)
  | c :: rest => (readUnicode rest).map fun (text, rest) => (c :: text, rest)
termination_by text.length
decreasing_by
  · simp only [List.length_cons]
    omega
  · simp only [List.length_cons]
    omega
  · have := length_of_readCode found
    simp only [List.length_cons]
    omega
  · have := length_of_readCode found
    simp only [List.length_cons]
    omega
  · simp only [List.length_cons]
    omega

/-! ## What is left is not longer -/

theorem map_eq_ok_iff {f : α → β} {result : Except ε α} {b : β} :
    result.map f = .ok b ↔ ∃ a, result = .ok a ∧ f a = b := by
  cases result <;> simp [Except.map]

theorem length_of_afterComment?
    {inner : Nat} {text after : List Char} (found : afterComment? inner text = some after) :
    after.length ≤ text.length := by
  fun_induction afterComment? inner text <;> simp_all <;> omega

theorem length_of_readQuoted?
    {mark : Char} {text inner after : List Char}
    (found : readQuoted? mark text = some (inner, after)) : after.length ≤ text.length := by
  fun_induction readQuoted? mark text generalizing inner <;> simp_all <;> grind

theorem length_of_readBackslashed?
    {text inner after : List Char} (found : readBackslashed? text = some (inner, after)) :
    after.length ≤ text.length := by
  fun_induction readBackslashed? text generalizing inner <;> simp_all <;> grind

theorem length_of_readEscaped?
    {text inner after : List Char} (found : readEscaped? text = some (inner, after)) :
    after.length ≤ text.length := by
  fun_induction readEscaped? text generalizing inner <;> simp_all <;>
    grind [→ length_of_readEscape?]

theorem length_of_readUnicode
    {text inner after : List Char} (found : readUnicode text = .ok (inner, after)) :
    after.length ≤ text.length := by
  fun_induction readUnicode text generalizing inner <;> simp_all [map_eq_ok_iff] <;>
    grind [→ length_of_readCode]

theorem length_of_readRaw
    {mark : Char} {text after : List Char} {inner : List Char × List Char}
    (found : readRaw mark text = .ok (inner, after)) : after.length ≤ text.length := by
  have single (rest : List Char)
      (found : readRaw.single mark rest = .ok (inner, after)) : after.length ≤ rest.length := by
    simp only [readRaw.single, map_eq_ok_iff] at found
    obtain ⟨⟨taken, left⟩, closed, equality⟩ := found
    simp only [Prod.mk.injEq] at equality
    cases result : readQuoted? mark rest with
    | none => simp [closedOr, result] at closed
    | some pair =>
        simp only [closedOr, result, Except.ok.injEq] at closed
        subst closed
        rw [← equality.2]
        exact length_of_readQuoted? result
  simp only [readRaw] at found
  split at found
  · split at found
    · split at found
      · rename_i cut
        have := Text.length_of_cutAt? cut
        simp_all
        omega
      · simp at found
    · split at found
      · simp_all
        omega
      · have := single _ found
        simp_all
        omega
  · split at found
    · simp_all
    · have := single _ found
      simp_all
      omega
  · have := single _ found
    simp_all

end SchemaDesign.Sql
