import SchemaDesign.Sql.Position
import SchemaDesign.Sql.Quotation
import SchemaDesign.Sql.Token
import SchemaDesign.Text.Blank
import SchemaDesign.Text.Letter

/-!
# Reading tokens

How the text of a statement is cut into tokens: blanks and comments are passed over, and at every
other place the first of literals, quoted words, numbers, marks, words and operators that fits is
read.  Reading ends because what is left of the text never grows.
-/

namespace SchemaDesign.Sql

namespace Lexer

/-- A token of something else: its text is put together from parts. -/
def otherToken (parts : List (List Char)) : Token :=
  .other (String.ofList parts.flatten)

/-! ## Literals with a letter before them -/

/-- A literal whose text was read, shown after a letter and between marks. -/
def shown (letter mark : List Char) (reading : Reading (List Char)) : Reading Token :=
  reading.map fun (inner, after) => (otherToken [letter, mark, inner, mark], after)

/-- The literal that begins with a letter, if a quotation follows the letter; it is shown with the
letter as a capital. -/
def prefixed? (c : Char) (rest : List Char) : Option (Reading Token) :=
  match rest with
  | [] => none
  | mark :: text =>
      let letter := c.toUpper
      let eitherQuote := mark = '\'' ∨ mark = '"'
      if letter = 'B' ∧ eitherQuote then
        some (shown [letter] [mark] (closedOr rest .openLiteral (readQuoted? mark text)))
      else if letter = 'R' ∧ eitherQuote then
        some ((readRaw mark rest).map fun ((marks, inner), after) =>
          (otherToken [[letter], marks, inner, marks], after))
      else if letter = 'N' ∧ mark = '\'' then
        some (shown [letter] [mark] (closedOr rest .openLiteral (readQuoted? mark text)))
      else if letter = 'X' ∧ mark = '\'' then
        some (shown [letter] [mark] (closedOr rest .openLiteral (readBackslashed? text)))
      else if letter = 'E' ∧ mark = '\'' then
        some (shown [letter] [mark]
          (closedOr (c :: rest) .openEscapedLiteral (readEscaped? text)))
      else if letter = 'U' ∧ mark = '&' ∧ text.head? = some '\'' then
        some (shown [letter, mark] ['\''] (readUnicode text.tail))
      else none

/-! ## Numbers, words and marks -/

/-- Whether a character may begin a word. -/
def isWordStart (c : Char) : Bool :=
  Text.isAlphabetic c || c == '_' || c == '#' || c == '@'

/-- Whether a character may stand in a word. -/
def isWordPart (c : Char) : Bool :=
  Text.isAlphabetic c || c.isDigit || c == '@' || c == '$' || c == '#' || c == '_'

/-- The word that begins with some characters. -/
def readWord (start rest : List Char) : Token × List Char :=
  (.word (String.ofList (start ++ rest.takeWhile isWordPart)) false, rest.dropWhile isWordPart)

/-- A sign at the start of a text, and what follows. -/
def readSign : List Char → List Char × List Char
  | [] => ([], [])
  | c :: rest => if c = '+' ∨ c = '-' then ([c], rest) else ([], c :: rest)

/-- The exponent at the start of a text, if its mark is followed by digits, and what follows. -/
def readExponent : List Char → List Char × List Char
  | [] => ([], [])
  | c :: rest =>
      let (sign, digits) := readSign rest
      let run := digits.takeWhile Char.isDigit
      if (c = 'e' ∨ c = 'E') ∧ ¬run.isEmpty then
        (c :: (sign ++ run), digits.dropWhile Char.isDigit)
      else ([], c :: rest)

/-- The text without a character at its start, if it begins with it, and that character. -/
def readMark (mark : Char) : List Char → List Char × List Char
  | [] => ([], [])
  | c :: rest => if c = mark then ([c], rest) else ([], c :: rest)

/-- A number, a hexadecimal literal after `0x`, or a lone period.  The letter `L` after a number
belongs to it and is not kept. -/
def readNumber (text : List Char) : Token × List Char :=
  let whole := text.takeWhile Char.isDigit
  let rest := text.dropWhile Char.isDigit
  if whole = ['0'] ∧ rest.head? = some 'x' then
    let digits := rest.tail.takeWhile isHexDigit
    (otherToken [['X', '\''], digits, ['\'']], rest.tail.dropWhile isHexDigit)
  else
    let (point, rest) := readMark '.' rest
    let places := rest.takeWhile Char.isDigit
    let rest := rest.dropWhile Char.isDigit
    if whole.isEmpty && places.isEmpty then (.period, rest)
    else
      let (exponent, rest) := readExponent rest
      (.number (String.ofList (whole ++ point ++ places ++ exponent)), (readMark 'L' rest).2)

/-- A period or a number.  A period before an underscore must stand directly after a word. -/
def readPeriodOrNumber (afterWord : Bool) (c : Char) (rest : List Char) : Reading Token :=
  if c = '.' ∧ rest.head? = some '_' then
    if afterWord then .ok (.period, rest)
    else .error { fault := .strayUnderscore, rest := c :: rest }
  else .ok (readNumber (c :: rest))

/-- Whether a character may stand in the tag of a dollar literal. -/
def isTagPart (c : Char) : Bool :=
  Text.isAlphabetic c || Text.isNumeral c || c == '_'

/-- A literal after its opening mark, up to the same mark. -/
def readBetween (mark : List Char) (fault : LexFault) (text : List Char) : Reading Token :=
  match Text.cutAt? mark text with
  | some (inner, after) => .ok (otherToken [mark, inner, mark], after)
  | none => .error { fault, rest := [] }

/-- What begins with a dollar sign: a literal between dollar signs, which may have a tag between
each two, or a placeholder. -/
def readDollar (text : List Char) : Reading Token :=
  let tag := text.takeWhile isTagPart
  let after := text.dropWhile isTagPart
  if after.head? = some '$' then
    if tag.isEmpty then readBetween ['$', '$'] .openDollarLiteral after.tail
    else readBetween ('$' :: (tag ++ ['$'])) .openTaggedLiteral after.tail
  else .ok (otherToken [['$'], tag], after)

/-- What begins with a number sign: an operator, or a word whose next character may be any. -/
def readNumberSign : List Char → Token × List Char
  | [] => (.other "#", [])
  | c :: rest =>
      if c = '-' then (.other "#-", rest)
      else if c = '>' then
        if rest.head? = some '>' then (.other "#>>", rest.tail) else (.other "#>", rest)
      else if c = ' ' then (.other "#", c :: rest)
      else readWord ['#', c] rest

/-- What begins with two at signs: an operator, or a word whose next character may be any. -/
def readTwoAtSigns : List Char → Token × List Char
  | [] => (.other "@@", [])
  | c :: rest => if c = ' ' then (.other "@@", c :: rest) else readWord ['@', '@', c] rest

/-- What begins with an at sign: an operator, or a word whose next character may be any but a
quote. -/
def readAtSign : List Char → Token × List Char
  | [] => (.other "@", [])
  | c :: rest =>
      if c = '>' then (.other "@>", rest)
      else if c = '?' then (.other "@?", rest)
      else if c = '@' then readTwoAtSigns rest
      else if c = ' ' ∨ c = '\'' ∨ c = '"' ∨ c = Char.ofNat 0x60 then (.other "@", c :: rest)
      else readWord ['@', c] rest

/-- The operators of more than one character, longer ones before their beginnings. -/
def operators : List String :=
  ["->>", "->", "//", "||/", "||", "|/", "|>", "=>", "==", "!=", "!!", "!~~*", "!~~", "!~*", "!~",
    "<=>", "<=", "<>", "<<", "<@", ">=", ">>", "::", ":=", "&&", "^@", "~~*", "~~", "~*"]

/-- The text that stands for an operator: unequal has two spellings and one text. -/
def operatorText (spelling : String) : String :=
  if spelling = "!=" then "<>" else spelling

/-- The first operator of a list that a text begins with, and what follows it. -/
def findOperator? (text : List Char) : List String → Option (Token × List Char)
  | [] => none
  | operator :: operators =>
      match Text.afterStart? operator.toList text with
      | some rest => some (.other (operatorText operator), rest)
      | none => findOperator? text operators

/-- The operator at the start of a text; a character that begins none stands for itself. -/
def readOperator (c : Char) (rest : List Char) : Token × List Char :=
  match findOperator? (c :: rest) operators with
  | some found => found
  | none => (.other (String.singleton c), rest)

/-! ## Tokens -/

/-- Whether a character opens a quoted word. -/
def opensWord (c : Char) : Bool :=
  c == '"' || c == Char.ofNat 0x60

/-- A quoted word, given its mark. -/
def readQuotedWord (mark : Char) (rest : List Char) : Reading Token :=
  (closedOr (mark :: rest) (.openQuotedWord mark) (readQuoted? mark rest)).map
    fun (value, after) => (.word (String.ofList value) true, after)

/-- The token that begins with a character that is neither blank nor opens a comment. -/
def readToken (afterWord : Bool) (c : Char) (rest : List Char) : Reading Token :=
  match prefixed? c rest with
  | some reading => reading
  | none =>
      if c = '\'' then
        (closedOr (c :: rest) .openLiteral (readQuoted? '\'' rest)).map
          fun (value, after) => (.literal (String.ofList value), after)
      else if opensWord c then readQuotedWord c rest
      else if c.isDigit || c == '.' then readPeriodOrNumber afterWord c rest
      else if c = '(' then .ok (.openParen, rest)
      else if c = ')' then .ok (.closeParen, rest)
      else if c = ',' then .ok (.comma, rest)
      else if c = '$' then readDollar rest
      else if c = '?' then
        .ok (otherToken [['?'], rest.takeWhile Text.isNumeral], rest.dropWhile Text.isNumeral)
      else if c = '#' then .ok (readNumberSign rest)
      else if c = '@' then .ok (readAtSign rest)
      else if isWordStart c then .ok (readWord [c] rest)
      else .ok (readOperator c rest)

/-- What follows a blank or a comment at the start of a text, if one is there. -/
def skip? (c : Char) (rest : List Char) : Option (Except LexError (List Char)) :=
  if Text.isBlank c then some (.ok rest)
  else if c = '-' ∧ rest.head? = some '-' then some (.ok (rest.dropWhile (· != '\n')))
  else if c = '/' ∧ rest.head? = some '*' then
    match afterComment? 0 rest.tail with
    | some after => some (.ok after)
    | none => some (.error { fault := .openComment, rest := [] })
  else none

/-! ## What is left is not longer -/

theorem length_dropWhile_le (p : α → Bool) (xs : List α) :
    (xs.dropWhile p).length ≤ xs.length :=
  (List.dropWhile_suffix p).length_le

theorem length_of_closedOr
    {place inner after : List Char} {bound : Nat} {fault : LexFault}
    {found : Option (List Char × List Char)}
    (bounded : ∀ inner after, found = some (inner, after) → after.length ≤ bound)
    (closed : closedOr place fault found = .ok (inner, after)) : after.length ≤ bound := by
  cases found with
  | none => simp [closedOr] at closed
  | some pair =>
      simp only [closedOr, Except.ok.injEq] at closed
      subst closed
      exact bounded _ _ rfl

theorem length_of_skip?
    {c : Char} {rest after : List Char} (found : skip? c rest = some (.ok after)) :
    after.length ≤ rest.length := by
  simp only [skip?] at found
  split at found
  · simp_all
  · split at found
    · simp only [Option.some.injEq, Except.ok.injEq] at found
      subst found
      exact length_dropWhile_le _ _
    · split at found
      · split at found
        · rename_i closed
          have := length_of_afterComment? closed
          simp_all
          omega
        · simp at found
      · simp at found

theorem length_of_readWord (start rest : List Char) :
    (readWord start rest).2.length ≤ rest.length :=
  length_dropWhile_le _ _

theorem length_of_shown
    {letter mark after : List Char} {token : Token} {bound : Nat}
    {reading : Reading (List Char)}
    (bounded : ∀ inner after, reading = .ok (inner, after) → after.length ≤ bound)
    (read : shown letter mark reading = .ok (token, after)) : after.length ≤ bound := by
  simp only [shown, map_eq_ok_iff] at read
  obtain ⟨⟨inner, left⟩, equality, rest⟩ := read
  simp only [Prod.mk.injEq] at rest
  rw [← rest.2]
  exact bounded inner left equality

theorem length_of_prefixed?
    {c : Char} {rest after : List Char} {token : Token}
    (found : prefixed? c rest = some (.ok (token, after))) : after.length ≤ rest.length := by
  cases rest with
  | nil => simp [prefixed?] at found
  | cons mark text =>
      simp only [prefixed?] at found
      simp only [List.length_cons]
      have quoted (mark : Char) (inner after : List Char)
          (read : readQuoted? mark text = some (inner, after)) : after.length ≤ text.length + 1 :=
        Nat.le_succ_of_le (length_of_readQuoted? read)
      repeat' split at found
      all_goals simp only [Option.some.injEq, reduceCtorEq] at found
      · exact length_of_shown (fun _ _ => length_of_closedOr (quoted mark)) found
      · simp only [map_eq_ok_iff] at found
        obtain ⟨⟨inner, left⟩, read, equality⟩ := found
        simp only [Prod.mk.injEq] at equality
        rw [← equality.2]
        exact length_of_readRaw read
      · exact length_of_shown (fun _ _ => length_of_closedOr (quoted mark)) found
      · exact length_of_shown (fun _ _ => length_of_closedOr fun _ _ read =>
          Nat.le_succ_of_le (length_of_readBackslashed? read)) found
      · exact length_of_shown (fun _ _ => length_of_closedOr fun _ _ read =>
          Nat.le_succ_of_le (length_of_readEscaped? read)) found
      · refine length_of_shown (fun _ _ read => ?_) found
        have := length_of_readUnicode read
        simp at this
        omega

theorem length_of_readSign (text : List Char) : (readSign text).2.length ≤ text.length := by
  cases text with
  | nil => simp [readSign]
  | cons c rest =>
      simp only [readSign]
      split <;> simp

theorem length_of_readMark (mark : Char) (text : List Char) :
    (readMark mark text).2.length ≤ text.length := by
  cases text with
  | nil => simp [readMark]
  | cons c rest =>
      simp only [readMark]
      split <;> simp

theorem length_of_readExponent (text : List Char) :
    (readExponent text).2.length ≤ text.length := by
  cases text with
  | nil => simp [readExponent]
  | cons c rest =>
      have sign := length_of_readSign rest
      have run := length_dropWhile_le Char.isDigit (readSign rest).2
      simp only [readExponent]
      split <;> simp only [List.length_cons] <;> omega

/-- Reading a number consumes the digit or period that it begins with. -/
theorem length_of_readNumber
    (c : Char) (rest : List Char) (start : c.isDigit = true ∨ c = '.') :
    (readNumber (c :: rest)).2.length ≤ rest.length := by
  have whole : ((c :: rest).dropWhile Char.isDigit).length ≤ rest.length ∨
      (c :: rest).dropWhile Char.isDigit = '.' :: rest := by
    by_cases digit : c.isDigit = true
    · left
      rw [List.dropWhile_cons_of_pos digit]
      exact length_dropWhile_le _ _
    · right
      rw [List.dropWhile_cons_of_neg digit]
      rcases start with digit' | point
      · exact absurd digit' digit
      · rw [point]
  simp only [readNumber]
  split
  · rename_i hex
    rcases whole with shorter | point
    · have := length_dropWhile_le isHexDigit ((c :: rest).dropWhile Char.isDigit).tail
      simp only [List.length_tail] at this
      show (List.dropWhile isHexDigit _).length ≤ _
      omega
    · rw [point] at hex
      simp at hex
  · have marked : (readMark '.' ((c :: rest).dropWhile Char.isDigit)).2.length ≤ rest.length := by
      rcases whole with shorter | point
      · exact Nat.le_trans (length_of_readMark _ _) shorter
      · rw [point]
        simp [readMark]
    have places := length_dropWhile_le Char.isDigit
      (readMark '.' ((c :: rest).dropWhile Char.isDigit)).2
    split
    · exact Nat.le_trans places marked
    · refine Nat.le_trans (length_of_readMark _ _) ?_
      refine Nat.le_trans (length_of_readExponent _) ?_
      exact Nat.le_trans places marked

theorem length_of_readPeriodOrNumber
    {afterWord : Bool} {c : Char} {rest after : List Char} {token : Token}
    (start : c.isDigit = true ∨ c = '.')
    (read : readPeriodOrNumber afterWord c rest = .ok (token, after)) :
    after.length ≤ rest.length := by
  simp only [readPeriodOrNumber] at read
  repeat' split at read
  · simp_all
  · simp at read
  · simp only [Except.ok.injEq] at read
    have := length_of_readNumber c rest start
    rw [read] at this
    exact this

theorem length_of_readDollar
    {text after : List Char} {token : Token} (read : readDollar text = .ok (token, after)) :
    after.length ≤ text.length := by
  have dropped := length_dropWhile_le isTagPart text
  have between (mark : List Char) (fault : LexFault)
      (read : readBetween mark fault (text.dropWhile isTagPart).tail = .ok (token, after)) :
      after.length ≤ text.length := by
    simp only [readBetween] at read
    split at read
    · rename_i cut
      have := Text.length_of_cutAt? cut
      simp only [List.length_tail] at this
      simp only [Except.ok.injEq, Prod.mk.injEq] at read
      rw [← read.2]
      omega
    · simp at read
  simp only [readDollar] at read
  repeat' split at read
  · exact between _ _ read
  · exact between _ _ read
  · simp only [Except.ok.injEq, Prod.mk.injEq] at read
    rw [← read.2]
    exact dropped

theorem length_of_readNumberSign (text : List Char) :
    (readNumberSign text).2.length ≤ text.length := by
  cases text with
  | nil => simp [readNumberSign]
  | cons c rest =>
      have word := length_of_readWord ['#', c] rest
      simp only [readNumberSign]
      repeat' split
      all_goals simp only [List.length_cons, List.length_tail]
      all_goals omega

theorem length_of_readAtSign (text : List Char) :
    (readAtSign text).2.length ≤ text.length := by
  have two (text : List Char) : (readTwoAtSigns text).2.length ≤ text.length := by
    cases text with
    | nil => simp [readTwoAtSigns]
    | cons c rest =>
        have word := length_of_readWord ['@', '@', c] rest
        simp only [readTwoAtSigns]
        split
        · simp
        · simp only [List.length_cons]
          omega
  cases text with
  | nil => simp [readAtSign]
  | cons c rest =>
      have word := length_of_readWord ['@', c] rest
      have := two rest
      simp only [readAtSign]
      repeat' split
      all_goals simp only [List.length_cons]
      all_goals omega

theorem length_of_findOperator?
    {text after : List Char} {token : Token} {candidates : List String}
    (nonempty : ∀ candidate ∈ candidates, candidate.toList ≠ [])
    (found : findOperator? text candidates = some (token, after)) :
    after.length < text.length := by
  induction candidates with
  | nil => simp [findOperator?] at found
  | cons candidate candidates induction =>
      simp only [findOperator?] at found
      split at found
      · rename_i started
        have := Text.length_of_afterStart? started
        have := List.length_pos_iff.2 (nonempty candidate (by simp))
        simp only [Option.some.injEq, Prod.mk.injEq] at found
        rw [← found.2]
        omega
      · exact induction (fun other member => nonempty other (by simp [member])) found

theorem length_of_readOperator (c : Char) (rest : List Char) :
    (readOperator c rest).2.length ≤ rest.length := by
  simp only [readOperator]
  split
  · rename_i token after found
    have := length_of_findOperator? (by decide) found
    simp only [List.length_cons] at this
    omega
  · simp

theorem length_of_readToken
    {afterWord : Bool} {c : Char} {rest after : List Char} {token : Token}
    (read : readToken afterWord c rest = .ok (token, after)) : after.length ≤ rest.length := by
  have mapped (place : List Char) (fault : LexFault) (mark : Char)
      (make : List Char × List Char → Token × List Char)
      (keeps : ∀ pair, (make pair).2 = pair.2)
      (read : (closedOr place fault (readQuoted? mark rest)).map make = .ok (token, after)) :
      after.length ≤ rest.length := by
    rw [map_eq_ok_iff] at read
    obtain ⟨⟨inner, left⟩, closed, equality⟩ := read
    have same := keeps (inner, left)
    rw [equality] at same
    simp only at same
    rw [same]
    exact length_of_closedOr (fun _ _ => length_of_readQuoted?) closed
  have plain {reading : Token × List Char} (bound : reading.2.length ≤ rest.length)
      (read : (Except.ok reading : Reading Token) = .ok (token, after)) :
      after.length ≤ rest.length := by
    simp only [Except.ok.injEq] at read
    rw [read] at bound
    exact bound
  unfold readToken at read
  cases found : prefixed? c rest with
  | some reading =>
      rw [found] at read
      exact length_of_prefixed? (found.trans (congrArg some read))
  | none =>
      simp only [found] at read
      by_cases literal : c = '\''
      · rw [if_pos literal] at read
        exact mapped _ _ _ _ (fun _ => rfl) read
      rw [if_neg literal] at read
      by_cases word : opensWord c = true
      · rw [if_pos word] at read
        exact mapped _ _ _ _ (fun _ => rfl) read
      rw [if_neg word] at read
      by_cases start : (c.isDigit || c == '.') = true
      · rw [if_pos start] at read
        exact length_of_readPeriodOrNumber (by simpa using start) read
      rw [if_neg start] at read
      by_cases opening : c = '('
      · rw [if_pos opening] at read
        exact plain (Nat.le_refl _) read
      rw [if_neg opening] at read
      by_cases closing : c = ')'
      · rw [if_pos closing] at read
        exact plain (Nat.le_refl _) read
      rw [if_neg closing] at read
      by_cases comma : c = ','
      · rw [if_pos comma] at read
        exact plain (Nat.le_refl _) read
      rw [if_neg comma] at read
      by_cases dollar : c = '$'
      · rw [if_pos dollar] at read
        exact length_of_readDollar read
      rw [if_neg dollar] at read
      by_cases question : c = '?'
      · rw [if_pos question] at read
        exact plain (length_dropWhile_le _ _) read
      rw [if_neg question] at read
      by_cases number : c = '#'
      · rw [if_pos number] at read
        exact plain (length_of_readNumberSign _) read
      rw [if_neg number] at read
      by_cases sign : c = '@'
      · rw [if_pos sign] at read
        exact plain (length_of_readAtSign _) read
      rw [if_neg sign] at read
      by_cases letter : isWordStart c = true
      · rw [if_pos letter] at read
        exact plain (length_of_readWord _ _) read
      rw [if_neg letter] at read
      exact plain (length_of_readOperator _ _) read

/-! ## The tokens of a text -/

set_option linter.unusedVariables false in
/-- The tokens of a text, when it is known whether a word ends directly before it. -/
def tokensFrom (afterWord : Bool) (text : List Char) : Except LexError (List Token) :=
  match text with
  | [] => .ok []
  | c :: rest =>
      match skipped : skip? c rest with
      | some (.ok after) => tokensFrom false after
      | some (.error error) => .error error
      | none =>
          match read : readToken afterWord c rest with
          | .ok (token, after) => (tokensFrom token.isWord after).map (token :: ·)
          | .error error => .error error
termination_by text.length
decreasing_by
  · have := length_of_skip? skipped
    simp only [List.length_cons]
    omega
  · have := length_of_readToken read
    simp only [List.length_cons]
    omega

end Lexer

/-- The tokens of a statement. -/
def tokens (sql : String) : Except LexError (List Token) :=
  Lexer.tokensFrom false sql.toList

/-- The text shown for an error in a statement: the fault, and the line and column of its place. -/
def LexError.message (sql : String) (error : LexError) : String :=
  let before := sql.toList.take (sql.toList.length - error.rest.length)
  let (line, column) := advance 1 1 before
  error.fault.message ++ " at Line: " ++ toString line ++ ", Column: " ++ toString column

end SchemaDesign.Sql
