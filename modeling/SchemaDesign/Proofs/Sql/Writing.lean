import SchemaDesign.Dialect
import SchemaDesign.Proofs.Sql.Parentheses
import SchemaDesign.Proofs.Sql.Spelling

/-!
# Writing tokens

Strings that spell tokens wherever something else follows, and how longer ones are put together.
-/

namespace SchemaDesign.Sql

/-- Whether a string is a word of letters. -/
def isPlain (word : String) : Bool :=
  !word.toList.isEmpty && word.toList.all Char.isAlpha

theorem isPlain_iff {word : String} :
    isPlain word = true ↔ word.toList ≠ [] ∧ ∀ c ∈ word.toList, c.isAlpha = true := by
  simp [isPlain]

/-- A string spells tokens with parentheses that match, whatever is spelled after it. -/
structure Writes (commas : Bool) (text : String) (tokens : List Token) : Prop where
  spells : ∀ {rest : List Char} {more : List Token}, Parted rest → Spells rest more →
    Spells (text.toList ++ rest) (tokens ++ more)
  balanced : Balanced commas tokens

theorem Parted.append {text rest : List Char} (first : Parted text) (second : Parted rest) :
    Parted (text ++ rest) := by
  cases text with
  | nil => exact second
  | cons c text => exact first

theorem parted_append
    (first : String) (parted : Parted first.toList) (nonempty : first.toList ≠ []) (rest : String) :
    Parted (first ++ rest).toList := by
  rw [String.toList_append]
  cases shape : first.toList with
  | nil => exact absurd shape nonempty
  | cons c text =>
      rw [shape] at parted
      exact parted

/-- A token that is no parenthesis and no comma is balanced by itself. -/
theorem Balanced.single
    {commas : Bool} {token : Token} (noOpen : token ≠ .openParen) (noClose : token ≠ .closeParen)
    (noComma : token ≠ .comma) : Balanced commas [token] :=
  .token noOpen noClose noComma .nil

namespace Writes

variable {commas : Bool} {left right text : String} {tokens more : List Token}

theorem append
    (first : Writes commas left tokens) (second : Writes commas right more)
    (parted : Parted right.toList) : Writes commas (left ++ right) (tokens ++ more) := by
  refine ⟨?_, first.balanced.append second.balanced⟩
  intro rest others restParted spells
  rw [String.toList_append, List.append_assoc, List.append_assoc]
  exact first.spells (parted.append restParted) (second.spells restParted spells)

theorem empty : Writes commas "" [] :=
  ⟨fun _ spells => spells, .nil⟩

theorem blank (writes : Writes commas text tokens) : Writes commas (" " ++ text) tokens := by
  refine ⟨?_, writes.balanced⟩
  intro rest others parted spells
  rw [String.toList_append]
  exact .blank (.inl rfl) (writes.spells parted spells)

theorem indented (writes : Writes commas text tokens) : Writes commas ("  " ++ text) tokens := by
  refine ⟨?_, writes.balanced⟩
  intro rest others parted spells
  rw [String.toList_append]
  exact .blank (.inl rfl) (.blank (.inl rfl) (writes.spells parted spells))

theorem newline (writes : Writes commas text tokens) : Writes commas ("\n" ++ text) tokens := by
  refine ⟨?_, writes.balanced⟩
  intro rest others parted spells
  rw [String.toList_append]
  exact .blank (.inr rfl) (writes.spells parted spells)

theorem comma (writes : Writes true text tokens) :
    Writes true ("," ++ text) (.comma :: tokens) := by
  refine ⟨?_, .comma writes.balanced⟩
  intro rest others parted spells
  rw [String.toList_append]
  exact .comma (writes.spells parted spells)

theorem with_commas (writes : Writes commas text tokens) : Writes true text tokens :=
  ⟨writes.spells, writes.balanced.with_commas⟩

theorem word {letters : String} (plain : isPlain letters = true) :
    Writes commas letters [.word letters false] := by
  obtain ⟨nonempty, isLetter⟩ := isPlain_iff.mp plain
  refine ⟨?_, .single Token.noConfusion Token.noConfusion Token.noConfusion⟩
  intro rest others parted spells
  have spelled := Spells.word nonempty isLetter parted spells
  rwa [String.ofList_toList] at spelled

theorem number {digits : String} (unsigned : IsUnsigned digits.toList) :
    Writes commas digits [.number digits] := by
  refine ⟨?_, .single Token.noConfusion Token.noConfusion Token.noConfusion⟩
  intro rest others parted spells
  have spelled := Spells.number unsigned parted spells
  rwa [String.ofList_toList] at spelled

theorem signed {c : Char} (sign : c = '+' ∨ c = '-') {digits : String}
    (unsigned : IsUnsigned digits.toList) :
    Writes commas (String.singleton c ++ digits)
      [.other (String.singleton c), .number digits] := by
  have writes : Writes commas digits [.number digits] := number unsigned
  refine ⟨?_, .token Token.noConfusion Token.noConfusion Token.noConfusion writes.balanced⟩
  intro rest others parted spells
  have spelled := writes.spells parted spells
  rw [String.toList_append, String.toList_singleton]
  obtain ⟨digit, more, shape, isDigit⟩ := unsigned.exists_cons
  rw [shape] at spelled ⊢
  exact .sign sign isDigit spelled

theorem toList_doubled (mark : Char) (value : String) :
    (Text.doubled mark value).toList =
      value.toList.flatMap fun c => if c = mark then [mark, mark] else [c] := by
  simp [Text.doubled, Text.replaceChar]

theorem toList_quotedLiteral (value : String) :
    (quotedLiteral value).toList = quotedText '\'' value.toList := by
  simp [quotedLiteral, toList_doubled, quotedText]

theorem literal (value : String) : Writes commas (quotedLiteral value) [.literal value] := by
  have shape := toList_quotedLiteral value
  refine ⟨?_, .single Token.noConfusion Token.noConfusion Token.noConfusion⟩
  intro rest others parted spells
  have spelled : Spells (quotedText '\'' value.toList ++ rest)
      (.literal (String.ofList value.toList) :: others) := .literal parted spells
  rw [String.ofList_toList] at spelled
  rw [shape]
  exact spelled

theorem quote {dialect : Dialect} (noBrackets : dialect ≠ .sqlServer) (name : String) :
    Writes commas (dialect.quote name) [.word name true] := by
  let mark := dialect.quotes.1
  have marks : Lexer.opensWord mark = true ∧ dialect.quotes.2 = mark := by
    cases dialect with
    | mySql => exact ⟨rfl, rfl⟩
    | postgreSql => exact ⟨rfl, rfl⟩
    | oracle => exact ⟨rfl, rfl⟩
    | sqlServer => exact absurd rfl noBrackets
  have shape : (dialect.quote name).toList = quotedText mark name.toList := by
    simp [Dialect.quote, marks.2, toList_doubled, quotedText, mark]
  refine ⟨?_, .single Token.noConfusion Token.noConfusion Token.noConfusion⟩
  intro rest others parted spells
  have spelled : Spells (quotedText mark name.toList ++ rest)
      (.word (String.ofList name.toList) true :: others) := .quotedWord marks.1 parted spells
  rw [String.ofList_toList] at spelled
  rw [shape]
  exact spelled

theorem group (writes : Writes true text tokens) :
    Writes commas ("(" ++ (text ++ ")")) (.openParen :: (tokens ++ [.closeParen])) := by
  refine ⟨?_, .group writes.balanced .nil⟩
  intro rest others parted spells
  have closed : Spells (')' :: rest) (.closeParen :: others) := .closeParen spells
  have inside := writes.spells (show Parted (')' :: rest) from rfl) closed
  have opened : Spells ('(' :: (text.toList ++ ')' :: rest))
      (.openParen :: (tokens ++ .closeParen :: others)) := .openParen inside
  simpa [String.toList_append] using opened

end Writes

/-- A string together with the tokens that it spells. -/
abbrev Phrase := String × List Token

namespace Phrase

/-- A keyword. -/
def keyword (word : String) : Phrase :=
  (word, [.word word false])

/-- A name in quotes. -/
def name (dialect : Dialect) (name : String) : Phrase :=
  (dialect.quote name, [.word name true])

/-- A phrase in parentheses. -/
def grouped (phrase : Phrase) : Phrase :=
  ("(" ++ (phrase.1 ++ ")"), .openParen :: (phrase.2 ++ [.closeParen]))

end Phrase

namespace Writes

variable {commas : Bool}

theorem keyword {word : String} (plain : isPlain word = true) :
    Writes commas (Phrase.keyword word).1 (Phrase.keyword word).2 :=
  Writes.word plain

theorem name {dialect : Dialect} (noBrackets : dialect ≠ .sqlServer) (name : String) :
    Writes commas (Phrase.name dialect name).1 (Phrase.name dialect name).2 :=
  quote noBrackets name

theorem grouped {phrase : Phrase} (writes : Writes true phrase.1 phrase.2) :
    Writes commas phrase.grouped.1 phrase.grouped.2 :=
  writes.group

/-- Phrases with blanks between them. -/
theorem spaced
    {phrases : List Phrase}
    (writes : ∀ phrase ∈ phrases, Writes commas phrase.1 phrase.2) :
    Writes commas (" ".intercalate (phrases.map fun phrase => phrase.1))
      (phrases.flatMap fun phrase => phrase.2) := by
  induction phrases with
  | nil =>
      rw [List.map_nil, String.intercalate_nil]
      exact empty
  | cons phrase phrases ih =>
      have first := writes phrase List.mem_cons_self
      have rest := ih fun other member => writes other (List.mem_cons_of_mem _ member)
      cases phrases with
      | nil => simpa using first
      | cons next others =>
          rw [List.map_cons, List.map_cons, String.intercalate_cons_cons, String.append_assoc,
            List.flatMap_cons]
          rw [List.map_cons] at rest
          exact first.append rest.blank (parted_append " " rfl (by decide) _)

/-- A list with commas and gaps between its items. -/
theorem intercalate
    {α : Type} {gap : String}
    (passes : ∀ {text : String} {tokens : List Token}, Writes true text tokens →
      Writes true (gap ++ text) tokens)
    (items : List α) (texts : α → String) (tokens : α → List Token)
    (writes : ∀ item ∈ items, Writes false (texts item) (tokens item)) :
    Writes true (("," ++ gap).intercalate (items.map texts)) (joined (items.map tokens)) := by
  induction items with
  | nil =>
      rw [List.map_nil, String.intercalate_nil]
      exact empty
  | cons item items ih =>
      have first : Writes true (texts item) (tokens item) :=
        (writes item List.mem_cons_self).with_commas
      have rest := ih fun other member => writes other (List.mem_cons_of_mem _ member)
      cases items with
      | nil => simpa [joined] using first
      | cons next others =>
          rw [List.map_cons, List.map_cons, String.intercalate_cons_cons, String.append_assoc,
            String.append_assoc]
          simp only [List.map_cons, joined_cons] at rest ⊢
          exact first.append (comma (passes rest)) (parted_append "," rfl (by decide) _)

end Writes

/-- A text that spells tokens, begins with a word and ends with a parenthesis is cut from a script
as it stands. -/
theorem Writes.solid
    {commas : Bool} {first middle : String} {tokens : List Token}
    (writes : Writes commas (first ++ (middle ++ ")")) tokens) (plain : isPlain first = true) :
    Solid (first ++ (middle ++ ")")).toList := by
  obtain ⟨nonempty, isLetter⟩ := isPlain_iff.mp plain
  have spells := writes.spells (show Parted [] from trivial) .nil
  rw [List.append_nil] at spells
  refine ⟨spells.closed, ?_, ?_⟩
  · rw [String.toList_append]
    cases shape : first.toList with
    | nil => exact absurd shape nonempty
    | cons c letters =>
        have letter : c.isAlpha = true := isLetter c (shape ▸ List.mem_cons_self)
        refine ⟨c, _, rfl, ?_, ne_of_class letter rfl, ne_of_class letter rfl⟩
        have range := Text.isAlpha_range letter
        exact isBlank_eq_false (by omega) (by omega)
  · refine ⟨first.toList ++ middle.toList, ')', ?_, rfl⟩
    rw [String.toList_append, String.toList_append, List.append_assoc]
    rfl

theorem Writes.tokens
    {commas : Bool} {text : String} {tokens : List Token} (writes : Writes commas text tokens) :
    Sql.tokens text = .ok tokens := by
  have spells := writes.spells (show Parted [] from trivial) .nil
  rw [List.append_nil, List.append_nil] at spells
  have read := spells.tokens
  rwa [String.ofList_toList] at read

end SchemaDesign.Sql
