import SchemaDesign.Proofs.Sql.Rereading

/-!
# Literals after a letter, read again

A literal that follows a letter, such as `N'..'` or `E'..'`, is shown with what its text stands for.
It is read again as long as that holds no mark and, where a backslash changes what follows it, no
backslash; raw literals between three marks always are.
-/

namespace SchemaDesign.Sql

/-- Whether what stands between the marks of a literal after a letter would be read as it stands:
marks may only be inside a raw literal between three, and backslashes only where they are read as
other characters are. -/
def IsVerbatimAfter (letter : Char) (body : List Char) : Prop :=
  ∀ mark ∈ body.getLast?,
    (letter = 'R' ∧ [mark, mark, mark] <+: body) ∨
      (body.count mark = 2 ∧ (letter ∈ ['X', 'E', 'U'] → '\\' ∉ body))

instance (letter : Char) (body : List Char) : Decidable (IsVerbatimAfter letter body) :=
  body.getLast?.decidableForallMem

namespace Token

/-- Whether what a token stands for would be read as it stands: not so for words that were in
quotes, and for literals after a letter in which something has to be written otherwise. -/
def IsVerbatim : Token → Prop
  | .word _ quoted => quoted = false
  | .other text =>
      ∀ letter ∈ text.toList.head?, letter.isAlpha = true → IsVerbatimAfter letter text.toList.tail
  | _ => True

instance : DecidablePred IsVerbatim
  | .word _ quoted => inferInstanceAs (Decidable (quoted = false))
  | .other text => text.toList.head?.decidableForallMem
  | .number _ | .literal _ | .openParen | .closeParen | .comma | .period => isTrue trivial

end Token

namespace Lexer

open Token

section

variable {afterWord : Bool} {c mark : Char} {inner more rest after : List Char} {token : Token}

/-! ## Literals after a letter -/

theorem readQuoted?_inner (unmarked : mark ∉ inner) (next : rest.head? ≠ some mark) :
    readQuoted? mark (inner ++ mark :: rest) = some (inner, rest) := by
  have same : inner.flatMap (fun c => if c = mark then [mark, mark] else [c]) = inner := by
    calc
      inner.flatMap (fun c => if c = mark then [mark, mark] else [c]) =
          inner.flatMap fun c => [c] := by
        apply List.flatMap_congr
        rintro c member
        exact if_neg (ne_of_mem_of_not_mem member unmarked)
      _ = inner := List.flatMap_singleton' inner
  have read := readQuoted?_quotedText mark inner next
  rwa [same, List.append_assoc, List.singleton_append] at read

theorem readBackslashed?_inner
    (plain : ∀ d ∈ inner, d ≠ '\'' ∧ d ≠ '\\') (next : rest.head? ≠ some '\'') :
    readBackslashed? (inner ++ '\'' :: rest) = some (inner, rest) := by
  induction inner with
  | nil =>
      cases rest with
      | nil => rfl
      | cons d rest =>
          have different : d ≠ '\'' := fun same => next (congrArg some same)
          simp [readBackslashed?, different]
  | cons c inner ih =>
      obtain ⟨⟨noMark, noBackslash⟩, plain⟩ := List.forall_mem_cons.mp plain
      rw [List.cons_append, readBackslashed?.eq_def]
      simp [noMark, noBackslash, ih plain]

theorem readEscaped?_inner
    (plain : ∀ d ∈ inner, d ≠ '\'' ∧ d ≠ '\\') (next : rest.head? ≠ some '\'') :
    readEscaped? (inner ++ '\'' :: rest) = some (inner, rest) := by
  induction inner with
  | nil =>
      cases rest with
      | nil => simp [readEscaped?]
      | cons d rest =>
          have different : d ≠ '\'' := fun same => next (congrArg some same)
          simp [readEscaped?, different]
  | cons c inner ih =>
      obtain ⟨⟨noMark, noBackslash⟩, plain⟩ := List.forall_mem_cons.mp plain
      rw [List.cons_append, readEscaped?.eq_def]
      simp [noMark, ih plain]

theorem readUnicode_inner
    (plain : ∀ d ∈ inner, d ≠ '\'' ∧ d ≠ '\\') (next : rest.head? ≠ some '\'') :
    readUnicode (inner ++ '\'' :: rest) = .ok (inner, rest) := by
  induction inner with
  | nil =>
      cases rest with
      | nil => simp [readUnicode]
      | cons d rest =>
          have different : d ≠ '\'' := fun same => next (congrArg some same)
          simp [readUnicode, different]
  | cons c inner ih =>
      obtain ⟨⟨noMark, noBackslash⟩, plain⟩ := List.forall_mem_cons.mp plain
      rw [List.cons_append, readUnicode.eq_def]
      simp [noMark, noBackslash, ih plain]
      rfl

theorem rereads_prefixed
    (letter : Char) (body : List Char) (listed : letter ∈ ['B', 'R', 'N', 'X', 'E', 'U'])
    (shape : token = .other (String.ofList (letter :: body)))
    (reads : ∀ rest, Limited rest → prefixed? letter (body ++ rest) = some (.ok (token, rest))) :
    Rereads token := by
  subst shape
  apply rereads_operator letter body String.toList_ofList
  · intro rest _
    have solid : ∀ letter ∈ ['B', 'R', 'N', 'X', 'E', 'U'],
        Text.isBlank letter = false ∧ letter ≠ '-' ∧ letter ≠ '/' := by simp [Text.isBlank]
    obtain ⟨notBlank, noDash, noSlash⟩ := solid letter listed
    exact skip?_eq_none notBlank noDash noSlash
  · intro afterWord rest limited
    unfold readToken
    rw [reads rest limited]

theorem shown_eq_ok
    {letter marks : List Char} {reading : Reading (List Char)}
    (read : shown letter marks reading = .ok (token, after)) :
    ∃ inner, reading = .ok (inner, after) ∧ token = otherToken [letter, marks, inner, marks] := by
  obtain ⟨⟨inner, rest⟩, found, same⟩ := map_eq_ok_iff.mp read
  cases same
  exact ⟨inner, found, rfl⟩

theorem rereads_shown
    {letter : Char} {before : List Char} {reader : List Char → Reading (List Char)}
    (listed : letter ∈ ['B', 'R', 'N', 'X', 'E', 'U'])
    (opens : ∀ text, prefixed? letter (before ++ mark :: text) =
      some (shown (letter :: before) [mark] (reader text)))
    (reads : ∀ rest, Limited rest → reader (inner ++ mark :: rest) = .ok (inner, rest)) :
    Rereads (otherToken [letter :: before, [mark], inner, [mark]]) := by
  apply rereads_prefixed letter (before ++ mark :: (inner ++ [mark])) listed
  · simp [otherToken]
  · intro rest limited
    have whole : before ++ mark :: (inner ++ [mark]) ++ rest =
        before ++ mark :: (inner ++ mark :: rest) := by simp
    rw [whole, opens, reads rest limited]
    rfl

/-- Between two marks, a literal is verbatim if it has no mark inside, and no backslash where that
changes what follows it. -/
theorem isVerbatim_shown_iff
    {letter : Char} {before : List Char} (isLetter : letter.isAlpha = true)
    (outside : mark ∉ before) (noBackslash : '\\' ∉ mark :: before)
    (notTripled : letter = 'R' → ¬[mark, mark, mark] <+: before ++ mark :: (inner ++ [mark])) :
    (otherToken [letter :: before, [mark], inner, [mark]]).IsVerbatim ↔
      mark ∉ inner ∧ (letter ∈ ['X', 'E', 'U'] → '\\' ∉ inner) := by
  have shape : [letter :: before, [mark], inner, [mark]].flatten =
      letter :: (before ++ mark :: (inner ++ [mark])) := by simp
  have last : (before ++ mark :: (inner ++ [mark])).getLast? = some mark := by
    simp [List.getLast?_cons]
  have twice : (before ++ mark :: (inner ++ [mark])).count mark = 2 ↔ mark ∉ inner := by
    simp [List.count_eq_zero_of_not_mem outside, List.count_eq_zero]
  have backslash : '\\' ∈ before ++ mark :: (inner ++ [mark]) ↔ '\\' ∈ inner := by
    simp only [List.mem_cons, not_or] at noBackslash
    simp [noBackslash]
  simp only [otherToken, IsVerbatim, shape, String.toList_ofList, List.head?_cons,
    Option.mem_some_iff, forall_eq', isLetter, true_imp_iff, List.tail_cons, IsVerbatimAfter, last,
    twice, backslash]
  exact or_iff_right fun raw => notTripled raw.1 raw.2

theorem isVerbatim_escaped_iff
    {letter : Char} {before : List Char} (listed : letter ∈ ['X', 'E', 'U'])
    (outside : '\'' ∉ before) (noBackslash : '\\' ∉ before) :
    (otherToken [letter :: before, ['\''], inner, ['\'']]).IsVerbatim ↔
      ∀ d ∈ inner, d ≠ '\'' ∧ d ≠ '\\' := by
  have letters : ∀ letter ∈ ['X', 'E', 'U'], letter.isAlpha = true ∧ letter ≠ 'R' := by simp
  obtain ⟨isLetter, notRaw⟩ := letters letter listed
  rw [isVerbatim_shown_iff isLetter outside (by simpa using noBackslash) (absurd · notRaw)]
  constructor
  · intro plain d member
    exact ⟨ne_of_mem_of_not_mem member plain.1, ne_of_mem_of_not_mem member (plain.2 listed)⟩
  · intro plain
    exact ⟨fun member => (plain _ member).1 rfl, fun _ member => (plain _ member).2 rfl⟩

theorem isVerbatim_tripled :
    (otherToken [['R'], [mark, mark, mark], inner, [mark, mark, mark]]).IsVerbatim := by
  intro letter first _ last ends
  have shape : [['R'], [mark, mark, mark], inner, [mark, mark, mark]].flatten =
      'R' :: (([mark, mark, mark] ++ inner ++ [mark, mark]) ++ [mark]) := by simp
  rw [shape, String.toList_ofList] at first ends ⊢
  rw [List.tail_cons, List.getLast?_concat] at ends
  cases first
  cases ends
  exact .inl ⟨rfl, by simp⟩

theorem head?_of_readQuoted?
    {text : List Char} (read : readQuoted? mark text = some (inner, after))
    (next : text.head? ≠ some mark) : inner.head? ≠ some mark := by
  cases text with
  | nil => cases read
  | cons d text =>
      have different : d ≠ mark := fun same => next (congrArg some same)
      rw [readQuoted?_other different] at read
      obtain ⟨⟨later, left⟩, _, same⟩ := Option.map_eq_some_iff.mp read
      cases same
      exact next

theorem closedOr_eq_ok
    {place : List Char} {fault : LexFault} {found : Option (List Char × List Char)}
    (closed : closedOr place fault found = .ok (inner, after)) : found = some (inner, after) := by
  cases found with
  | none => cases closed
  | some pair =>
      cases closed
      rfl

/-- A raw literal is between three marks, or it is empty or does not begin with its mark. -/
theorem readRaw_eq_ok
    {text marks : List Char} (read : readRaw mark (mark :: text) = .ok ((marks, inner), after)) :
    (marks = [mark, mark, mark] ∧ ∃ text,
      Text.cutAt? [mark, mark, mark] text = some (inner, after)) ∨
      (marks = [mark] ∧
        (inner = [] ∨ text.head? ≠ some mark ∧ readQuoted? mark text = some (inner, after))) := by
  have single {text : List Char} (next : text.head? ≠ some mark)
      (read : readRaw.single mark text = .ok ((marks, inner), after)) :
      marks = [mark] ∧ (inner = [] ∨ text.head? ≠ some mark ∧
        readQuoted? mark text = some (inner, after)) := by
    obtain ⟨⟨found, left⟩, closed, same⟩ := map_eq_ok_iff.mp read
    cases same
    exact ⟨rfl, .inr ⟨next, closedOr_eq_ok closed⟩⟩
  match text with
  | [] => exact .inr (single (by simp) read)
  | [b] =>
      simp only [readRaw, true_and] at read
      split at read
      · cases read
        exact .inr ⟨rfl, .inl rfl⟩
      · next different => exact .inr (single (by simpa using different) read)
  | b :: c :: text =>
      simp only [readRaw, true_and] at read
      split at read
      · split at read
        · next cut =>
            cases read
            exact .inl ⟨rfl, _, cut⟩
        · cases read
      split at read
      · cases read
        exact .inr ⟨rfl, .inl rfl⟩
      · next different => exact .inr (single (by simpa using different) read)

theorem not_tripled
    {text : List Char}
    (single : inner = [] ∨ text.head? ≠ some mark ∧ readQuoted? mark text = some (inner, after)) :
    ¬[mark, mark, mark] <+: mark :: (inner ++ [mark]) := by
  cases inner with
  | nil => simp
  | cons d inner =>
      obtain ⟨next, read⟩ := single.resolve_left (List.cons_ne_nil d inner)
      have different : mark ≠ d := by
        rintro rfl
        exact head?_of_readQuoted? read next rfl
      simp [different]

theorem isVerbatim_raw_iff
    {text : List Char} (quote : mark = '\'' ∨ mark = '"')
    (single : inner = [] ∨ text.head? ≠ some mark ∧ readQuoted? mark text = some (inner, after)) :
    (otherToken [['R'], [mark], inner, [mark]]).IsVerbatim ↔ mark ∉ inner := by
  have noBackslash : '\\' ∉ [mark] := by
    rcases quote with rfl | rfl
    · decide
    · decide
  rw [isVerbatim_shown_iff (by decide) List.not_mem_nil noBackslash fun _ => not_tripled single]
  exact and_iff_left (absurd · (by decide))

theorem readRaw_inner (unmarked : mark ∉ inner) (next : rest.head? ≠ some mark) :
    readRaw mark (mark :: (inner ++ mark :: rest)) = .ok (([mark], inner), rest) := by
  cases inner with
  | nil =>
      cases rest with
      | nil => simp [readRaw]
      | cons d rest =>
          have different : d ≠ mark := fun same => next (congrArg some same)
          simp [readRaw, different]
  | cons d inner =>
      have different : d ≠ mark := fun same => unmarked (by simp [same])
      have read := readQuoted?_inner unmarked next
      rw [List.cons_append] at read ⊢
      cases shape : inner ++ mark :: rest with
      | nil => simp at shape
      | cons e text =>
          rw [shape] at read
          simp [readRaw, different, readRaw.single, read, closedOr, Except.map]

theorem rereads_of_readRaw
    {text marks : List Char} (quote : mark = '\'' ∨ mark = '"')
    (read : readRaw mark (mark :: text) = .ok ((marks, inner), after))
    (verbatim : (otherToken [['R'], marks, inner, marks]).IsVerbatim) :
    Rereads (otherToken [['R'], marks, inner, marks]) := by
  have opens (text : List Char) :
      prefixed? 'R' (mark :: text) = some ((readRaw mark (mark :: text)).map fun found =>
        (otherToken [['R'], found.1.1, found.1.2, found.1.1], found.2)) := by
    rcases quote with rfl | rfl
    · rfl
    · rfl
  apply rereads_prefixed 'R' (marks ++ (inner ++ marks)) (by decide)
  · simp [otherToken]
  · intro rest limited
    rcases readRaw_eq_ok read with ⟨rfl, text, cut⟩ | ⟨rfl, single⟩
    · have again := (Text.cutAt?_eq_some cut).2 rest
      have whole : [mark, mark, mark] ++ (inner ++ [mark, mark, mark]) ++ rest =
          mark :: mark :: mark :: (inner ++ ([mark, mark, mark] ++ rest)) := by simp
      rw [whole, opens]
      simp only [readRaw, and_self, if_true, again]
      rfl
    · have unmarked := (isVerbatim_raw_iff quote single).mp verbatim
      have whole : [mark] ++ (inner ++ [mark]) ++ rest = mark :: (inner ++ mark :: rest) := by simp
      have next : rest.head? ≠ some mark := by
        rcases quote with rfl | rfl
        · exact limited.head?_ne rfl
        · exact limited.head?_ne rfl
      rw [whole, opens, readRaw_inner unmarked next]
      rfl

/-- What follows a letter is read as a literal, which leaves a text after it. -/
inductive ReadsPrefixed : List Char → Token → List Char → Prop where
  | quotation {letter mark : Char} {text inner after : List Char} :
      (letter = 'B' ∨ letter = 'N') → (mark = '\'' ∨ letter = 'B' ∧ mark = '"') →
        readQuoted? mark text = some (inner, after) →
        ReadsPrefixed (mark :: text) (otherToken [[letter], [mark], inner, [mark]]) after
  | raw {mark : Char} {text marks inner after : List Char} :
      (mark = '\'' ∨ mark = '"') → readRaw mark (mark :: text) = .ok ((marks, inner), after) →
        ReadsPrefixed (mark :: text) (otherToken [['R'], marks, inner, marks]) after
  | bytes {text inner after : List Char} :
      readBackslashed? text = some (inner, after) →
        ReadsPrefixed ('\'' :: text) (otherToken [['X'], ['\''], inner, ['\'']]) after
  | escaped {text inner after : List Char} :
      readEscaped? text = some (inner, after) →
        ReadsPrefixed ('\'' :: text) (otherToken [['E'], ['\''], inner, ['\'']]) after
  | unicode {text inner after : List Char} :
      readUnicode text = .ok (inner, after) →
        ReadsPrefixed ('&' :: '\'' :: text) (otherToken [['U', '&'], ['\''], inner, ['\'']]) after

theorem readsPrefixed_of_prefixed? (found : prefixed? c rest = some (.ok (token, after))) :
    ReadsPrefixed rest token after := by
  cases rest with
  | nil => cases found
  | cons mark text =>
      simp only [prefixed?] at found
      split at found
      · next literal =>
          obtain ⟨inner, read, rfl⟩ := shown_eq_ok (Option.some.inj found)
          rw [literal.1]
          exact .quotation (.inl rfl) (literal.2.imp_right fun double => ⟨rfl, double⟩)
            (closedOr_eq_ok read)
      split at found
      · next literal =>
          obtain ⟨⟨⟨marks, inner⟩, left⟩, read, same⟩ := map_eq_ok_iff.mp (Option.some.inj found)
          cases same
          rw [literal.1]
          exact .raw literal.2 read
      split at found
      · next literal =>
          obtain ⟨inner, read, rfl⟩ := shown_eq_ok (Option.some.inj found)
          rw [literal.1]
          exact .quotation (.inr rfl) (.inl literal.2) (closedOr_eq_ok read)
      split at found
      · next literal =>
          obtain ⟨inner, read, rfl⟩ := shown_eq_ok (Option.some.inj found)
          rw [literal.1, literal.2]
          exact .bytes (closedOr_eq_ok read)
      split at found
      · next literal =>
          obtain ⟨inner, read, rfl⟩ := shown_eq_ok (Option.some.inj found)
          rw [literal.1, literal.2]
          exact .escaped (closedOr_eq_ok read)
      split at found
      · next literal =>
          obtain ⟨inner, read, rfl⟩ := shown_eq_ok (Option.some.inj found)
          obtain ⟨text, rfl⟩ := List.head?_eq_some_iff.mp literal.2.2
          rw [literal.1, literal.2.1]
          exact .unicode read
      · cases found

theorem isVerbatim_quotation_iff
    {letter : Char} (letters : letter = 'B' ∨ letter = 'N') (quote : mark = '\'' ∨ mark = '"') :
    (otherToken [[letter], [mark], inner, [mark]]).IsVerbatim ↔ mark ∉ inner := by
  have noBackslash : '\\' ∉ [mark] := by
    rcases quote with rfl | rfl
    · decide
    · decide
  have letterFacts : letter.isAlpha = true ∧ letter ≠ 'R' ∧ letter ∉ ['X', 'E', 'U'] := by
    rcases letters with rfl | rfl
    · decide
    · decide
  obtain ⟨isLetter, notRaw, notEscaped⟩ := letterFacts
  rw [isVerbatim_shown_iff isLetter List.not_mem_nil noBackslash (absurd · notRaw)]
  exact and_iff_left (absurd · notEscaped)

theorem rereads_of_readsPrefixed
    (reads : ReadsPrefixed rest token after) (verbatim : token.IsVerbatim) : Rereads token := by
  cases reads with
  | @quotation letter mark text inner _ letters quote _ =>
      have quotes : mark = '\'' ∨ mark = '"' := quote.imp_right And.right
      have unmarked := (isVerbatim_quotation_iff letters quotes).mp verbatim
      have reads (place rest : List Char) (limited : Limited rest) :
          closedOr place .openLiteral (readQuoted? mark (inner ++ mark :: rest)) =
            .ok (inner, rest) := by
        have next : rest.head? ≠ some mark := by
          rcases quotes with rfl | rfl
          · exact limited.head?_ne rfl
          · exact limited.head?_ne rfl
        rw [readQuoted?_inner unmarked next]
        rfl
      rcases quote with rfl | ⟨rfl, rfl⟩
      · rcases letters with rfl | rfl
        · exact rereads_shown (by decide) (fun _ => rfl) fun rest => reads _ rest
        · exact rereads_shown (by decide) (fun _ => rfl) fun rest => reads _ rest
      · exact rereads_shown (by decide) (fun _ => rfl) fun rest => reads _ rest
  | raw quote read => exact rereads_of_readRaw quote read verbatim
  | bytes _ =>
      have plain := (isVerbatim_escaped_iff (by decide) (by decide) (by decide)).mp verbatim
      apply rereads_shown (by decide) (fun _ => rfl)
      intro rest limited
      rw [readBackslashed?_inner plain (limited.head?_ne rfl)]
      rfl
  | escaped _ =>
      have plain := (isVerbatim_escaped_iff (by decide) (by decide) (by decide)).mp verbatim
      apply rereads_shown (by decide) (fun _ => rfl)
      intro rest limited
      rw [readEscaped?_inner plain (limited.head?_ne rfl)]
      rfl
  | unicode _ =>
      have plain := (isVerbatim_escaped_iff (by decide) (by decide) (by decide)).mp verbatim
      apply rereads_shown (by decide) (fun _ => rfl)
      intro rest limited
      exact readUnicode_inner plain (limited.head?_ne rfl)

theorem plain_of_isHexDigit
    {digits : List Char} (members : ∀ d ∈ digits, isHexDigit d = true) :
    ∀ d ∈ digits, d ≠ '\'' ∧ d ≠ '\\' := by
  intro d member
  exact ⟨ne_of_class (members d member) rfl, ne_of_class (members d member) rfl⟩

theorem rereads_hexadecimal {digits : List Char} (members : ∀ d ∈ digits, isHexDigit d = true) :
    Rereads (otherToken [['X', '\''], digits, ['\'']]) := by
  have shown : Rereads (otherToken [['X'], ['\''], digits, ['\'']]) := by
    apply rereads_shown (by decide) (fun _ => rfl)
    intro rest limited
    rw [readBackslashed?_inner (plain_of_isHexDigit members) (limited.head?_ne rfl)]
    rfl
  exact shown

end

end Lexer

end SchemaDesign.Sql
