import SchemaDesign.Proofs.Json.Numerals

/-!
# JSON text reads back

The reader takes the indented form of a value, before anything that cannot go on with a numeral, for
the document of the value.
-/

namespace SchemaDesign

namespace Json

/-! ## Texts in quotes -/

theorem joinPieces?_control {unit : Nat} (control : unit < 32) (pieces : List Piece) :
    joinPieces? (.codeUnit unit :: pieces) = (joinPieces? pieces).map (Char.ofNat unit :: ·) := by
  have alone : isLeading unit = false ∧ isTrailing unit = false := by
    simp only [isLeading, isTrailing, Bool.and_eq_false_iff, decide_eq_false_iff_not]
    omega
  cases pieces with
  | nil => simp [joinPieces?, alone]
  | cons piece pieces =>
      cases piece with
      | char => simp [joinPieces?, alone]
      | codeUnit => simp [joinPieces?, alone]

theorem hexWord?_control {n : Nat} (control : n < 32) :
    hexWord? '0' '0' (hexDigit (n / 16)) (hexDigit (n % 16)) = some n := by
  interval_cases n <;> rfl

theorem readPieces?_short
    {letter c : Char} (notCode : letter ≠ 'u') (meant : unescaped? letter = some c)
    (rest : List Char) :
    readPieces? ('\\' :: letter :: rest) =
      (readPieces? rest).map fun found => (.char c :: found.1, found.2) := by
  rw [readPieces?, meant]
  · cases readPieces? rest <;> rfl
  · intro _ _ _ _ _ code
    exact absurd code notCode

theorem readPieces?_plain
    {c : Char} (notQuote : c ≠ '"') (notEscape : c ≠ '\\') (printed : ¬ c.toNat < 32)
    (rest : List Char) :
    readPieces? (c :: rest) =
      (readPieces? rest).map fun found => (.char c :: found.1, found.2) := by
  rw [readPieces?, if_neg (not_or.mpr ⟨printed, notEscape⟩)]
  · cases readPieces? rest <;> rfl
  · exact notQuote
  · intro _ _ _ _ _ escape
    exact absurd escape notEscape
  · intro _ _ escape
    exact absurd escape notEscape

/-- A character is written so that one piece is read, which gives the character. -/
theorem exists_piece (c : Char) :
    ∃ piece,
      (∀ rest, readPieces? (escaped c ++ rest) =
        (readPieces? rest).map fun found => (piece :: found.1, found.2)) ∧
      ∀ pieces, joinPieces? (piece :: pieces) = (joinPieces? pieces).map (c :: ·) := by
  have short {letter : Char} (shape : escaped c = ['\\', letter]) (notCode : letter ≠ 'u')
      (meant : unescaped? letter = some c) :
      ∃ piece,
        (∀ rest, readPieces? (escaped c ++ rest) =
          (readPieces? rest).map fun found => (piece :: found.1, found.2)) ∧
        ∀ pieces, joinPieces? (piece :: pieces) = (joinPieces? pieces).map (c :: ·) := by
    refine ⟨.char c, fun rest => ?_, fun _ => rfl⟩
    rw [shape]
    exact readPieces?_short notCode meant rest
  have known {n : Nat} (code : c.toNat = n) : Char.ofNat n = c := by
    rw [← code, Char.ofNat_toNat]
  -- Seven characters have an escape of one letter, other control characters one of four digits.
  by_cases quote : c = '"'
  · subst quote
    exact short rfl (by decide) rfl
  by_cases escape : c = '\\'
  · subst escape
    exact short rfl (by decide) rfl
  by_cases lineFeed : c = '\n'
  · subst lineFeed
    exact short rfl (by decide) rfl
  by_cases carriageReturn : c = '\r'
  · subst carriageReturn
    exact short rfl (by decide) rfl
  by_cases tab : c = '\t'
  · subst tab
    exact short rfl (by decide) rfl
  by_cases backspace : c.toNat = 8
  · rw [← known backspace] at short ⊢
    exact short rfl (by decide) rfl
  by_cases formFeed : c.toNat = 12
  · rw [← known formFeed] at short ⊢
    exact short rfl (by decide) rfl
  by_cases control : c.toNat < 32
  · refine ⟨.codeUnit c.toNat, fun rest => ?_, fun pieces => ?_⟩
    · rw [escaped]
      simp only [quote, escape, lineFeed, carriageReturn, tab, backspace, formFeed, control,
        if_true, if_false, List.cons_append, List.nil_append]
      rw [readPieces?, hexWord?_control control]
      cases readPieces? rest <;> rfl
    · rw [joinPieces?_control control, Char.ofNat_toNat]
  · refine ⟨.char c, fun rest => ?_, fun _ => rfl⟩
    rw [escaped]
    simp only [quote, escape, lineFeed, carriageReturn, tab, backspace, formFeed, control, if_false]
    exact readPieces?_plain quote escape control rest

theorem readText?_escaped (s : String) (rest : List Char) :
    readText? (s.toList.flatMap escaped ++ '"' :: rest) = some (some s, rest) := by
  have pieces (text : List Char) : ∃ pieces,
      readPieces? (text.flatMap escaped ++ '"' :: rest) = some (pieces, rest) ∧
        joinPieces? pieces = some text := by
    induction text with
    | nil => exact ⟨[], rfl, rfl⟩
    | cons c text ih =>
        obtain ⟨pieces, read, joined⟩ := ih
        obtain ⟨piece, readOne, joinedOne⟩ := exists_piece c
        refine ⟨piece :: pieces, ?_, ?_⟩
        · rw [List.flatMap_cons, List.append_assoc, readOne, read]
          rfl
        · rw [joinedOne, joined]
          rfl
  obtain ⟨pieces, read, joined⟩ := pieces s.toList
  rw [readText?, read]
  simp [joined]

/-! ## Gaps -/

theorem skipGap_append {gap : List Char} (gaps : ∀ c ∈ gap, isGap c = true) (text : List Char) :
    skipGap (gap ++ text) = skipGap text :=
  List.dropWhile_append_of_pos gaps

theorem skipGap_skipGap (text : List Char) : skipGap (skipGap text) = skipGap text := by
  induction text with
  | nil => rfl
  | cons c text ih =>
      cases gap : isGap c with
      | true =>
          have skipped : skipGap (c :: text) = skipGap text := List.dropWhile_cons_of_pos gap
          rw [skipped, ih]
      | false =>
          have kept : skipGap (c :: text) = c :: text :=
            List.dropWhile_cons_of_neg (by simp [gap])
          rw [kept, kept]

/-- A reader passes over gaps before what it reads. -/
def PassesGaps (read : Nat → List Char → Option (α × List Char)) : Prop :=
  ∀ fuel text, read fuel (skipGap text) = read fuel text

theorem readValue?_passesGaps : PassesGaps readValue? := by
  intro fuel text
  cases fuel with
  | zero => rfl
  | succ fuel => rw [readValue?, readValue?, skipGap_skipGap]

theorem readItems?_passesGaps : PassesGaps readItems? := by
  intro fuel text
  cases fuel with
  | zero => rfl
  | succ fuel => rw [readItems?, readItems?, skipGap_skipGap]

theorem readMember?_passesGaps : PassesGaps readMember? := by
  intro fuel text
  cases fuel with
  | zero => rfl
  | succ fuel => rw [readMember?, readMember?, skipGap_skipGap]

theorem readMembers?_passesGaps : PassesGaps readMembers? := by
  intro fuel text
  cases fuel with
  | zero => rfl
  | succ fuel => rw [readMembers?, readMembers?, skipGap_skipGap]

/-! ## Spellings -/

/-- A text spells a value for a reader: with fuel for two steps a character, the reader takes the
value from the start of every text that begins with the spelling and does not go on with a
numeral. -/
def Spells (read : Nat → List Char → Option (α × List Char)) (text : List Char) (value : α) :
    Prop :=
  ∀ fuel, 2 * text.length ≤ fuel → Takes EndsNumeral (read fuel) text value

/-- A text cannot go on with a numeral, whatever follows it. -/
def Separates (text : List Char) : Prop :=
  ∀ rest, EndsNumeral (text ++ rest)

theorem separates_cons
    {c : Char} (separator : c = ',' ∨ c = ']' ∨ c = '}' ∨ c = '\n') (text : List Char) :
    Separates (c :: text) := by
  intro rest
  rcases separator with rfl | rfl | rfl | rfl <;>
    exact ⟨⟨fun c first => by cases first; rfl, by simp⟩, by simp, by simp⟩

theorem endsNumeral_nil : EndsNumeral [] where
  noDigit _ first := by cases first
  noPoint first := by cases first
  noSmallMark first := by cases first
  noLargeMark first := by cases first

variable {text more : List Char} {document : Document}

theorem Spells.gap
    {read : Nat → List Char → Option (α × List Char)} {value : α} (passes : PassesGaps read)
    {gap : List Char} (gaps : ∀ c ∈ gap, isGap c = true) (spells : Spells read text value) :
    Spells read (gap ++ text) value := by
  intro fuel enough rest ends
  rw [List.length_append] at enough
  rw [← passes, List.append_assoc, skipGap_append gaps, passes]
  exact spells fuel (by omega) rest ends

theorem spells_literal
    {read : Nat → List Char → Option (α × List Char)} {value : α}
    (taken : ∀ fuel rest, read (fuel + 1) (text ++ rest) = some (value, rest))
    (nonempty : text ≠ []) : Spells read text value := by
  intro fuel enough rest _
  have positive := List.length_pos_of_ne_nil nonempty
  cases fuel with
  | zero => omega
  | succ fuel => exact taken fuel rest

/-- Spellings of two readers, one after the other behind a mark, are a spelling of a reader that
hands them on. -/
theorem spells_pair
    {α β γ : Type} {first : Nat → List Char → Option (α × List Char)}
    {second : Nat → List Char → Option (β × List Char)}
    {whole : Nat → List Char → Option (γ × List Char)} {mark : Char} (combine : α → β → γ)
    (hands : ∀ {fuel text found}, first fuel text = some found →
      whole (fuel + 1) (mark :: text) =
        (second fuel found.2).map fun others => (combine found.1 others.1, others.2))
    {value : α} {values : β} (spells : Spells first text value) (others : Spells second more values)
    (separates : Separates more) :
    Spells whole (mark :: (text ++ more)) (combine value values) := by
  intro fuel enough rest ends
  simp only [List.length_cons, List.length_append] at enough
  cases fuel with
  | zero => omega
  | succ fuel =>
      have read := spells fuel (by omega) (more ++ rest) (separates rest)
      rw [List.cons_append, List.append_assoc, hands read, others fuel (by omega) rest ends]
      rfl

theorem readValue?_number
    {first : Char} (start : first = '-' ∨ first.isDigit = true) (fuel : Nat) (text : List Char) :
    readValue? (fuel + 1) (first :: text) = readNumber? (first :: text) := by
  have other {c : Char} (special : (c == '-' || c.isDigit) = false) : first ≠ c := by
    rintro rfl
    simp only [Bool.or_eq_false_iff, beq_eq_false_iff_ne] at special
    rcases start with minus | isDigit
    · exact special.1 minus
    · exact Bool.false_ne_true (special.2.symm.trans isDigit)
  have solid : skipGap (first :: text) = first :: text := by
    have noGap : isGap first = false := by
      simp [isGap, @other ' ' rfl, @other '\n' rfl, @other '\t' rfl, @other '\r' rfl]
    exact List.dropWhile_cons_of_neg (by simp [noGap])
  rw [readValue?]
  simp only [solid]
  split
  case h_1 shape => cases shape
  case h_2 shape => exact absurd (List.cons.inj shape).1 (other rfl)
  case h_3 shape => exact absurd (List.cons.inj shape).1 (other rfl)
  case h_4 shape => exact absurd (List.cons.inj shape).1 (other rfl)
  case h_5 shape => exact absurd (List.cons.inj shape).1 (other rfl)
  case h_6 shape => exact absurd (List.cons.inj shape).1 (other rfl)
  case h_7 shape => exact absurd (List.cons.inj shape).1 (other rfl)
  case h_8 => rfl

theorem spells_number
    {first : Char} {core : List Char} (start : first = '-' ∨ first.isDigit = true)
    (takes : Takes EndsNumeral readNumber? (first :: core) document) :
    Spells readValue? (first :: core) document := by
  intro fuel enough rest ends
  cases fuel with
  | zero => simp at enough
  | succ fuel =>
      rw [List.cons_append, readValue?_number start]
      exact takes rest ends

theorem spells_string (s : String) : Spells readValue? (quoted s) (.string s) := by
  intro fuel enough rest ends
  cases fuel with
  | zero => simp [quoted] at enough
  | succ fuel =>
      have shape : skipGap (quoted s ++ rest) =
          '"' :: (s.toList.flatMap escaped ++ '"' :: rest) := by
        simp [quoted, skipGap, isGap]
      rw [readValue?]
      simp only [shape, readText?_escaped, Option.map_some]

theorem head?_of_readValue? {fuel : Nat} {found : Document × List Char}
    (read : readValue? fuel text = some found) : (skipGap text).head? ≠ some ']' := by
  intro closed
  obtain ⟨rest, shape⟩ : ∃ rest, skipGap text = ']' :: rest := by
    cases skipped : skipGap text with
    | nil => rw [skipped] at closed; cases closed
    | cons c rest =>
        rw [skipped] at closed
        exact ⟨rest, by rw [Option.some_inj.mp closed]⟩
  cases fuel with
  | zero => cases read
  | succ fuel =>
      rw [readValue?] at read
      simp only [shape] at read
      obtain ⟨first, core, start, equality, _⟩ := readNumber?_takes read
      cases equality
      exact absurd start (by decide)

theorem head?_of_readMember? {fuel : Nat} {found : (Option String × Document) × List Char}
    (read : readMember? fuel text = some found) : (skipGap text).head? = some '"' := by
  cases fuel with
  | zero => cases read
  | succ fuel =>
      rw [readMember?] at read
      split at read
      · rename_i shape
        rw [shape]
        rfl
      · cases read

theorem readValue?_array
    {fuel : Nat} {found : Document × List Char} (read : readValue? fuel text = some found) :
    readValue? (fuel + 1) ('[' :: text) =
      (readItems? fuel found.2).map fun items => (.array (found.1 :: items.1), items.2) := by
  have shape : skipGap ('[' :: text) = '[' :: text := rfl
  rw [readValue?]
  simp only [shape]
  split
  · rename_i closed
    exact absurd (congrArg List.head? closed) (head?_of_readValue? read)
  · rw [readValue?_passesGaps, read]
    simp only [Option.bind_eq_bind, Option.bind_some]
    cases readItems? fuel found.2 <;> rfl

theorem readValue?_object
    {fuel : Nat} {found : (Option String × Document) × List Char}
    (read : readMember? fuel text = some found) :
    readValue? (fuel + 1) ('{' :: text) =
      (readMembers? fuel found.2).map fun members =>
        (.object (found.1 :: members.1), members.2) := by
  have shape : skipGap ('{' :: text) = '{' :: text := rfl
  rw [readValue?]
  simp only [shape]
  split
  · rename_i closed
    have opened := head?_of_readMember? read
    rw [closed] at opened
    cases opened
  · rw [readMember?_passesGaps, read]
    simp only [Option.bind_eq_bind, Option.bind_some]
    cases readMembers? fuel found.2 <;> rfl

theorem readItems?_comma
    {fuel : Nat} {found : Document × List Char} (read : readValue? fuel text = some found) :
    readItems? (fuel + 1) (',' :: text) =
      (readItems? fuel found.2).map fun items => (found.1 :: items.1, items.2) := by
  have shape : skipGap (',' :: text) = ',' :: text := rfl
  rw [readItems?]
  simp only [shape, read, Option.bind_eq_bind, Option.bind_some]
  cases readItems? fuel found.2 <;> rfl

theorem readMembers?_comma
    {fuel : Nat} {found : (Option String × Document) × List Char}
    (read : readMember? fuel text = some found) :
    readMembers? (fuel + 1) (',' :: text) =
      (readMembers? fuel found.2).map fun members => (found.1 :: members.1, members.2) := by
  have shape : skipGap (',' :: text) = ',' :: text := rfl
  rw [readMembers?]
  simp only [shape, read, Option.bind_eq_bind, Option.bind_some]
  cases readMembers? fuel found.2 <;> rfl

theorem spells_member (name : String) (spells : Spells readValue? text document) :
    Spells readMember? (quoted name ++ ':' :: text) (some name, document) := by
  intro fuel enough rest ends
  simp only [List.length_cons, List.length_append] at enough
  cases fuel with
  | zero => omega
  | succ fuel =>
      have shape : skipGap (quoted name ++ ':' :: text ++ rest) =
          '"' :: (name.toList.flatMap escaped ++ '"' :: (':' :: (text ++ rest))) := by
        simp [quoted, skipGap, isGap]
      have colon : skipGap (':' :: (text ++ rest)) = ':' :: (text ++ rest) := rfl
      have value := spells fuel (by omega) rest ends
      rw [readMember?]
      simp only [shape, readText?_escaped, colon, value, Option.bind_eq_bind, Option.bind_some]

variable {items : List Document} {members : List (Option String × Document)}
variable {member : Option String × Document}

theorem spells_items_nil : Spells readItems? [']'] [] :=
  spells_literal (fun _ _ => rfl) (List.cons_ne_nil _ _)

theorem spells_items_cons
    (first : Spells readValue? text document) (others : Spells readItems? more items)
    (separates : Separates more) :
    Spells readItems? (',' :: (text ++ more)) (document :: items) :=
  spells_pair List.cons readItems?_comma first others separates

theorem spells_array
    (first : Spells readValue? text document) (others : Spells readItems? more items)
    (separates : Separates more) :
    Spells readValue? ('[' :: (text ++ more)) (.array (document :: items)) :=
  spells_pair (fun item items => Document.array (item :: items)) readValue?_array
    first others separates

theorem spells_members_nil : Spells readMembers? ['}'] [] :=
  spells_literal (fun _ _ => rfl) (List.cons_ne_nil _ _)

theorem spells_members_cons
    (first : Spells readMember? text member) (others : Spells readMembers? more members)
    (separates : Separates more) :
    Spells readMembers? (',' :: (text ++ more)) (member :: members) :=
  spells_pair List.cons readMembers?_comma first others separates

theorem spells_object
    (first : Spells readMember? text member) (others : Spells readMembers? more members)
    (separates : Separates more) :
    Spells readValue? ('{' :: (text ++ more)) (.object (member :: members)) :=
  spells_pair (fun member members => Document.object (member :: members)) readValue?_object
    first others separates

end Json

end SchemaDesign
