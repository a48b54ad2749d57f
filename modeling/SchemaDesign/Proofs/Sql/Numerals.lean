import SchemaDesign.Proofs.Sql.Cutting
import SchemaDesign.Sql.Lexer

/-!
# Numbers, read from their parts

A number that is read has digits, a point and an exponent, and it is read again from these parts as
long as what follows them does not go on with the number.
-/

namespace SchemaDesign.Sql

namespace Lexer

section

variable {rest after : List Char}

/-! ## Runs of characters -/

/-- Characters of a class up to a text that begins with none of them. -/
theorem takeWhile_ended
    {isMember : Char → Bool} {text : List Char} (members : ∀ c ∈ text, isMember c = true)
    (ended : ∀ c ∈ rest.head?, isMember c = false) :
    (text ++ rest).takeWhile isMember = text ∧ (text ++ rest).dropWhile isMember = rest := by
  have stops : rest.takeWhile isMember = [] ∧ rest.dropWhile isMember = rest := by
    cases rest with
    | nil => exact ⟨rfl, rfl⟩
    | cons c rest =>
        rw [List.takeWhile_cons, List.dropWhile_cons, ended c rfl]
        exact ⟨rfl, rfl⟩
  rw [List.takeWhile_append_of_pos members, List.dropWhile_append_of_pos members, stops.1,
    stops.2, List.append_nil]
  exact ⟨rfl, rfl⟩

theorem forall_mem_takeWhile {isMember : Char → Bool} (text : List Char) :
    ∀ c ∈ text.takeWhile isMember, isMember c = true :=
  List.all_eq_true.mp List.all_takeWhile

theorem takeWhile_dropWhile (isMember : Char → Bool) (text : List Char) :
    (text.dropWhile isMember).takeWhile isMember = [] := by
  have stopped := List.head?_dropWhile_not isMember text
  cases shape : text.dropWhile isMember with
  | nil => rfl
  | cons d rest =>
      rw [shape] at stopped
      rw [List.takeWhile_cons, stopped]
      rfl

/-! ## The parts of numbers -/

/-- The exponent of a number. -/
inductive IsExponent : List Char → Prop where
  | none : IsExponent []
  | some {mark : Char} {sign digits : List Char} :
      mark = 'e' ∨ mark = 'E' → sign ∈ [[], ['+'], ['-']] → digits ≠ [] →
        (∀ d ∈ digits, d.isDigit = true) → IsExponent (mark :: (sign ++ digits))

/-- The parts of a number: its digits before a point, the point, its digits after it, and its
exponent. -/
structure IsNumeral (whole point places exponent : List Char) : Prop where
  isWhole : ∀ d ∈ whole, d.isDigit = true
  isPoint : point = ['.'] ∨ point = [] ∧ places = []
  isPlaces : ∀ d ∈ places, d.isDigit = true
  isExponent : IsExponent exponent
  nonempty : whole ≠ [] ∨ places ≠ []

theorem mem_signs_readSign (text : List Char) : (readSign text).1 ∈ [[], ['+'], ['-']] := by
  cases text with
  | nil => simp [readSign]
  | cons c rest =>
      rw [readSign]
      split
      · next sign =>
          rcases sign with rfl | rfl
          all_goals simp
      · simp

theorem isExponent_readExponent (text : List Char) : IsExponent (readExponent text).1 := by
  cases text with
  | nil => exact .none
  | cons c rest =>
      simp only [readExponent]
      split
      · next marked =>
          exact .some marked.1 (mem_signs_readSign rest) (by simpa using marked.2)
            (forall_mem_takeWhile _)
      · exact .none

theorem readMark_cases (mark : Char) (text : List Char) :
    (readMark mark text).1 = [mark] ∨
      (readMark mark text).1 = [] ∧ (readMark mark text).2 = text := by
  cases text with
  | nil => exact .inr ⟨rfl, rfl⟩
  | cons c rest =>
      rw [readMark]
      split
      · next same => exact .inl (congrArg ([·]) same)
      · exact .inr ⟨rfl, rfl⟩

/-- What is read as a number has the parts of one. -/
theorem readNumber_parts
    {text : List Char} {digits : String} (read : readNumber text = (.number digits, after)) :
    ∃ whole point places exponent, IsNumeral whole point places exponent ∧
      digits = String.ofList (whole ++ point ++ places ++ exponent) := by
  simp only [readNumber] at read
  split at read
  · cases read
  split at read
  · cases read
  · next nonempty =>
      cases read
      refine ⟨_, _, _, _, ⟨forall_mem_takeWhile _, ?_, forall_mem_takeWhile _,
        isExponent_readExponent _, ?_⟩, rfl⟩
      · rcases readMark_cases '.' (text.dropWhile Char.isDigit) with marked | ⟨unmarked, left⟩
        · exact .inl marked
        · refine .inr ⟨unmarked, ?_⟩
          rw [left]
          exact takeWhile_dropWhile Char.isDigit text
      · simpa [-List.takeWhile_eq_nil_iff, ← not_and_or] using nonempty

theorem IsNumeral.start
    {whole point places exponent : List Char} (numeral : IsNumeral whole point places exponent) :
    ∃ c more, whole ++ point ++ places ++ exponent = c :: more ∧
      (c.isDigit = true ∨ c = '.' ∧ more.head?.any Char.isDigit = true) := by
  cases whole with
  | cons c whole => exact ⟨c, _, rfl, .inl (numeral.isWhole c List.mem_cons_self)⟩
  | nil =>
      cases places with
      | nil => simpa using numeral.nonempty
      | cons d places =>
          rcases numeral.isPoint with rfl | ⟨-, none⟩
          · exact ⟨'.', _, rfl, .inr ⟨rfl, numeral.isPlaces d List.mem_cons_self⟩⟩
          · cases none

/-! ## What ends a number -/

/-- Whether a character may go on with a number after a digit. -/
def continuesNumber (c : Char) : Bool :=
  c.isDigit || c == 'x' || c == 'e' || c == 'E' || c == 'L'

/-- A text that does not go on with a number that has its point before it. -/
def EndsNumber (rest : List Char) : Prop :=
  ∀ d ∈ rest.head?, continuesNumber d = false

theorem EndsNumber.head?_ne
    (ended : EndsNumber rest) {mark : Char} (continues : continuesNumber mark = true) :
    rest.head? ≠ some mark := by
  intro next
  cases continues.symm.trans (ended mark next)

theorem EndsNumber.isDigit (ended : EndsNumber rest) : ∀ d ∈ rest.head?, d.isDigit = false := by
  intro d next
  have outside := ended d next
  simp only [continuesNumber, Bool.or_eq_false_iff] at outside
  exact outside.1.1.1.1

theorem head?_exponent
    {exponent : List Char} (isExponent : IsExponent exponent) {d : Char}
    (next : d ∈ (exponent ++ rest).head?) :
    d = 'e' ∨ d = 'E' ∨ exponent = [] ∧ d ∈ rest.head? := by
  cases isExponent with
  | none => exact .inr (.inr ⟨rfl, next⟩)
  | some mark =>
      cases next
      rcases mark with small | capital
      · exact .inl small
      · exact .inr (.inl capital)

theorem readExponent_again
    {exponent : List Char} (isExponent : IsExponent exponent) (ended : EndsNumber rest) :
    readExponent (exponent ++ rest) = (exponent, rest) := by
  cases isExponent with
  | none =>
      cases rest with
      | nil => rfl
      | cons d rest =>
          have small : d ≠ 'e' := fun same => ended.head?_ne rfl (congrArg some same)
          have capital : d ≠ 'E' := fun same => ended.head?_ne rfl (congrArg some same)
          simp [readExponent, small, capital]
  | @some mark sign digits isMark isSign nonempty isDigits =>
      have signed : readSign (sign ++ (digits ++ rest)) = (sign, digits ++ rest) := by
        cases digits with
        | nil => exact absurd rfl nonempty
        | cons d digits =>
            have digit := isDigits d List.mem_cons_self
            have plus : d ≠ '+' := ne_of_class digit rfl
            have minus : d ≠ '-' := ne_of_class digit rfl
            simp only [List.mem_cons, List.not_mem_nil, or_false] at isSign
            rcases isSign with rfl | rfl | rfl
            · simp [readSign, plus, minus]
            · rfl
            · rfl
      obtain ⟨run, after⟩ := takeWhile_ended isDigits ended.isDigit
      rw [List.cons_append, List.append_assoc]
      simp only [readExponent, signed, run, after]
      rw [if_pos ⟨isMark, by simpa using nonempty⟩]

theorem readMark_other {mark : Char} (other : rest.head? ≠ some mark) :
    readMark mark rest = ([], rest) := by
  cases rest with
  | nil => rfl
  | cons d rest =>
      have different : d ≠ mark := fun same => other (congrArg some same)
      rw [readMark, if_neg different]

theorem head?_exponent_ended
    {exponent : List Char} (isExponent : IsExponent exponent) (ended : EndsNumber rest) :
    ∀ d ∈ (exponent ++ rest).head?, d.isDigit = false ∧ d ≠ 'x' := by
  intro d next
  rcases head?_exponent isExponent next with rfl | rfl | ⟨-, next⟩
  · exact ⟨rfl, by decide⟩
  · exact ⟨rfl, by decide⟩
  · exact ⟨ended.isDigit d next, fun same => ended.head?_ne rfl (same ▸ next)⟩

theorem readMark_point
    {whole point places exponent : List Char} (numeral : IsNumeral whole point places exponent)
    (noPoint : point = [] → exponent = [] → rest.head? ≠ some '.') :
    readMark '.' (point ++ (places ++ (exponent ++ rest))) =
      (point, places ++ (exponent ++ rest)) := by
  rcases numeral.isPoint with rfl | ⟨rfl, rfl⟩
  · rfl
  · apply readMark_other
    intro next
    rcases head?_exponent numeral.isExponent next with same | same | ⟨none, next⟩
    · cases same
    · cases same
    · exact noPoint rfl none next

/-- A number is read from its parts, unless a point follows digits only. -/
theorem readNumber_again
    {whole point places exponent : List Char} (numeral : IsNumeral whole point places exponent)
    (ended : EndsNumber rest) (noPoint : point = [] → exponent = [] → rest.head? ≠ some '.') :
    readNumber (whole ++ (point ++ (places ++ (exponent ++ rest)))) =
      (.number (String.ofList (whole ++ point ++ places ++ exponent)), rest) := by
  have exponentNext := head?_exponent_ended numeral.isExponent ended
  have wholeNext : ∀ d ∈ (point ++ (places ++ (exponent ++ rest))).head?,
      d.isDigit = false ∧ d ≠ 'x' := by
    rcases numeral.isPoint with rfl | ⟨rfl, rfl⟩
    · rintro d ⟨⟩
      exact ⟨rfl, by decide⟩
    · exact exponentNext
  obtain ⟨wholeRun, afterWhole⟩ :=
    takeWhile_ended numeral.isWhole fun d next => (wholeNext d next).1
  obtain ⟨placesRun, afterPlaces⟩ :=
    takeWhile_ended numeral.isPlaces fun d next => (exponentNext d next).1
  have noHex : (point ++ (places ++ (exponent ++ rest))).head? ≠ some 'x' :=
    fun next => (wholeNext 'x' next).2 rfl
  have someDigit : (whole.isEmpty && places.isEmpty) = false := by
    simpa [← not_and_or] using numeral.nonempty
  have noLetter : rest.head? ≠ some 'L' := ended.head?_ne rfl
  simp only [readNumber, wholeRun, afterWhole, noHex, and_false, if_false,
    readMark_point numeral noPoint, placesRun, afterPlaces, someDigit,
    readExponent_again numeral.isExponent ended, readMark_other noLetter, Bool.false_eq_true]

end

end Lexer

end SchemaDesign.Sql
