import SchemaDesign.Json.Document
import SchemaDesign.Json.Printer
import Mathlib.Data.List.TakeWhile
import Mathlib.Data.Nat.Digits.Lemmas

/-!
# Numerals read back

A numeral is read the same before every text that cannot go on with it, and integers in the range
of numbers are read as what they were written from.
-/

namespace SchemaDesign

namespace Number

theorem isDigit_of_mem_digits {n : Nat} {c : Char} (member : c ∈ digits n) : c.isDigit = true :=
  Nat.isDigit_of_mem_toDigits (by decide) (by decide) member

theorem digits_ne_nil (n : Nat) : digits n ≠ [] :=
  List.ne_nil_of_length_pos Nat.length_toDigits_pos

theorem ofDigitChars_digits (n : Nat) : Nat.ofDigitChars 10 (digits n) 0 = n :=
  Nat.ofDigitChars_toDigits (by decide) (by decide)

/-- Only zero has a zero for its first digit. -/
theorem head?_digits {n : Nat} (positive : 0 < n) : (digits n).head? ≠ some '0' := by
  induction n using Nat.strongRecOn with
  | _ n ih =>
      rw [digits, Nat.toDigits_eq_if (by decide)]
      split
      · rename_i small
        interval_cases n <;> decide
      · have shorter := ih (n / 10) (by omega) (by omega)
        obtain ⟨first, rest, shape⟩ := List.exists_cons_of_ne_nil (digits_ne_nil (n / 10))
        rw [digits] at shape shorter
        rw [shape] at shorter ⊢
        exact shorter

end Number

namespace Json

variable {text rest run : List Char}

/-! ## Digits -/

theorem le_ofDigitChars (run : List Char) (start : Nat) :
    start ≤ Nat.ofDigitChars 10 run start := by
  induction run generalizing start with
  | nil => exact Nat.le_refl start
  | cons c run ih =>
      rw [Nat.ofDigitChars_cons]
      exact Nat.le_trans (by omega) (ih _)

theorem takeDigits_eq
    {start taken : Nat} (fits : Nat.ofDigitChars 10 run start ≤ greatestInteger) :
    takeDigits start taken run = (Nat.ofDigitChars 10 run start, taken + run.length, []) := by
  induction run generalizing start taken with
  | nil => rfl
  | cons c run ih =>
      rw [Nat.ofDigitChars_cons] at fits ⊢
      have next := Nat.le_trans (le_ofDigitChars run _) fits
      rw [takeDigits, if_neg (Nat.not_lt.mpr next), ih fits, List.length_cons, Nat.add_assoc,
        Nat.add_comm 1]

/-- The first character of a text is no digit. -/
def NoDigit (text : List Char) : Prop :=
  ∀ c, text.head? = some c → c.isDigit = false

theorem readDigits?_append
    (digits : ∀ c ∈ run, c.isDigit = true) (nonempty : run ≠ []) (stops : NoDigit rest) :
    readDigits? (run ++ rest) = some (run, rest) := by
  have stopped : rest.takeWhile Char.isDigit = [] ∧ rest.dropWhile Char.isDigit = rest := by
    cases rest with
    | nil => exact ⟨rfl, rfl⟩
    | cons c rest => simp [stops c rfl]
  rw [readDigits?, List.span_eq_takeWhile_dropWhile, List.takeWhile_append_of_pos digits,
    List.dropWhile_append_of_pos digits, stopped.1, stopped.2, List.append_nil]
  cases run with
  | nil => exact absurd rfl nonempty
  | cons c run => rfl

theorem readDigits?_eq_some (read : readDigits? text = some (run, rest)) :
    text = run ++ rest ∧ (∀ c ∈ run, c.isDigit = true) ∧ run ≠ [] := by
  rw [readDigits?, List.span_eq_takeWhile_dropWhile] at read
  cases taken : text.takeWhile Char.isDigit with
  | nil => rw [taken] at read; cases read
  | cons c tail =>
      rw [taken] at read
      cases read
      rw [← taken, List.takeWhile_append_dropWhile]
      refine ⟨rfl, fun c member => List.mem_takeWhile_imp member, ?_⟩
      rw [taken]
      exact List.cons_ne_nil _ _

/-! ## Numerals and what follows them -/

/-- The first character of a text cannot go on with a fraction. -/
structure EndsFraction (text : List Char) : Prop where
  noDigit : NoDigit text
  noPoint : text.head? ≠ some '.'

/-- The first character of a text cannot go on with a numeral. -/
structure EndsNumeral (text : List Char) : Prop extends EndsFraction text where
  noSmallMark : text.head? ≠ some 'e'
  noLargeMark : text.head? ≠ some 'E'

/-- A reader takes a text from the start of every text that goes on in some way. -/
def Takes (follows : List Char → Prop) (read : List Char → Option (α × List Char))
    (text : List Char) (value : α) : Prop :=
  ∀ rest, follows rest → read (text ++ rest) = some (value, rest)

theorem readFraction?_noPoint (noPoint : text.head? ≠ some '.') :
    readFraction? text = some (none, text) := by
  unfold readFraction?
  split
  · exact absurd rfl noPoint
  · rfl

theorem readFraction?_takes
    {fraction : Option (List Char)} (read : readFraction? text = some (fraction, rest)) :
    ∃ core, text = core ++ rest ∧ Takes EndsFraction readFraction? core fraction ∧
      ∀ after, EndsFraction after → NoDigit (core ++ after) := by
  unfold readFraction? at read
  split at read
  · rename_i places
    obtain ⟨⟨run, after⟩, digits, equality⟩ := Option.map_eq_some_iff.mp read
    cases equality
    obtain ⟨shape, isDigits, nonempty⟩ := readDigits?_eq_some digits
    refine ⟨'.' :: run, by rw [shape]; rfl, fun after ends => ?_, fun after _ c first => ?_⟩
    · rw [List.cons_append, readFraction?, readDigits?_append isDigits nonempty ends.noDigit]
      rfl
    · cases first
      rfl
  · cases read
    refine ⟨[], rfl, fun after ends => ?_, fun after ends => ends.noDigit⟩
    rw [List.nil_append, readFraction?_noPoint ends.noPoint]

/-- Whether there is a minus sign at the start of an exponent, and what follows its sign. -/
def exponentSign : List Char → Bool × List Char
  | '+' :: rest => (false, rest)
  | '-' :: rest => (true, rest)
  | rest => (false, rest)

theorem readExponent?_mark {mark : Char} (known : mark = 'e' ∨ mark = 'E') :
    readExponent? (mark :: rest) =
      (readDigits? (exponentSign rest).2).map fun found =>
        let size : Int := Number.valueOfDigits found.1
        (some (if (exponentSign rest).1 then -size else size), found.2) := by
  rcases known with rfl | rfl <;> rfl

theorem readExponent?_noMark
    (noSmallMark : text.head? ≠ some 'e') (noLargeMark : text.head? ≠ some 'E') :
    readExponent? text = some (none, text) := by
  cases text with
  | nil => rfl
  | cons c rest =>
      have small : c ≠ 'e' := fun equal => noSmallMark (congrArg some equal)
      have large : c ≠ 'E' := fun equal => noLargeMark (congrArg some equal)
      simp [readExponent?, small, large]

theorem exponentSign_takes (text : List Char) :
    ∃ sign, text = sign ++ (exponentSign text).2 ∧
      ∀ digit run, digit.isDigit = true →
        exponentSign (sign ++ digit :: run) = ((exponentSign text).1, digit :: run) := by
  unfold exponentSign
  split
  · exact ⟨['+'], rfl, fun _ _ _ => rfl⟩
  · exact ⟨['-'], rfl, fun _ _ _ => rfl⟩
  · refine ⟨[], rfl, fun digit run isDigit => ?_⟩
    rw [List.nil_append]
    split
    · rename_i equality
      cases equality
      exact absurd isDigit (by decide)
    · rename_i equality
      cases equality
      exact absurd isDigit (by decide)
    · rfl

theorem readExponent?_takes
    {exponent : Option Int} (read : readExponent? text = some (exponent, rest)) :
    ∃ core, text = core ++ rest ∧ Takes EndsNumeral readExponent? core exponent ∧
      ∀ after, EndsNumeral after → EndsFraction (core ++ after) := by
  by_cases marked : text.head? = some 'e' ∨ text.head? = some 'E'
  · obtain ⟨mark, known, tail, rfl⟩ :
        ∃ mark, (mark = 'e' ∨ mark = 'E') ∧ ∃ tail, text = mark :: tail := by
      cases text with
      | nil => simp at marked
      | cons mark tail => exact ⟨mark, by simpa using marked, tail, rfl⟩
    rw [readExponent?_mark known] at read
    obtain ⟨⟨run, after⟩, digits, equality⟩ := Option.map_eq_some_iff.mp read
    cases equality
    obtain ⟨shape, isDigits, nonempty⟩ := readDigits?_eq_some digits
    obtain ⟨sign, tailShape, signed⟩ := exponentSign_takes tail
    refine ⟨mark :: (sign ++ run), ?_, fun after ends => ?_, fun after _ => ?_⟩
    · rw [tailShape, shape]
      simp
    · obtain ⟨digit, places, rfl⟩ := List.exists_cons_of_ne_nil nonempty
      rw [List.cons_append, readExponent?_mark known, List.append_assoc, List.cons_append,
        signed digit _ (isDigits digit List.mem_cons_self), ← List.cons_append,
        readDigits?_append isDigits nonempty ends.noDigit]
      rfl
    · rcases known with rfl | rfl
      · exact ⟨fun c first => by cases first; rfl, by simp⟩
      · exact ⟨fun c first => by cases first; rfl, by simp⟩
  · rw [not_or] at marked
    rw [readExponent?_noMark marked.1 marked.2] at read
    cases read
    refine ⟨[], rfl, fun after ends => ?_, fun after ends => ends.toEndsFraction⟩
    rw [List.nil_append, readExponent?_noMark ends.noSmallMark ends.noLargeMark]

/-- The rest of a numeral after its sign. -/
def readUnsigned? (negative : Bool) (text : List Char) : Option (Document × List Char) := do
  let (whole, text) ← readDigits? text
  if whole.head? = some '0' ∧ whole.length ≠ 1 then none
  else
    let (fraction, text) ← readFraction? text
    let (exponent, text) ← readExponent? text
    some (numeralValue negative whole fraction exponent, text)

theorem readUnsigned?_takes
    {negative : Bool} {document : Document}
    (read : readUnsigned? negative text = some (document, rest)) :
    ∃ digit core, digit.isDigit = true ∧ text = digit :: core ++ rest ∧
      Takes EndsNumeral (readUnsigned? negative) (digit :: core) document := by
  rw [readUnsigned?] at read
  obtain ⟨⟨whole, tail⟩, wholeRead, read⟩ := Option.bind_eq_some_iff.mp read
  dsimp only at read
  split at read
  · cases read
  · rename_i plain
    obtain ⟨⟨fraction, next⟩, fractionRead, read⟩ := Option.bind_eq_some_iff.mp read
    dsimp only at read
    obtain ⟨⟨exponent, after⟩, exponentRead, read⟩ := Option.bind_eq_some_iff.mp read
    cases read
    obtain ⟨wholeShape, isDigits, nonempty⟩ := readDigits?_eq_some wholeRead
    obtain ⟨point, fractionShape, fractionTakes, pointFollows⟩ := readFraction?_takes fractionRead
    obtain ⟨mark, exponentShape, exponentTakes, markFollows⟩ := readExponent?_takes exponentRead
    obtain ⟨digit, places, rfl⟩ := List.exists_cons_of_ne_nil nonempty
    refine ⟨digit, places ++ (point ++ mark), isDigits digit List.mem_cons_self, ?_,
      fun other ends => ?_⟩
    · rw [wholeShape, fractionShape, exponentShape]
      simp
    · have shape : digit :: (places ++ (point ++ mark)) ++ other =
          (digit :: places) ++ (point ++ (mark ++ other)) := by simp
      rw [shape, readUnsigned?,
        readDigits?_append isDigits nonempty (pointFollows _ (markFollows other ends))]
      simp only [Option.bind_eq_bind, Option.bind_some]
      rw [if_neg plain, fractionTakes _ (markFollows other ends)]
      simp only [Option.bind_some]
      rw [exponentTakes other ends]
      rfl

/-- Whether there is a minus sign at the start of a numeral, and what follows it. -/
def numeralSign : List Char → Bool × List Char
  | '-' :: rest => (true, rest)
  | text => (false, text)

theorem readNumber?_eq (text : List Char) :
    readNumber? text = readUnsigned? (numeralSign text).1 (numeralSign text).2 := by
  unfold readNumber? readUnsigned? numeralSign
  rfl

theorem numeralSign_digit {digit : Char} (isDigit : digit.isDigit = true) (rest : List Char) :
    numeralSign (digit :: rest) = (false, digit :: rest) := by
  unfold numeralSign
  split
  · rename_i equality
    cases equality
    exact absurd isDigit (by decide)
  · rfl

theorem numeralSign_takes (text : List Char) :
    ∃ sign, text = sign ++ (numeralSign text).2 ∧ (sign = [] ∨ sign = ['-']) ∧
      ∀ digit run, digit.isDigit = true →
        numeralSign (sign ++ digit :: run) = ((numeralSign text).1, digit :: run) := by
  unfold numeralSign
  split
  · exact ⟨['-'], rfl, .inr rfl, fun _ _ _ => rfl⟩
  · exact ⟨[], rfl, .inl rfl, fun digit run isDigit => numeralSign_digit isDigit run⟩

theorem readNumber?_takes
    {document : Document} (read : readNumber? text = some (document, rest)) :
    ∃ first core, (first = '-' ∨ first.isDigit = true) ∧ text = first :: core ++ rest ∧
      Takes EndsNumeral readNumber? (first :: core) document := by
  rw [readNumber?_eq] at read
  obtain ⟨digit, core, isDigit, shape, takes⟩ := readUnsigned?_takes read
  obtain ⟨sign, textShape, signs, signed⟩ := numeralSign_takes text
  have taken : Takes EndsNumeral readNumber? (sign ++ digit :: core) document := by
    intro after ends
    rw [List.append_assoc, List.cons_append, readNumber?_eq, signed digit _ isDigit]
    exact takes after ends
  rcases signs with rfl | rfl
  · exact ⟨digit, core, .inr isDigit, textShape.trans shape, taken⟩
  · exact ⟨'-', digit :: core, .inl rfl, textShape.trans (congrArg (['-'] ++ ·) shape), taken⟩

/-! ## Integers -/

/-- An integer that a number of JSON can be. -/
def IsInteger (n : Int) : Prop :=
  -(2 ^ 63) ≤ n ∧ n ≤ greatestInteger

theorem readUnsigned?_digits (negative : Bool) (n : Nat) :
    Takes EndsNumeral (readUnsigned? negative) (Number.digits n)
      (numeralValue negative (Number.digits n) none none) := by
  intro rest ends
  have plain : ¬ ((Number.digits n).head? = some '0' ∧ (Number.digits n).length ≠ 1) := by
    rintro ⟨zero, long⟩
    cases n with
    | zero => exact long rfl
    | succ n => exact Number.head?_digits (Nat.succ_pos n) zero
  rw [readUnsigned?, readDigits?_append (fun c => Number.isDigit_of_mem_digits)
    (Number.digits_ne_nil n) ends.noDigit]
  simp only [Option.bind_eq_bind, Option.bind_some]
  rw [if_neg plain, readFraction?_noPoint ends.noPoint]
  simp only [Option.bind_some]
  rw [readExponent?_noMark ends.noSmallMark ends.noLargeMark]
  rfl

theorem takeDigits_digits {n : Nat} (fits : n ≤ greatestInteger) :
    takeDigits 0 0 (Number.digits n) = (n, (Number.digits n).length, []) := by
  rw [takeDigits_eq, Number.ofDigitChars_digits, Nat.zero_add]
  rwa [Number.ofDigitChars_digits]

theorem numeralValue_positive {n : Nat} (fits : n ≤ greatestInteger) :
    numeralValue false (Number.digits n) none none = .integer n := by
  rw [numeralValue, takeDigits_digits fits]
  rfl

theorem numeralValue_negative {n : Nat} (positive : 0 < n) (fits : n ≤ 2 ^ 63) :
    numeralValue true (Number.digits n) none none = .integer (-n) := by
  have nonzero : n ≠ 0 := Nat.ne_of_gt positive
  have bounded : n ≤ Nat.pow 2 63 := fits
  rw [numeralValue, takeDigits_digits (Nat.le_trans fits (by decide))]
  simp [nonzero, bounded]

theorem readNumber?_integerText {n : Int} (integer : IsInteger n) :
    ∃ first core, (first = '-' ∨ first.isDigit = true) ∧ integerText n = first :: core ∧
      Takes EndsNumeral readNumber? (first :: core) (.integer n) := by
  obtain ⟨least, greatest⟩ := integer
  obtain ⟨digit, places, shape⟩ := List.exists_cons_of_ne_nil (Number.digits_ne_nil n.natAbs)
  have isDigit : digit.isDigit = true :=
    Number.isDigit_of_mem_digits (shape ▸ List.mem_cons_self)
  rw [integerText, shape]
  by_cases negative : n < 0
  · refine ⟨'-', digit :: places, .inl rfl, if_pos negative, fun rest ends => ?_⟩
    have value : numeralValue true (Number.digits n.natAbs) none none = .integer n := by
      rw [numeralValue_negative (by omega) (by omega)]
      exact congrArg Document.integer (by omega)
    have taken := readUnsigned?_digits true n.natAbs rest ends
    rw [value, shape] at taken
    rw [readNumber?_eq]
    exact taken
  · refine ⟨digit, places, .inr isDigit, if_neg negative, fun rest ends => ?_⟩
    have value : numeralValue false (Number.digits n.natAbs) none none = .integer n := by
      rw [numeralValue_positive (by omega)]
      exact congrArg Document.integer (by omega)
    have taken := readUnsigned?_digits false n.natAbs rest ends
    rw [value, shape] at taken
    rw [readNumber?_eq, List.cons_append, numeralSign_digit isDigit]
    exact taken

end Json

namespace Number.Binary64

/-! ## The characters of numbers -/

/-- A character that the text of a number may have. -/
def isFigure (c : Char) : Bool :=
  c.isDigit || c == '.' || c == 'e' || c == '+' || c == '-'

/-- A text of such characters. -/
def Figures (text : List Char) : Prop :=
  ∀ c ∈ text, isFigure c = true

namespace Figures

variable {left right : List Char}

theorem nil : Figures [] :=
  fun _ member => absurd member List.not_mem_nil

theorem append (lefts : Figures left) (rights : Figures right) : Figures (left ++ right) :=
  List.forall_mem_append.mpr ⟨lefts, rights⟩

theorem cons {c : Char} (figure : isFigure c = true) (rights : Figures right) :
    Figures (c :: right) :=
  List.forall_mem_cons.mpr ⟨figure, rights⟩

theorem take (lefts : Figures left) (count : Nat) : Figures (left.take count) :=
  fun c member => lefts c (List.mem_of_mem_take member)

theorem drop (lefts : Figures left) (count : Nat) : Figures (left.drop count) :=
  fun c member => lefts c (List.mem_of_mem_drop member)

theorem zeros (count : Nat) : Figures (List.replicate count '0') := by
  intro c member
  rw [List.eq_of_mem_replicate member]
  decide

theorem digits (n : Nat) : Figures (Number.digits n) := by
  intro c member
  simp [isFigure, isDigit_of_mem_digits member]

end Figures

theorem figures_digitsText (d : Digits) : Figures d.text := by
  have figures : Figures (if d.significand = 0 then digits d.significand else
      (digits d.significand).take ((digits d.significand).length -
        ((digits d.significand).reverse.takeWhile (· == '0')).length)) := by
    split
    · exact .digits _
    · exact (Figures.digits _).take _
  rw [Digits.text]
  dsimp only
  generalize (if d.significand = 0 then digits d.significand else
      (digits d.significand).take ((digits d.significand).length -
        ((digits d.significand).reverse.takeWhile (· == '0')).length)) = kept at figures ⊢
  split
  · exact .cons rfl (.cons rfl (.zeros 1))
  · split
    · exact .cons rfl (.cons rfl ((Figures.zeros _).append figures))
    · split
      · have padded (count : Nat) := figures.append (.zeros count)
        refine ((padded _).take _).append (.cons rfl ?_)
        split
        · exact .zeros 1
        · exact (padded _).drop _
      · have mark : isFigure (if d.power + ↑((digits d.significand).length - 1) < 0 then '-'
            else '+') = true := by
          split <;> rfl
        refine Figures.append ?_ (.cons rfl (.cons mark (.digits _)))
        split
        · exact .nil
        · exact figures
        · have first := List.forall_mem_cons.mp figures
          exact .cons first.1 (.cons rfl first.2)

theorem figures_text (x : Binary64) : Figures x.text.toList := by
  rw [text, String.toList_ofList]
  refine Figures.append ?_ (figures_digitsText _)
  split
  · exact .cons rfl .nil
  · exact .nil

end Number.Binary64

namespace Json

theorem skipGap_figures {text : List Char} (figures : Number.Binary64.Figures text) :
    skipGap text = text := by
  cases text with
  | nil => rfl
  | cons c rest =>
      have figure := (List.forall_mem_cons.mp figures).1
      have solid : isGap c = false := by
        rw [Bool.eq_false_iff]
        intro gap
        simp only [isGap, Bool.or_eq_true, beq_iff_eq] at gap
        rcases gap with ((rfl | rfl) | rfl) | rfl <;> exact absurd figure (by decide)
      rw [skipGap, List.dropWhile_cons_of_neg (by simp [solid])]

theorem readNumber?_of_readValue? {fuel : Nat} {text rest : List Char} {x : Number.Binary64}
    (read : readValue? fuel text = some (.float x, rest)) :
    readNumber? (skipGap text) = some (.float x, rest) := by
  cases fuel with
  | zero => cases read
  | succ fuel =>
      have literal {document : Document} {found : Option (List Char)} (other : document ≠ .float x)
          (read : found.map (fun rest => (document, rest)) = some (.float x, rest)) : False := by
        obtain ⟨_, _, equality⟩ := Option.map_eq_some_iff.mp read
        exact other (Prod.mk.inj equality).1
      rw [readValue?] at read
      split at read
      · cases read
      · exact (literal Document.noConfusion read).elim
      · exact (literal Document.noConfusion read).elim
      · exact (literal Document.noConfusion read).elim
      · obtain ⟨⟨value, after⟩, _, equality⟩ := Option.map_eq_some_iff.mp read
        cases value <;> cases equality
      · split at read
        · cases read
        · obtain ⟨item, _, read⟩ := Option.bind_eq_some_iff.mp read
          obtain ⟨items, _, read⟩ := Option.bind_eq_some_iff.mp read
          cases read
      · split at read
        · cases read
        · obtain ⟨member, _, read⟩ := Option.bind_eq_some_iff.mp read
          obtain ⟨members, _, read⟩ := Option.bind_eq_some_iff.mp read
          cases read
      · exact read

end Json

namespace Number.Binary64

/-- The text of a number is read as the number. -/
def ReadsBack (x : Binary64) : Prop :=
  Json.ofText? x.text = some (.float x)

instance (x : Binary64) : Decidable x.ReadsBack :=
  inferInstanceAs (Decidable (Json.ofText? x.text = some (.float x)))

theorem eq_float_of_value?
    {limit : Nat} {document : Json.Document} {x : Binary64}
    (value : document.value? limit = some (.float x)) : document = .float x := by
  cases document <;> simp_all [Json.Document.value?]

theorem ReadsBack.takes {x : Binary64} (readsBack : x.ReadsBack) :
    ∃ first core, (first = '-' ∨ first.isDigit = true) ∧ x.text.toList = first :: core ∧
      Json.Takes Json.EndsNumeral Json.readNumber? (first :: core) (.float x) := by
  have figures := figures_text x
  have spelled : Json.Document.ofText? x.text = some (.float x) := by
    rw [ReadsBack, Json.ofText?] at readsBack
    split at readsBack
    · rename_i document spelled
      rw [spelled, eq_float_of_value? readsBack]
    · cases readsBack
  rw [Json.Document.ofText?] at spelled
  split at spelled
  · rename_i document rest read
    split at spelled
    · rename_i finished
      rw [Option.some_inj.mp spelled] at read
      have number := Json.readNumber?_of_readValue? read
      rw [Json.skipGap_figures figures] at number
      obtain ⟨first, core, start, shape, takes⟩ := Json.readNumber?_takes number
      -- What follows a numeral has no gaps either, so there is nothing.
      have left : Figures rest := fun c member =>
        figures c (by rw [shape]; exact List.mem_append_right _ member)
      rw [Json.skipGap_figures left, List.isEmpty_iff] at finished
      rw [finished, List.append_nil] at shape
      exact ⟨first, core, start, shape, takes⟩
    · cases spelled
  · cases spelled

end Number.Binary64

end SchemaDesign
