import Mathlib.Data.List.DropRight
import Mathlib.Data.List.Infix
import SchemaDesign.Proofs.Validation.SuggestedNames

/-!
# Names in snake case

A name in snake case has small letters and digits, and single underscores between them.  Every text
is brought into this form, and a text that has it already is not changed.
-/

namespace SchemaDesign

namespace Text

variable {drop : Char → Bool} {text : List Char} {c : Char}

theorem trimMatching_isInfix (drop : Char → Bool) (text : List Char) :
    trimMatching drop text <:+: text := by
  have shorter : (text.dropWhile drop).rdropWhile drop <+: text.dropWhile drop :=
    List.rdropWhile_prefix drop _
  exact shorter.isInfix.trans (List.dropWhile_suffix drop).isInfix

theorem head?_trimMatching (first : (trimMatching drop text).head? = some c) : drop c = false := by
  have shorter : trimMatching drop text <+: text.dropWhile drop := List.rdropWhile_prefix drop _
  have kept := List.head?_dropWhile_not drop text
  rw [List.head?_eq_some_iff] at first
  obtain ⟨rest, first⟩ := first
  obtain ⟨more, whole⟩ := shorter
  rw [← whole, first] at kept
  exact kept

theorem getLast?_trimMatching (last : (trimMatching drop text).getLast? = some c) :
    drop c = false := by
  have nonempty : trimMatching drop text ≠ [] := by
    intro empty
    rw [empty] at last
    cases last
  have isLast : (trimMatching drop text).getLast nonempty = c := by
    rw [List.getLast?_eq_some_getLast nonempty] at last
    exact Option.some.inj last
  have kept := List.rdropWhile_last_not drop (text.dropWhile drop) nonempty
  rw [Bool.eq_false_iff, ← isLast]
  exact kept

/-- A text is not trimmed if its first and its last character are kept. -/
theorem trimMatching_eq_self
    (first : ∀ c, text.head? = some c → drop c = false)
    (last : ∀ c, text.getLast? = some c → drop c = false) : trimMatching drop text = text := by
  have start : text.dropWhile drop = text := by
    cases text with
    | nil => rfl
    | cons c rest => exact List.dropWhile_cons_of_neg (ne_true_of_eq_false (first c rfl))
  have finish : text.rdropWhile drop = text := by
    rw [List.rdropWhile_eq_self_iff]
    intro nonempty
    exact ne_true_of_eq_false (last _ (List.getLast?_eq_some_getLast nonempty))
  calc
    trimMatching drop text = (text.dropWhile drop).rdropWhile drop := rfl
    _ = text := by rw [start, finish]

end Text

namespace Identifier

variable {progress next : Progress} {text : List Char} {c : Char}

/-- The text has only small letters, digits and underscores, and no underscore of it stands first,
last or beside another. -/
structure IsSnakeCase (text : List Char) : Prop where
  plain : ∀ c ∈ text, isPlain c = true
  start : text.head? ≠ some '_'
  finish : text.getLast? ≠ some '_'
  single : ¬ ['_', '_'] <:+: text

/-- The text can go on with what has been written: it has no underscores side by side, and none at
the start if nothing or an underscore was written before. -/
structure Continues (progress : Progress) (text : List Char) : Prop where
  start : progress = .start ∨ progress = .gap → text.head? ≠ some '_'
  single : ¬ ['_', '_'] <:+: text

/-! ## Underscores that are written -/

theorem underscores_infix_cons_iff :
    ['_', '_'] <:+: c :: text ↔ c = '_' ∧ text.head? = some '_' ∨ ['_', '_'] <:+: text := by
  rw [List.infix_cons_iff, List.cons_prefix_cons, List.cons_prefix_iff, List.head?_eq_some_iff]
  simp [eq_comm]

theorem Continues.nil : Continues progress [] := by
  constructor
  · simp
  · simp

theorem Continues.cons (noUnderscore : c ≠ '_') (continues : Continues next text) :
    Continues progress (c :: text) := by
  constructor
  · intro _
    simpa using noUnderscore
  · rw [underscores_infix_cons_iff]
    rintro (⟨underscore, _⟩ | later)
    · exact noUnderscore underscore
    · exact continues.single later

theorem Continues.underscore
    (noGap : ¬(progress = .start ∨ progress = .gap)) (continues : Continues .gap text) :
    Continues progress ('_' :: text) := by
  constructor
  · intro gap
    exact absurd gap noGap
  · rw [underscores_infix_cons_iff]
    rintro (⟨_, beside⟩ | later)
    · exact continues.start (.inr rfl) beside
    · exact continues.single later

theorem Continues.tail (continues : Continues progress (c :: text)) :
    ¬ ['_', '_'] <:+: text := by
  intro later
  exact continues.single (underscores_infix_cons_iff.mpr (.inr later))

theorem toLower_ne_underscore (plain : c.isAlphanum = true) : c.toLower ≠ '_' := by
  have different := toLower_beq_underscore plain
  simpa using different

/-- Whatever has been written, what is written next can follow it. -/
theorem continues_snakeFrom (progress : Progress) (text : List Char) :
    Continues progress (snakeFrom progress text) := by
  induction text generalizing progress with
  | nil => exact .nil
  | cons c text ih =>
      rw [snakeFrom]
      split
      · rename_i upper
        have letter : c.isAlpha = true := Bool.or_eq_true_iff.mpr (.inl upper)
        have plain : c.isAlphanum = true := Bool.or_eq_true_iff.mpr (.inl letter)
        split
        · rename_i small
          have noGap : ¬(progress = .start ∨ progress = .gap) := by simp [small]
          exact .underscore noGap ((ih .capital).cons (toLower_ne_underscore plain))
        · exact (ih .capital).cons (toLower_ne_underscore plain)
      · rename_i notUpper
        split
        · rename_i plain
          have noUnderscore := toLower_ne_underscore plain
          rw [toLower_eq_self notUpper] at noUnderscore
          exact (ih .small).cons noUnderscore
        · split
          · exact ih progress
          · rename_i noGap
            exact .underscore noGap (ih .gap)

theorem isSnakeCase_snakeCase (name : String) : IsSnakeCase (snakeCase name).toList := by
  let written := snakeFrom .start (Text.trim name.toList)
  have trimmed : (snakeCase name).toList = Text.trimMatching (· == '_') written :=
    String.toList_ofList
  have inside := Text.trimMatching_isInfix (· == '_') written
  rw [trimmed]
  constructor
  · intro c member
    exact isPlain_of_mem_snakeFrom (inside.subset member)
  · intro first
    have kept := Text.head?_trimMatching first
    cases kept
  · intro last
    have kept := Text.getLast?_trimMatching last
    cases kept
  · intro beside
    exact (continues_snakeFrom .start _).single (beside.trans inside)

/-! ## Texts that are not changed -/

theorem isAlphanum_of_isPlain (plain : isPlain c = true) (noUnderscore : c ≠ '_') :
    c.isAlphanum = true := by
  simp only [isPlain, Bool.or_eq_true, beq_iff_eq, noUnderscore, or_false] at plain
  rcases plain with lower | digit
  · have letter : c.isAlpha = true := Bool.or_eq_true_iff.mpr (.inr lower)
    exact Bool.or_eq_true_iff.mpr (.inl letter)
  · exact Bool.or_eq_true_iff.mpr (.inr digit)

theorem not_isUpper_of_isPlain (plain : isPlain c = true) (noUnderscore : c ≠ '_') :
    ¬ c.isUpper = true := by
  have checked : isPlain c = true → ¬ c.isUpper = true :=
    alphanum_induction (motive := fun c => isPlain c = true → ¬ c.isUpper = true)
      (by decide +kernel) (isAlphanum_of_isPlain plain noUnderscore)
  exact checked plain

theorem isBlank_of_isPlain (plain : isPlain c = true) : Text.isBlank c = false := by
  by_cases underscore : c = '_'
  · rw [underscore]
    decide
  · exact isBlank_eq_false (isAlphanum_of_isPlain plain underscore)

theorem snakeFrom_eq_self
    (plain : ∀ c ∈ text, isPlain c = true) (continues : Continues progress text) :
    snakeFrom progress text = text := by
  induction text generalizing progress with
  | nil => rfl
  | cons c text ih =>
      have first := plain c List.mem_cons_self
      have rest : ∀ d ∈ text, isPlain d = true := fun d member =>
        plain d (List.mem_cons_of_mem c member)
      by_cases underscore : c = '_'
      · subst underscore
        have noGap : ¬(progress = .start ∨ progress = .gap) := fun gap => continues.start gap rfl
        have gapped : Continues .gap text := by
          constructor
          · intro _ beside
            exact continues.single (underscores_infix_cons_iff.mpr (.inl ⟨rfl, beside⟩))
          · exact continues.tail
        rw [snakeFrom, if_neg (by decide), if_neg (by decide), if_neg noGap, ih rest gapped]
      · have written : Continues .small text := by
          constructor
          · intro gap
            cases gap <;> contradiction
          · exact continues.tail
        rw [snakeFrom, if_neg (not_isUpper_of_isPlain first underscore),
          if_pos (isAlphanum_of_isPlain first underscore), ih rest written]

theorem snakeCase_eq_self {name : String} (snake : IsSnakeCase name.toList) :
    snakeCase name = name := by
  have solid : Text.trim name.toList = name.toList := by
    apply Text.trimMatching_eq_self
    · intro c first
      exact isBlank_of_isPlain (snake.plain c (List.mem_of_head? first))
    · intro c last
      exact isBlank_of_isPlain (snake.plain c (List.mem_of_getLast? last))
  have written : snakeFrom .start name.toList = name.toList :=
    snakeFrom_eq_self snake.plain ⟨fun _ => snake.start, snake.single⟩
  have bounded : Text.trimMatching (· == '_') name.toList = name.toList := by
    apply Text.trimMatching_eq_self
    · intro c first
      rw [beq_eq_false_iff_ne]
      rintro rfl
      exact snake.start first
    · intro c last
      rw [beq_eq_false_iff_ne]
      rintro rfl
      exact snake.finish last
  rw [snakeCase, solid, written, bounded, String.ofList_toList]

/-- Snake case is a normal form: every name is brought into it, no further change is made then, and
the names that have it are the only ones that are not changed. -/
theorem snakeCase_normal_form (name : String) :
    IsSnakeCase (snakeCase name).toList ∧ snakeCase (snakeCase name) = snakeCase name ∧
      (snakeCase name = name ↔ IsSnakeCase name.toList) := by
  have snake := isSnakeCase_snakeCase name
  refine ⟨snake, snakeCase_eq_self snake, ?_⟩
  constructor
  · intro unchanged
    rwa [unchanged] at snake
  · exact snakeCase_eq_self

/-- Capitals in a row begin one word, and what stands between words is one underscore. -/
example : snakeCase " HTTPServer - v2 " = "httpserver_v2" := by decide

end Identifier

end SchemaDesign
