import Mathlib.Data.List.Infix
import SchemaDesign.Proofs.Sql.Cutting

/-!
# Texts that open nothing

A text without quotes, semicolons and marks that open a comment is not cut, unless its last
character opens a comment together with what follows.
-/

namespace SchemaDesign.Sql

/-- A text without quotes, semicolons and marks that open a comment. -/
structure OpensNothing (text : List Char) : Prop where
  noQuote : ∀ c ∈ text, isQuote c = false
  noSemicolon : ';' ∉ text
  noLineComment : ¬ ['-', '-'] <:+: text
  noBlockComment : ¬ ['/', '*'] <:+: text

-- That no character is a quote is decided over the text, and not over all characters.
instance (text : List Char) : Decidable (OpensNothing text) :=
  decidable_of_iff
    (text.any isQuote = false ∧ ';' ∉ text ∧ ¬ ['-', '-'] <:+: text ∧ ¬ ['/', '*'] <:+: text)
    ⟨fun ⟨noQuote, noSemicolon, noLine, noBlock⟩ =>
        ⟨fun c member => by simpa using List.any_eq_false.mp noQuote c member, noSemicolon, noLine,
          noBlock⟩,
      fun nothing =>
        ⟨List.any_eq_false.mpr fun c member => by simpa using nothing.noQuote c member,
          nothing.noSemicolon, nothing.noLineComment, nothing.noBlockComment⟩⟩

/-- A text with whose first character no mark that opens a comment ends. -/
def StartsApart (text : List Char) : Prop :=
  text.head? ≠ some '-' ∧ text.head? ≠ some '*'

instance (text : List Char) : Decidable (StartsApart text) :=
  inferInstanceAs (Decidable (_ ∧ _))

/-- A text that is not cut, and after which nothing is open, if what follows opens no comment
together with its last character. -/
def ClosedBefore (text : List Char) : Prop :=
  ∀ rest, StartsApart rest → pieces .code (text ++ rest) = prependText text (pieces .code rest)

section

variable {left right text : List Char} {c : Char}

theorem StartsApart.append (apart : StartsApart text) (nonempty : text ≠ []) (rest : List Char) :
    StartsApart (text ++ rest) := by
  cases text with
  | nil => exact absurd rfl nonempty
  | cons c text => exact apart

theorem OpensNothing.tail (nothing : OpensNothing (c :: text)) : OpensNothing text where
  noQuote other member := nothing.noQuote other (List.mem_cons_of_mem _ member)
  noSemicolon member := nothing.noSemicolon (List.mem_cons_of_mem _ member)
  noLineComment mark := nothing.noLineComment (mark.trans (List.infix_cons (List.infix_refl _)))
  noBlockComment mark := nothing.noBlockComment (mark.trans (List.infix_cons (List.infix_refl _)))

/-- No two characters of the text, and not its last with the next one, open a comment. -/
theorem OpensNothing.follows
    (nothing : OpensNothing (c :: text)) {rest : List Char} (apart : StartsApart rest) :
    (c = '-' → (text ++ rest).head? ≠ some '-') ∧ (c = '/' → (text ++ rest).head? ≠ some '*') := by
  cases text with
  | nil => exact ⟨fun _ => apart.1, fun _ => apart.2⟩
  | cons d text =>
      constructor
      · rintro rfl following
        cases following
        exact nothing.noLineComment ⟨[], text, rfl⟩
      · rintro rfl following
        cases following
        exact nothing.noBlockComment ⟨[], text, rfl⟩

theorem OpensNothing.closedBefore (nothing : OpensNothing text) : ClosedBefore text := by
  intro rest apart
  induction text with
  | nil => rfl
  | cons c text ih =>
      have noQuote := nothing.noQuote c List.mem_cons_self
      have noSemicolon : c ≠ ';' := by
        rintro rfl
        exact nothing.noSemicolon List.mem_cons_self
      obtain ⟨noLine, noBlock⟩ := nothing.follows apart
      have stays : Mode.next .code c (text ++ rest).head? = .code := by
        rw [Mode.next, noQuote, if_neg Bool.false_ne_true,
          if_neg (fun both => noLine both.1 both.2), if_neg (fun both => noBlock both.1 both.2)]
      rw [List.cons_append, pieces, if_neg (fun both => noSemicolon both.2), stays, ih nothing.tail]
      rfl

theorem Closed.closedBefore (closed : Closed text) : ClosedBefore text :=
  fun rest _ => closed rest

theorem Closed.append_before (first : Closed left) (second : ClosedBefore right) :
    ClosedBefore (left ++ right) := by
  intro rest apart
  rw [List.append_assoc, first, second rest apart, prependText_append]

theorem ClosedBefore.append
    (first : ClosedBefore left) (second : ClosedBefore right) (apart : StartsApart right) :
    ClosedBefore (left ++ right) := by
  intro rest restApart
  have between : StartsApart (right ++ rest) := by
    cases right with
    | nil => exact restApart
    | cons c right => exact apart
  rw [List.append_assoc, first _ between, second rest restApart, prependText_append]

/-- What is closed on its own closes a text to which it is added. -/
theorem ClosedBefore.append_closed
    (first : ClosedBefore left) (second : Closed right) (apart : StartsApart right)
    (nonempty : right ≠ []) : Closed (left ++ right) := by
  intro rest
  rw [List.append_assoc, first _ (apart.append nonempty rest), second, prependText_append]

end

/-! ## Strings -/

section

variable {left right text separator : String} {items : List String}

/-- Words with characters between them that open nothing and end nothing. -/
theorem Closed.plain (inert : text.toList.all isInert = true) : Closed text.toList :=
  .all_inert fun c member => List.all_eq_true.mp inert c member

theorem Closed.string_append (first : Closed left.toList) (second : Closed right.toList) :
    Closed (left ++ right).toList := by
  rw [String.toList_append]
  exact first.append second

theorem Closed.string_append_before
    (first : Closed left.toList) (second : ClosedBefore right.toList) :
    ClosedBefore (left ++ right).toList := by
  rw [String.toList_append]
  exact first.append_before second

theorem ClosedBefore.string_append
    (first : ClosedBefore left.toList) (second : ClosedBefore right.toList)
    (apart : StartsApart right.toList) : ClosedBefore (left ++ right).toList := by
  rw [String.toList_append]
  exact first.append second apart

theorem Closed.join (closed : ∀ item ∈ items, Closed item.toList) :
    Closed (String.join items).toList := by
  induction items with
  | nil =>
      rw [String.join_nil]
      exact .nil
  | cons item items ih =>
      rw [String.join_cons]
      have others := ih fun other member => closed other (List.mem_cons_of_mem _ member)
      exact (closed item List.mem_cons_self).string_append others

theorem Closed.intercalate
    (separated : Closed separator.toList) (closed : ∀ item ∈ items, Closed item.toList) :
    Closed (separator.intercalate items).toList := by
  induction items with
  | nil =>
      rw [String.intercalate_nil]
      exact .nil
  | cons item items ih =>
      have first := closed item List.mem_cons_self
      have others := ih fun other member => closed other (List.mem_cons_of_mem _ member)
      cases items with
      | nil => simpa using first
      | cons next rest =>
          rw [String.intercalate_cons_cons]
          exact (first.string_append separated).string_append others

theorem ClosedBefore.intercalate
    (separated : Closed separator.toList) (apart : StartsApart separator.toList)
    (nonempty : separator.toList ≠ []) (closed : ∀ item ∈ items, ClosedBefore item.toList) :
    ClosedBefore (separator.intercalate items).toList := by
  induction items with
  | nil =>
      rw [String.intercalate_nil]
      exact Closed.nil.closedBefore
  | cons item items ih =>
      have first := closed item List.mem_cons_self
      have others := ih fun other member => closed other (List.mem_cons_of_mem _ member)
      cases items with
      | nil => simpa using first
      | cons next rest =>
          rw [String.intercalate_cons_cons, String.toList_append, String.toList_append]
          exact (first.append_closed separated apart nonempty).append_before others

/-- Whether a character begins a statement, being no blank and opening no comment. -/
def beginsStatement (c : Char) : Bool :=
  !Text.isBlank c && c != '-' && c != '/'

/-- A closed text between words is cut from a script as it stands. -/
theorem Solid.of_closed
    {first middle last : String} (closed : Closed (first ++ middle ++ last).toList)
    (begins : first.toList.head?.any beginsStatement = true)
    (ends : last.toList.getLast?.any (fun c => !Text.isBlank c) = true) :
    Solid (first ++ middle ++ last).toList := by
  have shape : (first ++ middle ++ last).toList = first.toList ++ middle.toList ++ last.toList := by
    simp
  refine ⟨closed, ?_, ?_⟩
  · cases found : first.toList.head? with
    | none =>
        rw [found] at begins
        cases begins
    | some c =>
        obtain ⟨rest, split⟩ := List.head?_eq_some_iff.mp found
        rw [found] at begins
        simp only [Option.any_some, beginsStatement, Bool.and_eq_true, Bool.not_eq_true',
          bne_iff_ne] at begins
        refine ⟨c, rest ++ middle.toList ++ last.toList, ?_, begins.1.1, begins.1.2, begins.2⟩
        rw [shape, split]
        rfl
  · cases found : last.toList.getLast? with
    | none =>
        rw [found] at ends
        cases ends
    | some c =>
        obtain ⟨start, split⟩ := List.getLast?_eq_some_iff.mp found
        rw [found] at ends
        refine ⟨first.toList ++ middle.toList ++ start, c, ?_, by simpa using ends⟩
        simp only [shape, split, List.append_assoc]

end

end SchemaDesign.Sql
