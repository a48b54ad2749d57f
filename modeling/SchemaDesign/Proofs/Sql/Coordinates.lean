import Mathlib.Data.List.DropRight
import Mathlib.Data.Prod.Lex
import SchemaDesign.Proofs.Sql.StatementPlaces

/-!
# Lines and columns as coordinates

Places between the characters of a text have lines and columns that are ordered as the places are.
The line of a place counts the line feeds before it, and the column the characters since the last of
them.
-/

namespace SchemaDesign.Sql

namespace SourcePosition

/-- The line and the column of a place, to be compared by the line first. -/
def coordinates (place : SourcePosition) : ℕ ×ₗ ℕ :=
  toLex (place.line, place.column)

/-- The place between two characters of a text, or at one of its ends. -/
def ofPos {source : String} (place : source.Pos) : SourcePosition :=
  .ofOffset source.toList place.offset.byteIdx

/-! ## Later places -/

theorem coordinates_lt_iff {first second : SourcePosition} :
    first.coordinates < second.coordinates ↔
      first.line < second.line ∨ first.line = second.line ∧ first.column < second.column :=
  Prod.Lex.toLex_lt_toLex

theorem coordinates_lt_after_singleton (place : SourcePosition) (c : Char) :
    place.coordinates < (place.after [c]).coordinates := by
  rw [coordinates_lt_iff, after_singleton]
  split
  · left
    exact Nat.lt_succ_self place.line
  · right
    exact ⟨rfl, Nat.lt_succ_self place.column⟩

/-- The place after a text is behind the one where it begins. -/
theorem coordinates_lt_after
    (place : SourcePosition) {text : List Char} (nonempty : text ≠ []) :
    place.coordinates < (place.after text).coordinates := by
  induction text generalizing place with
  | nil => exact absurd rfl nonempty
  | cons c text ih =>
      have first := coordinates_lt_after_singleton place c
      cases text with
      | nil => exact first
      | cons next text =>
          rw [← List.singleton_append, after_append]
          exact first.trans (ih (place.after [c]) (List.cons_ne_nil next text))

/-! ## Lines and columns -/

theorem line_after (place : SourcePosition) (text : List Char) :
    (place.after text).line = place.line + text.count '\n' := by
  induction text generalizing place with
  | nil => rfl
  | cons c text ih =>
      rw [← List.singleton_append, after_append, ih, after_singleton, List.count_append]
      by_cases newline : c = '\n'
      · simp [newline, Nat.add_assoc]
      · simp [newline]

theorem column_after_origin (text : List Char) :
    (origin.after text).column = 1 + (text.rtakeWhile (· != '\n')).length := by
  induction text using List.reverseRecOn with
  | nil => rfl
  | append_singleton text c ih =>
      rw [after_append, after_singleton, List.rtakeWhile_concat]
      by_cases newline : c = '\n'
      · simp [newline]
      · simp [newline, ih, Nat.add_assoc]

/-! ## Places in a text -/

variable {source : String} {first second : source.Pos}

theorem ofOffset_byteLength (left right : List Char) :
    ofOffset (left ++ right) (byteLength left) = origin.after left := by
  rw [ofOffset_eq, beforeOffset_byteLength]
  simp [after, origin]

theorem ofPos_eq_after {place : source.Pos} {before behind : String}
    (splits : place.Splits before behind) : ofPos place = origin.after before.toList := by
  have offset : place.offset.byteIdx = byteLength before.toList := by
    rw [splits.offset_eq_rawEndPos, byteLength_toList]
    rfl
  rw [ofPos, offset, splits.eq_append, String.toList_append]
  exact ofOffset_byteLength before.toList behind.toList

/-- There are characters between two places. -/
theorem exists_between {firstBefore firstBehind secondBefore secondBehind : String}
    (earlier : first < second) (firstSplits : first.Splits firstBefore firstBehind)
    (secondSplits : second.Splits secondBefore secondBehind) :
    ∃ between, between ≠ [] ∧ secondBefore.toList = firstBefore.toList ++ between := by
  have whole : firstBefore.toList ++ firstBehind.toList =
      secondBefore.toList ++ secondBehind.toList := by
    rw [← String.toList_append, ← String.toList_append, ← firstSplits.eq_append,
      secondSplits.eq_append]
  have shorter : byteLength firstBefore.toList < byteLength secondBefore.toList := by
    rw [byteLength_toList, byteLength_toList]
    rw [String.Pos.lt_iff, firstSplits.offset_eq_rawEndPos, secondSplits.offset_eq_rawEndPos]
      at earlier
    exact earlier
  rcases List.append_eq_append_iff.mp whole with ⟨between, split, _⟩ | ⟨excess, split, _⟩
  · refine ⟨between, ?_, split⟩
    rintro rfl
    rw [split, List.append_nil] at shorter
    exact absurd shorter (Nat.lt_irrefl _)
  · rw [split, byteLength_append] at shorter
    omega

theorem coordinates_ofPos_lt (earlier : first < second) :
    (ofPos first).coordinates < (ofPos second).coordinates := by
  obtain ⟨between, nonempty, split⟩ := exists_between earlier first.splits second.splits
  rw [ofPos_eq_after first.splits, ofPos_eq_after second.splits, split, after_append]
  exact coordinates_lt_after _ nonempty

theorem lt_iff_coordinates_lt :
    first < second ↔ (ofPos first).coordinates < (ofPos second).coordinates := by
  constructor
  · exact coordinates_ofPos_lt
  · intro ordered
    rcases Nat.lt_trichotomy first.offset.byteIdx second.offset.byteIdx with
      earlier | same | later
    · exact String.Pos.lt_iff.mpr earlier
    · have equal : first = second := String.Pos.ext (String.Pos.Raw.ext same)
      rw [equal] at ordered
      exact absurd ordered (lt_irrefl _)
    · have reversed := coordinates_ofPos_lt (String.Pos.lt_iff.mpr later)
      exact absurd ordered reversed.asymm

/-- A place in a text is before another one exactly if its line and column are.  The line is one
more than the number of line feeds before the place, and the column one more than the number of
characters since the last of them. -/
theorem coordinates_of_places (source : String) :
    (∀ first second : source.Pos,
      first < second ↔ (ofPos first).coordinates < (ofPos second).coordinates) ∧
    ∀ place : source.Pos,
      (ofPos place).line = 1 + (source.sliceTo place).copy.toList.count '\n' ∧
      (ofPos place).column =
        1 + ((source.sliceTo place).copy.toList.rtakeWhile (· != '\n')).length := by
  constructor
  · intro first second
    exact lt_iff_coordinates_lt
  · intro place
    rw [ofPos_eq_after place.splits]
    exact ⟨line_after origin _, column_after_origin _⟩

/-- Lines and columns do not depend on how many bytes the characters have. -/
example : SourcePosition.ofOffset "é\nüö".toList 5 = ⟨2, 2, 5⟩ := by decide

end SourcePosition

end SchemaDesign.Sql
