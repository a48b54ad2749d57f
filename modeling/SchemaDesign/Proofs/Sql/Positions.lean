import SchemaDesign.Sql.Script

/-!
# Places in texts that are put together

A place in the first of two texts is the same place in both together.  A place in the second keeps
its distance to where that text begins, and on the lines after the first also its column.
-/

namespace SchemaDesign.Sql

variable {left right : List Char}

theorem byteLength_append (left right : List Char) :
    byteLength (left ++ right) = byteLength left + byteLength right := by
  induction left with
  | nil => exact (Nat.zero_add _).symm
  | cons c left ih =>
      rw [List.cons_append, byteLength, byteLength, ih, Nat.add_assoc]

/-! ## The text before a place -/

theorem beforeOffset_cons_of_pos {offset : Nat} (positive : 0 < offset) (c : Char) :
    beforeOffset offset (c :: right) = c :: beforeOffset (offset - c.utf8Size) right := by
  cases offset with
  | zero => cases positive
  | succ offset => rfl

theorem beforeOffset_append (left right : List Char) (offset : Nat) :
    beforeOffset (byteLength left + offset) (left ++ right) =
      left ++ beforeOffset offset right := by
  induction left with
  | nil => exact congrArg (beforeOffset · right) (Nat.zero_add offset)
  | cons c left ih =>
      have size := c.utf8Size_pos
      have rest : c.utf8Size + byteLength left + offset - c.utf8Size =
          byteLength left + offset := by
        omega
      rw [List.cons_append, byteLength, beforeOffset_cons_of_pos (by omega), rest, ih]
      rfl

theorem beforeOffset_append_of_le
    {offset : Nat} (within : offset ≤ byteLength left) :
    beforeOffset offset (left ++ right) = beforeOffset offset left := by
  induction left generalizing offset with
  | nil =>
      cases Nat.le_zero.mp within
      cases right with
      | nil => rfl
      | cons c right => rfl
  | cons c left ih =>
      rcases Nat.eq_zero_or_pos offset with rfl | positive
      · rfl
      · rw [byteLength] at within
        rw [List.cons_append, beforeOffset_cons_of_pos positive, beforeOffset_cons_of_pos positive,
          ih (by omega)]

theorem advance_append (line column : Nat) (left right : List Char) :
    advance line column (left ++ right) =
      advance (advance line column left).1 (advance line column left).2 right := by
  induction left generalizing line column with
  | nil => rfl
  | cons c left ih =>
      rw [List.cons_append, advance, advance]
      split
      · exact ih (line + 1) 1
      · exact ih line (column + 1)

/-! ## Places after texts -/

namespace SourcePosition

/-- The place where every text begins. -/
def origin : SourcePosition where
  line := 1
  column := 1
  offset := 0

/-- The place after a text that begins at a place. -/
def after (place : SourcePosition) (text : List Char) : SourcePosition where
  line := (advance place.line place.column text).1
  column := (advance place.line place.column text).2
  offset := place.offset + byteLength text

/-- A place in a text, when that text stands at a place of another. -/
def shifted (base place : SourcePosition) : SourcePosition where
  line := base.line + (place.line - 1)
  column := if place.line = 1 then base.column + (place.column - 1) else place.column
  offset := base.offset + place.offset

variable {place : SourcePosition}

theorem after_append (place : SourcePosition) (left right : List Char) :
    place.after (left ++ right) = (place.after left).after right := by
  simp [after, advance_append, byteLength_append, Nat.add_assoc]

theorem after_singleton (place : SourcePosition) (c : Char) :
    place.after [c] =
      if c = '\n' then ⟨place.line + 1, 1, place.offset + c.utf8Size⟩
      else ⟨place.line, place.column + 1, place.offset + c.utf8Size⟩ := by
  rw [after, byteLength, byteLength, Nat.add_zero, advance]
  split
  · rfl
  · rfl

theorem shifted_origin (base : SourcePosition) : base.shifted origin = base :=
  rfl

/-- Lines and columns are counted from 1. -/
structure Counts (place : SourcePosition) : Prop where
  line : 1 ≤ place.line
  column : 1 ≤ place.column

theorem Counts.after (counts : place.Counts) (text : List Char) : (place.after text).Counts := by
  induction text generalizing place with
  | nil => exact counts
  | cons c text ih =>
      have first : (place.after [c]).Counts := by
        rw [after_singleton]
        split
        · exact ⟨Nat.le_add_left 1 _, Nat.le_refl 1⟩
        · exact ⟨counts.line, Nat.le_add_left 1 _⟩
      rw [← List.singleton_append, after_append]
      exact ih first

/-- A shifted place goes on as the place does. -/
theorem after_shifted (base : SourcePosition) (counts : place.Counts) (text : List Char) :
    (base.shifted place).after text = base.shifted (place.after text) := by
  induction text generalizing place with
  | nil => rfl
  | cons c text ih =>
      have line := counts.line
      have column := counts.column
      have first : (base.shifted place).after [c] = base.shifted (place.after [c]) := by
        rw [after_singleton, after_singleton]
        split
        · have later : place.line + 1 ≠ 1 := by omega
          simp only [shifted, if_neg later, mk.injEq, true_and]
          omega
        · simp only [shifted, mk.injEq, true_and]
          split
          · omega
          · omega
      rw [← List.singleton_append, after_append, after_append, first]
      exact ih (counts.after [c])

theorem counts_origin : origin.Counts :=
  ⟨Nat.le_refl 1, Nat.le_refl 1⟩

theorem ofOffset_eq (source : List Char) (offset : Nat) :
    ofOffset source offset = { origin.after (beforeOffset offset source) with offset } :=
  rfl

/-- A place in the second of two texts is shifted by the first. -/
theorem ofOffset_append (left right : List Char) (offset : Nat) :
    ofOffset (left ++ right) (byteLength left + offset) =
      (origin.after left).shifted (ofOffset right offset) := by
  have shift := after_shifted (origin.after left) counts_origin (beforeOffset offset right)
  rw [shifted_origin] at shift
  rw [ofOffset_eq, ofOffset_eq, beforeOffset_append, after_append, shift]
  simp [shifted, after, origin]

/-- A place in the first of two texts is not shifted by the second. -/
theorem ofOffset_append_of_le {offset : Nat} (within : offset ≤ byteLength left) :
    ofOffset (left ++ right) offset = ofOffset left offset := by
  rw [ofOffset_eq, ofOffset_eq, beforeOffset_append_of_le within]

end SourcePosition

end SchemaDesign.Sql
