/-!
# Names compared without regard to case

Names of tables and columns, and the keywords of statements, are the same when they differ in the
case of the letters `A` to `Z` only.  Letters outside that range always count as they are.
-/

namespace SchemaDesign.Text

/-- The characters of a string with the capitals `A` to `Z` made small. -/
def foldCase (s : String) : List Char :=
  s.toList.map Char.toLower

/-- Whether two strings agree but for the case of `A` to `Z`. -/
def same (left right : String) : Bool :=
  foldCase left == foldCase right

theorem same_iff {left right : String} :
    same left right = true ↔ foldCase left = foldCase right := by
  simp [same]

@[simp] theorem same_refl (s : String) : same s s = true := by
  simp [same]

theorem same_comm (left right : String) : same left right = same right left := by
  simp [same, Bool.beq_comm]

theorem same_trans
    {left middle right : String}
    (first : same left middle = true) (second : same middle right = true) :
    same left right = true := by
  rw [same_iff] at *
  rw [first, second]

end SchemaDesign.Text
