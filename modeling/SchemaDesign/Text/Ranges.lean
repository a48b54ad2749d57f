/-!
# Sets of characters as ranges
-/

namespace SchemaDesign.Text

/-- Whether a character's code lies in one of the closed ranges of an ascending table. -/
def inRanges : List (Nat × Nat) → Char → Bool
  | [], _ => false
  | (first, last) :: ranges, c =>
      if c.toNat < first then false else c.toNat ≤ last || inRanges ranges c

end SchemaDesign.Text
