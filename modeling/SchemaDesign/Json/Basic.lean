import SchemaDesign.Number.Decimal

/-!
# JSON values

Values keep integers apart from other numbers and keep the members of an object in the order in
which their names first came.
-/

namespace SchemaDesign

/-- A JSON value.  Integers lie between `-2 ^ 63` and `2 ^ 64 - 1`. -/
inductive Json where
  | null
  | bool (value : Bool)
  | integer (value : Int)
  | float (value : Number.Binary64)
  | string (value : String)
  | array (items : List Json)
  | object (members : List (String × Json))
deriving Inhabited, Repr

namespace Json

mutual

/-- Whether two values are written alike. -/
def alike : Json → Json → Bool
  | .null, .null => true
  | .bool a, .bool b => a == b
  | .integer a, .integer b => a == b
  | .float a, .float b => a == b
  | .string a, .string b => a == b
  | .array a, .array b => alikeItems a b
  | .object a, .object b => alikeMembers a b
  | _, _ => false

/-- Whether two lists hold values that are written alike. -/
def alikeItems : List Json → List Json → Bool
  | [], [] => true
  | a :: as, b :: bs => alike a b && alikeItems as bs
  | _, _ => false

/-- Whether two lists hold the same names with values that are written alike. -/
def alikeMembers : List (String × Json) → List (String × Json) → Bool
  | [], [] => true
  | (m, a) :: as, (n, b) :: bs => m == n && alike a b && alikeMembers as bs
  | _, _ => false

end

instance : BEq Json := ⟨alike⟩

/-- The members with one more: a new name comes last, a known one keeps its place. -/
def put (name : String) (value : Json) : List (String × Json) → List (String × Json)
  | [] => [(name, value)]
  | (known, old) :: members =>
      if known = name then (known, value) :: members
      else (known, old) :: put name value members

/-- The value that an object has under a name. -/
def member? (name : String) : Json → Option Json
  | .object members => members.lookup name
  | _ => none

/-- The value of a natural number. -/
def nat (n : Nat) : Json :=
  .integer n

/-- The value of a text that may be missing. -/
def ofString? : Option String → Json
  | none => .null
  | some s => .string s

/-- The array of some texts. -/
def strings (texts : List String) : Json :=
  .array (texts.map .string)

mutual

theorem alike_iff : ∀ a b : Json, alike a b = true ↔ a = b
  | .null, b => by cases b <;> simp [alike]
  | .bool _, b => by cases b <;> simp [alike]
  | .integer _, b => by cases b <;> simp [alike]
  | .float _, b => by cases b <;> simp [alike]
  | .string _, b => by cases b <;> simp [alike]
  | .array xs, b => by
      cases b <;> simp [alike]
      exact alikeItems_iff xs _
  | .object xs, b => by
      cases b <;> simp [alike]
      exact alikeMembers_iff xs _

theorem alikeItems_iff : ∀ as bs : List Json, alikeItems as bs = true ↔ as = bs
  | [], bs => by cases bs <;> simp [alikeItems]
  | a :: as, bs => by
      cases bs with
      | nil => simp [alikeItems]
      | cons b bs => simp [alikeItems, alike_iff a b, alikeItems_iff as bs]

theorem alikeMembers_iff :
    ∀ as bs : List (String × Json), alikeMembers as bs = true ↔ as = bs
  | [], bs => by cases bs <;> simp [alikeMembers]
  | (m, a) :: as, bs => by
      cases bs with
      | nil => simp [alikeMembers]
      | cons b bs =>
          obtain ⟨n, b⟩ := b
          simp [alikeMembers, alike_iff a b, alikeMembers_iff as bs, and_assoc]

end

instance : DecidableEq Json := fun a b =>
  if equal : alike a b = true then isTrue ((alike_iff a b).1 equal)
  else isFalse fun h => equal ((alike_iff a b).2 h)

end Json

end SchemaDesign
