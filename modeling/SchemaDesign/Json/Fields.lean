import SchemaDesign.Json.Document

/-!
# Records in documents

A record is written as an object of named fields, in any order and with unknown members passed
over, or as the array of its fields in their order.  Alternatives without data are written as their
names, or as an object with the name alone and the value null.
-/

namespace SchemaDesign.Json

/-- The fields that a document gives to a record. -/
structure Fields where
  /-- Whether the fields were listed by place. -/
  listed : Bool
  members : List (String × Document)

namespace Fields

/-- The known members of an object, if no name is repeated or without a value. -/
def named? (names : List String) :
    List (Option String × Document) → Option (List (String × Document))
  | [] => some []
  | (name, document) :: members => do
      let name ← name
      let rest ← named? names members
      if !names.contains name then some rest
      else if rest.any (fun member => member.1 == name) then none
      else some ((name, document) :: rest)

/-- The fields of a record with the given names. -/
def ofDocument? (names : List String) : Document → Option Fields
  | .object members => (named? names members).map fun members => { listed := false, members }
  | .array items =>
      if items.length ≤ names.length then some { listed := true, members := names.zip items }
      else none
  | _ => none

/-- The value of a field that must be present. -/
def required (fields : Fields) (name : String) (read : Document → Option α) : Option α :=
  (fields.members.lookup name).bind read

/-- The value of a field that may be null, and may be absent where fields are named. -/
def optional (fields : Fields) (name : String) (read : Document → Option α) :
    Option (Option α) :=
  match fields.members.lookup name with
  | none => if fields.listed then none else some none
  | some .null => some none
  | some document => (read document).map some

/-- The value of a field that has a default where it is absent. -/
def defaulted (fields : Fields) (name : String) (default : α) (read : Document → Option α) :
    Option α :=
  match fields.members.lookup name with
  | none => some default
  | some document => read document

end Fields

namespace Document

/-- A truth value. -/
def bool? : Document → Option Bool
  | .bool b => some b
  | _ => none

/-- A text. -/
def string? : Document → Option String
  | .string s => some s
  | _ => none

/-- A natural number of at most 64 bits. -/
def nat? : Document → Option Nat
  | .integer n => if 0 ≤ n then some n.toNat else none
  | _ => none

/-- A number, integers rounded. -/
def float? : Document → Option Number.Binary64
  | .integer n => some (.ofInt n)
  | .float x => some x
  | _ => none

/-- The items of an array, each read. -/
def list? (read : Document → Option α) : Document → Option (List α)
  | .array items => items.mapM read
  | _ => none

/-- The name of an alternative without data. -/
def tag? : Document → Option String
  | .string s => some s
  | .object [(some name, .null)] => some name
  | _ => none

/-- The alternative of a list whose name a document gives. -/
def choice? (nameOf : α → String) (alternatives : List α) (document : Document) : Option α :=
  document.tag?.bind fun name => alternatives.find? fun alternative => nameOf alternative == name

end Document

end SchemaDesign.Json
