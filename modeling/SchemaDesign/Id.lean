import SchemaDesign.Json.Document

/-!
# Identities

Every entity of a schema has an identity of its own kind, a number of 128 bits that is shown as a
UUID.
-/

namespace SchemaDesign

/-- The kinds of entities that have an identity. -/
inductive EntityKind where
  | table
  | column
  | relationship
  | index
  | constraint
  | user
  | permission
deriving DecidableEq, Repr

/-- The identity of an entity of one kind. -/
structure Id (kind : EntityKind) where
  number : Nat
deriving DecidableEq, Repr, Inhabited

/-- The identity of a table; the other kinds of entities follow. -/
abbrev TableId := Id .table
abbrev ColumnId := Id .column
abbrev RelationshipId := Id .relationship
abbrev IndexId := Id .index
abbrev ConstraintId := Id .constraint
abbrev UserId := Id .user
abbrev PermissionId := Id .permission

namespace Id

/-- The hexadecimal digits of a number in small letters, with zeros before them up to a width. -/
def hexPadded (width n : Nat) : List Char :=
  let all := Nat.toDigits 16 n
  List.replicate (width - all.length) '0' ++ all

/-- The number as a UUID in small letters: groups of 8, 4, 4, 4 and 12 digits. -/
def text (id : Id kind) : String :=
  let all := hexPadded 32 id.number
  let fromEnd (skip size : Nat) : List Char := (all.take (all.length - skip)).drop
    (all.length - skip - size)
  String.ofList (all.take (all.length - 24) ++ '-' :: fromEnd 20 4 ++ '-' :: fromEnd 16 4 ++
    '-' :: fromEnd 12 4 ++ '-' :: fromEnd 0 12)

/-- The value of a run of hexadecimal digits. -/
def hexValue? (digits : List Char) : Option Nat :=
  digits.foldlM (fun value c => (Json.hexValue? c).map fun digit => value * 16 + digit) 0

/-- The number of a UUID written with hyphens. -/
def ofHyphenated? (text : List Char) : Option Nat :=
  if text.length = 36 ∧ [8, 13, 18, 23].all (fun place => text[place]? == some '-') then
    hexValue? (text.take 8 ++ (text.drop 9).take 4 ++ (text.drop 14).take 4 ++
      (text.drop 19).take 4 ++ text.drop 24)
  else none

/-- The start of a UUID that is written as a uniform resource name. -/
def urnStart : List Char := "urn:uuid:".toList

/-- The identity that a UUID names: 32 digits alone, or with hyphens, which may stand in braces or
after `urn:uuid:` in any letter case. -/
def ofText? (source : String) : Option (Id kind) :=
  let text := source.toList
  let number :=
    if text.length = 32 then hexValue? text
    else if text.length = 36 then ofHyphenated? text
    else if text.length = 38 ∧ text.head? = some '{' ∧ text.getLast? = some '}' then
      ofHyphenated? ((text.drop 1).take 36)
    else if text.length = 45 ∧ (text.take 9).map Char.toLower = urnStart then
      ofHyphenated? (text.drop 9)
    else none
  number.map fun number => { number }

end Id

end SchemaDesign
