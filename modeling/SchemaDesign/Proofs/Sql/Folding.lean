import SchemaDesign.Sql.Parser
import Mathlib.Data.List.Forall2

/-!
# Statements up to letter case

Two runs of a reader are compared on tokens whose words differ in the case of the letters `A` to
`Z` only.  What the runs give agrees if it is the same once these letters are made small in all of
its texts.
-/

namespace SchemaDesign

namespace Text

theorem toList_toLower (text : String) : text.toLower.toList = text.toList.map Char.toLower :=
  String.toList_map

theorem same_iff_toLower {left right : String} :
    same left right = true ↔ left.toLower = right.toLower := by
  rw [same_iff, ← String.toList_inj, toList_toLower, toList_toLower, foldCase, foldCase]

theorem same_congr {left right : String} (alike : left.toLower = right.toLower) (word : String) :
    same left word = same right word := by
  rw [Bool.eq_iff_iff, same_iff_toLower, same_iff_toLower, alike]

@[simp] theorem toLower_append (left right : String) :
    (left ++ right).toLower = left.toLower ++ right.toLower := by
  rw [← String.toList_inj]
  simp [toList_toLower]

theorem isEmpty_toLower (text : String) : text.toLower.isEmpty = text.isEmpty := by
  rw [Bool.eq_iff_iff, String.isEmpty_iff, String.isEmpty_iff, ← String.toList_inj,
    ← String.toList_inj]
  simp [toList_toLower]

theorem toLower_intercalate (separator : String) (texts : List String) :
    (separator.intercalate texts).toLower =
      separator.toLower.intercalate (texts.map String.toLower) := by
  induction texts with
  | nil =>
      rw [← String.toList_inj]
      simp [toList_toLower]
  | cons text texts ih =>
      cases texts with
      | nil => simp
      | cons next texts =>
          rw [String.intercalate_cons_cons, toLower_append, toLower_append, ih]
          simp [String.intercalate_cons_cons]

end Text

namespace Sql

/-- Two tokens that are the same but for the letter case of words. -/
inductive Token.Alike : Token → Token → Prop where
  | word {left right : String} (quoted : Bool) (same : left.toLower = right.toLower) :
      Alike (.word left quoted) (.word right quoted)
  | plain {token : Token} (notWord : token.isWord = false) : Alike token token

theorem Token.Alike.refl (token : Token) : token.Alike token := by
  cases token with
  | word value quoted => exact .word quoted rfl
  | _ => exact .plain rfl

/-! ## What is read, in small letters -/

def ForeignRef.folded (target : ForeignRef) : ForeignRef :=
  { table := target.table.toLower, columns := target.columns.map String.toLower }

def ColumnDef.folded (column : ColumnDef) : ColumnDef :=
  { column with
    name := column.name.toLower
    dataType := column.dataType.toLower
    default := column.default.map String.toLower
    check := column.check.map String.toLower
    references := column.references.map ForeignRef.folded
    onUpdate := column.onUpdate.map String.toLower }

def Modifier.folded : Modifier → Modifier
  | .default value => .default value.toLower
  | .references target => .references target.folded
  | .check expression => .check expression.toLower
  | .onUpdate value => .onUpdate value.toLower
  | modifier => modifier

def TableConstraint.folded : TableConstraint → TableConstraint
  | .primaryKey columns => .primaryKey (columns.map String.toLower)
  | .unique name columns => .unique (name.map String.toLower) (columns.map String.toLower)
  | .foreignKey name columns target =>
      .foreignKey (name.map String.toLower) (columns.map String.toLower) target.folded
  | .check name expression => .check (name.map String.toLower) expression.toLower
  | .index name columns => .index (name.map String.toLower) (columns.map String.toLower)

def Parser.Element.folded : Parser.Element → Parser.Element
  | .column definition => .column definition.folded
  | .constraint demand => .constraint demand.folded

def CreateTable.folded (definition : CreateTable) : CreateTable :=
  { definition with
    name := definition.name.toLower
    columns := definition.columns.map ColumnDef.folded
    constraints := definition.constraints.map TableConstraint.folded }

def AlterAction.folded : AlterAction → AlterAction
  | .addColumn column => .addColumn column.folded
  | .dropColumn name => .dropColumn name.toLower
  | .modifyColumn column => .modifyColumn column.folded
  | .renameColumn old new => .renameColumn old.toLower new.toLower
  | .renameTo name => .renameTo name.toLower
  | .addConstraint constraint => .addConstraint constraint.folded

/-- The statement with the letters of all its names, types and expressions made small. -/
def Statement.folded : Statement → Statement
  | .createTable definition => .createTable definition.folded
  | .alterTable table actions => .alterTable table.toLower (actions.map AlterAction.folded)
  | .dropTable tables ifExists => .dropTable (tables.map String.toLower) ifExists
  | .passthrough => .passthrough

/-- The error with the letters of the texts that it quotes made small. -/
def DdlError.folded : DdlError → DdlError
  | .tokenize message => .tokenize message.toLower
  | .unexpectedToken expected found => .unexpectedToken expected.toLower found.toLower
  | .unexpectedEnd expected => .unexpectedEnd expected.toLower
  | .unsupported construct => .unsupported construct.toLower
  | .tableExists name => .tableExists name.toLower
  | .schema error => .schema error
  | .backend error => .backend error

/-- What a run gives, in small letters. -/
def foldResult (fold : α → β) : Except DdlError α → Except DdlError β
  | .ok result => .ok (fold result)
  | .error error => .error error.folded

/-! ## Runs that agree -/

/-- Two runs that give results of a relation, or the same error up to letter case. -/
inductive Agree (related : α → β → Prop) : Except DdlError α → Except DdlError β → Prop where
  | ok {left : α} {right : β} (results : related left right) :
      Agree related (.ok left) (.ok right)
  | error {left right : DdlError} (errors : left.folded = right.folded) :
      Agree related (.error left) (.error right)

/-- Two results of readers that are the same up to letter case, with tokens left over that are. -/
def Leaves (fold : α → β) (left right : α × List Token) : Prop :=
  fold left.1 = fold right.1 ∧ List.Forall₂ Token.Alike left.2 right.2

namespace Agree

variable {α β γ δ : Type} {related : α → β → Prop} {after : γ → δ → Prop}
variable {left : Except DdlError α} {right : Except DdlError β}

theorem imp
    (agree : Agree related left right) {wider : α → β → Prop}
    (results : ∀ x y, related x y → wider x y) : Agree wider left right := by
  cases agree with
  | ok related => exact .ok (results _ _ related)
  | error errors => exact .error errors

theorem bind_ok
    (agree : Agree related left right) {next : α → Except DdlError γ}
    {other : β → Except DdlError δ}
    (nexts : ∀ x y, left = .ok x → related x y → Agree after (next x) (other y)) :
    Agree after (left >>= next) (right >>= other) := by
  cases agree with
  | ok results => exact nexts _ _ rfl results
  | error errors => exact .error errors

theorem bind
    (agree : Agree related left right) {next : α → Except DdlError γ}
    {other : β → Except DdlError δ}
    (nexts : ∀ x y, related x y → Agree after (next x) (other y)) :
    Agree after (left >>= next) (right >>= other) :=
  agree.bind_ok fun x y _ => nexts x y

theorem map
    (agree : Agree related left right) {change : α → γ} {other : β → δ}
    (changes : ∀ x y, related x y → after (change x) (other y)) :
    Agree after (left.map change) (right.map other) := by
  cases agree with
  | ok results => exact .ok (changes _ _ results)
  | error errors => exact .error errors

theorem mapM
    {read : γ → Except DdlError α} {other : δ → Except DdlError β} {xs : List γ} {ys : List δ}
    (listed : List.Forall₂ after xs ys)
    (reads : ∀ x y, after x y → Agree related (read x) (other y)) :
    Agree (List.Forall₂ related) (xs.mapM read) (ys.mapM other) := by
  induction listed with
  | nil => exact .ok .nil
  | cons head tail ih =>
      rw [List.mapM_cons, List.mapM_cons]
      exact (reads _ _ head).bind fun _ _ first => ih.bind fun _ _ rest => .ok (.cons first rest)

theorem foldResult_eq
    {fold : α → γ} {left right : Except DdlError α}
    (agree : Agree (fun x y => fold x = fold y) left right) :
    foldResult fold left = foldResult fold right := by
  cases agree with
  | ok results => exact congrArg Except.ok results
  | error errors => exact congrArg Except.error errors

end Agree

/-- Results of a list that are the same one by one are the same list. -/
theorem map_eq_of_forall₂
    {related : α → β → Prop} {fold : α → γ} {other : β → γ}
    (folds : ∀ x y, related x y → fold x = other y) {xs : List α} {ys : List β}
    (listed : List.Forall₂ related xs ys) : xs.map fold = ys.map other := by
  induction listed with
  | nil => rfl
  | cons head _ ih => rw [List.map_cons, List.map_cons, folds _ _ head, ih]

/-- Two options that are related are both empty or have values that are related. -/
theorem rel_cases
    {related : α → β → Prop} {left : Option α} {right : Option β}
    (options : Option.Rel related left right) :
    left = none ∧ right = none ∨ ∃ x y, left = some x ∧ right = some y ∧ related x y := by
  cases options with
  | none => exact .inl ⟨rfl, rfl⟩
  | some values => exact .inr ⟨_, _, rfl, rfl, values⟩

theorem rel_isSome
    {related : α → β → Prop} {left : Option α} {right : Option β}
    (options : Option.Rel related left right) : left.isSome = right.isSome := by
  cases options <;> rfl

theorem rel_map
    {related : α → β → Prop} {after : γ → δ → Prop} {left : Option α} {right : Option β}
    (options : Option.Rel related left right) {change : α → γ} {other : β → δ}
    (changes : ∀ x y, related x y → after (change x) (other y)) :
    Option.Rel after (left.map change) (right.map other) := by
  cases options with
  | none => exact .none
  | some values => exact .some (changes _ _ values)

theorem rel_getD
    {related : α → β → Prop} {left : Option α} {right : Option β}
    (options : Option.Rel related left right) {x : α} {y : β} (others : related x y) :
    related (left.getD x) (right.getD y) := by
  cases options with
  | some values => exact values
  | none => exact others

end Sql

end SchemaDesign
