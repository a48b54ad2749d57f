import SchemaDesign.Schema.Edit
import SchemaDesign.Validation.Rules

/-!
# Automatic fixes

The changes that make a finding go away: all columns of a primary key but the first are unmarked,
and a foreign key column gets an index.
-/

namespace SchemaDesign

namespace Validation

/-- The columns with at most one marked as primary key; none, if one has been kept already. -/
def keepFirstKey (kept : Bool) : List Column → List Column
  | [] => []
  | column :: columns =>
      if column.isPrimaryKey then
        { column with isPrimaryKey := !kept } :: keepFirstKey true columns
      else column :: keepFirstKey kept columns

theorem map_keepFirstKey
    {α : Type} (view : Column → α)
    (unseen : ∀ (column : Column) (marked : Bool),
      view { column with isPrimaryKey := marked } = view column)
    (kept : Bool) (columns : List Column) :
    (keepFirstKey kept columns).map view = columns.map view := by
  induction columns generalizing kept with
  | nil => rfl
  | cons column columns ih =>
      rw [keepFirstKey]
      split
      · rw [List.map_cons, ih, unseen, List.map_cons]
      · rw [List.map_cons, ih, List.map_cons]

/-- At most one key is left, and one is left where there were any. -/
theorem filter_keepFirstKey (kept : Bool) (columns : List Column) :
    ((keepFirstKey kept columns).filter fun column => column.isPrimaryKey) =
      if kept then [] else (columns.filter fun column => column.isPrimaryKey).take 1 := by
  induction columns generalizing kept with
  | nil => cases kept <;> rfl
  | cons column columns ih =>
      by_cases marked : column.isPrimaryKey = true
      · rw [keepFirstKey, if_pos marked]
        cases kept with
        | true => simp [ih]
        | false =>
            have same : { column with isPrimaryKey := true } = column := by rw [← marked]
            simp [ih, marked, same]
      · rw [keepFirstKey, if_neg marked]
        simp [ih, marked]

end Validation

/-- Applies the fix of a finding, and answers with a short description of what has changed. -/
def Edit.applyFix (finding : Finding) : Edit (Except SchemaError String) := do
  let noFix := SchemaError.noAutoFix finding.rule.code
  match finding.autoFixable, finding.table with
  | true, some tableId =>
      match (← Edit.current).table? tableId with
      | none => return .error (.tableNotFound tableId.text)
      | some table =>
          match finding.rule with
          | .primaryKey =>
              let unmarked := (table.primaryKeys.drop 1).map fun column => column.name
              let columns := Validation.keepFirstKey false table.columns
              match ← Edit.updateTable tableId { columns := some columns } with
              | .error error => return .error error
              | .ok () =>
                  return .ok ("Removed primary key flag from " ++ ", ".intercalate unmarked ++
                    " on '" ++ table.name ++ "'")
          | .missingForeignKeyIndex =>
              match finding.column with
              | none => return .error noFix
              | some columnId =>
                  match table.column? columnId with
                  | none => return .error (.columnNotFound table.name columnId.text)
                  | some column =>
                      let name := Validation.foreignKeyIndexName table.name column.name
                      let _ ← Edit.addIndex
                        { name, table := tableId, columns := [column.name], isUnique := false }
                      return .ok ("Created index " ++ name)
          | _ => return .error noFix
  | _, _ => return .error noFix

end SchemaDesign
