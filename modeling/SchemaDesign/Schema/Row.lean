import SchemaDesign.Json.Basic

/-!
# Rows of data

A row gives values to column names; its entries are kept in the order of the names.
-/

namespace SchemaDesign

/-- A row of table data: values by column name, each name once and in ascending order. -/
structure Row where
  entries : List (String × Json)
  ordered : entries.Pairwise fun left right => left.1 < right.1
deriving DecidableEq

namespace Row

instance : Inhabited Row := ⟨⟨[], .nil⟩⟩

/-- The row without entries. -/
def empty : Row :=
  { entries := [], ordered := .nil }

/-- The entries with a value under a name, replacing the one it had. -/
def insertEntry (name : String) (value : Json) : List (String × Json) → List (String × Json)
  | [] => [(name, value)]
  | (known, old) :: entries =>
      if name < known then (name, value) :: (known, old) :: entries
      else if name = known then (name, value) :: entries
      else (known, old) :: insertEntry name value entries

theorem mem_insertEntry
    {name : String} {value : Json} {entries : List (String × Json)} {entry : String × Json}
    (member : entry ∈ insertEntry name value entries) :
    entry = (name, value) ∨ entry ∈ entries := by
  induction entries with
  | nil => simpa [insertEntry] using member
  | cons first entries induction =>
      obtain ⟨known, old⟩ := first
      simp only [insertEntry] at member
      split at member
      · simpa using member
      · split at member
        · simp only [List.mem_cons] at member ⊢
          rcases member with equality | member
          · exact .inl equality
          · exact .inr (.inr member)
        · simp only [List.mem_cons] at member ⊢
          rcases member with equality | member
          · exact .inr (.inl equality)
          · rcases induction member with equality | member
            · exact .inl equality
            · exact .inr (.inr member)

theorem insertEntry_ordered
    (name : String) (value : Json) {entries : List (String × Json)}
    (ordered : entries.Pairwise fun left right => left.1 < right.1) :
    (insertEntry name value entries).Pairwise fun left right => left.1 < right.1 := by
  induction entries with
  | nil => simp [insertEntry]
  | cons first entries induction =>
      obtain ⟨known, old⟩ := first
      rw [List.pairwise_cons] at ordered
      obtain ⟨above, ordered⟩ := ordered
      simp only [insertEntry]
      split
      · rename_i below
        refine List.pairwise_cons.2 ⟨?_, List.pairwise_cons.2 ⟨above, ordered⟩⟩
        intro entry member
        rcases List.mem_cons.1 member with equality | member
        · rw [equality]; exact below
        · exact String.lt_trans below (above entry member)
      · split
        · rename_i equality
          refine List.pairwise_cons.2 ⟨?_, ordered⟩
          intro entry member
          rw [equality]
          exact above entry member
        · rename_i notBelow different
          refine List.pairwise_cons.2 ⟨?_, induction ordered⟩
          intro entry member
          rcases mem_insertEntry member with equality | member
          · rw [equality]
            refine Decidable.byContradiction fun notAbove => different ?_
            exact String.le_antisymm notAbove notBelow
          · exact above entry member

/-- The row with a value under a name. -/
def insert (row : Row) (name : String) (value : Json) : Row :=
  { entries := insertEntry name value row.entries
    ordered := insertEntry_ordered name value row.ordered }

/-- The row of some entries; of entries with one name the last counts. -/
def ofList (entries : List (String × Json)) : Row :=
  entries.foldl (fun row entry => row.insert entry.1 entry.2) empty

/-- The value under a name. -/
def get? (row : Row) (name : String) : Option Json :=
  row.entries.lookup name

end Row

end SchemaDesign
