import SchemaDesign.Id

/-!
# Identities read back

An identity of 128 bits is read back from the UUID that shows it.
-/

namespace SchemaDesign.Id

/-! ## Hexadecimal numerals -/

theorem hexValue?_digitChar {digit : Nat} (small : digit < 16) :
    Json.hexValue? (Nat.digitChar digit) = some digit := by
  have every : ∀ digit < 16, Json.hexValue? (Nat.digitChar digit) = some digit := by decide
  exact every digit small

theorem hexValue?_concat (digits : List Char) (c : Char) :
    hexValue? (digits ++ [c]) =
      (hexValue? digits).bind fun value =>
        (Json.hexValue? c).map fun digit => value * 16 + digit := by
  simp [hexValue?, List.foldlM_append]

theorem hexValue?_toDigits (n : Nat) : hexValue? (Nat.toDigits 16 n) = some n := by
  induction n using Nat.strongRecOn with
  | ind n ih =>
      rw [Nat.toDigits_eq_if (by decide)]
      split
      · rename_i small
        simp [hexValue?, hexValue?_digitChar small]
      · rename_i large
        have digit := hexValue?_digitChar (Nat.mod_lt n (by decide : 0 < 16))
        rw [hexValue?_concat, ih (n / 16) (by omega), digit]
        simp only [Option.bind_some, Option.map_some, Option.some.injEq]
        omega

theorem hexValue?_hexPadded (width n : Nat) : hexValue? (hexPadded width n) = some n := by
  have zeros : ∀ count : Nat,
      hexValue? (List.replicate count '0' ++ Nat.toDigits 16 n) =
        hexValue? (Nat.toDigits 16 n) := by
    intro count
    induction count with
    | zero => rfl
    | succ count ih => exact ih
  rw [hexPadded, zeros, hexValue?_toDigits]

theorem length_hexPadded {width n : Nat} (positive : 0 < width) (small : n < Nat.pow 16 width) :
    (hexPadded width n).length = width := by
  have short := (Nat.length_toDigits_le_iff (by decide : 1 < 16) positive).mpr small
  simp only [hexPadded, List.length_append, List.length_replicate]
  omega

/-! ## Groups of digits -/

/-- A run of 32 digits is the groups of a UUID. -/
theorem exists_groups {digits : List Char} (length : digits.length = 32) :
    ∃ first second third fourth fifth : List Char,
      digits = first ++ (second ++ (third ++ (fourth ++ fifth))) ∧
        first.length = 8 ∧ second.length = 4 ∧ third.length = 4 ∧ fourth.length = 4 ∧
          fifth.length = 12 := by
  refine ⟨digits.take 8, (digits.drop 8).take 4, (digits.drop 12).take 4,
    (digits.drop 16).take 4, digits.drop 20, ?_, ?_⟩
  · have second := List.take_append_drop 4 (digits.drop 8)
    have third := List.take_append_drop 4 (digits.drop 12)
    have fourth := List.take_append_drop 4 (digits.drop 16)
    simp only [List.drop_drop, Nat.reduceAdd] at second third fourth
    rw [fourth, third, second, List.take_append_drop]
  · simp [length]

theorem ofHyphenated?_groups
    {first second third fourth fifth : List Char}
    (lengths : first.length = 8 ∧ second.length = 4 ∧ third.length = 4 ∧ fourth.length = 4 ∧
      fifth.length = 12) :
    ofHyphenated?
        (first ++ '-' :: (second ++ '-' :: (third ++ '-' :: (fourth ++ '-' :: fifth)))) =
      hexValue? (first ++ (second ++ (third ++ (fourth ++ fifth)))) := by
  obtain ⟨firstLength, secondLength, thirdLength, fourthLength, fifthLength⟩ := lengths
  simp [ofHyphenated?, firstLength, secondLength, thirdLength, fourthLength, fifthLength,
    List.drop_append, List.getElem?_append, List.drop_eq_nil_of_le]

variable {kind : EntityKind}

/-- Whether the number of an identity has 128 bits, as that of every UUID. -/
def IsUuid (id : Id kind) : Prop :=
  id.number < Nat.pow 2 128

instance (id : Id kind) : Decidable id.IsUuid :=
  inferInstanceAs (Decidable (id.number < Nat.pow 2 128))

theorem exists_text {id : Id kind} (uuid : id.IsUuid) :
    ∃ first second third fourth fifth : List Char,
      id.text.toList =
          first ++ '-' :: (second ++ '-' :: (third ++ '-' :: (fourth ++ '-' :: fifth))) ∧
        hexPadded 32 id.number = first ++ (second ++ (third ++ (fourth ++ fifth))) ∧
          first.length = 8 ∧ second.length = 4 ∧ third.length = 4 ∧ fourth.length = 4 ∧
            fifth.length = 12 := by
  have length := length_hexPadded (by decide : 0 < 32) (show id.number < Nat.pow 16 32 from uuid)
  obtain ⟨first, second, third, fourth, fifth, digits, lengths⟩ := exists_groups length
  refine ⟨first, second, third, fourth, fifth, ?_, digits, lengths⟩
  obtain ⟨firstLength, secondLength, thirdLength, fourthLength, fifthLength⟩ := lengths
  simp [text, digits, firstLength, secondLength, thirdLength, fourthLength, fifthLength,
    List.take_append, List.drop_append, List.take_of_length_le, List.drop_eq_nil_of_le]

/-- The UUID of an identity names it. -/
theorem ofText?_text {id : Id kind} (uuid : id.IsUuid) : ofText? id.text = some id := by
  obtain ⟨first, second, third, fourth, fifth, text, digits, lengths⟩ := exists_text uuid
  have total : id.text.toList.length = 36 := by
    rw [text]
    simp [lengths]
  have number : ofHyphenated? id.text.toList = some id.number := by
    rw [text, ofHyphenated?_groups lengths, ← digits, hexValue?_hexPadded]
  simp only [ofText?, total, number]
  rfl

end SchemaDesign.Id
