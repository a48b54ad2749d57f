import SchemaDesign.Proofs.Json.Values

/-!
# The compact form reads back

A value that JSON text can hold is read back from its form without blanks, too: what separates its
parts there is a comma, a colon or a bracket and nothing else.
-/

namespace SchemaDesign.Json

theorem spells_compactItems {items : List Json}
    (each : ∀ item ∈ items, Spells readValue? (compactText item) (document item)) :
    Spells readItems? (compactItems items) (documents items) ∧ Separates (compactItems items) := by
  induction items with
  | nil =>
      rw [compactItems, documents]
      exact ⟨spells_items_nil, separates_cons (by simp) _⟩
  | cons item items ih =>
      obtain ⟨first, others⟩ := List.forall_mem_cons.mp each
      obtain ⟨spells, separates⟩ := ih others
      rw [compactItems, documents]
      exact ⟨spells_items_cons first spells separates, separates_cons (by simp) _⟩

theorem spells_compactMembers {members : List (String × Json)}
    (each : ∀ member ∈ members, Spells readValue? (compactText member.2) (document member.2)) :
    Spells readMembers? (compactMembers members) (memberDocuments members) ∧
      Separates (compactMembers members) := by
  induction members with
  | nil =>
      rw [compactMembers, memberDocuments]
      exact ⟨spells_members_nil, separates_cons (by simp) _⟩
  | cons member members ih =>
      obtain ⟨name, value⟩ := member
      obtain ⟨first, others⟩ := List.forall_mem_cons.mp each
      obtain ⟨spells, separates⟩ := ih others
      have shape : compactMembers ((name, value) :: members) =
          ',' :: ((quoted name ++ ':' :: compactText value) ++ compactMembers members) := by
        simp [compactMembers]
      rw [shape, memberDocuments]
      exact ⟨spells_members_cons (spells_member name first) spells separates,
        separates_cons (by simp) _⟩

theorem spells_compactArray {items : List Json}
    (each : ∀ item ∈ items, Spells readValue? (compactText item) (document item)) :
    Spells readValue? (compactText (.array items)) (document (.array items)) := by
  cases items with
  | nil =>
      have closed : ∀ fuel rest,
          readValue? (fuel + 1) (['[', ']'] ++ rest) = some (.array [], rest) :=
        fun _ _ => rfl
      rw [compactText, document, documents]
      exact spells_literal closed (List.cons_ne_nil _ _)
  | cons item items =>
      obtain ⟨first, others⟩ := List.forall_mem_cons.mp each
      obtain ⟨spells, separates⟩ := spells_compactItems others
      rw [compactText, document, documents]
      exact spells_array first spells separates

theorem spells_compactObject {members : List (String × Json)}
    (each : ∀ member ∈ members, Spells readValue? (compactText member.2) (document member.2)) :
    Spells readValue? (compactText (.object members)) (document (.object members)) := by
  cases members with
  | nil =>
      have closed : ∀ fuel rest,
          readValue? (fuel + 1) (['{', '}'] ++ rest) = some (.object [], rest) :=
        fun _ _ => rfl
      rw [compactText, document, memberDocuments]
      exact spells_literal closed (List.cons_ne_nil _ _)
  | cons member members =>
      obtain ⟨name, value⟩ := member
      obtain ⟨first, others⟩ := List.forall_mem_cons.mp each
      obtain ⟨spells, separates⟩ := spells_compactMembers others
      have shape : compactText (.object ((name, value) :: members)) =
          '{' :: ((quoted name ++ ':' :: compactText value) ++ compactMembers members) := by
        simp [compactText]
      rw [shape, document, memberDocuments]
      exact spells_object (spells_member name first) spells separates

/-- The compact form of a value spells its document. -/
theorem Storable.spells_compact {depth : Nat} {value : Json} (storable : Storable depth value) :
    Spells readValue? (compactText value) (document value) := by
  induction storable with
  | null =>
      rw [compactText, document]
      exact spells_literal (fun _ _ => rfl) (List.cons_ne_nil _ _)
  | bool value =>
      cases value <;> rw [compactText, document] <;>
        exact spells_literal (fun _ _ => rfl) (List.cons_ne_nil _ _)
  | integer integer =>
      obtain ⟨first, core, start, shape, takes⟩ := readNumber?_integerText integer
      rw [compactText, document, shape]
      exact spells_number start takes
  | float readsBack =>
      obtain ⟨first, core, start, shape, takes⟩ := readsBack.takes
      rw [compactText, document, shape]
      exact spells_number start takes
  | string s =>
      rw [compactText, document]
      exact spells_string s
  | array _ ih => exact spells_compactArray ih
  | object _ _ ih => exact spells_compactObject ih

theorem Storable.ofText?_compact {depth : Nat} {value : Json} (storable : Storable depth value) :
    Document.ofText? value.compact = some (document value) := by
  have read := storable.spells_compact (2 * (compactText value).length + 2) (Nat.le_add_right _ _)
    [] endsNumeral_nil
  rw [List.append_nil] at read
  rw [Document.ofText?, compact, String.toList_ofList, read]
  rfl

end SchemaDesign.Json
