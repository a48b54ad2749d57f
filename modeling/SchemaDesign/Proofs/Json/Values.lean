import SchemaDesign.Proofs.Json.Spelling

/-!
# JSON values read back

A value whose numbers are in their ranges and whose objects have distinct names is read back from
its indented form, where it has fewer levels of arrays and objects than the reader allows.
-/

namespace SchemaDesign.Json

/-- A value with some number of levels of arrays and objects at most, which JSON text can hold: its
numbers are read back and the names of each object are distinct. -/
inductive Storable : Nat → Json → Prop where
  | null {depth : Nat} : Storable depth .null
  | bool {depth : Nat} (value : Bool) : Storable depth (.bool value)
  | integer {depth : Nat} {n : Int} (integer : IsInteger n) : Storable depth (.integer n)
  | float {depth : Nat} {x : Number.Binary64} (readsBack : x.ReadsBack) :
      Storable depth (.float x)
  | string {depth : Nat} (s : String) : Storable depth (.string s)
  | array {depth : Nat} {items : List Json} (each : ∀ item ∈ items, Storable depth item) :
      Storable (depth + 1) (.array items)
  | object {depth : Nat} {members : List (String × Json)}
      (distinct : (members.map fun member => member.1).Nodup)
      (each : ∀ member ∈ members, Storable depth member.2) :
      Storable (depth + 1) (.object members)

/-! ## The indented form -/

variable {level : Nat}

theorem newLine_gaps (level : Nat) : ∀ c ∈ newLine level, isGap c = true := by
  intro c member
  rcases List.mem_cons.mp member with rfl | blank
  · rfl
  · rw [List.eq_of_mem_replicate blank]
    rfl

theorem spells_prettyItems {items : List Json}
    (each : ∀ item ∈ items,
      Spells readValue? (prettyText (level + 1) item) (document item)) :
    Spells readItems? (prettyItems level items) (documents items) ∧
      Separates (prettyItems level items) := by
  induction items with
  | nil =>
      rw [prettyItems, documents]
      exact ⟨spells_items_nil.gap readItems?_passesGaps (newLine_gaps level),
        separates_cons (by simp) _⟩
  | cons item items ih =>
      obtain ⟨first, others⟩ := List.forall_mem_cons.mp each
      obtain ⟨spells, separates⟩ := ih others
      have spaced := first.gap readValue?_passesGaps (newLine_gaps (level + 1))
      have shape : prettyItems level (item :: items) =
          ',' :: ((newLine (level + 1) ++ prettyText (level + 1) item) ++
            prettyItems level items) := by
        simp [prettyItems]
      rw [shape, documents]
      exact ⟨spells_items_cons spaced spells separates, separates_cons (by simp) _⟩

theorem spells_prettyMember
    {name : String} {value : Json}
    (spells : Spells readValue? (prettyText (level + 1) value) (document value)) :
    Spells readMember?
      (newLine (level + 1) ++ (quoted name ++ ':' :: ' ' :: prettyText (level + 1) value))
      (some name, document value) := by
  have spaced : Spells readValue? ([' '] ++ prettyText (level + 1) value) (document value) :=
    spells.gap readValue?_passesGaps (by simp [isGap])
  exact (spells_member name spaced).gap readMember?_passesGaps (newLine_gaps (level + 1))

theorem spells_prettyMembers {members : List (String × Json)}
    (each : ∀ member ∈ members,
      Spells readValue? (prettyText (level + 1) member.2) (document member.2)) :
    Spells readMembers? (prettyMembers level members) (memberDocuments members) ∧
      Separates (prettyMembers level members) := by
  induction members with
  | nil =>
      rw [prettyMembers, memberDocuments]
      exact ⟨spells_members_nil.gap readMembers?_passesGaps (newLine_gaps level),
        separates_cons (by simp) _⟩
  | cons member members ih =>
      obtain ⟨name, value⟩ := member
      obtain ⟨first, others⟩ := List.forall_mem_cons.mp each
      obtain ⟨spells, separates⟩ := ih others
      have shape : prettyMembers level ((name, value) :: members) =
          ',' :: ((newLine (level + 1) ++
            (quoted name ++ ':' :: ' ' :: prettyText (level + 1) value)) ++
              prettyMembers level members) := by
        simp [prettyMembers]
      rw [shape, memberDocuments]
      exact ⟨spells_members_cons (spells_prettyMember first) spells separates,
        separates_cons (by simp) _⟩

theorem spells_prettyArray {items : List Json}
    (each : ∀ item ∈ items, Spells readValue? (prettyText (level + 1) item) (document item)) :
    Spells readValue? (prettyText level (.array items)) (document (.array items)) := by
  cases items with
  | nil =>
      have closed : ∀ fuel rest,
          readValue? (fuel + 1) (['[', ']'] ++ rest) = some (.array [], rest) :=
        fun _ _ => rfl
      rw [prettyText, document, documents]
      exact spells_literal closed (List.cons_ne_nil _ _)
  | cons item items =>
      obtain ⟨first, others⟩ := List.forall_mem_cons.mp each
      obtain ⟨spells, separates⟩ := spells_prettyItems others
      have spaced := first.gap readValue?_passesGaps (newLine_gaps (level + 1))
      have shape : prettyText level (.array (item :: items)) =
          '[' :: ((newLine (level + 1) ++ prettyText (level + 1) item) ++
            prettyItems level items) := by
        simp [prettyText]
      rw [shape, document, documents]
      exact spells_array spaced spells separates

theorem spells_prettyObject {members : List (String × Json)}
    (each : ∀ member ∈ members,
      Spells readValue? (prettyText (level + 1) member.2) (document member.2)) :
    Spells readValue? (prettyText level (.object members)) (document (.object members)) := by
  cases members with
  | nil =>
      have closed : ∀ fuel rest,
          readValue? (fuel + 1) (['{', '}'] ++ rest) = some (.object [], rest) :=
        fun _ _ => rfl
      rw [prettyText, document, memberDocuments]
      exact spells_literal closed (List.cons_ne_nil _ _)
  | cons member members =>
      obtain ⟨name, value⟩ := member
      obtain ⟨first, others⟩ := List.forall_mem_cons.mp each
      obtain ⟨spells, separates⟩ := spells_prettyMembers others
      have shape : prettyText level (.object ((name, value) :: members)) =
          '{' :: ((newLine (level + 1) ++
            (quoted name ++ ':' :: ' ' :: prettyText (level + 1) value)) ++
              prettyMembers level members) := by
        simp [prettyText]
      rw [shape, document, memberDocuments]
      exact spells_object (spells_prettyMember first) spells separates

/-- The indented form of a value spells its document at every level. -/
theorem Storable.spells {depth : Nat} {value : Json} (storable : Storable depth value)
    (level : Nat) : Spells readValue? (prettyText level value) (document value) := by
  induction storable generalizing level with
  | null =>
      rw [prettyText, document]
      exact spells_literal (fun _ _ => rfl) (List.cons_ne_nil _ _)
  | bool value =>
      cases value <;> rw [prettyText, document] <;>
        exact spells_literal (fun _ _ => rfl) (List.cons_ne_nil _ _)
  | integer integer =>
      obtain ⟨first, core, start, shape, takes⟩ := readNumber?_integerText integer
      rw [prettyText, document, shape]
      exact spells_number start takes
  | float readsBack =>
      obtain ⟨first, core, start, shape, takes⟩ := readsBack.takes
      rw [prettyText, document, shape]
      exact spells_number start takes
  | string s =>
      rw [prettyText, document]
      exact spells_string s
  | array _ ih => exact spells_prettyArray fun item member => ih item member (level + 1)
  | object _ _ ih => exact spells_prettyObject fun member listed => ih member listed (level + 1)

theorem Storable.ofText?_pretty {depth : Nat} {value : Json} (storable : Storable depth value) :
    Document.ofText? value.pretty = some (document value) := by
  have read := storable.spells 0 (2 * (prettyText 0 value).length + 2) (Nat.le_add_right _ _) []
    endsNumeral_nil
  rw [List.append_nil] at read
  rw [Document.ofText?, pretty, String.toList_ofList, read]
  rfl

/-! ## The values of documents -/

theorem put_eq_append
    {name : String} {before : List (String × Json)} (value : Json)
    (fresh : name ∉ before.map fun member => member.1) :
    put name value before = before ++ [(name, value)] := by
  induction before with
  | nil => rfl
  | cons member before ih =>
      rw [List.map_cons, List.mem_cons, not_or] at fresh
      rw [put, if_neg (fun known => fresh.1 known.symm), ih fresh.2, List.cons_append]

variable {limit : Nat}

theorem valuesOf?_documents {items : List Json}
    (each : ∀ item ∈ items, (document item).value? limit = some item) :
    valuesOf? limit (documents items) = some items := by
  induction items with
  | nil => rfl
  | cons item items ih =>
      obtain ⟨first, others⟩ := List.forall_mem_cons.mp each
      rw [documents, valuesOf?, first, ih others]
      rfl

theorem membersOf?_memberDocuments
    (before : List (String × Json)) {members : List (String × Json)}
    (distinct : ((before ++ members).map fun member => member.1).Nodup)
    (each : ∀ member ∈ members, (document member.2).value? limit = some member.2) :
    membersOf? limit before (memberDocuments members) = some (before ++ members) := by
  induction members generalizing before with
  | nil => simp [memberDocuments, membersOf?]
  | cons member members ih =>
      obtain ⟨name, value⟩ := member
      obtain ⟨first, others⟩ := List.forall_mem_cons.mp each
      have fresh : name ∉ before.map fun member => member.1 := by
        rw [List.map_append, List.nodup_append] at distinct
        intro member
        exact distinct.2.2 name member name List.mem_cons_self rfl
      rw [memberDocuments, membersOf?, first]
      simp only [Option.bind_eq_bind, Option.bind_some]
      rw [put_eq_append value fresh, ih _ (by simpa using distinct) others]
      simp

/-- The document of a value with fewer levels than allowed has the value. -/
theorem Storable.value?_document {depth : Nat} {value : Json} (storable : Storable depth value)
    (shallow : depth < limit) : (document value).value? limit = some value := by
  induction storable generalizing limit with
  | null => rfl
  | bool => rfl
  | integer => rfl
  | float => rfl
  | string => rfl
  | array _ ih =>
      rw [document, Document.value?, if_neg (by omega),
        valuesOf?_documents fun item member => ih item member (by omega)]
      rfl
  | object distinct _ ih =>
      have read := membersOf?_memberDocuments [] distinct fun member listed =>
        ih member listed (Nat.lt_sub_of_add_lt shallow)
      rw [document, Document.value?, if_neg (by omega), read]
      rfl

end SchemaDesign.Json
