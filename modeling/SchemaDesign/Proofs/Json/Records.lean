import Mathlib.Data.List.Nodup
import SchemaDesign.Json.Fields
import SchemaDesign.Proofs.Json.Values

/-!
# Records read back

What the fields of a record give once the members of an object were written under their names.
-/

namespace SchemaDesign.Json

variable {α : Type}

/-- A value with some number of levels at most, which JSON text can hold and from whose document a
reader restores what was written. -/
structure Restores
    (read : Document → Option α) (depth : Nat) (json : Json) (written : α) : Prop where
  storable : Storable depth json
  restored : read (document json) = some written

/-- The value that a document gives where null stands for a missing one. -/
def Document.nullable? (read : Document → Option α) : Document → Option (Option α)
  | .null => some none
  | document => (read document).map some

/-! ## Fields -/

namespace Fields

/-- The fields that the members of an object give. -/
def ofMembers (members : List (String × Json)) : Fields :=
  { listed := false, members := members.map fun member => (member.1, document member.2) }

theorem named?_memberDocuments
    {names : List String} {members : List (String × Json)}
    (known : ∀ member ∈ members, member.1 ∈ names)
    (distinct : (members.map fun member => member.1).Nodup) :
    named? names (memberDocuments members) = some (ofMembers members).members := by
  induction members with
  | nil => rfl
  | cons member members ih =>
      obtain ⟨name, value⟩ := member
      obtain ⟨listed, others⟩ := List.forall_mem_cons.mp known
      rw [List.map_cons, List.nodup_cons] at distinct
      obtain ⟨fresh, distinct⟩ := distinct
      have single : (ofMembers members).members.any (fun member => member.1 == name) = false := by
        rw [List.any_eq_false]
        intro member present same
        obtain ⟨original, among, rfl⟩ := List.mem_map.mp present
        exact fresh (List.mem_map.mpr ⟨original, among, eq_of_beq same⟩)
      rw [memberDocuments, named?]
      simp only [Option.bind_eq_bind, Option.bind_some, ih others distinct]
      simp only [List.contains_iff_mem.mpr listed, single, Bool.not_true, Bool.false_eq_true,
        if_false]
      rfl

theorem ofDocument?_object
    {names : List String} {members : List (String × Json)}
    (known : members.map (fun member => member.1) = names) (distinct : names.Nodup) :
    ofDocument? names (document (.object members)) = some (ofMembers members) := by
  subst known
  have read := named?_memberDocuments (fun _ => List.mem_map_of_mem) distinct
  rw [document, ofDocument?, read]
  rfl

variable (members : List (String × Json)) (name : String)

theorem lookup_ofMembers :
    (ofMembers members).members.lookup name = (members.lookup name).map document := by
  induction members with
  | nil => rfl
  | cons member members ih =>
      obtain ⟨known, value⟩ := member
      simp only [ofMembers, List.map_cons, List.lookup_cons] at ih ⊢
      rw [ih]
      split <;> rfl

@[simp] theorem required_ofMembers (read : Document → Option α) :
    (ofMembers members).required name read =
      (members.lookup name).bind fun json => read (document json) := by
  rw [required, lookup_ofMembers, Option.bind_map]
  rfl

@[simp] theorem optional_ofMembers (read : Document → Option α) :
    (ofMembers members).optional name read =
      ((members.lookup name).map fun json => (document json).nullable? read).getD (some none) := by
  rw [optional, lookup_ofMembers]
  cases members.lookup name with
  | none => rfl
  | some json =>
      simp only [Option.map_some, Option.getD_some]
      cases document json <;> rfl

@[simp] theorem defaulted_ofMembers (default : α) (read : Document → Option α) :
    (ofMembers members).defaulted name default read =
      ((members.lookup name).map fun json => read (document json)).getD (some default) := by
  rw [defaulted, lookup_ofMembers]
  cases members.lookup name <;> rfl

end Fields

/-! ## Single values -/

variable {depth : Nat}

attribute [simp] Storable.string Storable.bool

@[simp] theorem string?_document (s : String) : (document (.string s)).string? = some s :=
  rfl

@[simp] theorem bool?_document (b : Bool) : (document (.bool b)).bool? = some b :=
  rfl

theorem restores_string (depth : Nat) (s : String) :
    Restores Document.string? depth (.string s) s :=
  ⟨.string s, string?_document s⟩

theorem restores_nat (depth : Nat) {n : Nat} (small : n ≤ greatestInteger) :
    Restores Document.nat? depth (.nat n) n := by
  constructor
  · refine .integer ⟨?_, Int.ofNat_le.mpr small⟩
    omega
  · rw [nat, document, Document.nat?, if_pos (Int.natCast_nonneg n), Int.toNat_natCast]

theorem restores_text {read : String → Option α} {s : String} {written : α}
    (reads : read s = some written) :
    Restores (fun document => document.string?.bind read) depth (.string s) written := by
  refine ⟨.string s, ?_⟩
  rw [string?_document, Option.bind_some, reads]

theorem Restores.nullable
    {read : Document → Option α} {json : Json} {written : α}
    (restores : Restores read depth json written) (present : json ≠ .null) :
    Restores (Document.nullable? read) depth json (some written) := by
  refine ⟨restores.storable, ?_⟩
  have given : (document json).nullable? read = (read (document json)).map some := by
    cases json <;> first | exact absurd rfl present | rw [document, Document.nullable?]
    all_goals simp
  rw [given, restores.restored, Option.map_some]

theorem restores_ofString? (depth : Nat) (s : Option String) :
    Restores (Document.nullable? Document.string?) depth (.ofString? s) s := by
  cases s with
  | none => exact ⟨.null, rfl⟩
  | some s => exact (restores_string depth s).nullable Json.noConfusion

/-! ## Lists -/

theorem documents_map (write : α → Json) (values : List α) :
    documents (values.map write) = values.map fun value => document (write value) := by
  induction values with
  | nil => rfl
  | cons value values ih => rw [List.map_cons, documents, ih, List.map_cons]

theorem restores_array
    {read : Document → Option α} {write : α → Json} {values : List α}
    (each : ∀ value ∈ values, Restores read depth (write value) value) :
    Restores (Document.list? read) (depth + 1) (.array (values.map write)) values := by
  constructor
  · refine .array fun item member => ?_
    obtain ⟨value, listed, rfl⟩ := List.mem_map.mp member
    exact (each value listed).storable
  · rw [document, documents_map, Document.list?, List.mapM_map]
    induction values with
    | nil => rfl
    | cons value values ih =>
        obtain ⟨first, others⟩ := List.forall_mem_cons.mp each
        rw [List.mapM_cons, ih others]
        simp [first.restored]

/-! ## Records -/

theorem restores_record
    {names : List String} {members : List (String × Json)}
    {read : Fields → Option α} {written : α}
    (known : members.map (fun member => member.1) = names) (distinct : names.Nodup)
    (storable : ∀ member ∈ members, Storable depth member.2)
    (restored : read (.ofMembers members) = some written) :
    Restores (fun document => (Fields.ofDocument? names document).bind read) (depth + 1)
      (.object members) written := by
  refine ⟨.object (known ▸ distinct) storable, ?_⟩
  rw [Fields.ofDocument?_object known distinct, Option.bind_some, restored]

/-! ## Records in part -/

section

variable {names : List String} {members whole : List (String × Json)}

/-- Some members of an object, in any order, are found under their names as in the whole. -/
theorem lookup_of_subperm
    (part : members.Subperm whole) (distinct : (whole.map fun member => member.1).Nodup)
    {name : String} {json : Json} (given : (name, json) ∈ whole) :
    members.lookup name =
      if name ∈ members.map (fun member => member.1) then some json else none := by
  cases found : members.lookup name with
  | none =>
      have absent : name ∉ members.map fun member => member.1 := by
        intro present
        obtain ⟨member, among, rfl⟩ := List.mem_map.mp present
        have different := List.lookup_eq_none_iff.mp found member among
        rw [bne_self_eq_false] at different
        cases different
      rw [if_neg absent]
  | some value =>
      obtain ⟨before, after, split, _⟩ := List.lookup_eq_some_iff.mp found
      have among : (name, value) ∈ members := by simp [split]
      have present : name ∈ members.map fun member => member.1 := List.mem_map_of_mem among
      have same := List.inj_on_of_nodup_map distinct (part.subset among) given rfl
      rw [if_pos present, (Prod.mk.inj same).2]

theorem nodup_names_of_subperm
    (part : members.Subperm whole) (distinct : (whole.map fun member => member.1).Nodup) :
    (members.map fun member => member.1).Nodup := by
  obtain ⟨order, perm, sublist⟩ := part
  have kept : (order.map fun member => member.1).Nodup := distinct.sublist (sublist.map _)
  exact kept.perm (perm.map _)

/-- A field of which some members of an object may have the value is read from there or left at its
default. -/
theorem Fields.defaulted_of_subperm
    (part : members.Subperm whole) (distinct : (whole.map fun member => member.1).Nodup)
    {depth : Nat} {name : String} {json : Json} (given : (name, json) ∈ whole)
    {read : Document → Option α} {value : α} (restores : Restores read depth json value)
    (default : α) :
    (ofMembers members).defaulted name default read =
      some (if name ∈ members.map (fun member => member.1) then value else default) := by
  rw [defaulted_ofMembers, lookup_of_subperm part distinct given]
  split
  · simp [restores.restored]
  · rfl

/-- An object with some members of a record gives what the fields say of them. -/
theorem restores_part
    {read : Fields → Option α} {written : α} (part : members.Subperm whole)
    (known : whole.map (fun member => member.1) = names) (distinct : names.Nodup)
    (storable : ∀ member ∈ whole, Storable depth member.2)
    (restored : read (.ofMembers members) = some written) :
    Restores (fun document => (Fields.ofDocument? names document).bind read) (depth + 1)
      (.object members) written := by
  have listed : ∀ member ∈ members, member.1 ∈ names := by
    intro member among
    rw [← known]
    exact List.mem_map_of_mem (part.subset among)
  have single := nodup_names_of_subperm part (known ▸ distinct)
  have fields : Fields.ofDocument? names (document (.object members)) =
      some (.ofMembers members) := by
    rw [document, Fields.ofDocument?, Fields.named?_memberDocuments listed single]
    rfl
  refine ⟨.object single fun member among => storable member (part.subset among), ?_⟩
  rw [fields, Option.bind_some, restored]

end

end SchemaDesign.Json
