import Mathlib.Data.List.Nodup
import Mathlib.Data.List.Pairwise
import SchemaDesign.Schema.Edit

/-!
# The first of its kind among distinct keys

Changes of a schema touch the first element that is meant.  When the elements have distinct keys,
that is the only element with its key, so a change of the first one is a map and an erasure of the
first one is a filter.
-/

namespace SchemaDesign

variable {α β κ : Type}

/-- Where all the keys of all elements are distinct, a key belongs to one element. -/
theorem eq_of_mem_keys
    {keys : α → List κ} {xs : List α} (distinct : (xs.flatMap keys).Nodup) {x y : α}
    (left : x ∈ xs) (right : y ∈ xs) {k : κ} (leftKey : k ∈ keys x) (rightKey : k ∈ keys y) :
    x = y := by
  have symmetric : Std.Symm (Function.onFun List.Disjoint keys) :=
    ⟨fun _ _ apart => List.disjoint_symm apart⟩
  by_contra different
  have apart := (List.nodup_flatMap.mp distinct).2.forall left right different
  exact apart leftKey rightKey

/-- The first element that is meant is the one behind others that are not. -/
theorem find?_append_cons
    {isMeant : α → Bool} {before : List α} {x : α} (after : List α)
    (others : ∀ y ∈ before, isMeant y = false) (meant : isMeant x = true) :
    (before ++ x :: after).find? isMeant = some x := by
  have none : before.find? isMeant = none :=
    List.find?_eq_none.mpr fun y member => Bool.eq_false_iff.mp (others y member)
  rw [List.find?_append, none, Option.none_or, List.find?_cons_of_pos meant]

theorem changeFirst_append_cons
    {isMeant : α → Bool} {change : α → α} {before : List α} {x : α} (after : List α)
    (others : ∀ y ∈ before, isMeant y = false) (meant : isMeant x = true) :
    changeFirst isMeant change (before ++ x :: after) = before ++ change x :: after := by
  induction before with
  | nil => rw [List.nil_append, List.nil_append, changeFirst, if_pos meant]
  | cons first before ih =>
      have other := others first List.mem_cons_self
      rw [List.cons_append, changeFirst, other, if_neg Bool.false_ne_true,
        ih fun y member => others y (List.mem_cons_of_mem _ member)]
      rfl

variable [DecidableEq κ]

theorem changeFirst_of_find?_eq_none
    {isMeant : α → Bool} {change : α → α} {xs : List α}
    (missing : xs.find? isMeant = none) : changeFirst isMeant change xs = xs := by
  induction xs with
  | nil => rfl
  | cons first rest ih =>
      rw [List.find?_eq_none] at missing
      have notMeant : isMeant first = false := by
        simpa using missing first List.mem_cons_self
      have restMissing : rest.find? isMeant = none := by
        rw [List.find?_eq_none]
        intro x member
        exact missing x (List.mem_cons_of_mem _ member)
      simp [changeFirst, notMeant, ih restMissing]

/-- A change of the first element of a kind shows only in what the change shows of it. -/
theorem map_changeFirst
    {isMeant : α → Bool} {change : α → α} {view : α → β} {xs : List α}
    (unseen : ∀ x, xs.find? isMeant = some x → view (change x) = view x) :
    (changeFirst isMeant change xs).map view = xs.map view := by
  induction xs with
  | nil => rfl
  | cons first rest ih =>
      by_cases meant : isMeant first = true
      · have same := unseen first (List.find?_cons_of_pos meant)
        simp only [changeFirst, if_pos meant, List.map_cons, same]
      · have later : ∀ x, rest.find? isMeant = some x → view (change x) = view x := by
          intro x found
          exact unseen x (by rwa [List.find?_cons_of_neg meant])
        simp only [changeFirst, if_neg meant, List.map_cons, ih later]

/-- The first element that is meant is meant after a change that keeps what is meant. -/
theorem find?_changeFirst_meant
    {isMeant : α → Bool} {change : α → α} {xs : List α}
    (keeps : ∀ x, isMeant (change x) = isMeant x) :
    (changeFirst isMeant change xs).find? isMeant = (xs.find? isMeant).map change := by
  induction xs with
  | nil => rfl
  | cons first rest ih =>
      by_cases meant : isMeant first = true
      · have still : isMeant (change first) = true := (keeps first).trans meant
        rw [changeFirst, if_pos meant, List.find?_cons_of_pos still, List.find?_cons_of_pos meant]
        rfl
      · rw [changeFirst, if_neg meant, List.find?_cons_of_neg meant, List.find?_cons_of_neg meant,
          ih]

/-- What is of a kind only after the change of the first element that is meant is that element. -/
theorem find?_changeFirst
    {isMeant sought : α → Bool} {change : α → α} {xs : List α} {x : α}
    (found : xs.find? isMeant = some x) (before : ∀ y ∈ xs, sought y = false)
    (after : sought (change x) = true) :
    (changeFirst isMeant change xs).find? sought = some (change x) := by
  induction xs with
  | nil => cases found
  | cons first rest ih =>
      by_cases meant : isMeant first = true
      · rw [List.find?_cons_of_pos meant, Option.some.injEq] at found
        subst found
        rw [changeFirst, if_pos meant, List.find?_cons_of_pos after]
      · rw [List.find?_cons_of_neg meant] at found
        have unsought : ¬sought first = true := by
          rw [before first List.mem_cons_self]
          exact Bool.false_ne_true
        rw [changeFirst, if_neg meant, List.find?_cons_of_neg unsought]
        exact ih found fun y member => before y (List.mem_cons_of_mem _ member)

/-- One element less is of a kind when the first element that is meant was of it and is no more. -/
theorem countP_changeFirst
    {isMeant counted : α → Bool} {change : α → α} {xs : List α} {x : α}
    (found : xs.find? isMeant = some x) (before : counted x = true)
    (after : counted (change x) = false) :
    (changeFirst isMeant change xs).countP counted + 1 = xs.countP counted := by
  induction xs with
  | nil => cases found
  | cons first rest ih =>
      by_cases meant : isMeant first = true
      · rw [List.find?_cons_of_pos meant, Option.some.injEq] at found
        subst found
        simp [changeFirst, meant, before, after]
      · rw [List.find?_cons_of_neg meant] at found
        simp only [changeFirst, if_neg meant, List.countP_cons, ← ih found]
        omega

theorem mem_changeFirst
    {isMeant : α → Bool} {change : α → α} {xs : List α} {y : α}
    (member : y ∈ changeFirst isMeant change xs) :
    y ∈ xs ∨ ∃ x, xs.find? isMeant = some x ∧ y = change x := by
  induction xs with
  | nil => cases member
  | cons first rest ih =>
      by_cases meant : isMeant first = true
      · simp only [changeFirst, if_pos meant, List.mem_cons] at member
        rcases member with rfl | member
        · exact .inr ⟨first, List.find?_cons_of_pos meant, rfl⟩
        · exact .inl (List.mem_cons_of_mem _ member)
      · simp only [changeFirst, if_neg meant, List.mem_cons] at member
        rw [List.find?_cons_of_neg meant]
        rcases member with rfl | member
        · exact .inl List.mem_cons_self
        · exact (ih member).imp_left (List.mem_cons_of_mem _)

theorem change_mem_changeFirst
    {isMeant : α → Bool} {xs : List α} {x : α} (found : xs.find? isMeant = some x)
    (change : α → α) : change x ∈ changeFirst isMeant change xs := by
  induction xs with
  | nil => cases found
  | cons first rest ih =>
      by_cases meant : isMeant first = true
      · rw [List.find?_cons_of_pos meant, Option.some.injEq] at found
        rw [changeFirst, if_pos meant, found]
        exact List.mem_cons_self
      · rw [List.find?_cons_of_neg meant] at found
        rw [changeFirst, if_neg meant]
        exact List.mem_cons_of_mem _ (ih found)

theorem mem_changeFirst_of_mem
    {isMeant : α → Bool} {change : α → α} {xs : List α} {x : α} (member : x ∈ xs) :
    x ∈ changeFirst isMeant change xs ∨
      xs.find? isMeant = some x ∧ change x ∈ changeFirst isMeant change xs := by
  induction xs with
  | nil => cases member
  | cons first rest ih =>
      by_cases meant : isMeant first = true
      · simp only [changeFirst, if_pos meant, List.mem_cons]
        rcases List.mem_cons.mp member with rfl | member
        · exact .inr ⟨List.find?_cons_of_pos meant, .inl rfl⟩
        · exact .inl (.inr member)
      · simp only [changeFirst, if_neg meant, List.mem_cons, List.find?_cons_of_neg meant]
        rcases List.mem_cons.mp member with rfl | member
        · exact .inl (.inl rfl)
        · rcases ih member with kept | ⟨found, changed⟩
          · exact .inl (.inr kept)
          · exact .inr ⟨found, .inr changed⟩

theorem changeFirst_eq_map
    {isMeant : α → Bool} {key : α → κ} {change : α → α} {xs : List α} {x : α}
    (distinct : (xs.map key).Nodup) (found : xs.find? isMeant = some x) :
    changeFirst isMeant change xs =
      xs.map fun y => if key y = key x then change y else y := by
  induction xs with
  | nil => cases found
  | cons first rest ih =>
      rw [List.map_cons, List.nodup_cons] at distinct
      obtain ⟨absent, distinct⟩ := distinct
      by_cases meant : isMeant first = true
      · rw [List.find?_cons_of_pos meant, Option.some.injEq] at found
        subst found
        have untouched : (rest.map fun y => if key y = key first then change y else y) =
            rest.map id := by
          apply List.map_congr_left
          intro y member
          rw [if_neg, id_eq]
          intro equality
          exact absent (equality ▸ List.mem_map_of_mem member)
        simp [changeFirst, meant, untouched]
      · rw [List.find?_cons_of_neg meant] at found
        have different : key first ≠ key x := by
          intro equality
          exact absent (equality ▸ List.mem_map_of_mem (List.mem_of_find?_eq_some found))
        simp [changeFirst, meant, different, ih distinct found]

theorem eraseP_eq_filter
    {isMeant : α → Bool} {key : α → κ} {xs : List α} {x : α}
    (distinct : (xs.map key).Nodup) (found : xs.find? isMeant = some x) :
    xs.eraseP isMeant = xs.filter fun y => decide (key y ≠ key x) := by
  induction xs with
  | nil => cases found
  | cons first rest ih =>
      rw [List.map_cons, List.nodup_cons] at distinct
      obtain ⟨absent, distinct⟩ := distinct
      by_cases meant : isMeant first = true
      · rw [List.find?_cons_of_pos meant, Option.some.injEq] at found
        subst found
        have kept : rest.filter (fun y => decide (key y ≠ key first)) = rest := by
          rw [List.filter_eq_self]
          intro y member
          rw [decide_eq_true_iff]
          intro equality
          exact absent (equality ▸ List.mem_map_of_mem member)
        rw [List.eraseP_cons_of_pos meant, List.filter_cons_of_neg (by simp), kept]
      · rw [List.find?_cons_of_neg meant] at found
        have different : key first ≠ key x := by
          intro equality
          exact absent (equality ▸ List.mem_map_of_mem (List.mem_of_find?_eq_some found))
        rw [List.eraseP_cons_of_neg (by simpa using meant),
          List.filter_cons_of_pos (by simp [different]), ih distinct found]

/-- An element is found by its key where keys are distinct. -/
theorem find?_key_eq_some_iff
    {key : α → κ} {xs : List α} (distinct : (xs.map key).Nodup) {x : α} {k : κ} :
    xs.find? (fun y => key y == k) = some x ↔ x ∈ xs ∧ key x = k := by
  constructor
  · intro found
    have meant := List.find?_some found
    exact ⟨List.mem_of_find?_eq_some found, by simpa using meant⟩
  · rintro ⟨member, rfl⟩
    cases result : xs.find? (fun y => key y == key x) with
    | none =>
        rw [List.find?_eq_none] at result
        exact absurd (by simp) (result x member)
    | some y =>
        have meant := List.find?_some result
        rw [List.inj_on_of_nodup_map distinct (List.mem_of_find?_eq_some result) member
          (by simpa using meant)]

theorem changeFirst_key_eq_map
    {key : α → κ} {change : α → α} {xs : List α} (distinct : (xs.map key).Nodup) (k : κ) :
    changeFirst (fun y => key y == k) change xs =
      xs.map fun y => if key y = k then change y else y := by
  cases result : xs.find? (fun y => key y == k) with
  | some x =>
      obtain ⟨_, equality⟩ := (find?_key_eq_some_iff distinct).mp result
      rw [changeFirst_eq_map distinct result, equality]
  | none =>
      rw [changeFirst_of_find?_eq_none result]
      rw [List.find?_eq_none] at result
      have untouched : (xs.map fun y => if key y = k then change y else y) = xs.map id := by
        apply List.map_congr_left
        intro y member
        rw [if_neg (by simpa using result y member), id_eq]
      rw [untouched, List.map_id]

theorem eraseP_key_eq_filter
    {key : α → κ} {xs : List α} (distinct : (xs.map key).Nodup) (k : κ) :
    xs.eraseP (fun y => key y == k) = xs.filter fun y => decide (key y ≠ k) := by
  cases result : xs.find? (fun y => key y == k) with
  | some x =>
      obtain ⟨_, equality⟩ := (find?_key_eq_some_iff distinct).mp result
      rw [eraseP_eq_filter distinct result, equality]
  | none =>
      rw [List.find?_eq_none] at result
      have kept : xs.filter (fun y => decide (key y ≠ k)) = xs := by
        rw [List.filter_eq_self]
        intro y member
        simpa using result y member
      rw [kept, List.eraseP_of_forall_not result]

end SchemaDesign
