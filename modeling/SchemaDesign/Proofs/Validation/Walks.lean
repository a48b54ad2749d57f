import Mathlib.Data.Finset.Dedup
import Mathlib.Data.List.Chain
import SchemaDesign.Proofs.Validation.Relabeling

/-!
# What a walk along references has met

A walk leaves a table for good only after each of its targets has been left for good or closes a
cycle that has been met.  So the tables that it has left, the last one first, stand in an order in
which every reference leads to an earlier table or lies on a cycle whose tables have been met
together.  Around any cycle there is a table that was left first, and the reference from there to
the next table does not lead to an earlier one.
-/

namespace SchemaDesign.Cycle

variable {refers : TableId → TableId → Prop}

/-- Different tables of which each refers to the next one, and the last one to the first. -/
structure IsCycle (refers : TableId → TableId → Prop) (cycle : List TableId) : Prop where
  nonempty : cycle ≠ []
  distinct : cycle.Nodup
  linked : (cycle ++ cycle.take 1).IsChain refers

/-- Around a cycle, a table is followed by another. -/
def Passes (cycle : List TableId) (source target : TableId) : Prop :=
  [source, target] <:+: cycle ++ cycle.take 1

/-- A reference lies on a cycle, and a cycle through the same tables is known. -/
def Covers
    (refers : TableId → TableId → Prop) (known : List (List TableId)) (source target : TableId) :
    Prop :=
  ∃ cycle, IsCycle refers cycle ∧ Passes cycle source target ∧
    ∃ met ∈ known, met.toFinset = cycle.toFinset

/-- Tables in an order, the last one first, in which each refers to earlier ones only, apart from
references that are covered by known cycles. -/
inductive Settled (refers : TableId → TableId → Prop) (known : List (List TableId)) :
    List TableId → Prop where
  | nil : Settled refers known []
  | cons {table : TableId} {earlier : List TableId} (new : table ∉ earlier)
      (targets : ∀ target, refers table target →
        target ∈ earlier ∨ Covers refers known table target)
      (rest : Settled refers known earlier) : Settled refers known (table :: earlier)

/-- What holds of all that a walk has come to. -/
structure Progress.Sound (refers : TableId → TableId → Prop) (progress : Progress) : Prop where
  cycles : ∀ cycle ∈ progress.cycles, IsCycle refers cycle
  apart : progress.cycles.Pairwise fun left right => left.toFinset ≠ right.toFinset
  settled : Settled refers progress.cycles progress.finished

/-- What a walk has come to includes all that it had come to before. -/
structure Progress.Extends (before after : Progress) : Prop where
  finished : before.finished ⊆ after.finished
  cycles : before.cycles ⊆ after.cycles

/-- A walk among some tables stands at the end of a path, none of whose tables has been left. -/
structure Walking
    (refers : TableId → TableId → Prop) (tables path : List TableId) (progress : Progress) :
    Prop where
  among : path ⊆ tables
  distinct : path.Nodup
  linked : path.IsChain refers
  unfinished : ∀ table ∈ path, table ∉ progress.finished
  sound : progress.Sound refers

/-! ## Cycles -/

theorem IsCycle.of_passes
    {cycle : List TableId} (isCycle : IsCycle refers cycle) {source target : TableId}
    (passes : Passes cycle source target) : refers source target := by
  have linked := List.IsChain.infix isCycle.linked passes
  exact List.isChain_pair.mp linked

/-- Around a cycle, every table is followed by one of the cycle. -/
theorem exists_passes {cycle : List TableId} {source : TableId} (member : source ∈ cycle) :
    ∃ target ∈ cycle, Passes cycle source target := by
  obtain ⟨before, after, rfl⟩ := List.append_of_mem member
  cases after with
  | cons target after =>
      exact ⟨target, by simp, before, after ++ (before ++ source :: target :: after).take 1,
        by simp⟩
  | nil =>
      -- The last table is followed by the first one.
      cases before with
      | nil => exact ⟨source, by simp, [], [], rfl⟩
      | cons first before => exact ⟨first, by simp, first :: before, [], by simp⟩

theorem Covers.mono
    {known more : List (List TableId)} {source target : TableId} (within : known ⊆ more)
    (covers : Covers refers known source target) : Covers refers more source target := by
  obtain ⟨cycle, isCycle, passes, met, member, same⟩ := covers
  exact ⟨cycle, isCycle, passes, met, within member, same⟩

theorem Settled.mono
    {known more : List (List TableId)} {tables : List TableId} (within : known ⊆ more)
    (settled : Settled refers known tables) : Settled refers more tables := by
  induction settled with
  | nil => exact .nil
  | cons new targets rest ih =>
      exact .cons new (fun target refers => (targets target refers).imp_right (.mono within)) ih

/-- From settled tables one cannot go on and on along references without a covered one. -/
theorem Settled.exists_covers
    {known : List (List TableId)} {tables : List TableId}
    (settled : Settled refers known tables) {among : TableId → Prop}
    {follows : TableId → TableId → Prop}
    (onward : ∀ source, among source → ∃ target, among target ∧ follows source target)
    (along : ∀ source target, follows source target → refers source target)
    (start : ∃ table ∈ tables, among table) :
    ∃ source target, follows source target ∧ Covers refers known source target := by
  induction settled with
  | nil =>
      obtain ⟨_, member, _⟩ := start
      cases member
  | @cons table earlier new targets rest ih =>
      by_cases before : ∃ table ∈ earlier, among table
      · exact ih before
      · obtain ⟨first, member, isAmong⟩ := start
        rcases List.mem_cons.mp member with rfl | member
        · -- The table is the first one of them that was left, so what follows it was not.
          obtain ⟨target, targetAmong, following⟩ := onward first isAmong
          rcases targets target (along first target following) with isEarlier | covers
          · exact absurd ⟨target, isEarlier, targetAmong⟩ before
          · exact ⟨first, target, following, covers⟩
        · exact absurd ⟨first, member, isAmong⟩ before

/-! ## What is reported -/

theorem sameMembers_iff {left right : List TableId} :
    sameMembers left right = true ↔ left.toFinset = right.toFinset := by
  simp only [sameMembers, Bool.and_eq_true, List.all_eq_true, List.contains_iff_mem,
    Finset.ext_iff, List.mem_toFinset]
  constructor
  · rintro ⟨forth, back⟩ table
    exact ⟨forth table, back table⟩
  · intro same
    exact ⟨fun table => (same table).mp, fun table => (same table).mpr⟩

namespace Progress

theorem Extends.refl (progress : Progress) : progress.Extends progress :=
  ⟨List.Subset.refl _, List.Subset.refl _⟩

theorem Extends.trans {first second third : Progress}
    (left : first.Extends second) (right : second.Extends third) : first.Extends third :=
  ⟨List.Subset.trans left.finished right.finished, List.Subset.trans left.cycles right.cycles⟩

theorem finished_report (progress : Progress) (cycle : List TableId) :
    (progress.report cycle).finished = progress.finished := by
  rw [report]
  split <;> rfl

theorem extends_report (progress : Progress) (cycle : List TableId) :
    progress.Extends (progress.report cycle) := by
  rw [report]
  split
  · exact .refl progress
  · exact ⟨List.Subset.refl _, List.subset_append_left _ _⟩

theorem exists_met (progress : Progress) (cycle : List TableId) :
    ∃ met ∈ (progress.report cycle).cycles, met.toFinset = cycle.toFinset := by
  rw [report]
  split
  · rename_i known
    obtain ⟨met, member, same⟩ := List.any_eq_true.mp known
    exact ⟨met, member, (sameMembers_iff.mp same).symm⟩
  · exact ⟨cycle, by simp, rfl⟩

theorem Sound.report
    {progress : Progress} (sound : progress.Sound refers) {cycle : List TableId}
    (isCycle : IsCycle refers cycle) : (progress.report cycle).Sound refers := by
  have settled : Settled refers (progress.report cycle).cycles (progress.report cycle).finished := by
    rw [finished_report]
    exact sound.settled.mono (progress.extends_report cycle).cycles
  refine ⟨?_, ?_, settled⟩
  · intro met member
    rw [Progress.report] at member
    split at member
    · exact sound.cycles met member
    · rcases List.mem_append.mp member with member | member
      · exact sound.cycles met member
      · rwa [List.mem_singleton.mp member]
  · rw [Progress.report]
    split
    · exact sound.apart
    · rename_i unknown
      rw [List.pairwise_append]
      refine ⟨sound.apart, List.pairwise_singleton _ _, ?_⟩
      intro met member other isOther same
      rw [List.mem_singleton.mp isOther] at same
      exact unknown (List.any_eq_true.mpr ⟨met, member, sameMembers_iff.mpr same.symm⟩)

end Progress

/-! ## Walks -/

section

variable {tables before path : List TableId} {table target : TableId} {progress : Progress}

/-- A reference back to a table of the path closes a cycle. -/
theorem Walking.isCycle
    (walking : Walking refers tables (before ++ [table]) progress)
    (back : target ∈ before ++ [table]) (reference : refers table target) :
    IsCycle refers ((before ++ [table]).dropWhile (· != target)) ∧
      Passes ((before ++ [table]).dropWhile (· != target)) table target := by
  obtain ⟨start, rest, split⟩ := List.append_of_mem back
  have distinct := walking.distinct
  have linked := walking.linked
  rw [split] at distinct linked
  have dropped : (before ++ [table]).dropWhile (· != target) = target :: rest := by
    have others : ∀ other ∈ start, (other != target) = true := by
      intro other member
      rw [bne_iff_ne]
      rintro rfl
      exact (List.nodup_append.mp distinct).2.2 other member other List.mem_cons_self rfl
    rw [split, List.dropWhile_append_of_pos others, List.dropWhile_cons_of_neg (by simp)]
  obtain ⟨middle, ends⟩ : ∃ middle, target :: rest = middle ++ [table] := by
    have last : (target :: rest).getLast (List.cons_ne_nil _ _) = table := by
      have whole := congrArg List.getLast? split
      rw [List.getLast?_concat, List.getLast?_append_of_ne_nil _ (List.cons_ne_nil _ _),
        List.getLast?_eq_some_getLast (List.cons_ne_nil _ _)] at whole
      exact (Option.some.inj whole).symm
    exact ⟨_, last ▸ (List.dropLast_append_getLast (List.cons_ne_nil _ _)).symm⟩
  have around : (target :: rest) ++ [target] = middle ++ [table, target] := by
    rw [ends, List.append_assoc, List.singleton_append]
  rw [dropped]
  refine ⟨⟨List.cons_ne_nil _ _, distinct.of_append_right, ?_⟩, middle, [], ?_⟩
  · rw [List.take_succ_cons, List.take_zero, around, List.isChain_split,
      ← ends]
    exact ⟨linked.right_of_append, List.isChain_pair.mpr reference⟩
  · rw [List.take_succ_cons, List.take_zero, around, List.append_nil]

theorem Walking.report
    (walking : Walking refers tables path progress) {cycle : List TableId}
    (isCycle : IsCycle refers cycle) :
    Walking refers tables path (progress.report cycle) :=
  { walking with
    unfinished := by
      rw [Progress.finished_report]
      exact walking.unfinished
    sound := walking.sound.report isCycle }

/-- A path goes on to a target that is neither on it nor left. -/
theorem Walking.onward
    (walking : Walking refers tables path progress)
    (linked : ∀ last ∈ path.getLast?, refers last target) (among : target ∈ tables)
    (off : target ∉ path) (unfinished : target ∉ progress.finished) :
    Walking refers tables (path ++ [target]) progress := by
  refine ⟨?_, ?_, ?_, ?_, walking.sound⟩
  · intro id member
    rcases List.mem_append.mp member with member | member
    · exact walking.among member
    · rwa [List.mem_singleton.mp member]
  · rw [List.nodup_append]
    refine ⟨walking.distinct, List.nodup_singleton _, ?_⟩
    intro id member other isTarget same
    rw [List.mem_singleton.mp isTarget] at same
    exact off (same ▸ member)
  · refine walking.linked.append (List.isChain_singleton _) ?_
    intro last isLast first isFirst
    cases isFirst
    exact linked last isLast
  · intro id member
    rcases List.mem_append.mp member with member | member
    · exact walking.unfinished id member
    · rwa [List.mem_singleton.mp member]

/-- A table is left when each of its targets has been left or closes a cycle that has been met. -/
theorem Walking.leave
    (walking : Walking refers tables (before ++ [table]) progress)
    (done : ∀ target, refers table target →
      target ∈ progress.finished ∨ Covers refers progress.cycles table target) :
    Walking refers tables before { progress with finished := table :: progress.finished } := by
  have apart := List.nodup_append.mp walking.distinct
  refine ⟨?_, apart.1, walking.linked.left_of_append, ?_, ?_⟩
  · exact List.Subset.trans (List.subset_append_left _ _) walking.among
  · intro id member left
    rcases List.mem_cons.mp left with rfl | left
    · exact apart.2.2 id member id (List.mem_singleton_self id) rfl
    · exact walking.unfinished id (List.mem_append_left _ member) left
  · have new := walking.unfinished table (List.mem_append_right _ (List.mem_singleton_self table))
    exact ⟨walking.sound.cycles, walking.sound.apart, .cons new done walking.sound.settled⟩

end

/-- What a walk comes to from the end of a path: it keeps what it had met before, and the given
targets have been left, or the references to them from the end of the path are covered. -/
structure Visited
    (refers : TableId → TableId → Prop) (tables path targets : List TableId)
    (before after : Progress) : Prop where
  walking : Walking refers tables path after
  kept : before.Extends after
  done : ∀ target ∈ targets, target ∈ after.finished ∨
    ∃ source ∈ path.getLast?, Covers refers after.cycles source target

/-- Walks of a depth that there is room for leave the table that they begin at. -/
def WalksLeave
    (refers : TableId → TableId → Prop) (targets : TableId → List TableId)
    (tables : List TableId) (depth : Nat) : Prop :=
  ∀ (before : List TableId) (table : TableId) (progress : Progress),
    tables.length ≤ before.length + depth →
    Walking refers tables (before ++ [table]) progress →
    Visited refers tables before [table] progress (walk targets depth before table progress)

section

variable {targets : TableId → List TableId} {tables path : List TableId} {depth : Nat}

theorem WalksLeave.visit
    (leave : WalksLeave refers targets tables depth)
    (room : tables.length ≤ path.length + depth) {progress : Progress}
    (walking : Walking refers tables path progress) {target : TableId} (among : target ∈ tables)
    (linked : ∀ last ∈ path.getLast?, refers last target) :
    Visited refers tables path [target] progress (visit targets depth path progress target) := by
  rw [Cycle.visit]
  split
  · -- The target is on the path: a cycle has been met.
    rename_i onPath
    rw [List.contains_iff_mem] at onPath
    obtain rfl | ⟨before, table, rfl⟩ := List.eq_nil_or_concat' path
    · cases onPath
    · have reference : refers table target := linked table (by simp)
      obtain ⟨isCycle, passes⟩ := walking.isCycle onPath reference
      refine ⟨walking.report isCycle, progress.extends_report _, ?_⟩
      intro id member
      rw [List.mem_singleton.mp member]
      exact .inr ⟨table, by simp, _, isCycle, passes, progress.exists_met _⟩
  · rename_i off
    rw [List.contains_iff_mem] at off
    split
    · rename_i left
      rw [List.contains_iff_mem] at left
      refine ⟨walking, .refl progress, ?_⟩
      intro id member
      rw [List.mem_singleton.mp member]
      exact .inl left
    · rename_i unfinished
      rw [List.contains_iff_mem] at unfinished
      exact leave path target progress room (walking.onward linked among off unfinished)

theorem WalksLeave.visits
    (leave : WalksLeave refers targets tables depth)
    (room : tables.length ≤ path.length + depth) {progress : Progress}
    (walking : Walking refers tables path progress) {ids : List TableId}
    (among : ∀ id ∈ ids, id ∈ tables)
    (linked : ∀ id ∈ ids, ∀ last ∈ path.getLast?, refers last id) :
    Visited refers tables path ids progress
      (ids.foldl (Cycle.visit targets depth path) progress) := by
  induction ids generalizing progress with
  | nil => exact ⟨walking, .refl progress, fun _ member => by cases member⟩
  | cons id ids ih =>
      have first := leave.visit room walking (among id List.mem_cons_self)
        (linked id List.mem_cons_self)
      have rest := ih first.walking (fun id member => among id (List.mem_cons_of_mem _ member))
        fun id member => linked id (List.mem_cons_of_mem _ member)
      refine ⟨rest.walking, first.kept.trans rest.kept, ?_⟩
      intro target member
      rcases List.mem_cons.mp member with rfl | member
      · -- What the first visit has met stays met.
        rcases first.done target (List.mem_singleton_self target) with left | ⟨source, last, covers⟩
        · exact .inl (rest.kept.finished left)
        · exact .inr ⟨source, last, covers.mono rest.kept.cycles⟩
      · exact rest.done target member

theorem walksLeave
    (follows : ∀ source target, target ∈ targets source ↔ refers source target)
    (among : ∀ source target, refers source target → target ∈ tables) (depth : Nat) :
    WalksLeave refers targets tables depth := by
  induction depth with
  | zero =>
      -- A path through more tables than there are would have one of them twice.
      intro before table progress room walking
      have short := walking.distinct.length_le_of_subset walking.among
      rw [List.length_append, List.length_singleton] at short
      omega
  | succ depth ih =>
      intro before table progress room walking
      rw [walk_succ]
      have roomAfter : tables.length ≤ (before ++ [table]).length + depth := by
        rw [List.length_append, List.length_singleton]
        omega
      have linked : ∀ target ∈ targets table, ∀ last ∈ (before ++ [table]).getLast?,
          refers last target := by
        intro target member last isLast
        rw [List.getLast?_concat, Option.mem_some_iff] at isLast
        exact isLast ▸ (follows table target).mp member
      have visited := ih.visits roomAfter walking
        (fun target member => among table target ((follows table target).mp member)) linked
      refine ⟨visited.walking.leave ?_, ?_, ?_⟩
      · intro target reference
        rcases visited.done target ((follows table target).mpr reference) with
          left | ⟨source, last, covers⟩
        · exact .inl left
        · rw [List.getLast?_concat, Option.mem_some_iff] at last
          exact .inr (last ▸ covers)
      · exact ⟨List.subset_cons_of_subset _ visited.kept.finished, visited.kept.cycles⟩
      · intro id member
        rw [List.mem_singleton.mp member]
        exact .inl List.mem_cons_self

/-- Visiting all tables leaves all of them. -/
theorem visit_all
    (follows : ∀ source target, target ∈ targets source ↔ refers source target)
    (among : ∀ source target, refers source target → target ∈ tables) :
    let after := tables.foldl (visit targets tables.length []) { finished := [], cycles := [] }
    after.Sound refers ∧ ∀ table ∈ tables, table ∈ after.finished := by
  intro after
  have start : Walking refers tables [] { finished := [], cycles := [] } :=
    { among := List.nil_subset _
      distinct := List.nodup_nil
      linked := List.isChain_nil
      unfinished := fun _ member => by cases member
      sound :=
        { cycles := fun _ member => by cases member
          apart := List.Pairwise.nil
          settled := .nil } }
  have visited := (walksLeave follows among tables.length).visits (by simp) start
    (fun _ member => member) fun _ _ _ last => by cases last
  refine ⟨visited.walking.sound, fun table member => ?_⟩
  rcases visited.done table member with left | ⟨_, last, _⟩
  · exact left
  · cases last

end

end SchemaDesign.Cycle
