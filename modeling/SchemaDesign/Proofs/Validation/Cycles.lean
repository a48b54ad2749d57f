import Mathlib.Data.Finset.Insert
import Mathlib.Data.List.Permutation
import Mathlib.Data.List.Sublists
import Mathlib.Logic.Relation
import SchemaDesign.Proofs.Validation.Walks

/-!
# Which cycles are reported

Validation reports a cycle exactly if there is one, and what it reports are cycles through different
sets of tables.  It need not report every cycle: a table that has been left is not walked again, so
a second way into it is not followed.  Still every cycle has a reference in common with one whose
tables are reported, and all are reported where cycles through different tables have none in common.
-/

namespace SchemaDesign

namespace Schema

/-- A relationship leads from one table to another, and both exist. -/
def Refers (schema : Schema) (source target : TableId) : Prop :=
  source ∈ schema.tableIds ∧ target ∈ schema.tableIds ∧
    ∃ relationship ∈ schema.relationships,
      relationship.sourceTable = source ∧ relationship.targetTable = target

/-- The tables lie on a cycle of references. -/
def IsCycle (schema : Schema) (cycle : List TableId) : Prop :=
  Cycle.IsCycle schema.Refers cycle

/-- The findings on cycles. -/
def circularReferences (schema : Schema) : List Finding :=
  schema.validate.filter fun finding => finding.rule == .circularReference

end Schema

/-- A finding reports a cycle: it names its tables in order and is on the first one. -/
structure Finding.Reports (schema : Schema) (finding : Finding) (cycle : List TableId) : Prop where
  message : finding.message =
    "Circular foreign key reference: " ++ Validation.chainText schema cycle
  table : finding.table = cycle.head?

/-- Two cycles have a reference in common. -/
def Cycle.Share (left right : List TableId) : Prop :=
  ∃ source target, Passes left source target ∧ Passes right source target

namespace Cycle

/-- The lists of different members of a list. -/
def arrangements (tables : List TableId) : List (List TableId) :=
  tables.dedup.sublists.flatMap List.permutations'

theorem mem_arrangements
    {tables ids : List TableId} (distinct : ids.Nodup) (among : ids ⊆ tables) :
    ids ∈ arrangements tables := by
  have within : ids ⊆ tables.dedup := fun id member => List.mem_dedup.mpr (among member)
  obtain ⟨chosen, perm, sublist⟩ := distinct.subperm within
  exact List.mem_flatMap.mpr
    ⟨chosen, List.mem_sublists.mpr sublist, List.mem_permutations'.mpr perm.symm⟩

instance (refers : TableId → TableId → Prop) [DecidableRel refers] (cycle : List TableId) :
    Decidable (IsCycle refers cycle) :=
  decidable_of_iff (cycle ≠ [] ∧ cycle.Nodup ∧ (cycle ++ cycle.take 1).IsChain refers)
    ⟨fun holds => ⟨holds.1, holds.2.1, holds.2.2⟩,
      fun holds => ⟨holds.nonempty, holds.distinct, holds.linked⟩⟩

instance (cycle : List TableId) (source target : TableId) :
    Decidable (Passes cycle source target) :=
  inferInstanceAs (Decidable ([source, target] <:+: cycle ++ cycle.take 1))

theorem mem_of_passes
    {cycle : List TableId} {source target : TableId} (passes : Passes cycle source target) :
    source ∈ cycle ∧ target ∈ cycle := by
  have within (id : TableId) (member : id ∈ cycle ++ cycle.take 1) : id ∈ cycle :=
    (List.mem_append.mp member).elim (fun held => held) fun held => List.mem_of_mem_take held
  exact ⟨within source (passes.subset (by simp)), within target (passes.subset (by simp))⟩

instance (left right : List TableId) : Decidable (Share left right) :=
  decidable_of_iff
    (∃ source ∈ left, ∃ target ∈ left, Passes left source target ∧ Passes right source target)
    ⟨fun ⟨source, _, target, _, both⟩ => ⟨source, target, both⟩,
      fun ⟨source, target, both⟩ =>
        ⟨source, (mem_of_passes both.1).1, target, (mem_of_passes both.1).2, both⟩⟩

end Cycle

namespace Schema

instance (schema : Schema) : DecidableRel schema.Refers := fun source target =>
  inferInstanceAs (Decidable (source ∈ schema.tableIds ∧ target ∈ schema.tableIds ∧
    ∃ relationship ∈ schema.relationships,
      relationship.sourceTable = source ∧ relationship.targetTable = target))

instance (schema : Schema) (cycle : List TableId) : Decidable (schema.IsCycle cycle) :=
  inferInstanceAs (Decidable (Cycle.IsCycle schema.Refers cycle))

/-- All cycles of a schema, found among all lists of different tables. -/
def cycles (schema : Schema) : List (List TableId) :=
  (Cycle.arrangements schema.tableIds).filter schema.IsCycle

theorem mem_cycles_iff {schema : Schema} {cycle : List TableId} :
    cycle ∈ schema.cycles ↔ schema.IsCycle cycle := by
  rw [cycles, List.mem_filter, decide_eq_true_iff]
  refine ⟨fun found => found.2, fun isCycle => ⟨?_, isCycle⟩⟩
  apply Cycle.mem_arrangements isCycle.distinct
  intro table member
  obtain ⟨_, _, passes⟩ := Cycle.exists_passes member
  exact (Cycle.IsCycle.of_passes isCycle passes).1

end Schema

namespace Cycle

theorem mem_distinct {ids : List TableId} {id : TableId} : id ∈ distinct ids ↔ id ∈ ids := by
  induction ids with
  | nil => rfl
  | cons first ids ih =>
      simp only [distinct, List.mem_cons, List.mem_filter, ih, bne_iff_ne]
      by_cases same : id = first <;> simp [same]

theorem mem_targets_iff (schema : Schema) (source target : TableId) :
    target ∈ targets schema source ↔ schema.Refers source target := by
  simp only [targets, mem_distinct, List.mem_map, List.mem_filter, Bool.and_eq_true, beq_iff_eq,
    Schema.table?_isSome_iff, Schema.Refers]
  constructor
  · rintro ⟨relationship, ⟨member, ⟨rfl, sourceExists⟩, targetExists⟩, rfl⟩
    exact ⟨sourceExists, targetExists, relationship, member, rfl, rfl⟩
  · rintro ⟨sourceExists, targetExists, relationship, member, rfl, rfl⟩
    exact ⟨relationship, ⟨member, ⟨rfl, sourceExists⟩, targetExists⟩, rfl⟩

/-- All tables are left in the end, and what has been met is what is reported. -/
theorem exists_walked (schema : Schema) :
    ∃ progress : Progress, progress.cycles = all schema ∧ progress.Sound schema.Refers ∧
      ∀ table ∈ schema.tableIds, table ∈ progress.finished := by
  have walked := visit_all (mem_targets_iff schema) fun _ _ refers => refers.2.1
  exact ⟨_, (all_eq_foldl_visit schema).symm, walked.1, walked.2⟩

/-- A cycle leads from its first table back to it. -/
theorem IsCycle.transGen
    {refers : TableId → TableId → Prop} {cycle : List TableId} (isCycle : IsCycle refers cycle) :
    ∃ table, Relation.TransGen refers table table := by
  obtain ⟨first, rest, rfl⟩ := List.exists_cons_of_ne_nil isCycle.nonempty
  obtain ⟨second, more, split⟩ : ∃ second more, rest ++ [first] = second :: more :=
    List.exists_cons_of_ne_nil (by simp)
  have linked := isCycle.linked
  rw [List.take_succ_cons, List.take_zero, List.cons_append, split, List.isChain_cons_cons] at linked
  have last : (second :: more).getLast (List.cons_ne_nil _ _) = first := by
    simp [← split]
  have back := List.relationReflTransGen_of_exists_isChain_cons more linked.2 last
  exact ⟨first, .head' linked.1 back⟩

end Cycle

namespace Schema

theorem reports_circularReferences (schema : Schema) :
    List.Forall₂ (Finding.Reports schema) schema.circularReferences (Cycle.all schema) := by
  rw [circularReferences, Validation.filter_validate, Validation.ofRule, Validation.cycleFindings,
    List.forall₂_map_left_iff, List.forall₂_same]
  exact fun cycle _ => ⟨rfl, rfl⟩

variable {schema : Schema}

theorem isCycle_of_mem_all {cycle : List TableId} (member : cycle ∈ Cycle.all schema) :
    schema.IsCycle cycle := by
  obtain ⟨progress, cycles, sound, _⟩ := Cycle.exists_walked schema
  exact sound.cycles cycle (cycles ▸ member)

theorem nodup_all (schema : Schema) : ((Cycle.all schema).map List.toFinset).Nodup := by
  obtain ⟨progress, cycles, sound, _⟩ := Cycle.exists_walked schema
  rw [← cycles]
  exact List.pairwise_map.mpr sound.apart

/-- Going on along references from some tables for ever, one follows a reference of a cycle whose
tables are reported. -/
theorem exists_covers
    {among : TableId → Prop} {follows : TableId → TableId → Prop}
    (onward : ∀ source, among source → ∃ target, among target ∧ follows source target)
    (along : ∀ source target, follows source target → schema.Refers source target)
    (start : ∃ table, among table) :
    ∃ source target, follows source target ∧
      Cycle.Covers schema.Refers (Cycle.all schema) source target := by
  obtain ⟨progress, cycles, sound, finished⟩ := Cycle.exists_walked schema
  obtain ⟨table, isAmong⟩ := start
  obtain ⟨next, _, following⟩ := onward table isAmong
  have exists_ := (along table next following).1
  rw [← cycles]
  exact sound.settled.exists_covers onward along ⟨table, finished table exists_, isAmong⟩

/-- Every cycle has a reference in common with one whose tables are reported. -/
theorem IsCycle.exists_shared {cycle : List TableId} (isCycle : schema.IsCycle cycle) :
    ∃ other, schema.IsCycle other ∧ Cycle.Share cycle other ∧
      other.toFinset ∈ (Cycle.all schema).map List.toFinset := by
  have start : ∃ table, table ∈ cycle := List.exists_mem_of_ne_nil cycle isCycle.nonempty
  obtain ⟨source, target, passes, other, isOther, otherPasses, reported, member, same⟩ :=
    exists_covers (fun _ => Cycle.exists_passes) (fun _ _ => Cycle.IsCycle.of_passes isCycle) start
  exact ⟨other, isOther, ⟨source, target, passes, otherPasses⟩,
    List.mem_map.mpr ⟨reported, member, same⟩⟩

theorem all_ne_nil_iff :
    Cycle.all schema ≠ [] ↔ ∃ table, Relation.TransGen schema.Refers table table := by
  constructor
  · intro some
    obtain ⟨cycle, member⟩ := List.exists_mem_of_ne_nil _ some
    exact Cycle.IsCycle.transGen (isCycle_of_mem_all member)
  · rintro ⟨table, around⟩ none
    have onward (source : TableId) (leads : Relation.TransGen schema.Refers source table) :
        ∃ target, Relation.TransGen schema.Refers target table ∧ schema.Refers source target := by
      obtain ⟨target, reference, back⟩ := Relation.TransGen.head'_iff.mp leads
      exact ⟨target, .trans_right back around, reference⟩
    obtain ⟨_, _, _, _, _, _, reported, member, _⟩ :=
      exists_covers onward (fun _ _ reference => reference) ⟨table, around⟩
    rw [none] at member
    cases member

/-- Validation finds a circular reference exactly if references lead from some table back to it.
Each finding reports a cycle of different tables, and no two report the same set of them. -/
theorem circularReferences_sound_complete (schema : Schema) :
    (schema.circularReferences ≠ [] ↔ ∃ table, Relation.TransGen schema.Refers table table) ∧
      List.Forall₂ (Finding.Reports schema) schema.circularReferences (Cycle.all schema) ∧
      (∀ cycle ∈ Cycle.all schema, schema.IsCycle cycle) ∧
      (Cycle.all schema).Pairwise fun left right => left.toFinset ≠ right.toFinset := by
  have reports := schema.reports_circularReferences
  refine ⟨?_, reports, fun _ => isCycle_of_mem_all, List.pairwise_map.mp schema.nodup_all⟩
  rw [← all_ne_nil_iff, ← List.length_pos_iff, reports.length_eq, List.length_pos_iff]

/-- Each set of tables is reported once at most, and it is that of a cycle.  Every cycle has a
reference in common with one whose tables are reported.  So where cycles with a reference in common
pass the same tables, the sets reported are exactly those of the cycles. -/
theorem reported_cycles (schema : Schema) :
    List.Forall₂ (Finding.Reports schema) schema.circularReferences (Cycle.all schema) ∧
      ((Cycle.all schema).map List.toFinset).Nodup ∧
      (∀ cycle ∈ Cycle.all schema, schema.IsCycle cycle) ∧
      (∀ cycle, schema.IsCycle cycle → ∃ other, schema.IsCycle other ∧ Cycle.Share cycle other ∧
        other.toFinset ∈ (Cycle.all schema).map List.toFinset) ∧
      ((∀ left right, schema.IsCycle left → schema.IsCycle right → Cycle.Share left right →
          left.toFinset = right.toFinset) →
        ∀ tables, tables ∈ (Cycle.all schema).map List.toFinset ↔
          ∃ cycle, schema.IsCycle cycle ∧ cycle.toFinset = tables) := by
  refine ⟨schema.reports_circularReferences, schema.nodup_all, fun _ => isCycle_of_mem_all,
    fun _ => IsCycle.exists_shared, ?_⟩
  intro apart tables
  rw [List.mem_map]
  constructor
  · rintro ⟨cycle, member, same⟩
    exact ⟨cycle, isCycle_of_mem_all member, same⟩
  · rintro ⟨cycle, isCycle, rfl⟩
    obtain ⟨other, isOther, share, reported⟩ := isCycle.exists_shared
    rw [apart cycle other isCycle isOther share]
    exact List.mem_map.mp reported

/-- Users, orders and teams, with references between tables of some numbers. -/
def shop (references : List (Nat × Nat)) : Schema :=
  let table (number : Nat) (name : String) : Table :=
    { id := ⟨number⟩, name, columns := [], position := default, rowCount := 0, rows := [] }
  { new "shop" default with
    tables := [table 1 "users", table 2 "orders", table 3 "teams"]
    relationships := references.map fun (source, target) =>
      { name := none
        sourceTable := ⟨source⟩
        sourceColumn := ⟨0⟩
        targetTable := ⟨target⟩
        targetColumn := ⟨0⟩
        cardinality := .oneToMany
        id := ⟨0⟩ } }

/-- Two cycles through one table, which have no reference in common. -/
theorem reported_cycles_shop :
    let schema := shop [(1, 2), (2, 1), (1, 3), (3, 1)]
    (∀ left right, schema.IsCycle left → schema.IsCycle right → Cycle.Share left right →
        left.toFinset = right.toFinset) ∧
      (Cycle.all schema).map List.toFinset = [{⟨1⟩, ⟨2⟩}, {⟨1⟩, ⟨3⟩}] ∧
      ∀ tables, tables ∈ (Cycle.all schema).map List.toFinset ↔
        ∃ cycle, schema.IsCycle cycle ∧ cycle.toFinset = tables := by
  intro schema
  have apart : ∀ left ∈ schema.cycles, ∀ right ∈ schema.cycles, Cycle.Share left right →
      left.toFinset = right.toFinset := by
    decide
  have alone (left right : List TableId) (isLeft : schema.IsCycle left)
      (isRight : schema.IsCycle right) (share : Cycle.Share left right) :
      left.toFinset = right.toFinset :=
    apart left (mem_cycles_iff.mpr isLeft) right (mem_cycles_iff.mpr isRight) share
  exact ⟨alone, by decide, (reported_cycles schema).2.2.2.2 alone⟩

/-- The users belong to a team and place orders; an order names a team, and a team a user.  When the
way from users to teams is to be followed, the teams have been left on the way over the orders, so
the cycle of users and teams is not reported. -/
theorem cycle_into_left_table_unreported :
    let schema := shop [(1, 2), (2, 3), (1, 3), (3, 1)]
    schema.IsCycle [⟨1⟩, ⟨3⟩] ∧ Cycle.all schema = [[⟨1⟩, ⟨2⟩, ⟨3⟩]] ∧
      ¬∀ tables, tables ∈ (Cycle.all schema).map List.toFinset ↔
        ∃ cycle, schema.IsCycle cycle ∧ cycle.toFinset = tables := by
  intro schema
  have isCycle : schema.IsCycle [⟨1⟩, ⟨3⟩] := by decide
  refine ⟨isCycle, by decide, ?_⟩
  intro complete
  have reported := (complete {⟨1⟩, ⟨3⟩}).mpr ⟨_, isCycle, rfl⟩
  exact absurd reported (by decide)

end Schema

end SchemaDesign
