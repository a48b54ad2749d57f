import SchemaDesign.Proofs.Schema.Linked
import SchemaDesign.Proofs.Validation.ByRule

/-!
# Findings on references

A linked schema has no finding on the ends of its relationships.
-/

namespace SchemaDesign

namespace Validation

variable {schema : Schema} {finding : Finding}

theorem danglingEnd?_eq_none
    (linked : schema.Linked) {relationship : Relationship}
    (member : relationship ∈ schema.relationships) : danglingEnd? schema relationship = none := by
  obtain ⟨⟨source, sourceColumn⟩, sourceResolved⟩ :=
    Option.isSome_iff_exists.mp (linked.sources relationship member)
  obtain ⟨⟨target, targetColumn⟩, targetResolved⟩ :=
    Option.isSome_iff_exists.mp (linked.targets relationship member)
  obtain ⟨sourceFound, sourceHeld⟩ := Schema.endpoint?_eq_some_iff.mp sourceResolved
  obtain ⟨targetFound, targetHeld⟩ := Schema.endpoint?_eq_some_iff.mp targetResolved
  simp [danglingEnd?, sourceFound, targetFound, sourceHeld, targetHeld]

theorem foreignKeyFindings_eq_nil (linked : schema.Linked) : foreignKeyFindings schema = [] := by
  rw [foreignKeyFindings, List.filterMap_eq_nil_iff]
  intro relationship member
  rw [danglingEnd?_eq_none linked member]
  rfl

theorem rule_ne_foreignKeyIntegrity (linked : schema.Linked) (member : finding ∈ schema.validate) :
    finding.rule ≠ .foreignKeyIntegrity := by
  intro rule
  have found := mem_validate_iff.mp member
  rw [rule, ofRule, foreignKeyFindings_eq_nil linked] at found
  cases found

end Validation

end SchemaDesign
