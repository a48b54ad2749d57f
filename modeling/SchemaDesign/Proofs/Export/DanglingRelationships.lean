import Mathlib.Data.List.Forall2
import SchemaDesign.Ddl.Script
import SchemaDesign.Export.JsonSchema
import SchemaDesign.Proofs.Validation.ByRule
import SchemaDesign.Proofs.Validation.Relabeling

/-!
# Relationships with a missing end

Validation finds the four ends of a relationship table by table and column by column, and the
generators look up each side as a whole.  They agree on every relationship: the ones that are
reported are the ones that the creation script and the JSON Schema document leave out.
-/

namespace SchemaDesign

namespace Validation

/-- What the integrity of foreign keys has to say about one relationship of a schema. -/
def errorsOn (schema : Schema) (relationship : Relationship) : List Finding :=
  foreignKeyFindings { schema with relationships := [relationship] }

/-- A finding is an error that names a relationship. -/
structure IsErrorOn (relationship : Relationship) (finding : Finding) : Prop where
  rule : finding.rule = .foreignKeyIntegrity
  severity : finding.severity = .error
  named : finding.relationship = some relationship.id
  message : ("Relationship '" ++ labelOf relationship ++ "'").toList <+: finding.message.toList

end Validation

/-- The relationships of a schema that validation has no error on. -/
def Schema.soundRelationships (schema : Schema) : List Relationship :=
  schema.relationships.filter fun relationship =>
    (Validation.errorsOn schema relationship).isEmpty

namespace Export.JsonSchema

/-- An entry of a document tells the two ends of a relationship, its cardinality and, if it has
one, its name. -/
structure Describes (schema : Schema) (relationship : Relationship) (entry : Json) : Prop where
  ends : ∃ source sourceColumn target targetColumn,
    schema.endpoints? relationship.toRelationshipSpec =
        some ((source, sourceColumn), (target, targetColumn)) ∧
      entry.member? "from" = some (.string (source.name ++ "." ++ sourceColumn.name)) ∧
      entry.member? "to" = some (.string (target.name ++ "." ++ targetColumn.name))
  cardinality : entry.member? "cardinality" = some (.string relationship.cardinality.text)
  name : entry.member? "name" = relationship.name.map .string

end Export.JsonSchema

/-! ## Lists -/

/-- What a partial function makes of a list comes, one each, from the elements that pass a test, if
the test tells where the function has a value. -/
theorem forall₂_filter_filterMap
    {α β : Type} {f : α → Option β} {test : α → Bool} {related : α → β → Prop} {items : List α}
    (passes : ∀ item ∈ items, test item = (f item).isSome)
    (values : ∀ item ∈ items, ∀ value, f item = some value → related item value) :
    List.Forall₂ related (items.filter test) (items.filterMap f) := by
  induction items with
  | nil => exact .nil
  | cons item items ih =>
      have rest := ih (fun other member => passes other (List.mem_cons_of_mem item member))
        (fun other member => values other (List.mem_cons_of_mem item member))
      have here := passes item List.mem_cons_self
      cases value : f item with
      | none =>
          rw [value, Option.isSome_none] at here
          rwa [List.filter_cons_of_neg (ne_true_of_eq_false here), List.filterMap_cons_none value]
      | some found =>
          rw [value, Option.isSome_some] at here
          rw [List.filter_cons_of_pos here, List.filterMap_cons_some value]
          exact .cons (values item List.mem_cons_self found value) rest

/-! ## The ends of a relationship -/

section

variable {schema : Schema} {relationship : Relationship}

/-- There is no problem with the ends of a relationship exactly if both sides can be looked up. -/
theorem isSome_endpoints? :
    (schema.endpoints? relationship.toRelationshipSpec).isSome =
      (Validation.danglingProblem? schema relationship).isNone := by
  rw [Validation.danglingProblem?, Schema.endpoints?, Schema.endpoint?, Schema.endpoint?]
  cases schema.table? relationship.sourceTable with
  | none => rfl
  | some source =>
      dsimp only [Option.bind_eq_bind, Option.bind_some]
      cases schema.table? relationship.targetTable with
      | none => cases source.column? relationship.sourceColumn <;> rfl
      | some target =>
          dsimp only [Option.bind_some]
          cases source.column? relationship.sourceColumn with
          | none => rfl
          | some sourceColumn => cases target.column? relationship.targetColumn <;> rfl

/-! ## Validation -/

namespace Validation

theorem errorsOn_eq :
    errorsOn schema relationship =
      ((danglingProblem? schema relationship).map
        (danglingFinding schema relationship)).toList := by
  rw [errorsOn, foreignKeyFindings_eq_filterMap]
  change [relationship].filterMap (fun other =>
    (danglingProblem? schema other).map (danglingFinding schema other)) = _
  rw [List.filterMap_eq_flatMap_toList, List.flatMap_singleton]

/-- Each relationship is judged on its own. -/
theorem foreignKeyFindings_eq_flatMap (schema : Schema) :
    foreignKeyFindings schema = schema.relationships.flatMap (errorsOn schema) := by
  rw [foreignKeyFindings_eq_filterMap, List.filterMap_eq_flatMap_toList]
  exact List.flatMap_congr fun relationship _ => errorsOn_eq.symm

theorem isErrorOn_danglingFinding (problem : String) :
    IsErrorOn relationship (danglingFinding schema relationship problem) := by
  refine ⟨rfl, rfl, rfl, problem.toList, ?_⟩
  rw [danglingFinding, ← String.toList_append]

theorem isEmpty_errorsOn :
    (errorsOn schema relationship).isEmpty =
      (schema.endpoints? relationship.toRelationshipSpec).isSome := by
  rw [errorsOn_eq, isSome_endpoints?]
  cases danglingProblem? schema relationship <;> rfl

theorem exists_errorsOn_eq
    (missing : (schema.endpoints? relationship.toRelationshipSpec).isSome = false) :
    ∃ finding, errorsOn schema relationship = [finding] ∧ IsErrorOn relationship finding := by
  rw [isSome_endpoints?] at missing
  cases found : danglingProblem? schema relationship with
  | none =>
      rw [found] at missing
      cases missing
  | some problem =>
      exact ⟨_, by rw [errorsOn_eq, found]; rfl, isErrorOn_danglingFinding problem⟩

end Validation

/-! ## Scripts and documents -/

theorem isSome_foreignKey? (dialect : Dialect) :
    (Ddl.foreignKey? dialect schema relationship.toRelationshipSpec).isSome =
      (schema.endpoints? relationship.toRelationshipSpec).isSome := by
  rw [Ddl.foreignKey?]
  cases schema.endpoints? relationship.toRelationshipSpec <;> rfl

/-- The foreign keys of a creation script are one paragraph of it, and the rest of it does not
depend on the relationships. -/
theorem exists_script_eq (dialect : Dialect) (schema : Schema) :
    ∃ before after, ∀ relationships,
      Ddl.script dialect { schema with relationships } =
        before ++ Ddl.paragraph (relationships.filterMap fun relationship =>
          Ddl.foreignKey? dialect schema relationship.toRelationshipSpec) ++ after :=
  ⟨"-- Schema: " ++ schema.name ++ "\n" ++
      "-- Dialect: " ++ dialect.displayName ++ "\n" ++
      "-- Generated by SchemaForge\n" ++
      String.join (schema.tables.map fun table =>
        "\n" ++ Ddl.createTable dialect schema table ++ "\n") ++
      Ddl.paragraph (schema.tables.flatMap (Ddl.indexStatements dialect schema)),
    Ddl.paragraph (if dialect = .mySql then Ddl.userStatements schema else []),
    fun _ => rfl⟩

theorem isSome_relationshipSchema? :
    (Export.JsonSchema.relationshipSchema? schema relationship).isSome =
      (schema.endpoints? relationship.toRelationshipSpec).isSome := by
  rw [Export.JsonSchema.relationshipSchema?]
  cases schema.endpoints? relationship.toRelationshipSpec <;> rfl

theorem describes_of_relationshipSchema?
    {entry : Json} (made : Export.JsonSchema.relationshipSchema? schema relationship = some entry) :
    Export.JsonSchema.Describes schema relationship entry := by
  obtain ⟨⟨⟨source, sourceColumn⟩, ⟨target, targetColumn⟩⟩, ends, same⟩ :=
    Option.bind_eq_some_iff.mp made
  cases same
  cases named : relationship.name with
  | none =>
      exact ⟨⟨source, sourceColumn, target, targetColumn, ends, rfl, rfl⟩, rfl, by rw [named]; rfl⟩
  | some name =>
      exact ⟨⟨source, sourceColumn, target, targetColumn, ends, rfl, rfl⟩, rfl, by rw [named]; rfl⟩

end

/-- Validation and the generators agree on every relationship, whichever of its four ends are
missing.  The integrity of foreign keys has one error on it if no statement adds its foreign key,
and none otherwise; and the foreign keys of the creation script and the relationships of the JSON
Schema document are those of the relationships without an error, one each and in their order.  All
else in the script does not depend on the relationships. -/
theorem dangling_relationships_agree (dialect : Dialect) (schema : Schema) :
    schema.validate.filter (fun finding => finding.rule == .foreignKeyIntegrity) =
        schema.relationships.flatMap (Validation.errorsOn schema) ∧
      (∀ relationship : Relationship,
        match Ddl.foreignKey? dialect schema relationship.toRelationshipSpec with
        | none => ∃ finding, Validation.errorsOn schema relationship = [finding] ∧
            Validation.IsErrorOn relationship finding
        | some _ => Validation.errorsOn schema relationship = []) ∧
      (∃ before statements after,
        List.Forall₂ (fun relationship statement =>
            Ddl.foreignKey? dialect schema relationship.toRelationshipSpec = some statement)
          schema.soundRelationships statements ∧
        Ddl.script dialect schema = before ++ Ddl.paragraph statements ++ after ∧
        Ddl.script dialect { schema with relationships := [] } = before ++ after) ∧
      ∃ entries,
        List.Forall₂ (Export.JsonSchema.Describes schema) schema.soundRelationships entries ∧
        (Export.JsonSchema.document schema).member? "x-relationships" = some (.array entries) := by
  refine ⟨?_, fun relationship => ?_, ?_, ?_⟩
  · rw [Validation.filter_validate, Validation.ofRule, Validation.foreignKeyFindings_eq_flatMap]
  · have ends : (Ddl.foreignKey? dialect schema relationship.toRelationshipSpec).isSome =
        (schema.endpoints? relationship.toRelationshipSpec).isSome := isSome_foreignKey? dialect
    cases written : Ddl.foreignKey? dialect schema relationship.toRelationshipSpec with
    | none =>
        rw [written] at ends
        exact Validation.exists_errorsOn_eq ends.symm
    | some statement =>
        rw [written, ← Validation.isEmpty_errorsOn] at ends
        exact List.isEmpty_iff.mp ends.symm
  · obtain ⟨before, after, script⟩ := exists_script_eq dialect schema
    refine ⟨before, _, after, forall₂_filter_filterMap ?_ ?_, script schema.relationships, ?_⟩
    · intro relationship _
      rw [Validation.isEmpty_errorsOn, isSome_foreignKey?]
    · exact fun _ _ _ made => made
    · rw [script [], List.filterMap_nil, Ddl.paragraph, List.isEmpty_nil, if_pos rfl,
        String.append_empty]
  · refine ⟨_, forall₂_filter_filterMap ?_ ?_, rfl⟩
    · intro relationship _
      rw [Validation.isEmpty_errorsOn, isSome_relationshipSchema?]
    · exact fun _ _ _ made => describes_of_relationshipSchema? made

end SchemaDesign
