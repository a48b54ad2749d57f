import SchemaDesign.Validation.Rules

/-!
# Findings by the rules that they come from

Every finding names the rule that it comes from.  Only two rules have findings that can be fixed:
that a table has one column of its primary key, and that a foreign key column begins an index.
-/

namespace SchemaDesign

namespace Validation

/-- The findings of one rule. -/
def ofRule (schema : Schema) : Rule → List Finding
  | .primaryKey => primaryKeyFindings schema
  | .foreignKeyIntegrity => foreignKeyFindings schema
  | .circularReference => cycleFindings schema
  | .namingConvention => namingFindings schema
  | .missingForeignKeyIndex => foreignKeyIndexFindings schema
  | .duplicateTableName => duplicateTableFindings schema
  | .duplicateColumnName => duplicateColumnFindings schema
  | .reservedKeyword => reservedFindings schema
  | .emptyTable => emptyTableFindings schema
  | .unknownDataType => dataTypeFindings schema

/-- A finding of a rule that has no fix. -/
structure Unfixable (rule : Rule) (finding : Finding) : Prop where
  rule : finding.rule = rule
  fixable : finding.autoFixable = false

/-- A finding says of a relationship that its source column begins no index. -/
def LacksIndex (schema : Schema) (relationship : Relationship) (finding : Finding) : Prop :=
  ∃ table column,
    schema.endpoint? relationship.sourceTable relationship.sourceColumn = some (table, column) ∧
      hasLeadingIndex schema table column = false ∧
      finding = missingIndex relationship table column

variable {schema : Schema} {finding : Finding}

theorem mem_primaryKeyFindings (member : finding ∈ primaryKeyFindings schema) :
    finding.rule = .primaryKey ∧ ∃ table ∈ schema.tables, finding.table = some table.id ∧
      table.primaryKeys.length ≠ 1 ∧
      (finding.autoFixable = true → 1 < table.primaryKeys.length) := by
  obtain ⟨table, tableMember, found⟩ := List.mem_filterMap.mp member
  dsimp only at found
  split at found
  · rename_i none
    cases found
    exact ⟨rfl, table, tableMember, rfl, by omega, fun fixable => by cases fixable⟩
  · split at found
    · cases found
    · cases found
      exact ⟨rfl, table, tableMember, rfl, by omega, fun _ => by omega⟩

theorem unfixable_foreignKeyFindings (member : finding ∈ foreignKeyFindings schema) :
    Unfixable .foreignKeyIntegrity finding := by
  obtain ⟨relationship, _, found⟩ := List.mem_filterMap.mp member
  obtain ⟨message, _, rfl⟩ := Option.map_eq_some_iff.mp found
  exact ⟨rfl, rfl⟩

theorem unfixable_cycleFindings (member : finding ∈ cycleFindings schema) :
    Unfixable .circularReference finding := by
  obtain ⟨cycle, _, rfl⟩ := List.mem_map.mp member
  exact ⟨rfl, rfl⟩

theorem unfixable_namingFindings (member : finding ∈ namingFindings schema) :
    Unfixable .namingConvention finding := by
  obtain ⟨table, _, rfl⟩ := List.mem_map.mp member
  exact ⟨rfl, rfl⟩

theorem mem_missingIndexFindings
    {seen : List ColumnId} {relationships : List Relationship}
    (member : finding ∈ missingIndexFindings schema seen relationships) :
    ∃ relationship ∈ relationships, LacksIndex schema relationship finding := by
  induction relationships generalizing seen with
  | nil => cases member
  | cons relationship relationships ih =>
      have later {seen : List ColumnId}
          (member : finding ∈ missingIndexFindings schema seen relationships) :
          ∃ other ∈ relationship :: relationships, LacksIndex schema other finding := by
        obtain ⟨other, otherMember, lacks⟩ := ih member
        exact ⟨other, List.mem_cons_of_mem _ otherMember, lacks⟩
      rw [missingIndexFindings] at member
      split at member
      · exact later member
      · rename_i table column resolved
        split at member
        · exact later member
        · dsimp only at member
          split at member
          · exact later member
          · rename_i uncovered
            rcases List.mem_cons.mp member with rfl | member
            · refine ⟨relationship, List.mem_cons_self, table, column, resolved, ?_, rfl⟩
              simpa using uncovered
            · exact later member

theorem unfixable_duplicateTablesAfter
    {seen : List (String × String)} {tables : List Table}
    (member : finding ∈ duplicateTablesAfter seen tables) :
    Unfixable .duplicateTableName finding := by
  induction tables generalizing seen with
  | nil => cases member
  | cons table tables ih =>
      rw [duplicateTablesAfter] at member
      split at member
      · rcases List.mem_cons.mp member with rfl | member
        · exact ⟨rfl, rfl⟩
        · exact ih member
      · exact ih member

theorem unfixable_duplicateColumnsAfter
    {table : Table} {seen : List String} {columns : List Column}
    (member : finding ∈ duplicateColumnsAfter table seen columns) :
    Unfixable .duplicateColumnName finding := by
  induction columns generalizing seen with
  | nil => cases member
  | cons column columns ih =>
      rw [duplicateColumnsAfter] at member
      split at member
      · rcases List.mem_cons.mp member with rfl | member
        · exact ⟨rfl, rfl⟩
        · exact ih member
      · exact ih member

theorem unfixable_reservedFindings (member : finding ∈ reservedFindings schema) :
    Unfixable .reservedKeyword finding := by
  obtain ⟨table, _, found⟩ := List.mem_flatMap.mp member
  rcases List.mem_append.mp found with found | found
  · split at found
    · rw [List.mem_singleton.mp found]
      exact ⟨rfl, rfl⟩
    · cases found
  · obtain ⟨column, _, rfl⟩ := List.mem_map.mp found
    exact ⟨rfl, rfl⟩

theorem unfixable_emptyTableFindings (member : finding ∈ emptyTableFindings schema) :
    Unfixable .emptyTable finding := by
  obtain ⟨table, _, rfl⟩ := List.mem_map.mp member
  exact ⟨rfl, rfl⟩

theorem unfixable_dataTypeFindings (member : finding ∈ dataTypeFindings schema) :
    Unfixable .unknownDataType finding := by
  obtain ⟨table, _, found⟩ := List.mem_flatMap.mp member
  obtain ⟨column, _, rfl⟩ := List.mem_map.mp found
  exact ⟨rfl, rfl⟩

theorem rule_of_mem_ofRule {rule : Rule} (member : finding ∈ ofRule schema rule) :
    finding.rule = rule ∧
      (finding.autoFixable = true → rule = .primaryKey ∨ rule = .missingForeignKeyIndex) := by
  have unfixable (plain : Unfixable rule finding) : finding.rule = rule ∧
      (finding.autoFixable = true → rule = .primaryKey ∨ rule = .missingForeignKeyIndex) :=
    ⟨plain.rule, fun fixable => by rw [plain.fixable] at fixable; cases fixable⟩
  cases rule with
  | primaryKey => exact ⟨(mem_primaryKeyFindings member).1, fun _ => .inl rfl⟩
  | foreignKeyIntegrity => exact unfixable (unfixable_foreignKeyFindings member)
  | circularReference => exact unfixable (unfixable_cycleFindings member)
  | namingConvention => exact unfixable (unfixable_namingFindings member)
  | missingForeignKeyIndex =>
      obtain ⟨relationship, _, _, _, _, _, rfl⟩ := mem_missingIndexFindings member
      exact ⟨rfl, fun _ => .inr rfl⟩
  | duplicateTableName => exact unfixable (unfixable_duplicateTablesAfter member)
  | duplicateColumnName =>
      obtain ⟨table, _, found⟩ := List.mem_flatMap.mp member
      exact unfixable (unfixable_duplicateColumnsAfter found)
  | reservedKeyword => exact unfixable (unfixable_reservedFindings member)
  | emptyTable => exact unfixable (unfixable_emptyTableFindings member)
  | unknownDataType => exact unfixable (unfixable_dataTypeFindings member)

theorem validate_eq_flatMap : schema.validate = Rule.all.flatMap (ofRule schema) := by
  simp [Schema.validate, Rule.all, ofRule]

/-- A finding is found by the rule that it names. -/
theorem mem_validate_iff : finding ∈ schema.validate ↔ finding ∈ ofRule schema finding.rule := by
  rw [validate_eq_flatMap, List.mem_flatMap]
  constructor
  · rintro ⟨rule, _, member⟩
    rwa [(rule_of_mem_ofRule member).1]
  · intro member
    refine ⟨finding.rule, ?_, member⟩
    cases finding.rule <;> decide

theorem filter_ofRule (rule other : Rule) :
    (ofRule schema other).filter (fun finding => finding.rule == rule) =
      if other = rule then ofRule schema rule else [] := by
  split
  · rename_i same
    subst same
    rw [List.filter_eq_self]
    intro finding member
    rw [(rule_of_mem_ofRule member).1, beq_self_eq_true]
  · rename_i different
    rw [List.filter_eq_nil_iff]
    intro finding member
    rwa [(rule_of_mem_ofRule member).1, beq_iff_eq]

/-- The findings of validation that name a rule are those of the rule, in their order. -/
theorem filter_validate (rule : Rule) :
    schema.validate.filter (fun finding => finding.rule == rule) = ofRule schema rule := by
  rw [validate_eq_flatMap, List.filter_flatMap]
  simp only [filter_ofRule]
  cases rule <;> simp [Rule.all]

end Validation

end SchemaDesign
