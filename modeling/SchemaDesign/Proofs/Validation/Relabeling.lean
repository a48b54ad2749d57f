import Mathlib.Data.List.Forall2
import SchemaDesign.Proofs.Schema.Relabeling
import SchemaDesign.Proofs.Validation.ByRule

/-!
# Findings under other identities

Validation finds the same under other identities, in the same order.  A message shows an identity
only where it speaks of a relationship that has no name.
-/

namespace SchemaDesign

variable (relabel : Relabeling)

def Finding.relabeled (finding : Finding) : Finding :=
  { finding with
    table := finding.table.map (relabel.apply .table)
    column := finding.column.map (relabel.apply .column)
    relationship := finding.relationship.map (relabel.apply .relationship) }

/-- What a finding on a schema becomes under other identities.  Its message stays, unless it speaks
of a relationship by its identity. -/
inductive Finding.Relabeled (schema : Schema) : Finding → Finding → Prop where
  | other {finding : Finding} (rule : finding.rule ≠ .foreignKeyIntegrity) :
      Relabeled schema finding (finding.relabeled relabel)
  | named {finding : Finding} {relationship : Relationship} {name problem : String}
      (rule : finding.rule = .foreignKeyIntegrity)
      (member : relationship ∈ schema.relationships)
      (about : finding.relationship = some relationship.id)
      (named : relationship.name = some name)
      (message : finding.message = "Relationship '" ++ name ++ "'" ++ problem) :
      Relabeled schema finding (finding.relabeled relabel)
  | unnamed {finding : Finding} {relationship : Relationship} {problem : String}
      (rule : finding.rule = .foreignKeyIntegrity)
      (member : relationship ∈ schema.relationships)
      (about : finding.relationship = some relationship.id)
      (unnamed : relationship.name = none)
      (message : finding.message = "Relationship '" ++ relationship.id.text ++ "'" ++ problem) :
      Relabeled schema finding
        { finding.relabeled relabel with
          message := "Relationship '" ++
            (relabel.apply .relationship relationship.id).text ++ "'" ++ problem }

namespace Relabeling

variable {kind : EntityKind}

theorem bne_apply (left right : Id kind) :
    (relabel.apply kind left != relabel.apply kind right) = (left != right) := by
  rw [bne, relabel.beq_apply, bne]

theorem contains_map (ids : List (Id kind)) (id : Id kind) :
    (ids.map (relabel.apply kind)).contains (relabel.apply kind id) = ids.contains id := by
  rw [Bool.eq_iff_iff, List.contains_iff_mem, List.contains_iff_mem,
    List.mem_map_of_injective (relabel.injective kind)]

end Relabeling

namespace Cycle

theorem sameMembers_map (left right : List TableId) :
    sameMembers (left.map (relabel.apply .table)) (right.map (relabel.apply .table)) =
      sameMembers left right := by
  have within (left right : List TableId) :
      (left.map (relabel.apply .table)).all (right.map (relabel.apply .table)).contains =
        left.all right.contains := by
    rw [List.all_map]
    congr 1
    exact funext (relabel.contains_map right)
  rw [sameMembers, within, within, sameMembers]

theorem distinct_map (ids : List TableId) :
    distinct (ids.map (relabel.apply .table)) = (distinct ids).map (relabel.apply .table) := by
  induction ids with
  | nil => rfl
  | cons id ids ih =>
      have others : ((· != relabel.apply .table id) ∘ relabel.apply .table) = (· != id) :=
        funext fun other => relabel.bne_apply other id
      rw [List.map_cons, distinct, ih, List.filter_map, others, distinct, List.map_cons]

theorem targets_relabeled (schema : Schema) (source : TableId) :
    targets (schema.relabeled relabel) (relabel.apply .table source) =
      (targets schema source).map (relabel.apply .table) := by
  have meant : ((fun relationship : Relationship =>
      relationship.sourceTable == relabel.apply .table source &&
        ((schema.relabeled relabel).table? relationship.sourceTable).isSome &&
          ((schema.relabeled relabel).table? relationship.targetTable).isSome) ∘
      Relationship.relabeled relabel) = fun relationship =>
        relationship.sourceTable == source && (schema.table? relationship.sourceTable).isSome &&
          (schema.table? relationship.targetTable).isSome := by
    funext relationship
    simp [relabel.beq_apply, Schema.table?_relabeled]
  rw [targets, Schema.relationships_relabeled, List.filter_map, List.map_map, meant, targets,
    ← distinct_map, List.map_map]
  rfl

def Progress.relabeled (progress : Progress) : Progress :=
  { finished := progress.finished.map (relabel.apply .table)
    cycles := progress.cycles.map (List.map (relabel.apply .table)) }

theorem report_relabeled (progress : Progress) (cycle : List TableId) :
    (progress.relabeled relabel).report (cycle.map (relabel.apply .table)) =
      (progress.report cycle).relabeled relabel := by
  have known : (progress.relabeled relabel).cycles.any
      (sameMembers (cycle.map (relabel.apply .table))) =
        progress.cycles.any (sameMembers cycle) := by
    rw [Progress.relabeled, List.any_map]
    congr 1
    exact funext (sameMembers_map relabel cycle)
  rw [Progress.report, known, Progress.report]
  split
  · rfl
  · simp [Progress.relabeled]

theorem foldl_relabeled
    {step other : Progress → TableId → Progress}
    (same : ∀ (progress : Progress) (id : TableId),
      other (progress.relabeled relabel) (relabel.apply .table id) =
        (step progress id).relabeled relabel)
    (ids : List TableId) (progress : Progress) :
    (ids.map (relabel.apply .table)).foldl other (progress.relabeled relabel) =
      (ids.foldl step progress).relabeled relabel := by
  rw [List.foldl_map]
  exact List.foldl_hom _ same

/-- What a walk does with one target of the table at the end of a path. -/
def visit
    (targets : TableId → List TableId) (depth : Nat) (path : List TableId) (progress : Progress)
    (target : TableId) : Progress :=
  if path.contains target then progress.report (path.dropWhile (· != target))
  else if progress.finished.contains target then progress
  else walk targets depth path target progress

theorem walk_succ
    (targets : TableId → List TableId) (depth : Nat) (before : List TableId) (table : TableId)
    (progress : Progress) :
    walk targets (depth + 1) before table progress =
      let walked := (targets table).foldl (visit targets depth (before ++ [table])) progress
      { walked with finished := table :: walked.finished } :=
  rfl

section

variable {targets others : TableId → List TableId}

theorem visit_relabeled
    {depth : Nat}
    (walks : ∀ (before : List TableId) (table : TableId) (progress : Progress),
      walk others depth (before.map (relabel.apply .table)) (relabel.apply .table table)
          (progress.relabeled relabel) =
        (walk targets depth before table progress).relabeled relabel)
    (path : List TableId) (progress : Progress) (target : TableId) :
    visit others depth (path.map (relabel.apply .table)) (progress.relabeled relabel)
        (relabel.apply .table target) =
      (visit targets depth path progress target).relabeled relabel := by
  have before : ((· != relabel.apply .table target) ∘ relabel.apply .table) = (· != target) :=
    funext fun other => relabel.bne_apply other target
  have finished : (progress.relabeled relabel).finished.contains (relabel.apply .table target) =
      progress.finished.contains target :=
    relabel.contains_map progress.finished target
  rw [visit, relabel.contains_map, List.dropWhile_map, before, finished, report_relabeled, walks,
    visit]
  split
  · rfl
  · split
    · rfl
    · rfl

/-- A walk under other identities takes the same way. -/
theorem walk_relabeled
    (same : ∀ id, others (relabel.apply .table id) = (targets id).map (relabel.apply .table))
    (depth : Nat) (before : List TableId) (table : TableId) (progress : Progress) :
    walk others depth (before.map (relabel.apply .table)) (relabel.apply .table table)
        (progress.relabeled relabel) =
      (walk targets depth before table progress).relabeled relabel := by
  induction depth generalizing before table progress with
  | zero => rfl
  | succ depth ih =>
      -- The depth falls with every visit, so the walks that a visit starts are those of `ih`.
      have path : before.map (relabel.apply .table) ++ [relabel.apply .table table] =
          (before ++ [table]).map (relabel.apply .table) := by
        rw [List.map_append, List.map_singleton]
      rw [walk_succ, same, path, foldl_relabeled relabel (visit_relabeled relabel ih _)]
      rfl

end

/-- The tables are visited one after another, each at the end of no path. -/
theorem all_eq_foldl_visit (schema : Schema) :
    all schema =
      let tables := schema.tables.map fun table => table.id
      (tables.foldl (visit (targets schema) tables.length [])
        { finished := [], cycles := [] }).cycles :=
  rfl

theorem all_relabeled (schema : Schema) :
    all (schema.relabeled relabel) = (all schema).map (List.map (relabel.apply .table)) := by
  have tables : ((schema.relabeled relabel).tables.map fun table => table.id) =
      (schema.tables.map fun table => table.id).map (relabel.apply .table) := by
    rw [Schema.tables_relabeled, List.map_map, List.map_map]
    rfl
  have visits := visit_relabeled relabel
    (walk_relabeled relabel (targets_relabeled relabel schema) schema.tables.length) []
  have walked := foldl_relabeled relabel visits (schema.tables.map fun table => table.id)
    { finished := [], cycles := [] }
  simp only [all_eq_foldl_visit, tables, List.length_map]
  exact congrArg Progress.cycles walked

end Cycle

namespace Validation

variable (schema : Schema)

theorem primaryKeyFindings_relabeled :
    primaryKeyFindings (schema.relabeled relabel) =
      (primaryKeyFindings schema).map (Finding.relabeled relabel) := by
  have keys (table : Table) :
      (table.relabeled relabel).primaryKeys.length = table.primaryKeys.length := by
    rw [Table.primaryKeys, Table.columns_relabeled, List.filter_map, List.length_map]
    rfl
  rw [primaryKeyFindings, Schema.tables_relabeled, List.filterMap_map, primaryKeyFindings,
    List.map_filterMap]
  apply List.filterMap_congr
  intro table _
  rw [Function.comp_apply]
  dsimp only
  rw [keys]
  split
  · rfl
  · split
    · rfl
    · rfl

theorem cycleFindings_relabeled :
    cycleFindings (schema.relabeled relabel) =
      (cycleFindings schema).map (Finding.relabeled relabel) := by
  have chain (cycle : List TableId) :
      chainText (schema.relabeled relabel) (cycle.map (relabel.apply .table)) =
        chainText schema cycle := by
    have names : ((cycle.map (relabel.apply .table)).filterMap
        (schema.relabeled relabel).table?).map (fun table => table.name) =
          (cycle.filterMap schema.table?).map fun table => table.name := by
      rw [List.filterMap_map, List.map_filterMap, List.map_filterMap]
      apply List.filterMap_congr
      intro id _
      rw [Function.comp_apply, Schema.table?_relabeled, Option.map_map]
      rfl
    rw [chainText, names, chainText]
  rw [cycleFindings, Cycle.all_relabeled, List.map_map, cycleFindings, List.map_map]
  apply List.map_congr_left
  intro cycle _
  simp only [Function.comp_apply, chain, List.head?_map]
  rfl

theorem namingFindings_relabeled :
    namingFindings (schema.relabeled relabel) =
      (namingFindings schema).map (Finding.relabeled relabel) := by
  rw [namingFindings, Schema.tables_relabeled, List.filter_map, List.map_map, namingFindings,
    List.map_map]
  rfl

theorem hasLeadingIndex_relabeled (table : Table) (column : Column) :
    hasLeadingIndex (schema.relabeled relabel) (table.relabeled relabel)
        (column.relabeled relabel) =
      hasLeadingIndex schema table column := by
  rw [hasLeadingIndex, Table.id_relabeled, Schema.indexesOf_relabeled, List.any_map]
  rfl

theorem missingIndexFindings_relabeled
    (seen : List ColumnId) (relationships : List Relationship) :
    missingIndexFindings (schema.relabeled relabel) (seen.map (relabel.apply .column))
        (relationships.map (Relationship.relabeled relabel)) =
      (missingIndexFindings schema seen relationships).map (Finding.relabeled relabel) := by
  induction relationships generalizing seen with
  | nil => rfl
  | cons relationship relationships ih =>
      rw [List.map_cons, missingIndexFindings, Relationship.toRelationshipSpec_relabeled,
        RelationshipSpec.sourceTable_relabeled, RelationshipSpec.sourceColumn_relabeled,
        Schema.endpoint?_relabeled, missingIndexFindings]
      cases schema.endpoint? relationship.sourceTable relationship.sourceColumn with
      | none => exact ih seen
      | some ends =>
          obtain ⟨table, column⟩ := ends
          have rest := ih (column.id :: seen)
          rw [List.map_cons] at rest
          simp only [Option.map_some, Prod.map_apply, Column.toColumnSpec_relabeled,
            Column.id_relabeled, relabel.contains_map, hasLeadingIndex_relabeled, rest]
          split
          · exact ih seen
          · split
            · rfl
            · rfl

theorem duplicateTablesAfter_relabeled (seen : List (String × String)) (tables : List Table) :
    duplicateTablesAfter seen (tables.map (Table.relabeled relabel)) =
      (duplicateTablesAfter seen tables).map (Finding.relabeled relabel) := by
  induction tables generalizing seen with
  | nil => rfl
  | cons table tables ih =>
      rw [List.map_cons, duplicateTablesAfter, duplicateTablesAfter, Table.name_relabeled]
      split
      · rw [ih]
        rfl
      · rw [ih]

theorem duplicateColumnsAfter_relabeled
    (table : Table) (seen : List String) (columns : List Column) :
    duplicateColumnsAfter (table.relabeled relabel) seen (columns.map (Column.relabeled relabel)) =
      (duplicateColumnsAfter table seen columns).map (Finding.relabeled relabel) := by
  induction columns generalizing seen with
  | nil => rfl
  | cons column columns ih =>
      rw [List.map_cons, duplicateColumnsAfter, duplicateColumnsAfter,
        Column.toColumnSpec_relabeled]
      split
      · rw [ih]
        rfl
      · rw [ih]

theorem duplicateColumnFindings_relabeled :
    duplicateColumnFindings (schema.relabeled relabel) =
      (duplicateColumnFindings schema).map (Finding.relabeled relabel) := by
  rw [duplicateColumnFindings, Schema.tables_relabeled, List.flatMap_map, duplicateColumnFindings,
    List.map_flatMap]
  simp only [Table.columns_relabeled, duplicateColumnsAfter_relabeled]

theorem reservedFindings_relabeled :
    reservedFindings (schema.relabeled relabel) =
      (reservedFindings schema).map (Finding.relabeled relabel) := by
  rw [reservedFindings, Schema.tables_relabeled, List.flatMap_map, reservedFindings,
    List.map_flatMap]
  apply List.flatMap_congr
  intro table _
  have columns := table.filter_columns_relabeled relabel fun column =>
    Identifier.isReserved column.name
  rw [List.map_append, columns, List.map_map, List.map_map, Table.name_relabeled]
  refine congrArg₂ (· ++ ·) ?_ (List.map_congr_left fun column _ => ?_)
  · split
    · simp [Finding.relabeled]
    · rfl
  · simp [Finding.relabeled]

theorem emptyTableFindings_relabeled :
    emptyTableFindings (schema.relabeled relabel) =
      (emptyTableFindings schema).map (Finding.relabeled relabel) := by
  have empty : ((fun table : Table => table.columns.isEmpty) ∘ Table.relabeled relabel) =
      fun table => table.columns.isEmpty := by
    funext table
    rw [Function.comp_apply, Table.columns_relabeled, List.isEmpty_map]
  rw [emptyTableFindings, Schema.tables_relabeled, List.filter_map, empty, List.map_map,
    emptyTableFindings, List.map_map]
  rfl

theorem dataTypeFindings_relabeled :
    dataTypeFindings (schema.relabeled relabel) =
      (dataTypeFindings schema).map (Finding.relabeled relabel) := by
  rw [dataTypeFindings, Schema.tables_relabeled, List.flatMap_map, dataTypeFindings,
    List.map_flatMap]
  apply List.flatMap_congr
  intro table _
  have columns := table.filter_columns_relabeled relabel fun column =>
    !DataType.isKnown column.dataType
  rw [columns, List.map_map, List.map_map]
  apply List.map_congr_left
  intro column _
  simp [Finding.relabeled]

/-- What is wrong with the ends of a relationship, without the name that it is spoken of by. -/
def danglingProblem? (relationship : Relationship) : Option String :=
  match schema.table? relationship.sourceTable, schema.table? relationship.targetTable with
  | none, _ => some " starts at a missing table"
  | _, none => some " references a missing table"
  | some source, some target =>
      if (source.column? relationship.sourceColumn).isNone then
        some (" starts at a missing column of '" ++ source.name ++ "'")
      else if (target.column? relationship.targetColumn).isNone then
        some (" references a missing column of '" ++ target.name ++ "'")
      else none

theorem danglingEnd?_eq_map (relationship : Relationship) :
    danglingEnd? schema relationship =
      (danglingProblem? schema relationship).map fun problem =>
        "Relationship '" ++ labelOf relationship ++ "'" ++ problem := by
  have joined (label before name after : String) :
      label ++ before ++ name ++ after = label ++ (before ++ name ++ after) := by
    simp only [String.append_assoc]
  rw [danglingEnd?, danglingProblem?]
  cases schema.table? relationship.sourceTable with
  | none => rfl
  | some source =>
      cases schema.table? relationship.targetTable with
      | none => rfl
      | some target =>
          dsimp only
          split
          · exact congrArg some (joined _ _ _ _)
          · split
            · exact congrArg some (joined _ _ _ _)
            · rfl

theorem danglingProblem?_relabeled (relationship : Relationship) :
    danglingProblem? (schema.relabeled relabel) (relationship.relabeled relabel) =
      danglingProblem? schema relationship := by
  rw [danglingProblem?, Relationship.toRelationshipSpec_relabeled,
    RelationshipSpec.sourceTable_relabeled, RelationshipSpec.targetTable_relabeled,
    Schema.table?_relabeled, Schema.table?_relabeled, danglingProblem?]
  cases schema.table? relationship.sourceTable with
  | none => rfl
  | some source =>
      cases schema.table? relationship.targetTable with
      | none => rfl
      | some target =>
          dsimp only [Option.map_some]
          rw [RelationshipSpec.sourceColumn_relabeled, RelationshipSpec.targetColumn_relabeled,
            Table.column?_relabeled, Table.column?_relabeled, Option.isNone_map, Option.isNone_map,
            Table.name_relabeled, Table.name_relabeled]

/-- The finding on a problem with the ends of a relationship. -/
def danglingFinding (relationship : Relationship) (problem : String) : Finding :=
  { rule := .foreignKeyIntegrity
    severity := .error
    message := "Relationship '" ++ labelOf relationship ++ "'" ++ problem
    table := (schema.table? relationship.sourceTable).map fun _ => relationship.sourceTable
    relationship := some relationship.id
    suggestion := some "Remove the relationship or point it at an existing column" }

theorem foreignKeyFindings_eq_filterMap :
    foreignKeyFindings schema = schema.relationships.filterMap fun relationship =>
      (danglingProblem? schema relationship).map (danglingFinding schema relationship) := by
  apply List.filterMap_congr
  intro relationship _
  rw [danglingEnd?_eq_map, Option.map_map]
  rfl

theorem danglingFinding_relabeled
    {relationship : Relationship} (member : relationship ∈ schema.relationships)
    (problem : String) :
    Finding.Relabeled relabel schema (danglingFinding schema relationship problem)
      (danglingFinding (schema.relabeled relabel) (relationship.relabeled relabel) problem) := by
  have table : ((schema.relabeled relabel).table? (relationship.relabeled relabel).sourceTable).map
      (fun _ => (relationship.relabeled relabel).sourceTable) =
        ((schema.table? relationship.sourceTable).map fun _ => relationship.sourceTable).map
          (relabel.apply .table) := by
    rw [Relationship.toRelationshipSpec_relabeled, RelationshipSpec.sourceTable_relabeled,
      Schema.table?_relabeled, Option.map_map, Option.map_map]
    rfl
  have same : danglingFinding (schema.relabeled relabel) (relationship.relabeled relabel) problem =
      { (danglingFinding schema relationship problem).relabeled relabel with
        message :=
          "Relationship '" ++ labelOf (relationship.relabeled relabel) ++ "'" ++ problem } := by
    unfold danglingFinding
    rw [table]
    rfl
  rw [same]
  cases named : relationship.name with
  | none =>
      have label : labelOf relationship = relationship.id.text := by
        rw [labelOf, named, Option.getD_none]
      have labelAfter : labelOf (relationship.relabeled relabel) =
          (relabel.apply .relationship relationship.id).text := by
        change relationship.name.getD _ = _
        rw [named, Option.getD_none]
        rfl
      have message : (danglingFinding schema relationship problem).message =
          "Relationship '" ++ relationship.id.text ++ "'" ++ problem := by
        rw [danglingFinding, label]
      rw [labelAfter]
      exact .unnamed rfl member rfl named message
  | some name =>
      have label : labelOf relationship = name := by
        rw [labelOf, named, Option.getD_some]
      have labelAfter : labelOf (relationship.relabeled relabel) = labelOf relationship := by
        change relationship.name.getD _ = relationship.name.getD _
        rw [named, Option.getD_some, Option.getD_some]
      have message : (danglingFinding schema relationship problem).message =
          "Relationship '" ++ name ++ "'" ++ problem := by
        rw [danglingFinding, label]
      rw [labelAfter]
      exact .named rfl member rfl named message

theorem foreignKeyFindings_relabeled :
    List.Forall₂ (Finding.Relabeled relabel schema) (foreignKeyFindings schema)
      (foreignKeyFindings (schema.relabeled relabel)) := by
  -- Both lists of findings come from lists of relationships that agree place by place.
  let Pairs (left right : Relationship) : Prop :=
    left ∈ schema.relationships ∧ right = left.relabeled relabel
  have paired : List.Forall₂ Pairs schema.relationships
      (schema.relabeled relabel).relationships := by
    rw [Schema.relationships_relabeled, List.forall₂_map_right_iff, List.forall₂_same]
    exact fun relationship member => ⟨member, rfl⟩
  rw [foreignKeyFindings_eq_filterMap, foreignKeyFindings_eq_filterMap]
  refine List.rel_filterMap ?_ paired
  rintro relationship _ ⟨member, rfl⟩
  dsimp only
  rw [danglingProblem?_relabeled]
  cases danglingProblem? schema relationship with
  | none => exact .none
  | some problem => exact .some (danglingFinding_relabeled relabel schema member problem)

/-- Apart from the findings on the ends of relationships, no message shows an identity. -/
theorem ofRule_relabeled {rule : Rule} (other : rule ≠ .foreignKeyIntegrity) :
    ofRule (schema.relabeled relabel) rule =
      (ofRule schema rule).map (Finding.relabeled relabel) := by
  cases rule with
  | primaryKey => exact primaryKeyFindings_relabeled relabel schema
  | foreignKeyIntegrity => exact absurd rfl other
  | circularReference => exact cycleFindings_relabeled relabel schema
  | namingConvention => exact namingFindings_relabeled relabel schema
  | missingForeignKeyIndex =>
      exact missingIndexFindings_relabeled relabel schema [] schema.relationships
  | duplicateTableName => exact duplicateTablesAfter_relabeled relabel [] schema.tables
  | duplicateColumnName => exact duplicateColumnFindings_relabeled relabel schema
  | reservedKeyword => exact reservedFindings_relabeled relabel schema
  | emptyTable => exact emptyTableFindings_relabeled relabel schema
  | unknownDataType => exact dataTypeFindings_relabeled relabel schema

theorem forall₂_ofRule (rule : Rule) :
    List.Forall₂ (Finding.Relabeled relabel schema) (ofRule schema rule)
      (ofRule (schema.relabeled relabel) rule) := by
  by_cases foreignKey : rule = .foreignKeyIntegrity
  · subst foreignKey
    exact foreignKeyFindings_relabeled relabel schema
  · rw [ofRule_relabeled relabel schema foreignKey, List.forall₂_map_right_iff, List.forall₂_same]
    intro finding member
    exact .other ((rule_of_mem_ofRule member).1 ▸ foreignKey)

end Validation

/-- Validation finds the same in the same order under other identities. -/
theorem Schema.validate_relabeled (schema : Schema) :
    List.Forall₂ (Finding.Relabeled relabel schema) schema.validate
      (schema.relabeled relabel).validate := by
  rw [Validation.validate_eq_flatMap, Validation.validate_eq_flatMap]
  have rules : List.Forall₂ Eq Rule.all Rule.all := List.forall₂_refl Rule.all
  refine List.rel_flatMap rules ?_
  rintro rule _ rfl
  exact Validation.forall₂_ofRule relabel schema rule

end SchemaDesign
