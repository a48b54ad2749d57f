import SchemaDesign.Proofs.Schema.Steps
import SchemaDesign.Proofs.Validation.Relabeling

/-!
# Changes under other identities

A change looks up what it changes by identity or by name, and so it does the same to a schema under
other identities.  What it adds has the next identities in both.
-/

namespace SchemaDesign

theorem changeFirst_map
    {α β : Type} {isMeant : α → Bool} {other : β → Bool} {change : α → α} {changed : β → β}
    {move : α → β} (meant : ∀ x, other (move x) = isMeant x)
    (moves : ∀ x, changed (move x) = move (change x)) (xs : List α) :
    changeFirst other changed (xs.map move) = (changeFirst isMeant change xs).map move := by
  induction xs with
  | nil => rfl
  | cons first rest ih =>
      rw [List.map_cons, changeFirst, changeFirst, meant, moves, ih]
      split
      · rfl
      · rfl

theorem eraseP_map_eq
    {α β : Type} {isMeant : α → Bool} {other : β → Bool} {move : α → β}
    (meant : ∀ x, other (move x) = isMeant x) (xs : List α) :
    (xs.map move).eraseP other = (xs.eraseP isMeant).map move := by
  rw [List.eraseP_map]
  exact congrArg (fun test => (xs.eraseP test).map move) (funext meant)

theorem filter_map_eq
    {α β : Type} {isMeant : α → Bool} {other : β → Bool} {move : α → β}
    (meant : ∀ x, other (move x) = isMeant x) (xs : List α) :
    (xs.map move).filter other = (xs.filter isMeant).map move := by
  rw [List.filter_map]
  exact congrArg (fun test => (xs.filter test).map move) (funext meant)

namespace Relabeling

/-- The identities themselves. -/
def refl : Relabeling where
  apply := fun _ id => id
  injective := fun _ => Function.injective_id

/-- Other identities in place of those that one relabeling gives. -/
def trans (first second : Relabeling) : Relabeling where
  apply := fun kind id => second.apply kind (first.apply kind id)
  injective := fun kind => (second.injective kind).comp (first.injective kind)

/-- Identities that are higher by a number. -/
def shift (distance : Nat) : Relabeling where
  apply := fun _ id => { number := id.number + distance }
  injective := by
    rintro kind ⟨left⟩ ⟨right⟩ same
    simpa using same

theorem bne_map
    (relabel : Relabeling) {kind : EntityKind} (known : Option (Id kind)) (id : Id kind) :
    (known.map (relabel.apply kind) != some (relabel.apply kind id)) = (known != some id) := by
  cases known with
  | none => rfl
  | some other => exact relabel.bne_apply other id

end Relabeling

variable {relabel : Relabeling}

/-! ## Relabeled schemas -/

theorem Table.columnNamed?_relabeled (table : Table) (name : String) :
    (table.relabeled relabel).columnNamed? name =
      (table.columnNamed? name).map (Column.relabeled relabel) := by
  rw [columnNamed?, columns_relabeled, List.find?_map]
  rfl

theorem Table.primaryKey?_relabeled (table : Table) :
    (table.relabeled relabel).primaryKey? =
      table.primaryKey?.map (Column.relabeled relabel) := by
  rw [primaryKey?, columns_relabeled, List.find?_map]
  rfl

namespace Schema

variable {schema : Schema}

theorem relabeled_refl : schema.relabeled .refl = schema := by
  have tables : Table.relabeled .refl = id := by
    funext table
    have columns : Column.relabeled .refl = id := rfl
    rw [Table.relabeled, columns, List.map_id]
    rfl
  have constraints : Constraint.relabeled .refl = id := by
    funext constraint
    have column : Relabeling.refl.apply .column = id := rfl
    rw [Constraint.relabeled, ConstraintSpec.relabeled, column, Option.map_id]
    rfl
  have permissions : Permission.relabeled .refl = id := by
    funext permission
    have table : Relabeling.refl.apply .table = id := rfl
    rw [Permission.relabeled, table, Option.map_id]
    rfl
  have relationships : Relationship.relabeled .refl = id := rfl
  have indexes : Index.relabeled .refl = id := rfl
  have users : User.relabeled .refl = id := rfl
  simp only [relabeled, tables, relationships, indexes, constraints, users, permissions,
    List.map_id]

theorem relabeled_trans (first second : Relabeling) :
    schema.relabeled (first.trans second) = (schema.relabeled first).relabeled second := by
  simp only [relabeled, List.map_map]
  congr 1
  · apply List.map_congr_left
    intro table _
    simp only [Table.relabeled, Function.comp_apply, List.map_map]
    rfl
  · apply List.map_congr_left
    intro constraint _
    simp only [Constraint.relabeled, ConstraintSpec.relabeled, Function.comp_apply, Option.map_map]
    rfl
  · apply List.map_congr_left
    intro permission _
    simp only [Permission.relabeled, Function.comp_apply, Option.map_map]
    rfl

theorem tableNamed?_relabeled (name : String) :
    (schema.relabeled relabel).tableNamed? name =
      (schema.tableNamed? name).map (Table.relabeled relabel) := by
  rw [tableNamed?, tables_relabeled, List.find?_map]
  rfl

theorem changeTable_relabeled
    {id : TableId} {change other : Table → Table}
    (moves : ∀ table, other (table.relabeled relabel) = (change table).relabeled relabel) :
    (schema.relabeled relabel).changeTable (relabel.apply .table id) other =
      (schema.changeTable id change).relabeled relabel := by
  rw [changeTable, tables_relabeled]
  rw [changeFirst_map (fun table => relabel.beq_apply table.id id) moves]
  rfl

theorem markForeignKeys_relabeled :
    (schema.relabeled relabel).markForeignKeys = schema.markForeignKeys.relabeled relabel := by
  have isSource (column : Column) :
      ((schema.relabeled relabel).relationships.any fun relationship =>
        relationship.sourceColumn == (column.relabeled relabel).id) =
          schema.relationships.any fun relationship => relationship.sourceColumn == column.id := by
    rw [relationships_relabeled, List.any_map]
    congr 1
    funext relationship
    exact relabel.beq_apply relationship.sourceColumn column.id
  have tables : (schema.relabeled relabel).markForeignKeys.tables =
      schema.markForeignKeys.tables.map (Table.relabeled relabel) := by
    rw [markForeignKeys, markForeignKeys, tables_relabeled, List.map_map, List.map_map]
    apply List.map_congr_left
    intro table _
    rw [Function.comp_apply, Function.comp_apply, Table.columns_relabeled, List.map_map]
    simp only [Table.relabeled, List.map_map]
    congr 1
    apply List.map_congr_left
    intro column _
    rw [Function.comp_apply, isSource column]
    rfl
  have same (left : Schema) : left.markForeignKeys =
      { left with tables := left.markForeignKeys.tables } := rfl
  rw [same, tables]
  rfl

theorem withoutTable_relabeled (id : TableId) :
    (schema.relabeled relabel).withoutTable (relabel.apply .table id) =
      (schema.withoutTable id).relabeled relabel := by
  rw [withoutTable, withoutTable, ← markForeignKeys_relabeled]
  congr 1
  simp only [relabeled, Schema.mk.injEq, true_and, and_true]
  refine ⟨?_, ?_, ?_, ?_, ?_⟩
  · exact eraseP_map_eq (fun table => relabel.beq_apply table.id id) _
  · apply filter_map_eq
    intro relationship
    rw [RelationshipSpec.touches, RelationshipSpec.touches]
    exact congrArg (!·) (congrArg₂ (· || ·) (relabel.beq_apply _ id) (relabel.beq_apply _ id))
  · apply filter_map_eq
    intro index
    exact relabel.bne_apply index.table id
  · apply filter_map_eq
    intro constraint
    exact relabel.bne_apply constraint.table id
  · apply filter_map_eq
    intro permission
    exact relabel.bne_map permission.table id

/-- The indexes of a table are changed alike. -/
theorem map_indexes_relabeled
    (indexes : List Index) (id : TableId) (change : List String → List String) :
    ((indexes.map (Index.relabeled relabel)).map fun index =>
        if index.table == relabel.apply .table id then
          { index with columns := change index.columns }
        else index) =
      (indexes.map fun index =>
        if index.table == id then { index with columns := change index.columns }
        else index).map (Index.relabeled relabel) := by
  rw [List.map_map, List.map_map]
  apply List.map_congr_left
  intro index _
  have same : ((index.relabeled relabel).table == relabel.apply .table id) = (index.table == id) :=
    relabel.beq_apply index.table id
  rw [Function.comp_apply, Function.comp_apply, same]
  split
  · rfl
  · rfl

theorem withoutReferencesTo_relabeled (id : TableId) (column : Column) :
    (schema.relabeled relabel).withoutReferencesTo (relabel.apply .table id)
        (column.relabeled relabel) =
      (schema.withoutReferencesTo id column).relabeled relabel := by
  simp only [withoutReferencesTo, ← markForeignKeys_relabeled]
  congr 1
  simp only [relabeled, Schema.mk.injEq, true_and, and_true]
  refine ⟨?_, ?_, ?_⟩
  · apply filter_map_eq
    intro relationship
    exact congrArg₂ (· && ·) (relabel.bne_apply _ _) (relabel.bne_apply _ _)
  · refine (congrArg (List.filter _) (map_indexes_relabeled schema.indexes id _)).trans ?_
    apply filter_map_eq
    intro index
    rfl
  · apply filter_map_eq
    intro constraint
    exact relabel.bne_map constraint.column column.id

theorem renameIndexed_relabeled (id : TableId) (old new : String) :
    (schema.relabeled relabel).renameIndexed (relabel.apply .table id) old new =
      (schema.renameIndexed id old new).relabeled relabel :=
  congrArg (fun indexes => { schema.relabeled relabel with indexes })
    (map_indexes_relabeled schema.indexes id _)

/-! ## Other identities at other times -/

/-- A schema is another one under other identities, made and changed at other times. -/
def Redraws (relabel : Relabeling) (left right : Schema) : Prop :=
  ∃ createdAt updatedAt, right = { left.relabeled relabel with createdAt, updatedAt }

namespace Redraws

variable {left right : Schema} (redraws : left.Redraws relabel right)

include redraws

theorem tables_eq : right.tables = left.tables.map (Table.relabeled relabel) := by
  obtain ⟨_, _, rfl⟩ := redraws
  rfl

theorem table?_eq (id : TableId) :
    right.table? (relabel.apply .table id) = (left.table? id).map (Table.relabeled relabel) := by
  obtain ⟨_, _, rfl⟩ := redraws
  exact left.table?_relabeled relabel id

theorem columnNamed?_eq (id : TableId) (name : String) :
    ((right.table? (relabel.apply .table id)).bind fun table => table.columnNamed? name) =
      ((left.table? id).bind fun table => table.columnNamed? name).map
        (Column.relabeled relabel) := by
  rw [redraws.table?_eq]
  cases left.table? id with
  | none => rfl
  | some table => exact table.columnNamed?_relabeled name

theorem tableNamed?_eq (name : String) :
    right.tableNamed? name = (left.tableNamed? name).map (Table.relabeled relabel) := by
  obtain ⟨_, _, rfl⟩ := redraws
  exact tableNamed?_relabeled name

theorem hasTable_eq (name : String) : right.hasTable name = left.hasTable name := by
  rw [hasTable, redraws.tableNamed?_eq, Option.isSome_map, hasTable]

theorem nextPosition_eq : right.nextPosition = left.nextPosition := by
  rw [nextPosition, redraws.tables_eq, List.length_map, nextPosition]

theorem constraintsOf_eq (id : TableId) :
    right.constraintsOf (relabel.apply .table id) =
      (left.constraintsOf id).map (Constraint.relabeled relabel) := by
  obtain ⟨_, _, rfl⟩ := redraws
  exact left.constraintsOf_relabeled relabel id

/-- A change that looks at no times does the same at other times. -/
theorem of_relabeled
    {changed : Schema} (change : Schema → Schema)
    (moves : change (left.relabeled relabel) = changed.relabeled relabel)
    (timeless : ∀ createdAt updatedAt,
      change { left.relabeled relabel with createdAt, updatedAt } =
        { change (left.relabeled relabel) with createdAt, updatedAt }) :
    changed.Redraws relabel (change right) := by
  obtain ⟨createdAt, updatedAt, rfl⟩ := redraws
  exact ⟨createdAt, updatedAt, by rw [timeless, moves]⟩

theorem changeTable
    {id : TableId} {change other : Table → Table}
    (moves : ∀ table, other (table.relabeled relabel) = (change table).relabeled relabel) :
    (left.changeTable id change).Redraws relabel
      (right.changeTable (relabel.apply .table id) other) :=
  redraws.of_relabeled (fun schema => schema.changeTable _ other) (changeTable_relabeled moves)
    fun _ _ => rfl

theorem changeColumns
    (id : TableId) {change other : List Column → List Column}
    (moves : ∀ columns, other (columns.map (Column.relabeled relabel)) =
      (change columns).map (Column.relabeled relabel)) :
    (left.changeTable id fun table => { table with columns := change table.columns }).Redraws
      relabel (right.changeTable (relabel.apply .table id) fun table =>
        { table with columns := other table.columns }) := by
  apply redraws.changeTable
  intro table
  rw [Table.columns_relabeled, moves]
  rfl

theorem withoutTable (id : TableId) :
    (left.withoutTable id).Redraws relabel (right.withoutTable (relabel.apply .table id)) :=
  redraws.of_relabeled (fun schema => schema.withoutTable _) (withoutTable_relabeled id)
    fun _ _ => rfl

theorem withoutReferencesTo (id : TableId) (column : Column) :
    (left.withoutReferencesTo id column).Redraws relabel
      (right.withoutReferencesTo (relabel.apply .table id) (column.relabeled relabel)) :=
  redraws.of_relabeled (fun schema => schema.withoutReferencesTo _ (column.relabeled relabel))
    (withoutReferencesTo_relabeled id column) fun _ _ => rfl

theorem renameIndexed (id : TableId) (old new : String) :
    (left.renameIndexed id old new).Redraws relabel
      (right.renameIndexed (relabel.apply .table id) old new) :=
  redraws.of_relabeled (fun schema => schema.renameIndexed _ old new)
    (renameIndexed_relabeled id old new) fun _ _ => rfl

theorem withTable (table : Table) :
    { left with tables := left.tables ++ [table] }.Redraws relabel
      { right with tables := right.tables ++ [table.relabeled relabel] } := by
  obtain ⟨createdAt, updatedAt, rfl⟩ := redraws
  exact ⟨createdAt, updatedAt, by simp [relabeled]⟩

theorem withRelationship (relationship : Relationship) :
    { left with relationships := left.relationships ++ [relationship] }.Redraws relabel
      { right with
        relationships := right.relationships ++ [relationship.relabeled relabel] } := by
  obtain ⟨createdAt, updatedAt, rfl⟩ := redraws
  exact ⟨createdAt, updatedAt, by simp [relabeled]⟩

theorem withIndex (index : Index) :
    { left with indexes := left.indexes ++ [index] }.Redraws relabel
      { right with indexes := right.indexes ++ [index.relabeled relabel] } := by
  obtain ⟨createdAt, updatedAt, rfl⟩ := redraws
  exact ⟨createdAt, updatedAt, by simp [relabeled]⟩

theorem withConstraint (constraint : Constraint) :
    { left with constraints := left.constraints ++ [constraint] }.Redraws relabel
      { right with constraints := right.constraints ++ [constraint.relabeled relabel] } := by
  obtain ⟨createdAt, updatedAt, rfl⟩ := redraws
  exact ⟨createdAt, updatedAt, by simp [relabeled]⟩

end Redraws

end Schema

/-- A workspace is another one under other identities, and the identities to come follow on those so
far in both. -/
structure Workspace.Redraws (relabel : Relabeling) (left right : Workspace) : Prop where
  schema : left.schema.Redraws relabel right.schema
  drawn : ∀ kind count,
    relabel.apply kind { number := left.nextId + count } = { number := right.nextId + count }

/-- Both results are errors, or both are successes with answers that fit together. -/
inductive Accord {α β ε ε' : Type} (answers : α → β → Prop) : Except ε α → Except ε' β → Prop where
  | ok {answer : α} {other : β} (same : answers answer other) :
      Accord answers (.ok answer) (.ok other)
  | error {error : ε} {other : ε'} : Accord answers (.error error) (.error other)

namespace Edit

/-- Two changes answer alike and do the same to schemas under other identities. -/
def Redraws {α β : Type} (relabel : Relabeling) (answers : α → β → Prop)
    (left : Edit α) (right : Edit β) : Prop :=
  ∀ before other : Workspace, before.Redraws relabel other →
    answers (left.run before).1 (right.run other).1 ∧
      (left.run before).2.Redraws relabel (right.run other).2

section

variable {α β α' β' : Type} {answers : α → β → Prop} {results : α' → β' → Prop}

theorem Redraws.pure {answer : α} {other : β} (same : answers answer other) :
    Redraws relabel answers (Pure.pure answer) (Pure.pure other) :=
  fun _ _ redraws => ⟨same, redraws⟩

theorem Redraws.bind
    {left : Edit α} {right : Edit β} {next : α → Edit α'} {other : β → Edit β'}
    (first : Redraws relabel answers left right)
    (rest : ∀ a b, answers a b → Redraws relabel results (next a) (other b)) :
    Redraws relabel results (left >>= next) (right >>= other) := by
  intro before begun redraws
  obtain ⟨same, later⟩ := first before begun redraws
  rw [run_bind, run_bind]
  exact rest _ _ same _ _ later

theorem Redraws.fresh {kind : EntityKind} :
    Redraws relabel (fun left right => right = relabel.apply kind left) fresh fresh := by
  intro before other redraws
  rw [run_fresh, run_fresh]
  refine ⟨(redraws.drawn kind 0).symm, redraws.schema, ?_⟩
  intro kind count
  have drawn := redraws.drawn kind (count + 1)
  rw [Nat.add_comm count 1, ← Nat.add_assoc, ← Nat.add_assoc] at drawn
  exact drawn

theorem Redraws.current : Redraws relabel (Schema.Redraws relabel) current current :=
  fun _ _ redraws => ⟨redraws.schema, redraws⟩

theorem Redraws.change
    {left right : Schema → Schema}
    (changes : ∀ before other : Schema, before.Redraws relabel other →
      (left before).Redraws relabel (right other)) :
    Redraws relabel (fun _ _ => True) (change left) (change right) := by
  intro before other redraws
  obtain ⟨createdAt, updatedAt, changed⟩ := changes _ _ redraws.schema
  refine ⟨trivial, ⟨createdAt, other.now, ?_⟩, redraws.drawn⟩
  change { right other.schema with updatedAt := other.now } = _
  rw [changed]
  rfl

theorem redraws_freshColumns (specs : List ColumnSpec) :
    Redraws relabel (fun left right => right = left.map (Column.relabeled relabel))
      (freshColumns specs) (freshColumns specs) := by
  induction specs with
  | nil => exact .pure rfl
  | cons spec specs ih =>
      apply Redraws.bind .fresh
      rintro id _ rfl
      apply Redraws.bind ih
      rintro columns _ rfl
      exact .pure rfl

/-- A change that always gives the same answer. -/
theorem Redraws.change_return
    {left right : Schema → Schema} {answer : α} {other : β}
    (changes : ∀ before begun : Schema, before.Redraws relabel begun →
      (left before).Redraws relabel (right begun))
    (same : answers answer other) :
    Redraws relabel answers
      (do
        Edit.change left
        return answer)
      (do
        Edit.change right
        return other) :=
  .bind (.change changes) fun _ _ _ => .pure same

/-- A change of a table that has to exist. -/
theorem Redraws.of_table
    {id : TableId} {error other : SchemaError}
    {left : Table → Edit (Except SchemaError α)} {right : Table → Edit (Except SchemaError β)}
    (changes : ∀ table,
      Redraws relabel (Accord answers) (left table) (right (table.relabeled relabel))) :
    Redraws relabel (Accord answers)
      (do
        match (← Edit.current).table? id with
        | none => return .error error
        | some table => left table)
      (do
        match (← Edit.current).table? (relabel.apply .table id) with
        | none => return .error other
        | some table => right table) := by
  apply Redraws.bind .current
  intro before begun redraws
  rw [redraws.table?_eq]
  cases before.table? id with
  | none => exact .pure .error
  | some table => exact changes table

end

/-! ## Tables -/

theorem redraws_addTable (spec : TableSpec) :
    Redraws relabel (fun left right => right = relabel.apply .table left)
      (addTable spec) (addTable spec) := by
  apply Redraws.bind (redraws_freshColumns spec.columns)
  rintro columns _ rfl
  apply Redraws.bind .fresh
  rintro id _ rfl
  refine .change_return ?_ rfl
  intro before other redraws
  rw [redraws.nextPosition_eq]
  exact redraws.withTable
    { id, name := spec.name, columns, position := spec.position.getD before.nextPosition
      rowCount := 0, rows := [] }

theorem redraws_removeTable (id : TableId) :
    Redraws relabel (Accord fun _ _ => True) (removeTable id)
      (removeTable (relabel.apply .table id)) := by
  apply Redraws.of_table
  intro table
  refine .change_return ?_ (.ok trivial)
  intro before other redraws
  exact redraws.withoutTable id

theorem redraws_renameTable (id : TableId) (name : String) :
    Redraws relabel (Accord fun _ _ => True) (renameTable id name)
      (renameTable (relabel.apply .table id) name) := by
  apply Redraws.of_table
  intro table
  refine .change_return ?_ (.ok trivial)
  intro before other redraws
  exact redraws.changeTable fun _ => rfl

/-! ## Columns -/

theorem redraws_addColumn (id : TableId) (spec : ColumnSpec) :
    Redraws relabel (Accord fun _ _ => True) (addColumn id spec)
      (addColumn (relabel.apply .table id) spec) := by
  apply Redraws.of_table
  intro table
  apply Redraws.bind .fresh
  rintro columnId _ rfl
  refine .change_return ?_ (.ok trivial)
  intro before other redraws
  apply redraws.changeTable
  intro table
  simp [Table.relabeled, Column.relabeled]

theorem redraws_dropColumn (id : TableId) (name : String) :
    Redraws relabel (Accord fun _ _ => True) (dropColumn id name)
      (dropColumn (relabel.apply .table id) name) := by
  apply Redraws.of_table
  intro table
  rw [Table.columnNamed?_relabeled]
  cases table.columnNamed? name with
  | none => exact .pure .error
  | some dropped =>
      refine .change_return ?_ (.ok trivial)
      intro before other redraws
      apply Schema.Redraws.withoutReferencesTo
      apply redraws.changeColumns
      apply eraseP_map_eq
      intro column
      rfl

theorem redraws_modifyColumn (id : TableId) (name : String) (spec : ColumnSpec) :
    Redraws relabel (Accord fun _ _ => True)
      (modifyColumn id name spec) (modifyColumn (relabel.apply .table id) name spec) := by
  apply Redraws.of_table
  intro table
  rw [Table.columnNamed?_relabeled]
  cases table.columnNamed? name with
  | none => exact .pure .error
  | some existing =>
      refine .change_return ?_ (.ok trivial)
      intro before other redraws
      let redefined (column : Column) : List Column → List Column :=
        changeFirst (fun other => Text.same other.name name)
          fun _ => { spec with id := column.id, isForeignKey := column.isForeignKey }
      have moves (columns : List Column) :
          redefined (existing.relabeled relabel) (columns.map (Column.relabeled relabel)) =
            (redefined existing columns).map (Column.relabeled relabel) := by
        apply changeFirst_map
        · exact fun _ => rfl
        · exact fun _ => rfl
      have modified := redraws.changeColumns id moves
      change Schema.Redraws relabel (if Text.same existing.name spec.name then _ else _)
        (if Text.same existing.name spec.name then _ else _)
      by_cases same : Text.same existing.name spec.name = true
      · rw [if_pos same, if_pos same]
        exact modified
      · rw [if_neg same, if_neg same]
        exact modified.renameIndexed id name spec.name

theorem redraws_alterTable (id : TableId) (change : ColumnChange) :
    Redraws relabel (Accord fun _ _ => True)
      (alterTable id change) (alterTable (relabel.apply .table id) change) := by
  cases change with
  | add spec => exact redraws_addColumn id spec
  | drop name => exact redraws_dropColumn id name
  | modify name spec => exact redraws_modifyColumn id name spec

/-! ## Relationships, indexes and constraints -/

theorem redraws_addRelationship (spec : RelationshipSpec) :
    Redraws relabel (fun _ _ => True)
      (addRelationship spec) (addRelationship (spec.relabeled relabel)) := by
  apply Redraws.bind .fresh
  rintro id _ rfl
  refine .change_return ?_ trivial
  intro before other redraws
  let marked (id : ColumnId) : List Column → List Column :=
    changeFirst (fun column => column.id == id)
      fun column => { column with isForeignKey := true }
  have moves (columns : List Column) :
      marked (relabel.apply .column spec.sourceColumn) (columns.map (Column.relabeled relabel)) =
        (marked spec.sourceColumn columns).map (Column.relabeled relabel) := by
    apply changeFirst_map
    · exact fun column => relabel.beq_apply column.id spec.sourceColumn
    · exact fun _ => rfl
  exact (redraws.changeColumns spec.sourceTable moves).withRelationship { spec with id }

theorem redraws_addIndex (spec : IndexSpec) :
    Redraws relabel (fun _ _ => True) (addIndex spec) (addIndex (spec.relabeled relabel)) := by
  apply Redraws.bind .fresh
  rintro id _ rfl
  exact .change_return (fun _ _ redraws => redraws.withIndex { spec with id }) trivial

theorem redraws_addConstraint (spec : ConstraintSpec) :
    Redraws relabel (fun _ _ => True)
      (addConstraint spec) (addConstraint (spec.relabeled relabel)) := by
  apply Redraws.bind .fresh
  rintro id _ rfl
  exact .change_return (fun _ _ redraws => redraws.withConstraint { spec with id }) trivial

end Edit

end SchemaDesign
