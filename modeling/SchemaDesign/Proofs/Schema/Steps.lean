import SchemaDesign.Command

/-!
# What commands do to a workspace

A command that fails leaves the workspace as it was.  One that succeeds draws some new identities,
makes one change of the schema and stamps it with the time.
-/

namespace SchemaDesign

/-- Columns with the identities from a number on. -/
def numberedFrom : Nat → List ColumnSpec → List Column
  | _, [] => []
  | number, spec :: specs => { spec with id := { number } } :: numberedFrom (number + 1) specs

namespace Workspace

/-- The workspace after some identities have been drawn and its schema has been changed. -/
def changed (workspace : Workspace) (drawn : Nat) (change : Schema → Schema) : Workspace :=
  { schema := { change workspace.schema with updatedAt := workspace.now }
    nextId := workspace.nextId + drawn
    now := workspace.now }

/-- The table that the workspace makes of a definition. -/
def newTable (workspace : Workspace) (spec : TableSpec) : Table :=
  { id := { number := workspace.nextId + spec.columns.length }
    name := spec.name
    columns := numberedFrom workspace.nextId spec.columns
    position := spec.position.getD workspace.schema.nextPosition
    rowCount := 0
    rows := [] }

/-- The table that the workspace makes as a copy of another. -/
def copyOf (workspace : Workspace) (source : Table) : Table :=
  { id := { number := workspace.nextId }
    name := source.name ++ "_copy"
    columns := numberedFrom (workspace.nextId + 1)
      (source.columns.map fun column => { column.toColumnSpec with isForeignKey := false })
    position :=
      { x := source.position.x.add (.ofNat 50)
        y := source.position.y.add (.ofNat 50) }
    rowCount := 0
    rows := [] }

/-- What a command that succeeds makes of a workspace. -/
inductive Step (before : Workspace) : Command → Workspace → Prop where
  | addTable (spec : TableSpec) :
      Step before (.addTable spec) (before.changed (spec.columns.length + 1) fun schema =>
        { schema with tables := schema.tables ++ [before.newTable spec] })
  | removeTable {id : TableId} {table : Table} (found : before.schema.table? id = some table) :
      Step before (.removeTable id) (before.changed 0 fun schema => schema.withoutTable id)
  | updateTable {id : TableId} {table : Table} (patch : TablePatch)
      (found : before.schema.table? id = some table) :
      Step before (.updateTable id patch) (before.changed 0 fun schema =>
        schema.changeTable id fun table =>
          { table with
            name := patch.name.getD table.name
            columns := patch.columns.getD table.columns
            position := patch.position.getD table.position })
  | renameTable {id : TableId} {name : String} {after : Workspace}
      (updated : Step before (.updateTable id { name := some name }) after) :
      Step before (.renameTable id name) after
  | addColumn {id : TableId} {table : Table} (spec : ColumnSpec)
      (found : before.schema.table? id = some table) :
      Step before (.alterTable id (.add spec)) (before.changed 1 fun schema =>
        schema.changeTable id fun table =>
          { table with
            columns := table.columns ++ [{ spec with id := { number := before.nextId } }] })
  | dropColumn {id : TableId} {table : Table} {name : String} {column : Column}
      (found : before.schema.table? id = some table)
      (named : table.columnNamed? name = some column) :
      Step before (.alterTable id (.drop name)) (before.changed 0 fun schema =>
        (schema.changeTable id fun table =>
          { table with
            columns := table.columns.eraseP fun column => Text.same column.name name })
          |>.withoutReferencesTo id column)
  | modifyColumn {id : TableId} {table : Table} {name : String} {column : Column}
      (spec : ColumnSpec) (found : before.schema.table? id = some table)
      (named : table.columnNamed? name = some column) :
      Step before (.alterTable id (.modify name spec)) (before.changed 0 fun schema =>
        let modified := schema.changeTable id fun table =>
          { table with
            columns := changeFirst (fun column => Text.same column.name name)
              (fun _ => { spec with id := column.id, isForeignKey := column.isForeignKey })
              table.columns }
        if Text.same column.name spec.name then modified
        else modified.renameIndexed id name spec.name)
  | duplicateTable {id : TableId} {source : Table}
      (found : before.schema.table? id = some source) :
      Step before (.duplicateTable id) (before.changed (source.columns.length + 1) fun schema =>
        { schema with tables := schema.tables ++ [before.copyOf source] })
  | insertRow {id : TableId} {table : Table} (row : Row)
      (found : before.schema.table? id = some table) :
      Step before (.insertRow id row) (before.changed 0 fun schema =>
        schema.changeTable id fun table =>
          { table with
            rows := table.rows ++ [row]
            rowCount := (table.rows ++ [row]).length })
  | addRelationship (spec : RelationshipSpec) :
      Step before (.addRelationship spec) (before.changed 1 fun schema =>
        { schema.changeTable spec.sourceTable fun table =>
            { table with
              columns := changeFirst (fun column => column.id == spec.sourceColumn)
                (fun column => { column with isForeignKey := true }) table.columns } with
          relationships :=
            schema.relationships ++ [{ spec with id := { number := before.nextId } }] })
  | removeRelationship (id : RelationshipId) :
      Step before (.removeRelationship id) (before.changed 0 fun schema => Schema.markForeignKeys
        { schema with
          relationships := schema.relationships.eraseP fun relationship => relationship.id == id })
  | addIndex (spec : IndexSpec) :
      Step before (.addIndex spec) (before.changed 1 fun schema =>
        { schema with
          indexes := schema.indexes ++ [{ spec with id := { number := before.nextId } }] })
  | removeIndex (id : IndexId) :
      Step before (.removeIndex id) (before.changed 0 fun schema =>
        { schema with indexes := schema.indexes.eraseP fun index => index.id == id })
  | addConstraint (spec : ConstraintSpec) :
      Step before (.addConstraint spec) (before.changed 1 fun schema =>
        { schema with
          constraints := schema.constraints ++ [{ spec with id := { number := before.nextId } }] })
  | removeConstraint (id : ConstraintId) :
      Step before (.removeConstraint id) (before.changed 0 fun schema =>
        { schema with
          constraints := schema.constraints.eraseP fun constraint => constraint.id == id })
  | addUser (spec : UserSpec) :
      Step before (.addUser spec) (before.changed 1 fun schema =>
        { schema with users := schema.users ++ [{ spec with id := { number := before.nextId } }] })
  | removeUser (id : UserId) :
      Step before (.removeUser id) (before.changed 0 fun schema =>
        { schema with
          users := schema.users.eraseP fun user => user.id == id
          permissions := schema.permissions.filter fun permission => permission.user != id })
  | addPermission (spec : PermissionSpec) :
      Step before (.addPermission spec) (before.changed 1 fun schema =>
        { schema with
          permissions := schema.permissions ++ [{ spec with id := { number := before.nextId } }] })
  | removePermission (id : PermissionId) :
      Step before (.removePermission id) (before.changed 0 fun schema =>
        { schema with
          permissions := schema.permissions.eraseP fun permission => permission.id == id })
  | fixKeys {finding : Finding} {id : TableId} {table : Table}
      (found : before.schema.table? id = some table) :
      Step before (.applyFix finding) (before.changed 0 fun schema =>
        schema.changeTable id fun old =>
          { old with columns := Validation.keepFirstKey false table.columns })
  | fixIndex {finding : Finding} {id : TableId} {table : Table} {columnId : ColumnId}
      {column : Column} (found : before.schema.table? id = some table)
      (held : table.column? columnId = some column) :
      Step before (.applyFix finding) (before.changed 1 fun schema =>
        { schema with
          indexes := schema.indexes ++
            [{ name := Validation.foreignKeyIndexName table.name column.name
               table := id
               columns := [column.name]
               isUnique := false
               id := { number := before.nextId } }] })

end Workspace

/-- What a command makes of a workspace, whether it succeeds or fails. -/
def Workspace.after (workspace : Workspace) (command : Command) : Workspace :=
  ((Edit.perform command).run workspace).2

namespace Edit

theorem run_bind {α β : Type} (step : Edit α) (next : α → Edit β) (workspace : Workspace) :
    (step >>= next).run workspace =
      (next (step.run workspace).1).run (step.run workspace).2 :=
  rfl

theorem run_fresh {kind : EntityKind} (workspace : Workspace) :
    (fresh : Edit (Id kind)).run workspace =
      ({ number := workspace.nextId }, { workspace with nextId := workspace.nextId + 1 }) :=
  rfl

theorem run_current (workspace : Workspace) :
    current.run workspace = (workspace.schema, workspace) :=
  rfl

theorem run_freshColumns (specs : List ColumnSpec) (workspace : Workspace) :
    (freshColumns specs).run workspace =
      (numberedFrom workspace.nextId specs,
        { workspace with nextId := workspace.nextId + specs.length }) := by
  induction specs generalizing workspace with
  | nil => rfl
  | cons spec specs ih =>
      have drawn : workspace.nextId + 1 + specs.length = workspace.nextId + (specs.length + 1) := by
        omega
      simp only [freshColumns, run_bind, run_fresh, ih, List.length_cons, drawn]
      rfl

theorem run_addTable (spec : TableSpec) (workspace : Workspace) :
    (addTable spec).run workspace =
      ((workspace.newTable spec).id,
        workspace.changed (spec.columns.length + 1) fun schema =>
          { schema with tables := schema.tables ++ [workspace.newTable spec] }) := by
  simp only [addTable, run_bind, run_freshColumns]
  rfl

/-- A command fails and leaves the workspace as it was, or it succeeds and makes its step. -/
def Outcome (command : Command) (workspace : Workspace) : Prop :=
  (∃ error, (perform command).run workspace = (.error error, workspace)) ∨
    ∃ answer after, (perform command).run workspace = (.ok answer, after) ∧
      workspace.Step command after

section

variable {command : Command} {workspace after : Workspace}

theorem Outcome.fails
    (error : SchemaError) (run : (perform command).run workspace = (.error error, workspace)) :
    Outcome command workspace :=
  .inl ⟨error, run⟩

theorem Outcome.succeeds
    (answer : Answer) (run : (perform command).run workspace = (.ok answer, after))
    (step : workspace.Step command after) : Outcome command workspace :=
  .inr ⟨answer, after, run, step⟩

end

theorem run_alterTable_missing
    {id : TableId} {workspace : Workspace} (missing : workspace.schema.table? id = none)
    (columnChange : ColumnChange) :
    (alterTable id columnChange).run workspace =
      (.error (.tableNotFound id.text), workspace) := by
  cases columnChange with
  | add spec =>
      simp only [alterTable, addColumn, run_bind, run_current, missing]
      rfl
  | drop name =>
      simp only [alterTable, dropColumn, run_bind, run_current, missing]
      rfl
  | modify name spec =>
      simp only [alterTable, modifyColumn, run_bind, run_current, missing]
      rfl

theorem alterTable_cases (id : TableId) (columnChange : ColumnChange) (workspace : Workspace) :
    Outcome (.alterTable id columnChange) workspace := by
  cases found : workspace.schema.table? id with
  | none =>
      refine .fails (.tableNotFound id.text) ?_
      rw [perform, run_bind, run_alterTable_missing found]
      rfl
  | some table =>
      cases columnChange with
      | add spec =>
          refine .succeeds ?_ ?_ (.addColumn spec found)
          · exact .id ({ number := workspace.nextId } : ColumnId)
          · simp only [perform, alterTable, addColumn, run_bind, run_current, found]
            rfl
      | drop name =>
          cases named : table.columnNamed? name with
          | none =>
              refine .fails (.columnNotFound table.name name) ?_
              simp only [perform, alterTable, dropColumn, run_bind, run_current, found, named]
              rfl
          | some column =>
              refine .succeeds (.id column.id) ?_ (.dropColumn found named)
              simp only [perform, alterTable, dropColumn, run_bind, run_current, found, named]
              rfl
      | modify name spec =>
          cases named : table.columnNamed? name with
          | none =>
              refine .fails (.columnNotFound table.name name) ?_
              simp only [perform, alterTable, modifyColumn, run_bind, run_current, found, named]
              rfl
          | some column =>
              refine .succeeds (.id column.id) ?_ (.modifyColumn spec found named)
              simp only [perform, alterTable, modifyColumn, run_bind, run_current, found, named]
              rfl

theorem run_perform_applyFix (finding : Finding) (workspace : Workspace) :
    (perform (.applyFix finding)).run workspace =
      (((applyFix finding).run workspace).1.map .fixed, ((applyFix finding).run workspace).2) :=
  rfl

section

variable {workspace : Workspace} {finding : Finding} {id : TableId} {table : Table}
variable (fixable : finding.autoFixable = true) (owner : finding.table = some id)
variable (found : workspace.schema.table? id = some table)

include fixable owner found

theorem run_applyFix_keys (rule : finding.rule = .primaryKey) :
    (applyFix finding).run workspace =
      (.ok ("Removed primary key flag from " ++
          ", ".intercalate ((table.primaryKeys.drop 1).map fun column => column.name) ++
          " on '" ++ table.name ++ "'"),
        workspace.changed 0 fun schema => schema.changeTable id fun old =>
          { old with columns := Validation.keepFirstKey false table.columns }) := by
  simp only [applyFix, updateTable, fixable, owner, rule, run_bind, run_current, found]
  rfl

theorem run_applyFix_index
    {columnId : ColumnId} {column : Column} (rule : finding.rule = .missingForeignKeyIndex)
    (named : finding.column = some columnId) (held : table.column? columnId = some column) :
    (applyFix finding).run workspace =
      (.ok ("Created index " ++ Validation.foreignKeyIndexName table.name column.name),
        workspace.changed 1 fun schema =>
          { schema with
            indexes := schema.indexes ++
              [{ name := Validation.foreignKeyIndexName table.name column.name
                 table := id
                 columns := [column.name]
                 isUnique := false
                 id := { number := workspace.nextId } }] }) := by
  simp only [applyFix, fixable, owner, rule, named, held, run_bind, run_current, found]
  rfl

theorem fixTable_cases : Outcome (.applyFix finding) workspace := by
  cases rule : finding.rule with
  | primaryKey =>
      have run := run_perform_applyFix finding workspace
      rw [run_applyFix_keys fixable owner found rule] at run
      exact .succeeds _ run (.fixKeys found)
  | missingForeignKeyIndex =>
      cases named : finding.column with
      | none =>
          refine .fails (.noAutoFix finding.rule.code) ?_
          simp only [perform, applyFix, fixable, owner, rule, named, run_bind, run_current, found]
          rfl
      | some columnId =>
          cases held : table.column? columnId with
          | none =>
              refine .fails (.columnNotFound table.name columnId.text) ?_
              simp only [perform, applyFix, fixable, owner, rule, named, held, run_bind,
                run_current, found]
              rfl
          | some column =>
              have run := run_perform_applyFix finding workspace
              rw [run_applyFix_index fixable owner found rule named held] at run
              exact .succeeds _ run (.fixIndex found held)
  | _ =>
      refine .fails (.noAutoFix finding.rule.code) ?_
      simp only [perform, applyFix, fixable, owner, rule, run_bind, run_current, found]
      rfl

end

theorem applyFix_cases (finding : Finding) (workspace : Workspace) :
    Outcome (.applyFix finding) workspace := by
  have refused (run : (applyFix finding).run workspace =
      (.error (.noAutoFix finding.rule.code), workspace)) :
      Outcome (.applyFix finding) workspace := by
    refine .fails (.noAutoFix finding.rule.code) ?_
    simp only [perform, run_bind, run]
    rfl
  cases fixable : finding.autoFixable with
  | false =>
      apply refused
      simp only [applyFix, fixable]
      rfl
  | true =>
      cases owner : finding.table with
      | none =>
          apply refused
          simp only [applyFix, fixable, owner]
          rfl
      | some id =>
          cases found : workspace.schema.table? id with
          | none =>
              refine .fails (.tableNotFound id.text) ?_
              simp only [perform, applyFix, fixable, owner, run_bind, run_current, found]
              rfl
          | some table =>
              exact fixTable_cases fixable owner found

theorem perform_cases (command : Command) (workspace : Workspace) : Outcome command workspace := by
  cases command with
  | addTable spec =>
      refine .succeeds (.id (workspace.newTable spec).id) ?_ (.addTable spec)
      rw [perform, run_bind, run_addTable]
      rfl
  | removeTable id =>
      cases found : workspace.schema.table? id with
      | none =>
          refine .fails (.tableNotFound id.text) ?_
          simp only [perform, removeTable, run_bind, run_current, found]
          rfl
      | some table =>
          refine .succeeds (.removedTable table) ?_ (.removeTable found)
          simp only [perform, removeTable, run_bind, run_current, found]
          rfl
  | updateTable id patch =>
      cases found : workspace.schema.table? id with
      | none =>
          refine .fails (.tableNotFound id.text) ?_
          simp only [perform, updateTable, run_bind, run_current, found]
          rfl
      | some table =>
          refine .succeeds .done ?_ (.updateTable patch found)
          simp only [perform, updateTable, run_bind, run_current, found]
          rfl
  | renameTable id name =>
      cases found : workspace.schema.table? id with
      | none =>
          refine .fails (.tableNotFound id.text) ?_
          simp only [perform, renameTable, updateTable, run_bind, run_current, found]
          rfl
      | some table =>
          refine .succeeds .done ?_ (.renameTable (.updateTable _ found))
          simp only [perform, renameTable, updateTable, run_bind, run_current, found]
          rfl
  | alterTable id columnChange =>
      exact alterTable_cases id columnChange workspace
  | duplicateTable id =>
      cases found : workspace.schema.table? id with
      | none =>
          refine .fails (.tableNotFound id.text) ?_
          simp only [perform, duplicateTable, run_bind, run_current, found]
          rfl
      | some source =>
          have drawn : workspace.nextId + 1 + source.columns.length =
              workspace.nextId + (source.columns.length + 1) := by
            omega
          refine .succeeds (.id (workspace.copyOf source).id) ?_ (.duplicateTable found)
          simp only [perform, duplicateTable, run_bind, run_current, found, run_fresh,
            run_freshColumns, List.length_map, drawn]
          rfl
  | insertRow id row =>
      cases found : workspace.schema.table? id with
      | none =>
          refine .fails (.tableNotFound id.text) ?_
          simp only [perform, insertRow, run_bind, run_current, found]
          rfl
      | some table =>
          refine .succeeds .done ?_ (.insertRow row found)
          simp only [perform, insertRow, run_bind, run_current, found]
          rfl
  | addRelationship spec => exact .succeeds _ rfl (.addRelationship spec)
  | removeRelationship id =>
      cases found : workspace.schema.relationships.find? fun known => known.id == id with
      | none =>
          refine .fails (.relationshipNotFound id) ?_
          simp only [perform, removeRelationship, run_bind, run_current, found]
          rfl
      | some removed =>
          refine .succeeds (.removedRelationship removed) ?_ (.removeRelationship id)
          simp only [perform, removeRelationship, run_bind, run_current, found]
          rfl
  | addIndex spec => exact .succeeds _ rfl (.addIndex spec)
  | removeIndex id =>
      cases found : workspace.schema.indexes.find? fun index => index.id == id with
      | none =>
          refine .fails (.indexNotFound id) ?_
          simp only [perform, removeIndex, run_bind, run_current, found]
          rfl
      | some removed =>
          refine .succeeds (.removedIndex removed) ?_ (.removeIndex id)
          simp only [perform, removeIndex, run_bind, run_current, found]
          rfl
  | addConstraint spec => exact .succeeds _ rfl (.addConstraint spec)
  | removeConstraint id =>
      cases found : workspace.schema.constraints.find? fun constraint => constraint.id == id with
      | none =>
          refine .fails (.constraintNotFound id) ?_
          simp only [perform, removeConstraint, run_bind, run_current, found]
          rfl
      | some removed =>
          refine .succeeds (.removedConstraint removed) ?_ (.removeConstraint id)
          simp only [perform, removeConstraint, run_bind, run_current, found]
          rfl
  | addUser spec => exact .succeeds _ rfl (.addUser spec)
  | removeUser id =>
      cases found : workspace.schema.user? id with
      | none =>
          refine .fails (.userNotFound id) ?_
          simp only [perform, removeUser, run_bind, run_current, found]
          rfl
      | some removed =>
          refine .succeeds (.removedUser removed) ?_ (.removeUser id)
          simp only [perform, removeUser, run_bind, run_current, found]
          rfl
  | addPermission spec => exact .succeeds _ rfl (.addPermission spec)
  | removePermission id =>
      cases found : workspace.schema.permissions.find? fun permission => permission.id == id with
      | none =>
          refine .fails (.permissionNotFound id) ?_
          simp only [perform, removePermission, run_bind, run_current, found]
          rfl
      | some removed =>
          refine .succeeds (.removedPermission removed) ?_ (.removePermission id)
          simp only [perform, removePermission, run_bind, run_current, found]
          rfl
  | applyFix finding => exact applyFix_cases finding workspace

end Edit

end SchemaDesign
