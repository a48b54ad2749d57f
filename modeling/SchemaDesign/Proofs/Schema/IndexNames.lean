import SchemaDesign.Proofs.Schema.Grounded
import SchemaDesign.Proofs.Session.Steps

/-!
# Entries of indexes

An entry of an index means a column of the index's table by its name.  Whatever the identities of a
schema are, every command leaves each entry a column to mean, if the indexes that it adds list names
of columns: a column that goes takes its entries along, and one that is renamed renames them.
-/

namespace SchemaDesign

namespace Schema

/-- Every entry of an index is the name of a column of the index's table, in any letter case. -/
def IndexesNamed (schema : Schema) : Prop :=
  ∀ index ∈ schema.indexes, ∀ entry ∈ index.columns, schema.Names index.table entry

instance (schema : Schema) (id : TableId) (name : String) : Decidable (schema.Names id name) :=
  inferInstanceAs (Decidable (∃ table ∈ schema.tables, table.id = id ∧
    ∃ column ∈ table.columns, Text.same column.name name = true))

instance (schema : Schema) : Decidable schema.IndexesNamed :=
  inferInstanceAs (Decidable (∀ index ∈ schema.indexes, ∀ entry ∈ index.columns,
    schema.Names index.table entry))

variable {schema later : Schema} {id owner : TableId} {entry : String}

/-- The first table of an identity changes, but keeps a column of a name. -/
theorem Names.changeTable
    {change : Table → Table} (names : schema.Names owner entry)
    (keepsId : ∀ table, (change table).id = table.id)
    (keepsName : ∀ table, schema.table? id = some table → owner = id →
      ∀ column ∈ table.columns, Text.same column.name entry = true →
        ∃ kept ∈ (change table).columns, Text.same kept.name entry = true) :
    (schema.changeTable id change).Names owner entry := by
  obtain ⟨table, member, identity, column, columnMember, named⟩ := names
  rcases mem_changeFirst_of_mem member with kept | ⟨found, changed⟩
  · exact ⟨table, kept, identity, column, columnMember, named⟩
  · have same : owner = id := identity.symm.trans (mem_of_table? found).2
    refine ⟨change table, changed, (keepsId table).trans identity, ?_⟩
    exact keepsName table found same column columnMember named

/-- Changes of columns in place that keep their names keep what there is of each name. -/
theorem Names.changeColumn
    {isMeant : Column → Bool} {change : Column → Column} (names : schema.Names owner entry)
    (keepsName : ∀ table, schema.table? id = some table → owner = id →
      ∀ column, table.columns.find? isMeant = some column →
        Text.same column.name entry = true → Text.same (change column).name entry = true) :
    (schema.changeTable id fun table =>
      { table with columns := changeFirst isMeant change table.columns }).Names owner entry := by
  refine names.changeTable (fun _ => rfl) ?_
  intro table found same column member named
  rcases mem_changeFirst_of_mem member with kept | ⟨meant, changed⟩
  · exact ⟨column, kept, named⟩
  · exact ⟨change column, changed, keepsName table found same column meant named⟩

theorem IndexesNamed.of_names
    (named : schema.IndexesNamed) (fewer : ∀ index ∈ later.indexes, index ∈ schema.indexes)
    (keeps : ∀ id entry, schema.Names id entry → later.Names id entry) : later.IndexesNamed :=
  fun index member entry entryMember =>
    keeps _ _ (named index (fewer index member) entry entryMember)

theorem IndexesNamed.of_changed
    {workspace : Workspace} {drawn : Nat} {change : Schema → Schema}
    (named : (change workspace.schema).IndexesNamed) :
    (workspace.changed drawn change).schema.IndexesNamed :=
  named

/-- The first table of an identity changes, but keeps a column of each of its names. -/
theorem IndexesNamed.changeTable
    {change : Table → Table} (named : schema.IndexesNamed)
    (keepsId : ∀ table, (change table).id = table.id)
    (keepsNames : ∀ table, schema.table? id = some table → ∀ column ∈ table.columns,
      ∃ kept ∈ (change table).columns, kept.name = column.name) :
    (schema.changeTable id change).IndexesNamed := by
  intro index member entry entryMember
  apply (named index member entry entryMember).changeTable keepsId
  intro table found _ column columnMember sameEntry
  obtain ⟨kept, keptMember, same⟩ := keepsNames table found column columnMember
  exact ⟨kept, keptMember, same ▸ sameEntry⟩

theorem IndexesNamed.addIndex
    (named : schema.IndexesNamed) {index : Index}
    (lists : ∀ entry ∈ index.columns, schema.Names index.table entry) :
    IndexesNamed { schema with indexes := schema.indexes ++ [index] } := by
  intro other member
  rcases List.mem_append.mp member with before | new
  · exact named other before
  · rw [List.mem_singleton.mp new]
    exact lists

theorem IndexesNamed.keepFirstKey
    {table : Table} (named : schema.IndexesNamed) (found : schema.table? id = some table) :
    (schema.changeTable id fun old =>
      { old with columns := Validation.keepFirstKey false table.columns }).IndexesNamed := by
  refine named.changeTable (fun _ => rfl) fun old oldFound column member => ?_
  rw [found, Option.some.injEq] at oldFound
  subst oldFound
  have sameNames := Validation.map_keepFirstKey (fun column => column.name) (fun _ _ => rfl) false
    table.columns
  have known : column.name ∈ table.columns.map fun column => column.name :=
    List.mem_map_of_mem member
  rw [← sameNames] at known
  exact List.mem_map.mp known

theorem IndexesNamed.markForeignKeys (named : schema.IndexesNamed) :
    schema.markForeignKeys.IndexesNamed :=
  named.of_names (fun _ member => member) fun _ _ names => names_mapColumns names fun _ => rfl

theorem IndexesNamed.withoutTable (named : schema.IndexesNamed) (id : TableId) :
    (schema.withoutTable id).IndexesNamed := by
  apply IndexesNamed.markForeignKeys
  intro index member entry entryMember
  obtain ⟨known, apart⟩ := List.mem_filter.mp member
  obtain ⟨table, tableMember, identity, named⟩ := named index known entry entryMember
  have different : table.id ≠ id := by
    rw [identity]
    simpa using apart
  refine ⟨table, ?_, identity, named⟩
  rw [List.mem_eraseP_of_neg (by simpa using different)]
  exact tableMember

/-! ## Columns that go or get another name -/

section

variable {table : Table} {name : String} {column : Column}
variable (held : table.columnNamed? name = some column)

include held

theorem IndexesNamed.dropColumn (named : schema.IndexesNamed) :
    ((schema.changeTable id fun table =>
        { table with
          columns := table.columns.eraseP fun column => Text.same column.name name })
      |>.withoutReferencesTo id column).IndexesNamed := by
  obtain ⟨_, sameName⟩ := mem_of_columnNamed? held
  -- An entry of another name keeps its column, as only a column of the dropped name goes.
  have keeps (owner : TableId) (entry : String) (names : schema.Names owner entry)
      (apart : owner = id → Text.same entry column.name = false) :
      (schema.changeTable id fun table =>
        { table with
          columns := table.columns.eraseP fun column => Text.same column.name name }).Names
        owner entry := by
    refine names.changeTable (fun _ => rfl) ?_
    intro other _ same kept member sameEntry
    refine ⟨kept, ?_, sameEntry⟩
    rw [List.mem_eraseP_of_neg]
    · exact member
    · intro dropped
      have entryName := Text.same_trans ((Text.same_comm entry kept.name).trans sameEntry) dropped
      rw [Text.same_comm] at sameName
      rw [Text.same_trans entryName sameName] at apart
      cases apart same
  apply IndexesNamed.markForeignKeys
  intro index member entry entryMember
  obtain ⟨narrowed, _⟩ := List.mem_filter.mp member
  obtain ⟨known, knownMember, rfl⟩ := List.mem_map.mp narrowed
  by_cases here : (known.table == id) = true
  · rw [if_pos here] at entryMember ⊢
    obtain ⟨old, apart⟩ := List.mem_filter.mp entryMember
    exact keeps _ _ (named known knownMember entry old) fun _ => by simpa using apart
  · rw [if_neg here] at entryMember ⊢
    refine keeps _ _ (named known knownMember entry entryMember) fun same => ?_
    exact absurd (by simpa using same) here

/-- The new definition of a column is found under its name. -/
theorem names_modified (found : schema.table? id = some table) (spec : ColumnSpec) :
    (schema.changeTable id fun table =>
      { table with
        columns := changeFirst (fun column => Text.same column.name name)
          (fun _ => { spec with id := column.id, isForeignKey := column.isForeignKey })
          table.columns }).Names id spec.name := by
  refine ⟨_, change_mem_changeFirst found _, (mem_of_table? found).2, _,
    change_mem_changeFirst held _, ?_⟩
  exact Text.same_refl spec.name

omit held in
/-- A new definition of a column matters for its own name only. -/
theorem Names.modifyColumn
    (names : schema.Names owner entry) (id : TableId) (column : Column) (spec : ColumnSpec)
    (keepsName : owner = id → Text.same name entry = true → Text.same spec.name entry = true) :
    (schema.changeTable id fun table =>
      { table with
        columns := changeFirst (fun column => Text.same column.name name)
          (fun _ => { spec with id := column.id, isForeignKey := column.isForeignKey })
          table.columns }).Names owner entry := by
  apply names.changeColumn
  intro other _ same old meant sameEntry
  have sameName := List.find?_some meant
  rw [Text.same_comm] at sameName
  exact keepsName same (Text.same_trans sameName sameEntry)

theorem IndexesNamed.modifyColumn
    (named : schema.IndexesNamed) (found : schema.table? id = some table) (spec : ColumnSpec) :
    IndexesNamed
      (let modified := schema.changeTable id fun table =>
        { table with
          columns := changeFirst (fun column => Text.same column.name name)
            (fun _ => { spec with id := column.id, isForeignKey := column.isForeignKey })
            table.columns }
      if Text.same column.name spec.name then modified
      else modified.renameIndexed id name spec.name) := by
  obtain ⟨_, sameName⟩ := mem_of_columnNamed? held
  dsimp only
  split
  · next kept =>
      refine named.of_names (fun _ member => member) fun owner entry names => ?_
      apply names.modifyColumn id column spec
      intro _ sameEntry
      rw [Text.same_comm] at kept
      exact Text.same_trans kept (Text.same_trans sameName sameEntry)
  · intro index member entry entryMember
    obtain ⟨known, knownMember, rfl⟩ := List.mem_map.mp member
    by_cases here : (known.table == id) = true
    · rw [if_pos here] at entryMember ⊢
      have identity : known.table = id := by simpa using here
      obtain ⟨old, oldMember, rfl⟩ := List.mem_map.mp entryMember
      split
      · exact identity ▸ names_modified held found spec
      · next apart =>
          apply (named known knownMember old oldMember).modifyColumn id column spec
          intro _ sameEntry
          rw [Text.same_comm] at sameEntry
          exact absurd sameEntry apart
    · rw [if_neg here] at entryMember ⊢
      apply (named known knownMember entry entryMember).modifyColumn id column spec
      intro same
      exact absurd (by simpa using same) here

end

end Schema

/-! ## Commands -/

/-- An index that a command adds lists names of columns of its table. -/
def Command.ListsNames (schema : Schema) : Command → Prop
  | .updateTable _ patch => patch.columns = none
  | .addIndex spec => ∀ entry ∈ spec.columns, schema.Names spec.table entry
  | _ => True

/-- Whether a command adds to a table or gives a column of it another definition under its name. -/
def Command.KeepsNames : Command → Prop
  | .alterTable _ (.modify name spec) => Text.same spec.name name = true
  | .addRelationship _ | .addIndex _ | .addConstraint _ => True
  | _ => False

namespace Workspace

variable {before after : Workspace} {command : Command}

theorem Step.keeps_names
    (step : before.Step command after) (stays : command.KeepsNames) {id : TableId} {entry : String}
    (names : before.schema.Names id entry) : after.schema.Names id entry := by
  cases step with
  | @modifyColumn owner table name column spec found held =>
      have same : Text.same spec.name name = true := stays
      have modified := names.modifyColumn owner column spec fun _ => Text.same_trans same
      dsimp only [Workspace.changed]
      split
      · exact modified
      · exact modified
  | addRelationship spec => exact names.changeColumn fun _ _ _ _ _ named => named
  | addIndex spec => exact names
  | addConstraint spec => exact names
  | _ => exact stays.elim

theorem indexesNamed_step
    (step : before.Step command after) (named : before.schema.IndexesNamed)
    (lists : command.ListsNames before.schema) : after.schema.IndexesNamed := by
  have adds (table : Table) (id : TableId) (entry : String)
      (names : before.schema.Names id entry) :
      Schema.Names { before.schema with tables := before.schema.tables ++ [table] } id entry := by
    obtain ⟨owner, member, rest⟩ := names
    exact ⟨owner, List.mem_append_left _ member, rest⟩
  cases step with
  | addTable spec => exact named.of_names (fun _ member => member) (adds _)
  | removeTable found => exact named.withoutTable _
  | updateTable patch found =>
      have sameColumns : patch.columns = none := lists
      apply Schema.IndexesNamed.of_changed
      refine named.changeTable (fun _ => rfl) fun table _ column member => ⟨column, ?_, rfl⟩
      rw [sameColumns]
      exact member
  | renameTable updated =>
      cases updated with
      | updateTable patch found =>
          apply Schema.IndexesNamed.of_changed
          exact named.changeTable (fun _ => rfl) fun _ _ column member => ⟨column, member, rfl⟩
  | addColumn spec found =>
      apply Schema.IndexesNamed.of_changed
      refine named.changeTable (fun _ => rfl) fun _ _ column member => ⟨column, ?_, rfl⟩
      exact List.mem_append_left _ member
  | dropColumn found held => exact .of_changed (named.dropColumn held)
  | modifyColumn spec found held => exact .of_changed (named.modifyColumn held found spec)
  | duplicateTable found => exact named.of_names (fun _ member => member) (adds _)
  | insertRow row found =>
      apply Schema.IndexesNamed.of_changed
      exact named.changeTable (fun _ => rfl) fun _ _ column member => ⟨column, member, rfl⟩
  | addRelationship spec =>
      refine named.of_names (fun _ member => member) fun id entry names => ?_
      exact names.changeColumn fun _ _ _ _ _ sameEntry => sameEntry
  | removeRelationship id =>
      apply Schema.IndexesNamed.of_changed
      apply Schema.IndexesNamed.markForeignKeys
      exact named.of_names (fun _ member => member) fun _ _ names => names
  | addIndex spec => exact named.addIndex lists
  | removeIndex id =>
      exact named.of_names (fun _ member => List.mem_of_mem_eraseP member) fun _ _ names => names
  | addConstraint spec => exact named
  | removeConstraint id => exact named
  | addUser spec => exact named
  | removeUser id => exact named
  | addPermission spec => exact named
  | removePermission id => exact named
  | fixKeys found => exact .of_changed (named.keepFirstKey found)
  | fixIndex found held =>
      apply named.addIndex
      intro entry member
      rw [List.mem_singleton.mp member]
      apply Schema.Names.of_table? found
      exact Schema.columnNamed?_isSome_iff.mpr
        ⟨_, (Schema.mem_of_column? held).1, Text.same_refl _⟩

end Workspace

end SchemaDesign
