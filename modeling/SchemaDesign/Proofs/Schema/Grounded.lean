import SchemaDesign.Proofs.Schema.LinkedSteps

/-!
# Names, grants and row counts

An index means the columns of its table by their names, and a permission its account and its table
by their identities.  Commands keep these meaningful, and the count of a table's rows right.
-/

namespace SchemaDesign

namespace Schema

/-- A table of an identity has a column of a name, in any letter case. -/
def Names (schema : Schema) (id : TableId) (name : String) : Prop :=
  ∃ table ∈ schema.tables, table.id = id ∧
    ∃ column ∈ table.columns, Text.same column.name name = true

/-- The identities of the accounts. -/
def userIds (schema : Schema) : List UserId :=
  schema.users.map fun user => user.id

/-- What indexes and permissions mean exists, and tables have as many rows as they count. -/
structure Grounded (schema : Schema) : Prop where
  names : ∀ index ∈ schema.indexes, ∀ name ∈ index.columns, schema.Names index.table name
  grantees : ∀ permission ∈ schema.permissions, permission.user ∈ schema.userIds
  scopes : ∀ permission ∈ schema.permissions, ∀ id,
    permission.table = some id → id ∈ schema.tableIds
  rows : ∀ table ∈ schema.tables, table.rowCount = table.rows.length

variable {schema : Schema}

theorem columnNamed?_isSome_iff {table : Table} {name : String} :
    (table.columnNamed? name).isSome ↔
      ∃ column ∈ table.columns, Text.same column.name name = true := by
  rw [Table.columnNamed?, List.find?_isSome]

theorem user?_isSome_iff {id : UserId} : (schema.user? id).isSome ↔ id ∈ schema.userIds := by
  simp [user?, userIds]

theorem Names.of_table?
    {id : TableId} {name : String} {table : Table} (found : schema.table? id = some table)
    (named : (table.columnNamed? name).isSome) : schema.Names id name := by
  obtain ⟨member, identity⟩ := mem_of_table? found
  exact ⟨table, member, identity, columnNamed?_isSome_iff.mp named⟩

theorem Names.of_same
    {id : TableId} {left right : String} (names : schema.Names id left)
    (same : Text.same left right = true) : schema.Names id right := by
  obtain ⟨table, member, identity, column, columnMember, named⟩ := names
  exact ⟨table, member, identity, column, columnMember, Text.same_trans named same⟩

/-- Only the tables change, and they keep their names and their count of rows. -/
theorem Grounded.of_tables
    (grounded : schema.Grounded) (tables : List Table)
    (keepsIds : ∀ id ∈ schema.tableIds, id ∈ tables.map fun table => table.id)
    (keepsNames : ∀ id name, schema.Names id name → Names { schema with tables } id name)
    (rows : ∀ table ∈ tables, table.rowCount = table.rows.length) :
    Grounded { schema with tables } := by
  constructor
  · intro index member name nameMember
    exact keepsNames _ _ (grounded.names index member name nameMember)
  · exact grounded.grantees
  · intro permission member id scope
    exact keepsIds id (grounded.scopes permission member id scope)
  · exact rows

theorem Grounded.of_changed
    {workspace : Workspace} {drawn : Nat} {change : Schema → Schema}
    (grounded : (change workspace.schema).Grounded) :
    (workspace.changed drawn change).schema.Grounded :=
  ⟨grounded.names, grounded.grantees, grounded.scopes, grounded.rows⟩

theorem Grounded.addIndex
    (grounded : schema.Grounded) {index : Index}
    (names : ∀ name ∈ index.columns, schema.Names index.table name) :
    Grounded { schema with indexes := schema.indexes ++ [index] } := by
  refine ⟨?_, grounded.grantees, grounded.scopes, grounded.rows⟩
  intro other member
  rcases List.mem_append.mp member with member | member
  · exact grounded.names other member
  · rw [List.mem_singleton.mp member]
    exact names

theorem Grounded.addPermission
    (grounded : schema.Grounded) {permission : Permission}
    (grantee : permission.user ∈ schema.userIds)
    (scope : ∀ id, permission.table = some id → id ∈ schema.tableIds) :
    Grounded { schema with permissions := schema.permissions ++ [permission] } := by
  refine ⟨grounded.names, ?_, ?_, grounded.rows⟩
  · intro other member
    rcases List.mem_append.mp member with member | member
    · exact grounded.grantees other member
    · rw [List.mem_singleton.mp member]
      exact grantee
  · intro other member
    rcases List.mem_append.mp member with member | member
    · exact grounded.scopes other member
    · rw [List.mem_singleton.mp member]
      exact scope

theorem Grounded.removeUser (grounded : schema.Grounded) (id : UserId) :
    Grounded
      { schema with
        users := schema.users.eraseP fun user => user.id == id
        permissions := schema.permissions.filter fun permission => permission.user != id } := by
  refine ⟨grounded.names, ?_, ?_, grounded.rows⟩
  · intro permission member
    obtain ⟨known, apart⟩ := List.mem_filter.mp member
    obtain ⟨user, userMember, identity⟩ := List.mem_map.mp (grounded.grantees permission known)
    refine List.mem_map.mpr ⟨user, ?_, identity⟩
    rw [List.mem_eraseP_of_neg (by simpa [identity] using apart)]
    exact userMember
  · intro permission member
    exact grounded.scopes permission (List.mem_of_mem_filter member)

/-! ## Changes of one table -/

theorem Grounded.withTable
    (grounded : schema.Grounded) {table : Table} (rows : table.rowCount = table.rows.length) :
    Grounded { schema with tables := schema.tables ++ [table] } := by
  apply grounded.of_tables
  · intro id member
    rw [List.map_append]
    exact List.mem_append_left _ member
  · rintro id name ⟨owner, member, rest⟩
    exact ⟨owner, List.mem_append_left _ member, rest⟩
  · intro other member
    rcases List.mem_append.mp member with member | member
    · exact grounded.rows other member
    · rw [List.mem_singleton.mp member]
      exact rows

/-- The first table of an identity changes, but keeps a column of each of its names. -/
theorem Grounded.changeTable
    (grounded : schema.Grounded) {id : TableId} {change : Table → Table}
    (keepsId : ∀ table, (change table).id = table.id)
    (keepsNames : ∀ table, schema.table? id = some table → ∀ column ∈ table.columns,
      ∃ kept ∈ (change table).columns, Text.same kept.name column.name = true)
    (rows : ∀ table, table.rowCount = table.rows.length →
      (change table).rowCount = (change table).rows.length) :
    (schema.changeTable id change).Grounded := by
  apply grounded.of_tables
  · intro other member
    obtain ⟨table, tableMember, rfl⟩ := List.mem_map.mp member
    rcases mem_changeFirst_of_mem tableMember with kept | ⟨_, changed⟩
    · exact List.mem_map_of_mem kept
    · exact List.mem_map.mpr ⟨_, changed, keepsId table⟩
  · rintro other name ⟨table, member, rfl, column, columnMember, named⟩
    rcases mem_changeFirst_of_mem member with kept | ⟨found, changed⟩
    · exact ⟨table, kept, rfl, column, columnMember, named⟩
    · obtain ⟨kept, keptMember, same⟩ := keepsNames table found column columnMember
      exact ⟨_, changed, keepsId table, kept, keptMember, Text.same_trans same named⟩
  · intro table member
    rcases mem_changeFirst member with kept | ⟨old, found, rfl⟩
    · exact grounded.rows table kept
    · exact rows old (grounded.rows old (mem_of_table? found).1)

theorem Grounded.changeTable_of_columns
    (grounded : schema.Grounded) {id : TableId} {change : Table → Table}
    (keepsId : ∀ table, (change table).id = table.id)
    (keepsColumns : ∀ table, (change table).columns = table.columns)
    (rows : ∀ table, table.rowCount = table.rows.length →
      (change table).rowCount = (change table).rows.length) :
    (schema.changeTable id change).Grounded := by
  apply grounded.changeTable keepsId _ rows
  intro table _ column member
  exact ⟨column, (keepsColumns table).symm ▸ member, Text.same_refl column.name⟩

theorem Grounded.addRelationship
    (grounded : schema.Grounded) (relationship : Relationship) :
    Grounded
      { schema.changeTable relationship.sourceTable fun table =>
          { table with
            columns := changeFirst (fun column => column.id == relationship.sourceColumn)
              (fun column => { column with isForeignKey := true }) table.columns } with
        relationships := schema.relationships ++ [relationship] } := by
  have marked : Grounded (schema.changeTable relationship.sourceTable fun table =>
      { table with
        columns := changeFirst (fun column => column.id == relationship.sourceColumn)
          (fun column => { column with isForeignKey := true }) table.columns }) := by
    apply grounded.changeTable
    · intro table
      rfl
    · intro table _ column member
      rcases mem_changeFirst_of_mem member with kept | ⟨_, changed⟩
      · exact ⟨column, kept, Text.same_refl column.name⟩
      · exact ⟨_, changed, Text.same_refl column.name⟩
    · intro table rows
      exact rows
  exact ⟨marked.names, marked.grantees, marked.scopes, marked.rows⟩

theorem Grounded.keepFirstKey
    (grounded : schema.Grounded) {id : TableId} {table : Table}
    (found : schema.table? id = some table) :
    (schema.changeTable id fun old =>
      { old with columns := Validation.keepFirstKey false table.columns }).Grounded := by
  apply grounded.changeTable
  · intro old
    rfl
  · intro old oldFound column member
    rw [found, Option.some.injEq] at oldFound
    subst oldFound
    have names := Validation.map_keepFirstKey (fun column => column.name) (fun _ _ => rfl) false
      table.columns
    have named : column.name ∈ table.columns.map fun column => column.name :=
      List.mem_map_of_mem member
    rw [← names] at named
    obtain ⟨other, otherMember, same⟩ := List.mem_map.mp named
    exact ⟨other, otherMember, same ▸ Text.same_refl other.name⟩
  · intro old rows
    exact rows

theorem names_mapColumns
    {change : Column → Column} {id : TableId} {name : String} (names : schema.Names id name)
    (keepsName : ∀ column : Column, (change column).name = column.name) :
    (schema.mapColumns change).Names id name := by
  obtain ⟨table, member, identity, column, columnMember, named⟩ := names
  refine ⟨_, List.mem_map_of_mem member, identity, _, List.mem_map_of_mem columnMember, ?_⟩
  rwa [keepsName]

theorem Grounded.markForeignKeys (grounded : schema.Grounded) :
    schema.markForeignKeys.Grounded := by
  apply grounded.of_tables
  · intro id member
    simpa [tableIds, Function.comp_def] using member
  · intro id name names
    exact names_mapColumns names fun _ => rfl
  · intro table member
    obtain ⟨old, oldMember, rfl⟩ := List.mem_map.mp member
    exact grounded.rows old oldMember

/-! ## Changes that take indexes along -/

theorem Grounded.withoutTable (grounded : schema.Grounded) (id : TableId) :
    (schema.withoutTable id).Grounded := by
  have remains : ∀ table ∈ schema.tables, table.id ≠ id →
      table ∈ schema.tables.eraseP fun table => table.id == id := by
    intro table member different
    rw [List.mem_eraseP_of_neg (by simpa using different)]
    exact member
  apply Grounded.markForeignKeys
  constructor
  · intro index member name nameMember
    obtain ⟨known, apart⟩ := List.mem_filter.mp member
    obtain ⟨table, tableMember, identity, rest⟩ := grounded.names index known name nameMember
    have different : table.id ≠ id := by
      rw [identity]
      simpa using apart
    exact ⟨table, remains table tableMember different, identity, rest⟩
  · intro permission member
    exact grounded.grantees permission (List.mem_of_mem_filter member)
  · intro permission member tableId scope
    obtain ⟨known, apart⟩ := List.mem_filter.mp member
    obtain ⟨table, tableMember, identity⟩ :=
      List.mem_map.mp (grounded.scopes permission known tableId scope)
    have different : table.id ≠ id := by
      rintro rfl
      rw [scope, ← identity] at apart
      simp at apart
    exact List.mem_map.mpr ⟨table, remains table tableMember different, identity⟩
  · intro table member
    exact grounded.rows table (List.mem_of_mem_eraseP member)

/-- The schema with a new definition of a column, which stays as much of a foreign key as it was. -/
def redefine (schema : Schema) (column : Column) (spec : ColumnSpec) : Schema :=
  schema.mapColumns fun other =>
    if other.id = column.id then
      { spec with id := column.id, isForeignKey := column.isForeignKey }
    else other

section

variable (linked : schema.Linked) {table : Table} (member : table ∈ schema.tables)
variable {name : String} {column : Column} (named : table.columnNamed? name = some column)

include linked member named

/-- A column of a table that an index entry means, if it is not the column of the entry's name. -/
theorem other_of_names
    {id : TableId} {entry : String} (names : schema.Names id entry)
    (apart : id = table.id → Text.same column.name entry = false) :
    ∃ owner ∈ schema.tables, owner.id = id ∧
      ∃ held ∈ owner.columns, held.id ≠ column.id ∧ Text.same held.name entry = true := by
  obtain ⟨owner, ownerMember, identity, held, heldMember, same⟩ := names
  refine ⟨owner, ownerMember, identity, held, heldMember, ?_, same⟩
  intro equality
  have place := place_eq linked.columns ownerMember member heldMember
    (mem_of_columnNamed? named).1 equality
  obtain ⟨rfl, rfl⟩ := place
  rw [apart identity.symm] at same
  cases same

theorem Grounded.dropColumn (grounded : schema.Grounded) :
    ((schema.changeTable table.id fun table =>
        { table with
          columns := table.columns.eraseP fun column => Text.same column.name name })
      |>.withoutReferencesTo table.id column).Grounded := by
  have erased := changeTable_eraseP linked.tables linked.columns member named
  rw [erased]
  apply Grounded.markForeignKeys
  constructor
  · intro index indexMember entry entryMember
    obtain ⟨narrowed, _⟩ := List.mem_filter.mp indexMember
    obtain ⟨known, knownMember, rfl⟩ := List.mem_map.mp narrowed
    have kept : schema.Names known.table entry ∧
        (known.table = table.id → Text.same column.name entry = false) := by
      by_cases here : (known.table == table.id) = true
      · rw [if_pos here] at entryMember
        obtain ⟨old, apart⟩ := List.mem_filter.mp entryMember
        refine ⟨grounded.names known knownMember entry old, fun _ => ?_⟩
        rw [Text.same_comm]
        simpa using apart
      · rw [if_neg here] at entryMember
        refine ⟨grounded.names known knownMember entry entryMember, ?_⟩
        intro identity
        exact absurd (by simpa using identity) here
    obtain ⟨owner, ownerMember, identity, held, heldMember, different, same⟩ :=
      other_of_names linked member named kept.1 kept.2
    have sameTable : (if (known.table == table.id) = true then
        { known with columns := known.columns.filter fun name => !Text.same name column.name }
        else known).table = known.table := by
      split <;> rfl
    rw [sameTable]
    refine ⟨_, List.mem_map_of_mem ownerMember, identity, held, ?_, same⟩
    exact List.mem_filter.mpr ⟨heldMember, by simpa using different⟩
  · exact grounded.grantees
  · intro permission permissionMember id scope
    simpa [tableIds, filterColumns, Function.comp_def] using
      grounded.scopes permission permissionMember id scope
  · intro other otherMember
    obtain ⟨old, oldMember, rfl⟩ := List.mem_map.mp otherMember
    exact grounded.rows old oldMember

omit linked in
theorem redefine_names (spec : ColumnSpec) :
    (schema.redefine column spec).Names table.id spec.name := by
  obtain ⟨columnMember, _⟩ := mem_of_columnNamed? named
  refine ⟨_, List.mem_map_of_mem member, rfl, _, List.mem_map_of_mem columnMember, ?_⟩
  rw [if_pos rfl]
  exact Text.same_refl spec.name

theorem redefine_names_other
    (spec : ColumnSpec) {id : TableId} {entry : String} (names : schema.Names id entry)
    (apart : id = table.id → Text.same column.name entry = false) :
    (schema.redefine column spec).Names id entry := by
  obtain ⟨owner, ownerMember, identity, held, heldMember, different, same⟩ :=
    other_of_names linked member named names apart
  refine ⟨_, List.mem_map_of_mem ownerMember, identity, _, List.mem_map_of_mem heldMember, ?_⟩
  rwa [if_neg different]

theorem Grounded.redefine
    (grounded : schema.Grounded) {spec : ColumnSpec}
    (kept : Text.same column.name spec.name = true) :
    (schema.redefine column spec).Grounded := by
  apply grounded.of_tables
  · intro id idMember
    simpa [tableIds, Function.comp_def] using idMember
  · intro id entry names
    by_cases meant : id = table.id ∧ Text.same column.name entry = true
    · obtain ⟨rfl, same⟩ := meant
      rw [Text.same_comm] at kept
      exact (redefine_names member named spec).of_same (Text.same_trans kept same)
    · apply redefine_names_other linked member named spec names
      intro identity
      simpa [identity] using meant
  · intro other otherMember
    obtain ⟨old, oldMember, rfl⟩ := List.mem_map.mp otherMember
    exact grounded.rows old oldMember

theorem Grounded.redefine_renamed (grounded : schema.Grounded) (spec : ColumnSpec) :
    ((schema.redefine column spec).renameIndexed table.id name spec.name).Grounded := by
  obtain ⟨_, sameName⟩ := mem_of_columnNamed? named
  constructor
  · intro index indexMember entry entryMember
    obtain ⟨known, knownMember, rfl⟩ := List.mem_map.mp indexMember
    by_cases here : (known.table == table.id) = true
    · rw [if_pos here] at entryMember ⊢
      have identity : known.table = table.id := by simpa using here
      obtain ⟨old, oldMember, rfl⟩ := List.mem_map.mp entryMember
      split
      · exact identity ▸ redefine_names member named spec
      · next apart =>
          have names := grounded.names known knownMember old oldMember
          apply redefine_names_other linked member named spec names
          intro _
          rw [Bool.eq_false_iff]
          intro same
          rw [Text.same_comm] at same
          exact apart (Text.same_trans same sameName)
    · rw [if_neg here] at entryMember ⊢
      have names := grounded.names known knownMember entry entryMember
      apply redefine_names_other linked member named spec names
      intro identity
      exact absurd (by simpa using identity) here
  · exact grounded.grantees
  · intro permission permissionMember id scope
    have sameTables : (schema.redefine column spec).tableIds = schema.tableIds :=
      tableIds_mapColumns _ _
    change id ∈ (schema.redefine column spec).tableIds
    rw [sameTables]
    exact grounded.scopes permission permissionMember id scope
  · intro other otherMember
    obtain ⟨old, oldMember, rfl⟩ := List.mem_map.mp otherMember
    exact grounded.rows old oldMember

theorem Grounded.modifyColumn (grounded : schema.Grounded) (spec : ColumnSpec) :
    Grounded
      (let modified := schema.changeTable table.id fun table =>
        { table with
          columns := changeFirst (fun column => Text.same column.name name)
            (fun _ => { spec with id := column.id, isForeignKey := column.isForeignKey })
            table.columns }
      if Text.same column.name spec.name then modified
      else modified.renameIndexed table.id name spec.name) := by
  have redefined := changeTable_changeFirst linked.tables linked.columns member named
    fun _ => { spec with id := column.id, isForeignKey := column.isForeignKey }
  rw [redefined]
  by_cases kept : Text.same column.name spec.name = true
  · rw [if_pos kept]
    exact grounded.redefine linked member named kept
  · rw [if_neg kept]
    exact grounded.redefine_renamed linked member named spec

end

end Schema

end SchemaDesign
