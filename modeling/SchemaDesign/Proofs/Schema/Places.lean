import SchemaDesign.Proofs.Schema.DistinctKeys

/-!
# Where tables and columns are

A schema whose tables and columns have distinct identities has every column at one place.  There
the changes of the schema, which look for the first table and the first column of a kind, are maps
and filters over all columns by identity.
-/

namespace SchemaDesign

namespace Schema

/-- The identities of the tables. -/
def tableIds (schema : Schema) : List TableId :=
  schema.tables.map fun table => table.id

/-- The identities of the columns of all tables. -/
def columnIds (schema : Schema) : List ColumnId :=
  schema.tables.flatMap fun table => table.columns.map fun column => column.id

/-- A table of one identity has a column of another. -/
def Holds (schema : Schema) (table : TableId) (column : ColumnId) : Prop :=
  ∃ owner ∈ schema.tables, owner.id = table ∧ ∃ held ∈ owner.columns, held.id = column

/-- The schema with every column changed. -/
def mapColumns (schema : Schema) (change : Column → Column) : Schema :=
  { schema with
    tables := schema.tables.map fun table => { table with columns := table.columns.map change } }

/-- The schema with those of its columns that are to be kept. -/
def filterColumns (schema : Schema) (keep : Column → Bool) : Schema :=
  { schema with
    tables := schema.tables.map fun table => { table with columns := table.columns.filter keep } }

variable {schema : Schema}

theorem table?_isSome_iff {id : TableId} : (schema.table? id).isSome ↔ id ∈ schema.tableIds := by
  simp [table?, tableIds]

theorem tableIds_append_of_mem
    {changed : Schema} {added : List Table} (tables : changed.tables = schema.tables ++ added)
    {id : TableId} (member : id ∈ schema.tableIds) : id ∈ changed.tableIds := by
  rw [tableIds, tables, List.map_append]
  exact List.mem_append_left _ member

theorem table?_eq_some_iff
    (distinct : schema.tableIds.Nodup) {id : TableId} {table : Table} :
    schema.table? id = some table ↔ table ∈ schema.tables ∧ table.id = id :=
  find?_key_eq_some_iff distinct

theorem mem_of_table? {id : TableId} {table : Table} (found : schema.table? id = some table) :
    table ∈ schema.tables ∧ table.id = id := by
  have meant := List.find?_some found
  exact ⟨List.mem_of_find?_eq_some found, by simpa using meant⟩

theorem table?_changeTable
    {id : TableId} {change : Table → Table} (keepsId : ∀ table, (change table).id = table.id) :
    (schema.changeTable id change).table? id = (schema.table? id).map change :=
  find?_changeFirst_meant fun table => by rw [keepsId]

theorem mem_of_column? {table : Table} {id : ColumnId} {column : Column}
    (found : table.column? id = some column) : column ∈ table.columns ∧ column.id = id := by
  have meant := List.find?_some found
  exact ⟨List.mem_of_find?_eq_some found, by simpa using meant⟩

theorem mem_of_columnNamed? {table : Table} {name : String} {column : Column}
    (found : table.columnNamed? name = some column) :
    column ∈ table.columns ∧ Text.same column.name name = true := by
  rw [Table.columnNamed?] at found
  have named := List.find?_some found
  exact ⟨List.mem_of_find?_eq_some found, named⟩

theorem mem_of_tableNamed? {name : String} {table : Table}
    (found : schema.tableNamed? name = some table) :
    table ∈ schema.tables ∧ Text.same table.name name = true := by
  rw [tableNamed?] at found
  have named := List.find?_some found
  exact ⟨List.mem_of_find?_eq_some found, named⟩

theorem endpoint?_eq_some_iff {id : TableId} {columnId : ColumnId} {table : Table}
    {column : Column} :
    schema.endpoint? id columnId = some (table, column) ↔
      schema.table? id = some table ∧ table.column? columnId = some column := by
  simp only [endpoint?, Option.bind_eq_bind, Option.bind_eq_some_iff, Option.some.injEq,
    Prod.mk.injEq]
  constructor
  · rintro ⟨_, tableFound, _, columnFound, rfl, rfl⟩
    exact ⟨tableFound, columnFound⟩
  · rintro ⟨tableFound, columnFound⟩
    exact ⟨table, tableFound, column, columnFound, rfl, rfl⟩

/-- Where the lookups of two schemas agree on tables and on columns, so do those of ends. -/
theorem endpoint?_eq_map
    {other : Schema} {move : Table → Table} {moveColumn : Column → Column} {id otherId : TableId}
    {columnId otherColumnId : ColumnId}
    (tables : other.table? otherId = (schema.table? id).map move)
    (columns : ∀ table, (move table).column? otherColumnId =
      (table.column? columnId).map moveColumn) :
    other.endpoint? otherId otherColumnId =
      (schema.endpoint? id columnId).map (Prod.map move moveColumn) := by
  rw [endpoint?, tables, endpoint?]
  cases schema.table? id with
  | none => rfl
  | some table =>
      cases held : table.column? columnId with
      | none => simp [columns, held]
      | some column => simp [columns, held]

theorem endpoint?_isSome_iff
    (distinct : schema.tableIds.Nodup) (id : TableId) (columnId : ColumnId) :
    (schema.endpoint? id columnId).isSome ↔ schema.Holds id columnId := by
  constructor
  · intro resolved
    obtain ⟨⟨table, column⟩, found⟩ := Option.isSome_iff_exists.mp resolved
    obtain ⟨tableFound, columnFound⟩ := endpoint?_eq_some_iff.mp found
    obtain ⟨member, rfl⟩ := mem_of_table? tableFound
    obtain ⟨columnMember, rfl⟩ := mem_of_column? columnFound
    exact ⟨table, member, rfl, column, columnMember, rfl⟩
  · rintro ⟨table, member, rfl, column, columnMember, rfl⟩
    have tableFound := (table?_eq_some_iff distinct).mpr ⟨member, rfl⟩
    have held : (table.column? column.id).isSome := by
      rw [Table.column?, List.find?_isSome]
      exact ⟨column, columnMember, by simp⟩
    obtain ⟨first, columnFound⟩ := Option.isSome_iff_exists.mp held
    rw [endpoint?_eq_some_iff.mpr ⟨tableFound, columnFound⟩]
    rfl

theorem mem_columnIds_of_table? {id : TableId} {table : Table} {columnId : ColumnId}
    (found : schema.table? id = some table)
    (member : columnId ∈ table.columns.map fun column => column.id) :
    columnId ∈ schema.columnIds :=
  List.mem_flatMap.mpr ⟨table, (mem_of_table? found).1, member⟩

section

variable {changed : Schema} {id : TableId} {change : Table → Table}
variable (tables : changed.tables = (schema.changeTable id change).tables)

include tables

theorem mem_tableIds_changeTable
    {tableId : TableId} (member : tableId ∈ changed.tableIds)
    (keepsId : ∀ table, (change table).id = table.id) : tableId ∈ schema.tableIds := by
  have same : (schema.changeTable id change).tables.map (fun table => table.id) =
      schema.tables.map fun table => table.id :=
    map_changeFirst fun table _ => keepsId table
  rwa [tableIds, tables, same] at member

theorem tableIds_changeTable_of_mem
    {tableId : TableId} (member : tableId ∈ schema.tableIds)
    (keepsId : ∀ table, (change table).id = table.id) : tableId ∈ changed.tableIds := by
  have same : (schema.changeTable id change).tables.map (fun table => table.id) =
      schema.tables.map fun table => table.id :=
    map_changeFirst fun table _ => keepsId table
  rwa [tableIds, tables, same]

theorem mem_columnIds_changeTable
    {columnId : ColumnId} (member : columnId ∈ changed.columnIds) :
    columnId ∈ schema.columnIds ∨
      ∃ table, schema.table? id = some table ∧
        columnId ∈ (change table).columns.map fun column => column.id := by
  rw [columnIds, tables] at member
  obtain ⟨table, tableMember, columnMember⟩ := List.mem_flatMap.mp member
  rcases mem_changeFirst tableMember with old | ⟨meant, found, rfl⟩
  · exact .inl (List.mem_flatMap.mpr ⟨table, old, columnMember⟩)
  · exact .inr ⟨meant, found, columnMember⟩

theorem holds_changeTable
    {owner : TableId} {columnId : ColumnId} (holds : schema.Holds owner columnId)
    (keepsId : ∀ table, (change table).id = table.id)
    (keepsColumns : ∀ table, ∀ column ∈ table.columns,
      ∃ kept ∈ (change table).columns, kept.id = column.id) : changed.Holds owner columnId := by
  obtain ⟨table, member, rfl, column, columnMember, rfl⟩ := holds
  rw [Holds, tables]
  rcases mem_changeFirst_of_mem member with kept | ⟨_, change⟩
  · exact ⟨table, kept, rfl, column, columnMember, rfl⟩
  · obtain ⟨kept, keptMember, same⟩ := keepsColumns table column columnMember
    exact ⟨_, change, keepsId table, kept, keptMember, same⟩

end

/-! ## Columns of distinct identities -/

theorem columns_nodup
    (distinct : schema.columnIds.Nodup) {table : Table} (member : table ∈ schema.tables) :
    (table.columns.map fun column => column.id).Nodup :=
  (List.nodup_flatMap.mp distinct).1 table member

/-- A column identity is at one place. -/
theorem place_eq
    (distinct : schema.columnIds.Nodup) {left right : Table} (leftMember : left ∈ schema.tables)
    (rightMember : right ∈ schema.tables) {x y : Column} (xMember : x ∈ left.columns)
    (yMember : y ∈ right.columns) (equality : x.id = y.id) : left = right ∧ x = y := by
  have owner : left = right :=
    eq_of_mem_keys distinct leftMember rightMember (List.mem_map_of_mem xMember)
      (equality ▸ List.mem_map_of_mem yMember)
  subst owner
  exact ⟨rfl, List.inj_on_of_nodup_map (columns_nodup distinct leftMember) xMember yMember
    equality⟩

theorem changeTable_tables
    (distinct : schema.tableIds.Nodup) (id : TableId) (change : Table → Table) :
    (schema.changeTable id change).tables =
      schema.tables.map fun table => if table.id = id then change table else table :=
  changeFirst_key_eq_map distinct id

/-- A change of the columns of one table is a change of the columns of all tables, when it leaves
the columns of the other tables alone. -/
theorem changeTable_columns
    (distinct : schema.tableIds.Nodup) {step uniform : List Column → List Column} {table : Table}
    (member : table ∈ schema.tables) (here : step table.columns = uniform table.columns)
    (elsewhere : ∀ other ∈ schema.tables, other ≠ table →
      uniform other.columns = other.columns) :
    (schema.changeTable table.id fun table => { table with columns := step table.columns }) =
      { schema with
        tables := schema.tables.map fun table =>
          { table with columns := uniform table.columns } } := by
  have same : ∀ other ∈ schema.tables,
      (if other.id = table.id then { other with columns := step other.columns } else other) =
        { other with columns := uniform other.columns } := by
    intro other otherMember
    by_cases identity : other.id = table.id
    · have equality : other = table :=
        List.inj_on_of_nodup_map distinct otherMember member identity
      rw [equality, if_pos rfl, here]
    · have different : other ≠ table := fun equality => identity (equality ▸ rfl)
      rw [if_neg identity, elsewhere other otherMember different]
  have tablesEqual := (changeTable_tables distinct table.id fun table =>
    { table with columns := step table.columns }).trans (List.map_congr_left same)
  exact congrArg (fun tables => { schema with tables }) tablesEqual

section

variable (tables : schema.tableIds.Nodup) (columns : schema.columnIds.Nodup)
variable {table : Table} (member : table ∈ schema.tables)
variable {isMeant : Column → Bool} {column : Column}
variable (found : table.columns.find? isMeant = some column)

include columns member found

theorem id_ne_of_other_table
    {other : Table} (otherMember : other ∈ schema.tables) (different : other ≠ table)
    {x : Column} (xMember : x ∈ other.columns) : x.id ≠ column.id := by
  intro equality
  have columnMember := List.mem_of_find?_eq_some found
  exact different (place_eq columns otherMember member xMember columnMember equality).1

include tables

/-- A change of the first column of a kind in a table is a change of all columns of its
identity. -/
theorem changeTable_changeFirst (change : Column → Column) :
    (schema.changeTable table.id fun table =>
        { table with columns := changeFirst isMeant change table.columns }) =
      schema.mapColumns fun other => if other.id = column.id then change other else other := by
  apply changeTable_columns tables member
  · exact changeFirst_eq_map (columns_nodup columns member) found
  · intro other otherMember different
    have untouched : (other.columns.map fun x => if x.id = column.id then change x else x) =
        other.columns.map id := by
      apply List.map_congr_left
      intro x xMember
      rw [if_neg (id_ne_of_other_table columns member found otherMember different xMember), id_eq]
    rw [untouched, List.map_id]

/-- An erasure of the first column of a kind in a table is an erasure of all columns of its
identity. -/
theorem changeTable_eraseP :
    (schema.changeTable table.id fun table =>
        { table with columns := table.columns.eraseP isMeant }) =
      schema.filterColumns fun other => decide (other.id ≠ column.id) := by
  apply changeTable_columns tables member
  · exact eraseP_eq_filter (columns_nodup columns member) found
  · intro other otherMember different
    rw [List.filter_eq_self]
    intro x xMember
    rw [decide_eq_true_iff]
    exact id_ne_of_other_table columns member found otherMember different xMember

end

end Schema

end SchemaDesign
