import Mathlib.Data.List.Perm.Basic
import SchemaDesign.Ddl.Script
import SchemaDesign.Proofs.Schema.Outlines
import SchemaDesign.Proofs.Schema.Shapes

/-!
# The statements of a creation script

A creation script lists the indexes table by table.  They are the declared indexes, which may as
well be listed one by one, and the implied ones.  What the statements say depends on the shapes of
the tables only.
-/

namespace SchemaDesign

namespace Ddl

/-- The statements that create the tables of a schema, their indexes and their foreign keys. -/
def creations (dialect : Dialect) (schema : Schema) : List String :=
  schema.tables.map (createTable dialect schema) ++
    schema.tables.flatMap (indexStatements dialect schema) ++
      schema.relationships.filterMap fun relationship =>
        foreignKey? dialect schema relationship.toRelationshipSpec

/-- The lines before the statements of a creation script. -/
def header (dialect : Dialect) (schema : Schema) : String :=
  "-- Schema: " ++ schema.name ++ "\n" ++ "-- Dialect: " ++ dialect.displayName ++ "\n" ++
    "-- Generated by SchemaForge\n"

/-- The indexes that a table has without being declared, for its columns that are marked as indexed,
are no primary key, and begin no declared index. -/
def impliedIndexes (schema : Schema) (table : Table) : List IndexSpec :=
  let declared := (schema.indexesOf table.id).map Index.toIndexSpec
  (table.columns.filter fun column =>
    column.isIndexed && !column.isPrimaryKey &&
      !declared.any fun index => leadsWith index column.name).map (impliedIndex table)

/-- The statements that create the indexes that no one has declared. -/
def impliedStatements (dialect : Dialect) (schema : Schema) : List String :=
  schema.tables.flatMap fun table =>
    (impliedIndexes schema table).map (createIndex dialect table.name)

/-- The statement that creates a declared index, if its table exists. -/
def declaredIndex? (dialect : Dialect) (schema : Schema) (index : IndexSpec) : Option String :=
  (schema.table? index.table).map fun table => createIndex dialect table.name index

/-- The statements that create the tables, the declared indexes and the foreign keys of a schema,
one for each of them. -/
def declarations (dialect : Dialect) (schema : Schema) : List String :=
  schema.tables.map (createTable dialect schema) ++
    (schema.indexes.filterMap fun index => declaredIndex? dialect schema index.toIndexSpec) ++
      schema.relationships.filterMap fun relationship =>
        foreignKey? dialect schema relationship.toRelationshipSpec

theorem indexStatements_eq (dialect : Dialect) (schema : Schema) (table : Table) :
    indexStatements dialect schema table =
      ((schema.indexesOf table.id).map fun index =>
          createIndex dialect table.name index.toIndexSpec) ++
        (impliedIndexes schema table).map (createIndex dialect table.name) := by
  rw [indexStatements, tableIndexes, List.map_append, List.map_map]
  rfl

/-! ## Declared indexes one by one -/

/-- What is made of the tables of one identity, where identities differ. -/
theorem flatMap_tables_of_id
    {α : Type} {tables : List Table} (distinct : (tables.map fun table => table.id).Nodup)
    (id : TableId) (make : Table → α) :
    (tables.flatMap fun table => if id = table.id then [make table] else []) =
      ((tables.find? fun table => table.id == id).map make).toList := by
  induction tables with
  | nil => rfl
  | cons table tables ih =>
      obtain ⟨absent, distinct⟩ := List.nodup_cons.mp distinct
      by_cases same : table.id = id
      · have none :
            tables.flatMap (fun other => if id = other.id then [make other] else []) = [] := by
          rw [List.flatMap_eq_nil_iff]
          intro other member
          apply if_neg
          intro again
          exact absent (List.mem_map.mpr ⟨other, member, (same.trans again).symm⟩)
        rw [List.flatMap_cons, if_pos same.symm, none, List.find?_cons_of_pos (by simpa using same)]
        rfl
      · rw [List.flatMap_cons, if_neg (Ne.symm same), List.nil_append, ih distinct,
          List.find?_cons_of_neg (by simpa using same)]

/-- Declared indexes listed table by table are the declared indexes. -/
theorem declaredIndexes_perm
    (dialect : Dialect) {tables : List Table}
    (distinct : (tables.map fun table => table.id).Nodup) (indexes : List Index) :
    (tables.flatMap fun table =>
        (indexes.filter fun index => index.table == table.id).map fun index =>
          createIndex dialect table.name index.toIndexSpec).Perm
      (indexes.filterMap fun index => (tables.find? fun table => table.id == index.table).map
        fun table => createIndex dialect table.name index.toIndexSpec) := by
  induction indexes with
  | nil => simp
  | cons index indexes ih =>
      have split : (tables.flatMap fun table =>
          ((index :: indexes).filter fun index => index.table == table.id).map fun index =>
            createIndex dialect table.name index.toIndexSpec) =
          tables.flatMap fun table =>
            (if index.table = table.id then [createIndex dialect table.name index.toIndexSpec]
              else []) ++
            (indexes.filter fun index => index.table == table.id).map fun index =>
              createIndex dialect table.name index.toIndexSpec := by
        apply congrArg (List.flatMap · tables)
        funext table
        by_cases own : index.table = table.id
        · rw [List.filter_cons_of_pos (by simpa using own), if_pos own]
          rfl
        · rw [List.filter_cons_of_neg (by simpa using own), if_neg own]
          rfl
      have first := flatMap_tables_of_id distinct index.table fun table =>
        createIndex dialect table.name index.toIndexSpec
      -- The first index is listed at one table at most, and moves from there to the front.
      rw [split]
      refine (List.flatMap_append_perm tables _ _).symm.trans ?_
      rw [first]
      refine (ih.append_left _).trans (.of_eq ?_)
      rw [List.filterMap_cons]
      cases tables.find? fun table => table.id == index.table with
      | none => rfl
      | some table => rfl

/-- A creation script creates what is declared, and the implied indexes. -/
theorem declarations_perm
    (dialect : Dialect) {schema : Schema} (distinct : schema.tableIds.Nodup) :
    (declarations dialect schema ++ impliedStatements dialect schema).Perm
      (creations dialect schema) := by
  have indexes : ((schema.indexes.filterMap fun index =>
        declaredIndex? dialect schema index.toIndexSpec) ++ impliedStatements dialect schema).Perm
      (schema.tables.flatMap (indexStatements dialect schema)) := by
    have statements : indexStatements dialect schema = fun table => _ :=
      funext (indexStatements_eq dialect schema)
    rw [statements]
    refine .trans ?_ (List.flatMap_append_perm schema.tables _ _)
    exact (declaredIndexes_perm dialect distinct schema.indexes).symm.append_right _
  rw [declarations, creations, List.append_assoc, List.append_assoc, List.append_assoc]
  apply List.Perm.append_left
  exact (List.perm_append_comm.append_left _).trans
    ((List.append_assoc _ _ _) ▸ indexes.append_right _)

/-! ## What statements depend on -/

section

variable {dialect : Dialect} {schema later : Schema}

/-- Of a schema, the statement that creates a table says the constraints only. -/
theorem createTable_of_constraints (constraints : later.constraints = schema.constraints) :
    createTable dialect later = createTable dialect schema := by
  funext table
  unfold createTable tableLines Schema.constraintsOf
  rw [constraints]

/-- Where nothing is constrained, the statement that creates a table says what its shape is. -/
theorem createTable_of_shape
    {table marked : Table} (unconstrained : schema.constraints = [])
    (unconstrainedLater : later.constraints = []) (shape : marked.shape = table.shape) :
    createTable dialect later marked = createTable dialect schema table := by
  have lines {schema : Schema} (unconstrained : schema.constraints = []) (table : Table) :
      tableLines dialect schema table = table.shape.2.map fun column =>
        columnDefinition dialect column.toColumnSpec false := by
    have own : schema.constraintsOf table.id = [] := by
      rw [Schema.constraintsOf, unconstrained]
      rfl
    rw [tableLines, own, Table.shape, List.map_map]
    exact List.append_nil _
  unfold createTable
  rw [lines unconstrained, lines unconstrainedLater, shape,
    show marked.name = table.name from congrArg Prod.fst shape]

theorem foreignKey?_of_endpoints
    {relationship : RelationshipSpec}
    (ends : later.endpoints? relationship = schema.endpoints? relationship) :
    foreignKey? dialect later relationship = foreignKey? dialect schema relationship := by
  rw [foreignKey?, ends, foreignKey?]

/-- A foreign key says what the ends of its relationship are called. -/
theorem foreignKey?_of_endNames
    (names : ∀ table column, later.endNames? table column = schema.endNames? table column)
    (relationship : RelationshipSpec) :
    foreignKey? dialect later relationship = foreignKey? dialect schema relationship := by
  have ends (table : TableId) (column : ColumnId) :
      later.endpoint? table column = none ∧ schema.endpoint? table column = none ∨
        ∃ found known, later.endpoint? table column = some found ∧
          schema.endpoint? table column = some known ∧ found.1.name = known.1.name ∧
            found.2.name = known.2.name := by
    have same := names table column
    rw [Schema.endNames?, Schema.endNames?] at same
    cases foundLater : later.endpoint? table column with
    | none =>
        rw [foundLater] at same
        exact .inl ⟨rfl, Option.map_eq_none_iff.mp same.symm⟩
    | some found =>
        rw [foundLater, Option.map_some] at same
        obtain ⟨known, foundBefore, called⟩ := Option.map_eq_some_iff.mp same.symm
        exact .inr ⟨found, known, rfl, foundBefore, congrArg Prod.fst called.symm,
          congrArg Prod.snd called.symm⟩
  rw [foreignKey?, foreignKey?, Schema.endpoints?, Schema.endpoints?]
  rcases ends relationship.sourceTable relationship.sourceColumn with
    ⟨noneLater, none⟩ | ⟨found, known, foundLater, foundBefore, sourceTable, sourceColumn⟩
  · rw [noneLater, none]
    rfl
  · rw [foundLater, foundBefore]
    rcases ends relationship.targetTable relationship.targetColumn with
      ⟨noneLater, none⟩ | ⟨target, other, targetLater, targetBefore, targetTable, targetColumn⟩
    · rw [noneLater, none]
      rfl
    · rw [targetLater, targetBefore]
      simp only [Option.bind_eq_bind, Option.bind_some, sourceTable, sourceColumn, targetTable,
        targetColumn]

end

/-- An index is created on a table by the table's name. -/
theorem declaredIndex?_eq_names (dialect : Dialect) (schema : Schema) (index : IndexSpec) :
    declaredIndex? dialect schema index =
      ((schema.tables.map fun table => (table.id, table.name)).find? fun entry =>
        entry.1 == index.table).map fun entry => createIndex dialect entry.2 index := by
  rw [List.find?_map, Option.map_map]
  rfl

/-! ## What a new declaration adds -/

theorem filterMap_append_singleton {α β : Type} (make : α → Option β) (xs : List α) (x : α) :
    (xs ++ [x]).filterMap make = xs.filterMap make ++ (make x).toList := by
  rw [List.filterMap_append, List.filterMap_cons]
  cases make x with
  | none => rfl
  | some y => rfl

theorem label_of_shape
    {table marked : Table} (sameId : marked.id = table.id) (shape : marked.shape = table.shape) :
    Schema.Label marked = Schema.Label table := by
  have columns : marked.columns.map Column.unmarked = table.columns.map Column.unmarked :=
    congrArg Prod.snd shape
  have called := congrArg (List.map fun column : Column => (column.id, column.name)) columns
  rw [List.map_map, List.map_map] at called
  rw [Schema.Label, Schema.Label, sameId,
    show marked.name = table.name from congrArg Prod.fst shape]
  exact congrArg (fun columns => (table.id, table.name, columns)) called

theorem table?_of_appended
    {schema later : Schema} {added : List Table} (tables : later.tables = schema.tables ++ added)
    (id : TableId) (known : (schema.table? id).isSome) : later.table? id = schema.table? id := by
  rw [Schema.table?, tables, List.find?_append]
  exact Option.or_of_isSome known

/-- What exists is found where tables have been added, too. -/
theorem endpoints?_of_found
    {schema later : Schema} {relationship : RelationshipSpec}
    (found : ∀ id, (schema.table? id).isSome → later.table? id = schema.table? id)
    (resolves : (schema.endpoints? relationship).isSome) :
    later.endpoints? relationship = schema.endpoints? relationship := by
  have same {table : TableId} {column : ColumnId} {ending : Table × Column}
      (known : schema.endpoint? table column = some ending) :
      later.endpoint? table column = some ending := by
    have there := (Schema.endpoint?_eq_some_iff.mp known).1
    rw [Schema.endpoint?, found table (Option.isSome_iff_exists.mpr ⟨_, there⟩)]
    exact known
  obtain ⟨⟨source, target⟩, ends⟩ := Option.isSome_iff_exists.mp resolves
  obtain ⟨sourceFound, targetFound⟩ := Schema.endpoints?_eq_some_iff.mp ends
  rw [ends]
  exact Schema.endpoints?_eq_some_iff.mpr ⟨same sourceFound, same targetFound⟩

section

variable {schema later : Schema} (dialect : Dialect)

theorem declarations_perm_of_added
    {added : List String} (tables indexes keys : List String)
    (parts : added = tables ++ indexes ++ keys)
    (addedTables : later.tables.map (createTable dialect later) =
      schema.tables.map (createTable dialect schema) ++ tables)
    (addedIndexes : (later.indexes.filterMap fun index =>
        declaredIndex? dialect later index.toIndexSpec) =
      (schema.indexes.filterMap fun index =>
        declaredIndex? dialect schema index.toIndexSpec) ++ indexes)
    (addedKeys : (later.relationships.filterMap fun relationship =>
        foreignKey? dialect later relationship.toRelationshipSpec) =
      (schema.relationships.filterMap fun relationship =>
        foreignKey? dialect schema relationship.toRelationshipSpec) ++ keys) :
    (declarations dialect later).Perm (declarations dialect schema ++ added) := by
  rw [parts, declarations, addedTables, addedIndexes, addedKeys, declarations, List.perm_iff_count]
  intro statement
  simp only [List.count_append]
  omega

/-- A new table leaves the statements for the others, for their indexes and for their relationships
as they are. -/
theorem declarations_addTable
    {table : Table} (carried : ∀ index ∈ schema.indexes, (schema.table? index.table).isSome)
    (resolves : schema.Resolves) (tables : later.tables = schema.tables ++ [table])
    (indexes : later.indexes = schema.indexes)
    (relationships : later.relationships = schema.relationships)
    (constraints : later.constraints = schema.constraints) :
    (declarations dialect later).Perm
      (declarations dialect schema ++ [createTable dialect later table]) := by
  have found := table?_of_appended tables
  have same : createTable dialect later = createTable dialect schema :=
    createTable_of_constraints constraints
  apply declarations_perm_of_added dialect [createTable dialect later table] [] [] rfl
  · rw [tables, List.map_append, same]
    rfl
  · rw [indexes, List.append_nil]
    apply List.filterMap_congr
    intro index member
    rw [declaredIndex?, found _ (carried index member), declaredIndex?]
  · rw [relationships, List.append_nil]
    apply List.filterMap_congr
    intro relationship member
    exact foreignKey?_of_endpoints (endpoints?_of_found found (resolves relationship member))

theorem declarations_addIndex
    {index : Index} (tables : later.tables = schema.tables)
    (indexes : later.indexes = schema.indexes ++ [index])
    (relationships : later.relationships = schema.relationships)
    (constraints : later.constraints = schema.constraints) :
    (declarations dialect later).Perm
      (declarations dialect schema ++
        (declaredIndex? dialect schema index.toIndexSpec).toList) := by
  have found (id : TableId) : later.table? id = schema.table? id := by
    rw [Schema.table?, tables, Schema.table?]
  have same : createTable dialect later = createTable dialect schema :=
    createTable_of_constraints constraints
  have declared (spec : IndexSpec) :
      declaredIndex? dialect later spec = declaredIndex? dialect schema spec := by
    rw [declaredIndex?, found, declaredIndex?]
  apply declarations_perm_of_added dialect [] _ [] (List.append_nil _).symm
  · rw [tables, same, List.append_nil]
  · simp only [indexes, declared]
    exact filterMap_append_singleton _ _ _
  · rw [relationships, List.append_nil]
    apply List.filterMap_congr
    intro relationship _
    apply foreignKey?_of_endNames
    intro table column
    rw [Schema.endNames?, Schema.endpoint?, found]
    rfl

/-- A new relationship shows in the statement that adds its foreign key only. -/
theorem declarations_addRelationship
    {id : TableId} {change : Table → Table} {relationship : Relationship}
    (keepsId : ∀ table, (change table).id = table.id)
    (keepsShape : ∀ table, (change table).shape = table.shape)
    (unconstrained : schema.constraints = []) (unconstrainedLater : later.constraints = [])
    (tables : later.tables = (schema.changeTable id change).tables)
    (indexes : later.indexes = schema.indexes)
    (relationships : later.relationships = schema.relationships ++ [relationship]) :
    (declarations dialect later).Perm
      (declarations dialect schema ++
        (foreignKey? dialect later relationship.toRelationshipSpec).toList) := by
  have names : (later.tables.map fun table => (table.id, table.name)) =
      schema.tables.map fun table => (table.id, table.name) := by
    rw [tables]
    apply map_changeFirst
    intro table _
    rw [keepsId, show (change table).name = table.name from congrArg Prod.fst (keepsShape table)]
  have labels : later.labels = schema.labels := by
    rw [Schema.labels, tables]
    apply map_changeFirst
    intro table _
    exact label_of_shape (keepsId table) (keepsShape table)
  have endNames (table : TableId) (column : ColumnId) :
      later.endNames? table column = schema.endNames? table column := by
    rw [Schema.endNames?_eq_labels, labels, ← Schema.endNames?_eq_labels]
  apply declarations_perm_of_added dialect [] [] _ (List.nil_append _).symm
  · have created : createTable dialect later = createTable dialect schema :=
      funext fun table => createTable_of_shape unconstrained unconstrainedLater rfl
    rw [created, tables, List.append_nil]
    apply map_changeFirst
    intro table _
    exact createTable_of_shape unconstrained unconstrained (keepsShape table)
  · rw [indexes, List.append_nil]
    apply List.filterMap_congr
    intro index _
    rw [declaredIndex?_eq_names, names, ← declaredIndex?_eq_names]
  · rw [relationships, filterMap_append_singleton]
    congr 1
    apply List.filterMap_congr
    intro relationship _
    exact foreignKey?_of_endNames endNames _

end

end Ddl

end SchemaDesign
