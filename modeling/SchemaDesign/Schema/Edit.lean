import SchemaDesign.Schema.Basic

/-!
# Changing a schema

A workspace holds a schema, the number of the next identity to be given and the current time.
Every change that succeeds stamps the schema with the time; one that fails leaves it as it was.
Changes demand no more than that what they change exists.
-/

namespace SchemaDesign

/-- A schema under change, the number of the next new identity and the current time. -/
structure Workspace where
  schema : Schema
  nextId : Nat
  now : Timestamp
deriving DecidableEq, Inhabited

/-- A step that may change a workspace. -/
abbrev Edit := StateM Workspace

/-- The list with its first element of a kind changed. -/
def changeFirst (isMeant : α → Bool) (change : α → α) : List α → List α
  | [] => []
  | x :: xs => if isMeant x then change x :: xs else x :: changeFirst isMeant change xs

namespace Schema

/-- The schema with the first table of an identity changed. -/
def changeTable (schema : Schema) (id : TableId) (change : Table → Table) : Schema :=
  { schema with tables := changeFirst (fun table => table.id == id) change schema.tables }

/-- The schema in which exactly the source columns of relationships are marked as foreign keys. -/
def markForeignKeys (schema : Schema) : Schema :=
  let isSource (column : Column) : Bool :=
    schema.relationships.any fun relationship => relationship.sourceColumn == column.id
  { schema with
    tables := schema.tables.map fun table =>
      { table with
        columns := table.columns.map fun column =>
          { column with isForeignKey := isSource column } } }

/-- The schema without the first table of an identity and without all that refers to it. -/
def withoutTable (schema : Schema) (id : TableId) : Schema :=
  markForeignKeys
    { schema with
      tables := schema.tables.eraseP fun table => table.id == id
      relationships := schema.relationships.filter fun relationship => !relationship.touches id
      indexes := schema.indexes.filter fun index => index.table != id
      constraints := schema.constraints.filter fun constraint => constraint.table != id
      permissions := schema.permissions.filter fun permission => permission.table != some id }

/-- The schema after a column of a table is gone, without all that refers to the column.  Indexes
of the table lose their entries of the column's name, and indexes without entries vanish. -/
def withoutReferencesTo (schema : Schema) (id : TableId) (column : Column) : Schema :=
  let narrowed := schema.indexes.map fun index =>
    if index.table == id then
      { index with columns := index.columns.filter fun name => !Text.same name column.name }
    else index
  markForeignKeys
    { schema with
      relationships := schema.relationships.filter fun relationship =>
        relationship.sourceColumn != column.id && relationship.targetColumn != column.id
      constraints := schema.constraints.filter fun constraint =>
        constraint.column != some column.id
      indexes := narrowed.filter fun index => !index.columns.isEmpty }

/-- The schema in which the indexes of a table have a new name for a column. -/
def renameIndexed (schema : Schema) (id : TableId) (old new : String) : Schema :=
  { schema with
    indexes := schema.indexes.map fun index =>
      if index.table == id then
        { index with
          columns := index.columns.map fun name => if Text.same name old then new else name }
      else index }

end Schema

namespace Edit

/-- The schema as it is. -/
def current : Edit Schema := do
  return (← get).schema

/-- A new identity. -/
def fresh : Edit (Id kind) := do
  let workspace ← get
  set { workspace with nextId := workspace.nextId + 1 }
  return { number := workspace.nextId }

/-- Changes the schema and stamps it with the time. -/
def change (f : Schema → Schema) : Edit Unit :=
  modify fun workspace =>
    { workspace with schema := { f workspace.schema with updatedAt := workspace.now } }

/-- The columns of some definitions, each with a new identity. -/
def freshColumns : List ColumnSpec → Edit (List Column)
  | [] => return []
  | spec :: specs => do
      let id ← fresh
      let columns ← freshColumns specs
      return { spec with id } :: columns

/-! ## Tables -/

/-- Adds a table, which gives new identities to it and its columns. -/
def addTable (spec : TableSpec) : Edit TableId := do
  let columns ← freshColumns spec.columns
  let id ← fresh
  change fun schema =>
    { schema with
      tables := schema.tables ++
        [{ id
           name := spec.name
           columns
           position := spec.position.getD schema.nextPosition
           rowCount := 0
           rows := [] }] }
  return id

/-- Removes a table and all that refers to it. -/
def removeTable (id : TableId) : Edit (Except SchemaError Table) := do
  match (← current).table? id with
  | none => return .error (.tableNotFound id.text)
  | some table =>
      change fun schema => schema.withoutTable id
      return .ok table

/-- Replaces parts of a table. -/
def updateTable (id : TableId) (patch : TablePatch) : Edit (Except SchemaError Unit) := do
  match (← current).table? id with
  | none => return .error (.tableNotFound id.text)
  | some _ =>
      change fun schema => schema.changeTable id fun table =>
        { table with
          name := patch.name.getD table.name
          columns := patch.columns.getD table.columns
          position := patch.position.getD table.position }
      return .ok ()

/-- Gives a table a new name. -/
def renameTable (id : TableId) (name : String) : Edit (Except SchemaError Unit) :=
  updateTable id { name := some name }

/-- Adds a column at the end of a table. -/
def addColumn (id : TableId) (spec : ColumnSpec) : Edit (Except SchemaError ColumnId) := do
  match (← current).table? id with
  | none => return .error (.tableNotFound id.text)
  | some _ =>
      let columnId ← fresh
      change fun schema => schema.changeTable id fun table =>
        { table with columns := table.columns ++ [{ spec with id := columnId }] }
      return .ok columnId

/-- Removes the first column of a name and all that refers to it. -/
def dropColumn (id : TableId) (name : String) : Edit (Except SchemaError ColumnId) := do
  match (← current).table? id with
  | none => return .error (.tableNotFound id.text)
  | some table =>
      match table.columnNamed? name with
      | none => return .error (.columnNotFound table.name name)
      | some dropped =>
          change fun schema =>
            let schema := schema.changeTable id fun table =>
              { table with
                columns := table.columns.eraseP fun column => Text.same column.name name }
            schema.withoutReferencesTo id dropped
          return .ok dropped.id

/-- Gives the first column of a name a new definition.  It keeps its identity and whether it is a
foreign key; if its name changes by more than letter case, the table's indexes follow. -/
def modifyColumn (id : TableId) (name : String) (spec : ColumnSpec) :
    Edit (Except SchemaError ColumnId) := do
  match (← current).table? id with
  | none => return .error (.tableNotFound id.text)
  | some table =>
      match table.columnNamed? name with
      | none => return .error (.columnNotFound table.name name)
      | some existing =>
          change fun schema =>
            let schema := schema.changeTable id fun table =>
              { table with
                columns := changeFirst (fun column => Text.same column.name name)
                  (fun _ => { spec with id := existing.id, isForeignKey := existing.isForeignKey })
                  table.columns }
            if Text.same existing.name spec.name then schema
            else schema.renameIndexed id name spec.name
          return .ok existing.id

/-- Changes one column of a table, and answers with its identity. -/
def alterTable (id : TableId) : ColumnChange → Edit (Except SchemaError ColumnId)
  | .add column => addColumn id column
  | .drop name => dropColumn id name
  | .modify name column => modifyColumn id name column

/-- Changes the definition of the first column of a name in place, without stamping the schema. -/
def editColumn (id : TableId) (name : String) (edit : ColumnSpec → ColumnSpec) :
    Edit (Option ColumnId) := do
  match ((← current).table? id).bind fun table => table.columnNamed? name with
  | none => return none
  | some edited =>
      modify fun workspace =>
        { workspace with
          schema := workspace.schema.changeTable id fun table =>
            { table with
              columns := changeFirst (fun column => Text.same column.name name)
                (fun column => { column with toColumnSpec := edit column.toColumnSpec })
                table.columns } }
      return some edited.id

/-- Adds a copy of a table with new identities, moved a little; rows and relationships are not
copied. -/
def duplicateTable (id : TableId) : Edit (Except SchemaError TableId) := do
  match (← current).table? id with
  | none => return .error (.tableNotFound id.text)
  | some source =>
      let copyId ← fresh
      let columns ← freshColumns
        (source.columns.map fun column => { column.toColumnSpec with isForeignKey := false })
      change fun schema =>
        { schema with
          tables := schema.tables ++
            [{ id := copyId
               name := source.name ++ "_copy"
               columns
               position :=
                 { x := source.position.x.add (.ofNat 50)
                   y := source.position.y.add (.ofNat 50) }
               rowCount := 0
               rows := [] }] }
      return .ok copyId

/-- Adds a row of data to a table. -/
def insertRow (id : TableId) (row : Row) : Edit (Except SchemaError Unit) := do
  match (← current).table? id with
  | none => return .error (.tableNotFound id.text)
  | some _ =>
      change fun schema => schema.changeTable id fun table =>
        { table with
          rows := table.rows ++ [row]
          rowCount := (table.rows ++ [row]).length }
      return .ok ()

/-! ## Relationships, indexes and constraints -/

/-- Adds a relationship and marks its source column, if there is one, as a foreign key. -/
def addRelationship (spec : RelationshipSpec) : Edit RelationshipId := do
  let id ← fresh
  change fun schema =>
    let schema := schema.changeTable spec.sourceTable fun table =>
      { table with
        columns := changeFirst (fun column => column.id == spec.sourceColumn)
          (fun column => { column with isForeignKey := true }) table.columns }
    { schema with relationships := schema.relationships ++ [{ spec with id }] }
  return id

/-- Removes a relationship. -/
def removeRelationship (id : RelationshipId) : Edit (Except SchemaError Relationship) := do
  match (← current).relationships.find? fun relationship => relationship.id == id with
  | none => return .error (.relationshipNotFound id)
  | some removed =>
      change fun schema => Schema.markForeignKeys
        { schema with
          relationships := schema.relationships.eraseP fun relationship => relationship.id == id }
      return .ok removed

/-- Adds an index. -/
def addIndex (spec : IndexSpec) : Edit IndexId := do
  let id ← fresh
  change fun schema => { schema with indexes := schema.indexes ++ [{ spec with id }] }
  return id

/-- Removes an index. -/
def removeIndex (id : IndexId) : Edit (Except SchemaError Index) := do
  match (← current).indexes.find? fun index => index.id == id with
  | none => return .error (.indexNotFound id)
  | some removed =>
      change fun schema =>
        { schema with indexes := schema.indexes.eraseP fun index => index.id == id }
      return .ok removed

/-- Adds a constraint. -/
def addConstraint (spec : ConstraintSpec) : Edit ConstraintId := do
  let id ← fresh
  change fun schema => { schema with constraints := schema.constraints ++ [{ spec with id }] }
  return id

/-- Removes a constraint. -/
def removeConstraint (id : ConstraintId) : Edit (Except SchemaError Constraint) := do
  match (← current).constraints.find? fun constraint => constraint.id == id with
  | none => return .error (.constraintNotFound id)
  | some removed =>
      change fun schema =>
        { schema with
          constraints := schema.constraints.eraseP fun constraint => constraint.id == id }
      return .ok removed

/-! ## Users and permissions -/

/-- Adds an account. -/
def addUser (spec : UserSpec) : Edit UserId := do
  let id ← fresh
  change fun schema => { schema with users := schema.users ++ [{ spec with id }] }
  return id

/-- Removes an account and its permissions. -/
def removeUser (id : UserId) : Edit (Except SchemaError User) := do
  match (← current).user? id with
  | none => return .error (.userNotFound id)
  | some removed =>
      change fun schema =>
        { schema with
          users := schema.users.eraseP fun user => user.id == id
          permissions := schema.permissions.filter fun permission => permission.user != id }
      return .ok removed

/-- Adds a permission. -/
def addPermission (spec : PermissionSpec) : Edit PermissionId := do
  let id ← fresh
  change fun schema => { schema with permissions := schema.permissions ++ [{ spec with id }] }
  return id

/-- Removes a permission. -/
def removePermission (id : PermissionId) : Edit (Except SchemaError Permission) := do
  match (← current).permissions.find? fun permission => permission.id == id with
  | none => return .error (.permissionNotFound id)
  | some removed =>
      change fun schema =>
        { schema with
          permissions := schema.permissions.eraseP fun permission => permission.id == id }
      return .ok removed

end Edit

end SchemaDesign
