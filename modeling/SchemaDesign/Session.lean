import SchemaDesign.Config
import SchemaDesign.Ddl.Alteration
import SchemaDesign.Query
import SchemaDesign.Validation.Fix

/-!
# Design sessions

A session holds a schema, the findings on it, and perhaps a database.  A change of the schema is
sent to the database as SQL, and the schema is validated again.  What the database answers to that
has no influence on the schema.
-/

namespace SchemaDesign

/-- A schema being designed. -/
structure Session where
  workspace : Workspace
  backend : Option Backend
  /-- The dialect of the statements sent to the database. -/
  mirrorDialect : Dialect
  /-- Whether every change is followed by a validation. -/
  autoValidate : Bool
  /-- What the last validation found. -/
  findings : List Finding

/-- A step that may change a session. -/
abbrev SessionM := StateM Session

namespace Session

/-- The schema of a session. -/
def schema (session : Session) : Schema :=
  session.workspace.schema

/-- A session on a workspace, without a database. -/
def ofWorkspace (workspace : Workspace) : Session :=
  { workspace
    backend := none
    mirrorDialect := .postgreSql
    autoValidate := true
    findings := workspace.schema.validate }

/-- A session on a new schema with some settings, given the number of the first identity and the
time. -/
def ofConfig (config : Config) (firstId : Nat) (now : Timestamp) : Session :=
  { ofWorkspace { schema := .new config.schemaName now, nextId := firstId, now } with
    mirrorDialect := config.mirrorDialect
    autoValidate := config.autoValidate }

/-- The database after statements whose answers do not matter. -/
def runAll (backend : Backend) (statements : List String) : Backend :=
  statements.foldl (fun backend statement => (backend.send (.run statement)).2) backend

end Session

namespace SessionM

open Session

/-- Makes a change of the workspace. -/
def edit (step : Edit α) : SessionM α := do
  let session ← get
  let (result, workspace) := step.run session.workspace
  set { session with workspace }
  return result

/-- The schema as it is. -/
def current : SessionM Schema := do
  return (← get).schema

/-- The dialect of the statements sent to the database. -/
def dialect : SessionM Dialect := do
  return (← get).mirrorDialect

/-- Sends statements to the database, if there is one. -/
def mirror (statements : List String) : SessionM Unit :=
  modify fun session =>
    { session with backend := session.backend.map fun backend => runAll backend statements }

/-- Validates the schema. -/
def revalidate : SessionM Unit :=
  modify fun session => { session with findings := session.schema.validate }

/-- Validates the schema if every change is followed by a validation. -/
def afterChange : SessionM Unit := do
  if (← get).autoValidate then revalidate

/-- Chooses whether every change is followed by a validation; choosing it validates at once. -/
def setAutoValidate (enabled : Bool) : SessionM Unit := do
  modify fun session => { session with autoValidate := enabled }
  if enabled then revalidate

/-- Connects a database. -/
def attach (backend : Backend) : SessionM Unit :=
  modify fun session => { session with backend := some backend }

/-- Disconnects the database, and answers with it. -/
def detach : SessionM (Option Backend) := do
  let session ← get
  set { session with backend := none }
  return session.backend

/-- The words that begin statements with rows. -/
def rowKeywords : List String :=
  ["SELECT", "WITH", "SHOW", "EXPLAIN", "PRAGMA", "DESCRIBE", "VALUES"]

/-- Whether a statement has rows. -/
def returnsRows (statement : String) : Bool :=
  match Text.words statement.toList with
  | word :: _ => rowKeywords.any fun keyword => Text.same (String.ofList word) keyword
  | [] => false

/-- Sends a request to the database. -/
def send (request : Request) : SessionM (Except BackendError QueryResult) := do
  let session ← get
  match session.backend with
  | none => return .error .unavailable
  | some backend =>
      let (answer, backend) := backend.send request
      set { session with backend := some backend }
      return answer

/-- Has the database carry out a statement, and answers with its rows if it has any. -/
def forward (statement : String) : SessionM (Except BackendError (Option QueryResult)) := do
  if returnsRows statement then return (← send (.query statement)).map some
  else return (← send (.run statement)).map fun _ => none

/-- The answer of the database to a query. -/
def runQuery (query : VisualQuery) : SessionM QueryOutcome := do
  let session ← get
  match session.backend with
  | none => return { error := some BackendError.unavailable.message }
  | some backend =>
      let (outcome, backend) := query.execute backend
      set { session with backend := some backend }
      return outcome

/-! ## Changes that are carried over

A change is made first; then the statements that it amounts to are sent to the database.  They may
depend on the dialect, on the schema before and after the change and on its answer. -/

/-- Makes a change that always succeeds and carries it over. -/
def carry (change : Edit α) (statements : Dialect → Schema → Schema → α → List String) :
    SessionM α := do
  let before ← current
  let answer ← edit change
  mirror (statements (← dialect) before (← current) answer)
  afterChange
  return answer

/-- Makes a change that may fail and, if it has not, carries it over.  Some changes cannot alter
what validation finds and are not followed by one. -/
def carryChecked (validates : Bool) (change : Edit (Except SchemaError α))
    (statements : Dialect → Schema → Schema → α → List String) :
    SessionM (Except SchemaError α) := do
  let before ← current
  match ← edit change with
  | .error error => return .error error
  | .ok answer =>
      mirror (statements (← dialect) before (← current) answer)
      if validates then afterChange
      return .ok answer

/-! ## Tables -/

/-- The statement that creates a table of a schema. -/
def creation (dialect : Dialect) (schema : Schema) (id : TableId) : List String :=
  ((schema.table? id).map (Ddl.createTable dialect schema)).toList

/-- Adds a table. -/
def addTable (spec : TableSpec) : SessionM TableId :=
  carry (Edit.addTable spec) fun dialect _ after id => creation dialect after id

/-- Removes a table and all that refers to it. -/
def removeTable (id : TableId) : SessionM (Except SchemaError Table) :=
  carryChecked true (Edit.removeTable id) fun dialect _ _ table =>
    [Ddl.dropTable dialect table.name]

/-- The statements that carry an updated table over: its name, and the columns it has lost and
gained. -/
def updateStatements (dialect : Dialect) (before after : Table) : List String :=
  (if before.name = after.name then [] else [Ddl.renameTable dialect before.name after.name]) ++
    ((before.columns.filter fun column => (after.column? column.id).isNone).map fun column =>
      Ddl.dropColumn dialect after.name column.name) ++
    ((after.columns.filter fun column => (before.column? column.id).isNone).map fun column =>
      Ddl.addColumn dialect after.name column.toColumnSpec)

/-- Replaces parts of a table. -/
def updateTable (id : TableId) (patch : TablePatch) : SessionM (Except SchemaError Unit) :=
  carryChecked true (Edit.updateTable id patch) fun dialect before after _ =>
    match before.table? id, after.table? id with
    | some before, some after => updateStatements dialect before after
    | _, _ => []

/-- Gives a table a new name. -/
def renameTable (id : TableId) (name : String) : SessionM (Except SchemaError Unit) :=
  updateTable id { name := some name }

/-- The statements that carry the change of a column over, given the table's name before it and the
column after it, if it still exists. -/
def changeStatements (dialect : Dialect) (tableName : String) (change : ColumnChange)
    (column : Option Column) : List String :=
  match change, column with
  | .drop name, _ => [Ddl.dropColumn dialect tableName name]
  | .modify name _, some column => Ddl.modifyColumn dialect tableName name column.toColumnSpec
  | .add _, some column => [Ddl.addColumn dialect tableName column.toColumnSpec]
  | _, none => []

/-- Changes one column of a table. -/
def alterTable (id : TableId) (change : ColumnChange) : SessionM (Except SchemaError ColumnId) :=
  carryChecked true (Edit.alterTable id change) fun dialect before after columnId =>
    match before.table? id with
    | none => []
    | some table =>
        changeStatements dialect table.name change
          ((after.table? id).bind fun table => table.column? columnId)

/-- Adds a copy of a table. -/
def duplicateTable (id : TableId) : SessionM (Except SchemaError TableId) :=
  carryChecked true (Edit.duplicateTable id) fun dialect _ after copyId =>
    creation dialect after copyId

/-- Adds a row of data to a table, which no rule of validation looks at. -/
def insertRow (id : TableId) (row : Row) : SessionM (Except SchemaError Unit) :=
  carryChecked false (Edit.insertRow id row) fun dialect before _ _ =>
    ((before.table? id).bind fun table => Ddl.insertRow? dialect table row).toList

/-! ## Relationships, indexes and constraints -/

/-- Adds a relationship. -/
def addRelationship (spec : RelationshipSpec) : SessionM RelationshipId :=
  carry (Edit.addRelationship spec) fun dialect _ after _ =>
    (Ddl.foreignKey? dialect after spec).toList

/-- Removes a relationship. -/
def removeRelationship (id : RelationshipId) : SessionM (Except SchemaError Relationship) :=
  carryChecked true (Edit.removeRelationship id) fun dialect _ after removed =>
    ((after.table? removed.sourceTable).bind fun table =>
      Ddl.dropForeignKey? dialect table.name removed.toRelationshipSpec).toList

/-- Adds an index. -/
def addIndex (spec : IndexSpec) : SessionM IndexId :=
  carry (Edit.addIndex spec) fun dialect before _ _ =>
    ((before.table? spec.table).map fun table => Ddl.createIndex dialect table.name spec).toList

/-- Removes an index. -/
def removeIndex (id : IndexId) : SessionM (Except SchemaError Index) :=
  carryChecked true (Edit.removeIndex id) fun dialect _ after removed =>
    ((after.table? removed.table).map fun table =>
      Ddl.dropIndex dialect table.name removed.name).toList

/-- Adds a constraint. -/
def addConstraint (spec : ConstraintSpec) : SessionM ConstraintId :=
  carry (Edit.addConstraint spec) fun dialect _ after _ =>
    (Ddl.addConstraint? dialect after spec).toList

/-- Removes a constraint. -/
def removeConstraint (id : ConstraintId) : SessionM (Except SchemaError Constraint) :=
  carryChecked true (Edit.removeConstraint id) fun dialect _ after removed =>
    ((after.table? removed.table).bind fun table =>
      Ddl.dropConstraint? dialect table.name removed.toConstraintSpec).toList

/-! ## Users and permissions

These are only exported: no rule of validation looks at them, and the database is not told. -/

/-- Adds an account. -/
def addUser (spec : UserSpec) : SessionM UserId :=
  edit (Edit.addUser spec)

/-- Removes an account and its permissions. -/
def removeUser (id : UserId) : SessionM (Except SchemaError User) :=
  edit (Edit.removeUser id)

/-- Adds a permission. -/
def addPermission (spec : PermissionSpec) : SessionM PermissionId :=
  edit (Edit.addPermission spec)

/-- Removes a permission. -/
def removePermission (id : PermissionId) : SessionM (Except SchemaError Permission) :=
  edit (Edit.removePermission id)

/-! ## Automatic fixes -/

/-- The statements that create the indexes that a schema has gained. -/
def gainedIndexes (dialect : Dialect) (before after : Schema) : List String :=
  (after.indexes.filter fun index =>
      !before.indexes.any fun known => known.id == index.id).filterMap fun index =>
    (after.table? index.table).map fun table =>
      Ddl.createIndex dialect table.name index.toIndexSpec

/-- The statements that redefine the columns of a table that have changed. -/
def changedColumns (dialect : Dialect) (before : Schema) (table : Table) : List String :=
  match before.table? table.id with
  | none => []
  | some old =>
      table.columns.flatMap fun column =>
        match old.column? column.id with
        | none => []
        | some known =>
            if known = column then []
            else Ddl.modifyColumn dialect table.name known.name column.toColumnSpec

/-- The statements that carry a fix over. -/
def fixStatements (dialect : Dialect) (before after : Schema) : List String :=
  gainedIndexes dialect before after ++ after.tables.flatMap (changedColumns dialect before)

/-- Applies the fix of a finding, and answers with a description of what has changed. -/
def applyFix (finding : Finding) : SessionM (Except SchemaError String) :=
  carryChecked true (Edit.applyFix finding) fun dialect before after _ =>
    fixStatements dialect before after

end SessionM

end SchemaDesign
