import SchemaDesign.Execution.ForeignKey
import SchemaDesign.Execution.Key
import SchemaDesign.Session
import SchemaDesign.Sql.Parser
import SchemaDesign.Sql.Script

/-!
# Carrying out statements

The statements of a script are carried out on a session one after the other.  One that fails is
reported and does not keep the others from being carried out.  It may have changed the session
before it failed: what is done stays done.
-/

namespace SchemaDesign

open Sql (AlterAction ColumnDef CreateTable DdlError Statement StatementSource TableConstraint)

/-- A step of a statement, which may change the session and fail. -/
abbrev Execution := ExceptT DdlError SessionM

namespace Execution

/-- What a statement has done. -/
structure Effect where
  message : String
  affectedTables : List String := []
  rowsAffected : Option Nat := none
  /-- The parts of the statement that were passed over. -/
  warnings : List String := []
  /-- The rows of a statement that the database has answered. -/
  rows : Option QueryResult := none
deriving DecidableEq, Inhabited

/-- The schema as it is. -/
def current : Execution Schema :=
  ExceptT.lift SessionM.current

/-- A change of the session that cannot fail. -/
def always (step : SessionM α) : Execution α :=
  ExceptT.lift step

/-- A change of the session that may fail. -/
def attempt (step : SessionM (Except SchemaError α)) : Execution α :=
  ExceptT.mk (step >>= fun result => pure (result.mapError .schema))

/-- The definition that a statement gives to a column. -/
def columnOf (column : ColumnDef) : ColumnSpec :=
  { name := column.name
    dataType := column.dataType
    nullable := !(column.primaryKey || column.notNull)
    defaultValue := column.default
    isPrimaryKey := column.primaryKey
    isUnique := column.unique }

/-! ## Constraints -/

/-- Adds the relationships of a foreign key to a table, and answers with warnings. -/
def linkForeignKey (id : TableId) (tableName : String) (key : ForeignKey) :
    Execution (List String) := do
  let schema ← current
  match schema.table? id with
  | none => return []
  | some source =>
      let links := key.links schema tableName source
      links.relationships.forM fun relationship =>
        always (discard (SessionM.addRelationship relationship))
      return links.warnings

/-- Adds the check and the foreign key that the definition of a column brings with it, and answers
with warnings. -/
def addExtras (id : TableId) (tableName : String) (column : ColumnDef) :
    Execution (List String) := do
  if let some expression := column.check then
    let known := ((← current).table? id).bind fun table => table.columnNamed? column.name
    always (discard (SessionM.addConstraint
      { name := "chk_" ++ tableName ++ "_" ++ column.name
        kind := .check
        table := id
        column := known.map fun known => known.id
        expression := some expression }))
  match column.references with
  | none => return []
  | some references =>
      linkForeignKey id tableName { name := none, columns := [column.name], references }

/-- Adds an index to a table. -/
def addIndex (id : TableId) (name : String) (columns : List String) (isUnique : Bool) :
    Execution Unit :=
  always (discard (SessionM.addIndex { name, table := id, columns, isUnique }))

/-- Gives the columns of a table the marks of a key, as changes of the columns that differ by
them. -/
def markColumns (id : TableId) (key : Key) (columns : List Column) : Execution Unit :=
  columns.forM fun column => do
    let marked := key.mark column.toColumnSpec
    if marked ≠ column.toColumnSpec then
      discard (attempt (SessionM.alterTable id (.modify column.name marked)))

/-- Gives a key to a table that exists, and answers with warnings. -/
def addKey (id : TableId) (tableName : String) (listed : Key) : Execution (List String) := do
  match (← current).table? id with
  | none => throw (.schema (.tableNotFound tableName))
  | some table =>
      let columns := table.columns.map fun column => column.toColumnSpec
      let key := listed.restrict columns
      if 2 ≤ key.entries.length then addIndex id (key.indexName tableName) key.entries true
      markColumns id key table.columns
      return listed.unknownWarnings tableName columns ++ key.compositeWarnings tableName

/-- Adds a constraint to a table that exists, and answers with warnings. -/
def addConstraint (id : TableId) (tableName : String) :
    TableConstraint → Execution (List String)
  | .primaryKey columns =>
      addKey id tableName { isPrimary := true, name := none, entries := columns }
  | .unique name columns => do
      if 1 < columns.length then
        let default := "uq_" ++ tableName ++ "_" ++ "_".intercalate columns
        addIndex id (name.getD default) columns true
        return []
      else addKey id tableName { isPrimary := false, name, entries := columns }
  | .index name columns => do
      let default := "idx_" ++ tableName ++ "_" ++ "_".intercalate columns
      addIndex id (name.getD default) columns false
      return []
  | .check name expression => do
      let existing := ((← current).constraintsOf id).length
      let default := "chk_" ++ tableName ++ "_" ++ toString (existing + 1)
      always (discard (SessionM.addConstraint
        { name := name.getD default
          kind := .check
          table := id
          column := none
          expression := some expression }))
      return []
  | .foreignKey name columns references =>
      linkForeignKey id tableName { name, columns, references }

/-! ## Tables -/

/-- Creates a table. -/
def createTable (definition : CreateTable) : Execution Effect := do
  let name := definition.name
  if (← current).hasTable name then
    if definition.ifNotExists then
      return { message := "Table '" ++ name ++ "' already exists, skipped" }
    else throw (.tableExists name)
  let start : TablePlan :=
    { columns := definition.columns.map columnOf, deferred := [], warnings := [] }
  let plan := definition.constraints.foldl (TablePlan.constrain name) start
  let id ← always (SessionM.addTable { name, columns := plan.columns })
  let extras ← definition.columns.mapM (addExtras id name)
  let others ← plan.deferred.mapM (addConstraint id name)
  let count := definition.columns.length
  return {
    message := "Created table '" ++ name ++ "' with " ++ toString count ++ " column" ++
      (if count = 1 then "" else "s")
    affectedTables := [name]
    rowsAffected := some 0
    warnings := plan.warnings ++ extras.flatten ++ others.flatten }

/-- What one change of a statement that alters a table has done. -/
structure ActionEffect where
  change : String
  /-- The name of the table, if the change has given it one. -/
  newName : Option String := none
  warnings : List String := []
deriving DecidableEq, Repr

/-- Makes one change to a table, which the statement calls by a name. -/
def perform (id : TableId) (tableName : String) : AlterAction → Execution ActionEffect
  | .addColumn column => do
      discard (attempt (SessionM.alterTable id (.add (columnOf column))))
      let warnings ← addExtras id tableName column
      return { change := "added column '" ++ column.name ++ "'", warnings }
  | .dropColumn name => do
      discard (attempt (SessionM.alterTable id (.drop name)))
      return { change := "dropped column '" ++ name ++ "'" }
  | .modifyColumn column => do
      discard (attempt (SessionM.alterTable id (.modify column.name (columnOf column))))
      return { change := "modified column '" ++ column.name ++ "'" }
  | .renameColumn old new => do
      match ((← current).table? id).bind fun table => table.columnNamed? old with
      | none => throw (.schema (.columnNotFound tableName old))
      | some column =>
          let renamed := { column.toColumnSpec with name := new }
          discard (attempt (SessionM.alterTable id (.modify old renamed)))
          return { change := "renamed column '" ++ old ++ "' to '" ++ new ++ "'" }
  | .renameTo name => do
      if (← current).hasTable name then throw (.tableExists name)
      attempt (SessionM.renameTable id name)
      return { change := "renamed to '" ++ name ++ "'", newName := some name }
  | .addConstraint constraint => do
      let warnings ← addConstraint id tableName constraint
      return { change := "added constraint", warnings }

/-- Makes changes to a table in order; after a change of the table's name the statement means it by
the new one. -/
def performAll (id : TableId) : String → List AlterAction → Execution (List ActionEffect)
  | _, [] => return []
  | tableName, action :: actions => do
      let effect ← perform id tableName action
      let effects ← performAll id (effect.newName.getD tableName) actions
      return effect :: effects

/-- Makes changes to the table of a name. -/
def alterTable (name : String) (actions : List AlterAction) : Execution Effect := do
  match (← current).tableNamed? name with
  | none => throw (.schema (.tableNotFound name))
  | some table =>
      let effects ← performAll table.id name actions
      return {
        message := "Altered table '" ++ name ++ "': " ++
          ", ".intercalate (effects.map fun effect => effect.change)
        affectedTables := name :: effects.filterMap fun effect => effect.newName
        rowsAffected := some 0
        warnings := effects.flatMap fun effect => effect.warnings }

/-- Drops the table of a name, and tells whether there was one. -/
def dropTable (ifExists : Bool) (name : String) : Execution Bool := do
  match (← current).tableNamed? name with
  | some table =>
      discard (attempt (SessionM.removeTable table.id))
      return true
  | none => if ifExists then return false else throw (.schema (.tableNotFound name))

/-- Drops the tables of some names in order. -/
def dropTables (names : List String) (ifExists : Bool) : Execution Effect := do
  let existed ← names.mapM (dropTable ifExists)
  let outcomes := names.zip existed
  let dropped := (outcomes.filter fun outcome => outcome.2).map fun outcome => outcome.1
  let missing := (outcomes.filter fun outcome => !outcome.2).map fun outcome => outcome.1
  let quoted := dropped.map fun name => "'" ++ name ++ "'"
  return {
    message :=
      if dropped.isEmpty then "No tables dropped"
      else "Dropped table " ++ ", ".intercalate quoted
    affectedTables := dropped
    rowsAffected := some 0
    warnings := missing.map fun name => "Table '" ++ name ++ "' does not exist, skipped" }

/-! ## Statements and scripts -/

/-- Leaves a statement to the database. -/
def forward (text : String) : Execution Effect := do
  match ← always (SessionM.forward text) with
  | .error error => throw (.backend error)
  | .ok none => return { message := "Statement executed by backend" }
  | .ok (some rows) =>
      let count := rows.values.length
      return {
        message := "Query returned " ++ toString count ++ " row(s)"
        rowsAffected := some count
        rows := some rows }

/-- Carries out a statement that a text spells. -/
def apply (text : String) : Statement → Execution Effect
  | .createTable definition => createTable definition
  | .alterTable table actions => alterTable table actions
  | .dropTable tables ifExists => dropTables tables ifExists
  | .passthrough => forward text

/-- Reads a statement and carries it out. -/
def applyText (text : String) : Execution Effect := do
  let statement ← ExceptT.mk (pure (Statement.ofText text))
  apply text statement

end Execution

/-- What has become of a statement of a script. -/
structure StatementReport extends Execution.Effect where
  success : Bool
  /-- The text of the statement. -/
  statement : String
  /-- Where the statement begins. -/
  line : Nat
  column : Nat
deriving DecidableEq, Inhabited

namespace StatementReport

/-- The report on a statement that was carried out, or on one that failed. -/
def of (source : StatementSource) : Except DdlError Execution.Effect → StatementReport
  | .ok effect =>
      { effect with
        success := true
        statement := source.text
        line := source.start.line
        column := source.start.column }
  | .error error =>
      { message := "Line " ++ toString source.start.line ++ ", column " ++
          toString source.start.column ++ ": " ++ error.message
        success := false
        statement := source.text
        line := source.start.line
        column := source.start.column }

/-- The line that shows how a statement has ended and how long it took. -/
def outcomeLine (success : Bool) (message : String) (milliseconds : Number.Binary64) : String :=
  "[" ++ (if success then "OK" else "ERROR") ++ "] " ++ message ++ " (" ++
    milliseconds.twoPlaces ++ " ms)"

/-- The report as a line, given how long the statement took. -/
def text (report : StatementReport) (milliseconds : Number.Binary64) : String :=
  outcomeLine report.success report.message milliseconds

end StatementReport

namespace SessionM

/-- Carries out one statement and reports on it. -/
def executeStatement (source : StatementSource) : SessionM StatementReport := do
  return .of source (← (Execution.applyText source.text).run)

/-- Carries out the statements of a script in order and reports on each. -/
def execute (script : String) : SessionM (List StatementReport) :=
  (Sql.statements script).mapM executeStatement

end SessionM

end SchemaDesign
