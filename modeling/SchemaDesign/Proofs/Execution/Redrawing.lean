import SchemaDesign.Proofs.Execution.Leads
import SchemaDesign.Proofs.Schema.Redrawing
import SchemaDesign.Proofs.Session.Steps

/-!
# Statements under other identities

Where there is no database, a statement fails in a session exactly if it fails in one under other
identities, and it leaves them such sessions.
-/

namespace SchemaDesign

open Sql (AlterAction CreateTable DdlError Statement StatementSource TableConstraint)

variable {relabel : Relabeling}

/-- A session is another one under other identities, and neither has a database.  Their settings and
findings may differ. -/
structure Session.Redraws (relabel : Relabeling) (left right : Session) : Prop where
  workspace : left.workspace.Redraws relabel right.workspace
  alone : left.backend = none
  otherAlone : right.backend = none

theorem Session.Redraws.finished
    {left right : Session} (redraws : left.Redraws relabel right) {after other : Workspace}
    (later : after.Redraws relabel other) (validates : Bool) (statements others : List String) :
    (left.finished validates after statements).Redraws relabel
      (right.finished validates other others) := by
  constructor
  · rw [finished_workspace, finished_workspace]
    exact later
  · rw [finished_backend, redraws.alone]
    rfl
  · rw [finished_backend, redraws.otherAlone]
    rfl

namespace SessionM

/-- Two steps answer alike and do the same to sessions under other identities. -/
def Redraws {α β : Type} (relabel : Relabeling) (answers : α → β → Prop)
    (left : SessionM α) (right : SessionM β) : Prop :=
  ∀ before other : Session, before.Redraws relabel other →
    answers (left.run before).1 (right.run other).1 ∧
      (left.run before).2.Redraws relabel (right.run other).2

section

variable {α β : Type}

theorem redraws_carry
    {answers : α → β → Prop} {left : Edit α} {right : Edit β}
    {statements : Dialect → Schema → Schema → α → List String}
    {others : Dialect → Schema → Schema → β → List String}
    (redraws : Edit.Redraws relabel answers left right) :
    Redraws relabel answers (carry left statements) (carry right others) := by
  intro before other start
  obtain ⟨same, later⟩ := redraws _ _ start.workspace
  rw [run_carry, run_carry]
  exact ⟨same, start.finished later true _ _⟩

theorem redraws_carryChecked
    {answers : α → β → Prop} {left : Edit (Except SchemaError α)}
    {right : Edit (Except SchemaError β)}
    {statements : Dialect → Schema → Schema → α → List String}
    {others : Dialect → Schema → Schema → β → List String} (validates : Bool)
    (redraws : Edit.Redraws relabel (Accord answers) left right) :
    Redraws relabel (Accord answers)
      (carryChecked validates left statements) (carryChecked validates right others) := by
  intro before other start
  obtain ⟨same, later⟩ := redraws _ _ start.workspace
  rw [run_carryChecked, run_carryChecked]
  cases ran : left.run before.workspace with
  | mk result after =>
      cases otherRan : right.run other.workspace with
      | mk otherResult otherAfter =>
          rw [ran, otherRan] at same later
          cases same with
          | ok same => exact ⟨.ok same, start.finished later validates _ _⟩
          | error => exact ⟨.error, later, start.alone, start.otherAlone⟩

end

end SessionM

/-! ## Foreign keys -/

namespace Execution

theorem ForeignKey.pairLinks_relabeled
    (key : ForeignKey) (tableName : String) (source target : Table)
    (pairs : List (String × Column)) :
    key.pairLinks tableName (source.relabeled relabel) (target.relabeled relabel)
        (pairs.map fun pair => (pair.1, pair.2.relabeled relabel)) =
      { relationships := (key.pairLinks tableName source target pairs).relationships.map
          (RelationshipSpec.relabeled relabel)
        warnings := (key.pairLinks tableName source target pairs).warnings } := by
  induction pairs with
  | nil => rfl
  | cons pair pairs ih =>
      rw [List.map_cons, pairLinks, pairLinks, ih, Table.columnNamed?_relabeled]
      cases source.columnNamed? pair.1 with
      | none => rfl
      | some column => rfl

theorem ForeignKey.targetColumns_relabeled (references : Sql.ForeignRef) (target : Table) :
    targetColumns references (target.relabeled relabel) =
      ((targetColumns references target).1.map (Column.relabeled relabel),
        (targetColumns references target).2) := by
  rw [targetColumns, targetColumns]
  split
  · rw [Table.primaryKey?_relabeled]
    cases target.primaryKey? with
    | none => rfl
    | some column => rfl
  · simp only [Table.name_relabeled, Table.columnNamed?_relabeled, Option.isNone_map,
      List.map_filterMap]

theorem ForeignKey.links_relabeled
    {left right : Schema} (redraws : left.Redraws relabel right) (key : ForeignKey)
    (tableName : String) (source : Table) :
    key.links right tableName (source.relabeled relabel) =
      { relationships := (key.links left tableName source).relationships.map
          (RelationshipSpec.relabeled relabel)
        warnings := (key.links left tableName source).warnings } := by
  rw [links, links, redraws.tableNamed?_eq]
  cases left.tableNamed? key.references.table with
  | none => rfl
  | some target =>
      simp only [Option.map_some, targetColumns_relabeled, List.zip_map_right, List.length_map]
      rw [show Prod.map id (Column.relabeled relabel) =
        fun pair : String × Column => (pair.1, pair.2.relabeled relabel) from rfl,
        pairLinks_relabeled]

/-! ## Steps of statements -/

/-- Two steps both fail, or both answer alike, and they do the same to sessions under other
identities. -/
def Redraws {α β : Type} (relabel : Relabeling) (answers : α → β → Prop)
    (left : Execution α) (right : Execution β) : Prop :=
  SessionM.Redraws relabel (Accord answers) left.run right.run

section

variable {α β α' β' : Type} {answers : α → β → Prop} {results : α' → β' → Prop}

theorem Redraws.pure {answer : α} {other : β} (same : answers answer other) :
    Redraws relabel answers (Pure.pure answer) (Pure.pure other) :=
  fun _ _ redraws => ⟨.ok same, redraws⟩

theorem Redraws.throw {error other : DdlError} :
    Redraws relabel answers (MonadExcept.throw error) (MonadExcept.throw other) :=
  fun _ _ redraws => ⟨.error, redraws⟩

theorem Redraws.throw_bind
    {next : α → Execution α'} {other : β → Execution β'} {error otherError : DdlError} :
    Redraws relabel results (MonadExcept.throw error >>= next)
      (MonadExcept.throw otherError >>= other) :=
  fun _ _ redraws => ⟨.error, redraws⟩

theorem Redraws.bind
    {left : Execution α} {right : Execution β} {next : α → Execution α'}
    {other : β → Execution β'} (first : Redraws relabel answers left right)
    (rest : ∀ a b, answers a b → Redraws relabel results (next a) (other b)) :
    Redraws relabel results (left >>= next) (right >>= other) := by
  intro before begun redraws
  obtain ⟨same, later⟩ := first before begun redraws
  rw [run_bind, run_bind]
  cases ran : left.run.run before with
  | mk result after =>
      cases otherRan : right.run.run begun with
      | mk otherResult otherAfter =>
          rw [ran, otherRan] at same later
          cases same with
          | ok same => exact rest _ _ same _ _ later
          | error => exact ⟨.error, later⟩

/-- Steps whose answers are equal still are such if the answers are rewritten. -/
theorem Redraws.map
    {left right : Execution α} {answer : α → α'} (redraws : Redraws relabel Eq left right) :
    Redraws relabel Eq (do return answer (← left)) (do return answer (← right)) :=
  .bind redraws fun _ _ same => .pure (congrArg answer same)

theorem Redraws.always
    {left : SessionM α} {right : SessionM β} (redraws : left.Redraws relabel answers right) :
    Redraws relabel answers (Execution.always left) (Execution.always right) :=
  fun _ _ start => ⟨.ok (redraws _ _ start).1, (redraws _ _ start).2⟩

theorem Redraws.always_discard
    {left : SessionM α} {right : SessionM β} (redraws : left.Redraws relabel answers right) :
    Redraws relabel Eq (Execution.always (Functor.discard left))
      (Execution.always (Functor.discard right)) :=
  fun _ _ start => ⟨.ok rfl, (redraws _ _ start).2⟩

theorem Redraws.discard
    {left : Execution α} {right : Execution β} (redraws : Redraws relabel answers left right) :
    Redraws relabel Eq (Functor.discard left) (Functor.discard right) := by
  rw [discard_eq_bind, discard_eq_bind]
  exact .bind redraws fun _ _ _ => .pure rfl

theorem Redraws.attempt
    {left : SessionM (Except SchemaError α)} {right : SessionM (Except SchemaError β)}
    (redraws : SessionM.Redraws relabel (Accord answers) left right) :
    Redraws relabel answers (Execution.attempt left) (Execution.attempt right) := by
  intro before begun start
  obtain ⟨same, later⟩ := redraws before begun start
  rw [run_attempt, run_attempt]
  cases ran : left.run before with
  | mk result after =>
      cases otherRan : right.run begun with
      | mk otherResult otherAfter =>
          rw [ran, otherRan] at same later
          cases same with
          | ok same => exact ⟨.ok same, later⟩
          | error => exact ⟨.error, later⟩

theorem Redraws.current : Redraws relabel (Schema.Redraws relabel) current current :=
  fun _ _ redraws => ⟨.ok redraws.workspace.schema, redraws⟩

theorem Redraws.forM
    {each : α → Execution PUnit} {other : β → Execution PUnit} {move : α → β} (xs : List α)
    (redraws : ∀ x, Redraws relabel Eq (each x) (other (move x))) :
    Redraws relabel Eq (xs.forM each) ((xs.map move).forM other) := by
  induction xs with
  | nil => exact .pure rfl
  | cons x xs ih => exact .bind (redraws x) fun _ _ _ => ih

theorem Redraws.mapM
    {each other : α → Execution β} (xs : List α)
    (redraws : ∀ x, Redraws relabel Eq (each x) (other x)) :
    Redraws relabel Eq (xs.mapM each) (xs.mapM other) := by
  induction xs with
  | nil =>
      rw [List.mapM_nil, List.mapM_nil]
      exact .pure rfl
  | cons x xs ih =>
      rw [List.mapM_cons, List.mapM_cons]
      apply Redraws.bind (redraws x)
      rintro answer _ rfl
      exact .map ih

end

/-! ## Columns and constraints -/

section

theorem redraws_addRelationship (spec : RelationshipSpec) :
    Redraws relabel Eq (always (discard (SessionM.addRelationship spec)))
      (always (discard (SessionM.addRelationship (spec.relabeled relabel)))) :=
  .always_discard (SessionM.redraws_carry (Edit.redraws_addRelationship spec))

theorem redraws_addCheck (spec : ConstraintSpec) :
    Redraws relabel Eq (always (discard (SessionM.addConstraint spec)))
      (always (discard (SessionM.addConstraint (spec.relabeled relabel)))) :=
  .always_discard (SessionM.redraws_carry (Edit.redraws_addConstraint spec))

variable (id : TableId)

theorem redraws_addIndex (name : String) (columns : List String) (isUnique : Bool) :
    Redraws relabel Eq (addIndex id name columns isUnique)
      (addIndex (relabel.apply .table id) name columns isUnique) :=
  .always_discard (SessionM.redraws_carry
    (Edit.redraws_addIndex { name, table := id, columns, isUnique }))

theorem redraws_alterTable (change : ColumnChange) :
    Redraws relabel Eq (discard (attempt (SessionM.alterTable id change)))
      (discard (attempt (SessionM.alterTable (relabel.apply .table id) change))) :=
  .discard (.attempt (SessionM.redraws_carryChecked true (Edit.redraws_alterTable id change)))

theorem redraws_renameTable (name : String) :
    Redraws relabel (fun _ _ => True) (attempt (SessionM.renameTable id name))
      (attempt (SessionM.renameTable (relabel.apply .table id) name)) :=
  .attempt (SessionM.redraws_carryChecked true (Edit.redraws_renameTable id name))

theorem redraws_removeTable :
    Redraws relabel Eq (discard (attempt (SessionM.removeTable id)))
      (discard (attempt (SessionM.removeTable (relabel.apply .table id)))) :=
  .discard (.attempt (SessionM.redraws_carryChecked true (Edit.redraws_removeTable id)))

variable (tableName : String)

theorem redraws_linkForeignKey (key : ForeignKey) :
    Redraws relabel Eq (linkForeignKey id tableName key)
      (linkForeignKey (relabel.apply .table id) tableName key) := by
  apply Redraws.bind .current
  intro left right redraws
  rw [redraws.table?_eq]
  cases left.table? id with
  | none => exact .pure rfl
  | some source =>
      simp only [Option.map_some, key.links_relabeled redraws tableName source]
      exact .map (.forM _ redraws_addRelationship)

theorem redraws_addExtras (column : Sql.ColumnDef) :
    Redraws relabel Eq (addExtras id tableName column)
      (addExtras (relabel.apply .table id) tableName column) := by
  have links : Redraws relabel Eq (addExtras id tableName { column with check := none })
      (addExtras (relabel.apply .table id) tableName { column with check := none }) := by
    rw [addExtras, addExtras]
    cases column.references with
    | none => exact .pure rfl
    | some references => exact redraws_linkForeignKey id tableName _
  rw [addExtras, addExtras]
  cases column.check with
  | none => exact links
  | some expression =>
      apply Redraws.bind .current
      intro left right redraws
      rw [redraws.columnNamed?_eq]
      refine Redraws.bind (?_ : Redraws relabel Eq _ _) fun _ _ _ => links
      cases (left.table? id).bind fun table => table.columnNamed? column.name with
      | none => exact redraws_addCheck _
      | some known => exact redraws_addCheck _

theorem redraws_markColumns (key : Key) (columns : List Column) :
    Redraws relabel Eq (markColumns id key columns)
      (markColumns (relabel.apply .table id) key (columns.map (Column.relabeled relabel))) := by
  apply Redraws.forM
  intro column
  change Redraws relabel Eq (if key.mark column.toColumnSpec ≠ column.toColumnSpec then _ else _)
    (if key.mark column.toColumnSpec ≠ column.toColumnSpec then _ else _)
  by_cases changed : key.mark column.toColumnSpec ≠ column.toColumnSpec
  · rw [if_pos changed, if_pos changed]
    exact redraws_alterTable id _
  · rw [if_neg changed, if_neg changed]
    exact .pure rfl

theorem redraws_addKey (listed : Key) :
    Redraws relabel Eq (addKey id tableName listed)
      (addKey (relabel.apply .table id) tableName listed) := by
  apply Redraws.bind .current
  intro left right redraws
  rw [redraws.table?_eq]
  cases left.table? id with
  | none => exact .throw
  | some table =>
      have specs : (table.relabeled relabel).columns.map (fun column => column.toColumnSpec) =
          table.columns.map fun column => column.toColumnSpec :=
        table.map_columns_relabeled relabel _ fun _ => rfl
      simp only [Option.map_some, specs]
      let columns := table.columns.map fun column => column.toColumnSpec
      let key := listed.restrict columns
      have marks : Redraws relabel Eq (markColumns id key table.columns)
          (markColumns (relabel.apply .table id) key (table.relabeled relabel).columns) :=
        redraws_markColumns id key table.columns
      split
      · exact .bind (redraws_addIndex id _ _ _) fun _ _ _ => .map marks
      · exact .map marks

theorem redraws_addConstraint (constraint : TableConstraint) :
    Redraws relabel Eq (addConstraint id tableName constraint)
      (addConstraint (relabel.apply .table id) tableName constraint) := by
  cases constraint with
  | primaryKey columns => exact redraws_addKey id tableName _
  | unique name columns =>
      change Redraws relabel Eq (if 1 < columns.length then _ else _)
        (if 1 < columns.length then _ else _)
      split
      · exact .map (redraws_addIndex id _ _ _)
      · exact redraws_addKey id tableName _
  | index name columns => exact .map (redraws_addIndex id _ _ _)
  | check name expression =>
      apply Redraws.bind .current
      intro left right redraws
      rw [redraws.constraintsOf_eq, List.length_map]
      exact .map (redraws_addCheck _)
  | foreignKey name columns references => exact redraws_linkForeignKey id tableName _

/-! ## Changes of a table -/

theorem redraws_perform (action : AlterAction) :
    Redraws relabel Eq (perform id tableName action)
      (perform (relabel.apply .table id) tableName action) := by
  cases action with
  | addColumn column =>
      refine .bind (redraws_alterTable id _) fun _ _ _ => ?_
      exact .map (redraws_addExtras id tableName column)
  | dropColumn name => exact .map (redraws_alterTable id _)
  | modifyColumn column => exact .map (redraws_alterTable id _)
  | renameColumn old new =>
      apply Redraws.bind .current
      intro left right redraws
      rw [redraws.columnNamed?_eq]
      cases (left.table? id).bind fun table => table.columnNamed? old with
      | none => exact .throw
      | some column => exact .map (redraws_alterTable id _)
  | renameTo name =>
      apply Redraws.bind .current
      intro left right redraws
      rw [redraws.hasTable_eq]
      split
      · exact .throw_bind
      · exact .bind (redraws_renameTable id name) fun _ _ _ => .pure rfl
  | addConstraint constraint => exact .map (redraws_addConstraint id tableName constraint)

theorem redraws_performAll (actions : List AlterAction) :
    Redraws relabel Eq (performAll id tableName actions)
      (performAll (relabel.apply .table id) tableName actions) := by
  induction actions generalizing tableName with
  | nil => exact .pure rfl
  | cons action actions ih =>
      apply Redraws.bind (redraws_perform id tableName action)
      rintro effect _ rfl
      exact .map (ih _)

end

/-! ## Tables -/

theorem redraws_createTable (definition : CreateTable) :
    Redraws relabel Eq (createTable definition) (createTable definition) := by
  apply Redraws.bind .current
  intro left right redraws
  rw [redraws.hasTable_eq]
  split
  · split
    · exact .pure rfl
    · exact .throw
  · apply Redraws.bind (.always (SessionM.redraws_carry (Edit.redraws_addTable _)))
    rintro id _ rfl
    apply Redraws.bind (.mapM _ (redraws_addExtras id definition.name))
    rintro extras _ rfl
    exact .map (.mapM _ (redraws_addConstraint id definition.name))

theorem redraws_alterTableNamed (name : String) (actions : List AlterAction) :
    Redraws relabel Eq (alterTable name actions) (alterTable name actions) := by
  apply Redraws.bind .current
  intro left right redraws
  rw [redraws.tableNamed?_eq]
  cases left.tableNamed? name with
  | none => exact .throw
  | some table => exact .map (redraws_performAll table.id name actions)

theorem redraws_dropTable (ifExists : Bool) (name : String) :
    Redraws relabel Eq (dropTable ifExists name) (dropTable ifExists name) := by
  apply Redraws.bind .current
  intro left right redraws
  rw [redraws.tableNamed?_eq]
  cases left.tableNamed? name with
  | some table => exact .map (redraws_removeTable table.id)
  | none =>
      cases ifExists with
      | true => exact .pure rfl
      | false => exact .throw

theorem redraws_dropTables (names : List String) (ifExists : Bool) :
    Redraws relabel Eq (dropTables names ifExists) (dropTables names ifExists) :=
  .map (.mapM names (redraws_dropTable ifExists))

/-! ## Statements -/

theorem run_forward_alone {session : Session} (alone : session.backend = none) (text : String) :
    (forward text).run.run session = (.error (.backend .unavailable), session) := by
  have sent (request : Request) :
      (SessionM.send request).run session = (.error .unavailable, session) := by
    rw [SessionM.send, SessionM.run_bind, SessionM.run_get, alone]
    rfl
  have asked : (SessionM.forward text).run session = (.error .unavailable, session) := by
    rw [SessionM.forward]
    split
    · rw [SessionM.run_bind, sent]
      rfl
    · rw [SessionM.run_bind, sent]
      rfl
  have always : (always (SessionM.forward text)).run.run session =
      (.ok ((SessionM.forward text).run session).1, ((SessionM.forward text).run session).2) := rfl
  rw [forward, run_bind, always, asked]
  rfl

/-- Without a database, a statement that is left to it fails. -/
theorem redraws_forward (text : String) :
    Redraws relabel Eq (forward text) (forward text) := by
  intro before other redraws
  rw [run_forward_alone redraws.alone, run_forward_alone redraws.otherAlone]
  exact ⟨.error, redraws⟩

theorem redraws_apply (text : String) (statement : Statement) :
    Redraws relabel Eq (apply text statement) (apply text statement) := by
  cases statement with
  | createTable definition => exact redraws_createTable definition
  | alterTable table actions => exact redraws_alterTableNamed table actions
  | dropTable tables ifExists => exact redraws_dropTables tables ifExists
  | passthrough => exact redraws_forward text

theorem redraws_applyText (text : String) :
    Redraws relabel Eq (applyText text) (applyText text) := by
  cases read : Statement.ofText text with
  | error error =>
      rw [applyText_of_error read]
      exact .throw
  | ok statement =>
      rw [applyText_of_read read]
      exact redraws_apply text statement

end Execution

theorem StatementReport.success_of
    {answers : Execution.Effect → Execution.Effect → Prop}
    {left right : Except DdlError Execution.Effect} (accord : Accord answers left right)
    (source : StatementSource) : (of source right).success = (of source left).success := by
  cases accord with
  | ok same => rfl
  | error => rfl

/-- A statement succeeds in a session exactly if it does in one under other identities. -/
theorem SessionM.redraws_executeStatement (source : StatementSource) :
    SessionM.Redraws relabel
      (fun left right : StatementReport => right.success = left.success)
      (executeStatement source) (executeStatement source) := by
  intro before other start
  obtain ⟨same, later⟩ := Execution.redraws_applyText source.text before other start
  rw [Execution.run_executeStatement, Execution.run_executeStatement]
  exact ⟨StatementReport.success_of same source, later⟩

end SchemaDesign
