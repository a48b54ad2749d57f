import SchemaDesign.Proofs.Execution.Leads

/-!
# Statements in related sessions

A statement knows a session by its schema and by what commands answer.  Where commands answer alike
in related sessions and leave them related, so does every statement that is not left to the
database.
-/

namespace SchemaDesign

open Sql (AlterAction CreateTable DdlError Statement TableConstraint)

/-- Whether a command changes what a table consists of or what refers to it.  Such a command leaves
every table in place, and with its name. -/
def Command.IsPart : Command → Prop
  | .alterTable _ _ | .addRelationship _ | .addIndex _ | .addConstraint _ => True
  | _ => False

/-- Whether a command changes what the table of an identity consists of or what refers to tables. -/
def Command.IsPartOf (id : TableId) : Command → Prop
  | .alterTable table _ => table = id
  | .addRelationship _ | .addIndex _ | .addConstraint _ => True
  | _ => False

/-- Whether a command is one of those that alter the table of an identity. -/
def Command.Alters (id : TableId) (command : Command) : Prop :=
  command.IsPartOf id ∨ ∃ name, command = .renameTable id name

theorem Command.IsPartOf.isPart {id : TableId} {command : Command} (part : command.IsPartOf id) :
    command.IsPart := by
  cases command with
  | alterTable table change => trivial
  | addRelationship spec => trivial
  | addIndex spec => trivial
  | addConstraint spec => trivial
  | _ => exact part.elim

/-- In related sessions a step answers alike, and it leaves them related. -/
def SessionM.Relates {α : Type} (related : Session → Session → Prop) (step : SessionM α) : Prop :=
  ∀ left right, related left right →
    (step.run left).1 = (step.run right).1 ∧ related (step.run left).2 (step.run right).2

namespace SessionM

variable {related : Session → Session → Prop} {α β : Type}

/-- A step answers alike if what is made of its answers is alike and tells them apart. -/
theorem Relates.of_answer
    {step : SessionM α} {answer : α → β} (relates : Relates related (do return answer (← step)))
    (injective : Function.Injective answer) : Relates related step := by
  intro left right holds
  obtain ⟨same, later⟩ := relates left right holds
  exact ⟨injective same, later⟩

theorem map_injective {answer : α → β} (injective : Function.Injective answer) :
    Function.Injective fun result : Except SchemaError α => result.map answer := by
  intro left right same
  cases left with
  | error error =>
      cases right with
      | error other => simpa [Except.map] using same
      | ok other => cases same
  | ok given =>
      cases right with
      | error other => cases same
      | ok other => exact congrArg Except.ok (injective (Except.ok.inj same))

theorem Relates.discard
    {step : SessionM α} {answer : α → β} (relates : Relates related (do return answer (← step))) :
    Relates related (Functor.discard step) :=
  fun left right holds => ⟨rfl, (relates left right holds).2⟩

end SessionM

namespace Execution

/-- In related sessions a step fails or answers alike, and it leaves them related. -/
def Relates {α : Type} (related : Session → Session → Prop) (step : Execution α) : Prop :=
  SessionM.Relates related step.run

section

variable {related : Session → Session → Prop} {α β : Type}

theorem Relates.pure (answer : α) : Relates related (Pure.pure answer : Execution α) :=
  fun _ _ holds => ⟨rfl, holds⟩

theorem Relates.throw (error : DdlError) :
    Relates related (MonadExcept.throw error : Execution α) :=
  fun _ _ holds => ⟨rfl, holds⟩

theorem Relates.bind
    {step : Execution α} {next : α → Execution β} (first : Relates related step)
    (rest : ∀ answer, Relates related (next answer)) : Relates related (step >>= next) := by
  intro left right holds
  obtain ⟨same, later⟩ := first left right holds
  rw [run_bind, run_bind]
  cases ranLeft : step.run.run left with
  | mk result leftLater =>
      cases ranRight : step.run.run right with
      | mk rightResult rightLater =>
          rw [ranLeft, ranRight] at same later
          subst same
          cases result with
          | error error => exact ⟨rfl, later⟩
          | ok answer => exact rest answer leftLater rightLater later

theorem Relates.always {step : SessionM α} (relates : step.Relates related) :
    Relates related (Execution.always step) := by
  intro left right holds
  obtain ⟨same, later⟩ := relates left right holds
  exact ⟨congrArg Except.ok same, later⟩

theorem Relates.attempt
    {step : SessionM (Except SchemaError α)} (relates : SessionM.Relates related step) :
    Relates related (Execution.attempt step) := by
  intro left right holds
  obtain ⟨same, later⟩ := relates left right holds
  exact ⟨congrArg (Except.mapError DdlError.schema) same, later⟩

theorem Relates.discard {step : Execution α} (relates : Relates related step) :
    Relates related (Functor.discard step) := by
  rw [discard_eq_bind]
  apply Relates.bind relates
  intro _
  exact .pure _

theorem Relates.forM
    {each : α → Execution PUnit} (xs : List α) (relates : ∀ x, Relates related (each x)) :
    Relates related (xs.forM each) := by
  induction xs with
  | nil => exact .pure _
  | cons x xs ih =>
      apply Relates.bind (relates x)
      intro _
      exact ih

theorem Relates.mapM
    {each : α → Execution β} (xs : List α) (relates : ∀ x, Relates related (each x)) :
    Relates related (xs.mapM each) := by
  induction xs with
  | nil =>
      rw [List.mapM_nil]
      exact .pure _
  | cons x xs ih =>
      rw [List.mapM_cons]
      apply Relates.bind (relates x)
      intro answer
      apply Relates.bind ih
      intro answers
      exact .pure _

end

/-! ## What is made of commands -/

section

variable {related : Session → Session → Prop}
variable (schemas : ∀ left right, related left right → left.schema = right.schema)

include schemas in
theorem Relates.current : Relates related Execution.current :=
  fun left right holds => ⟨congrArg Except.ok (schemas left right holds), holds⟩

/-! ### Columns and constraints -/

section

variable {id : TableId}
variable (links : ∀ spec, (SessionM.perform (.addRelationship spec)).Relates related)

include schemas links

theorem relates_linkForeignKey (tableName : String) (key : ForeignKey) :
    Relates related (linkForeignKey id tableName key) := by
  apply Relates.bind (.current schemas)
  intro schema
  cases schema.table? id with
  | none => exact .pure _
  | some source =>
      apply Relates.bind
      · apply Relates.forM
        intro relationship
        exact .always (.discard (links relationship))
      · intro _
        exact .pure _

/-- What the definition of a column brings with it is made of checks and relationships. -/
theorem relates_addExtras
    (checks : ∀ spec, (SessionM.perform (.addConstraint spec)).Relates related)
    (tableName : String) (column : Sql.ColumnDef) :
    Relates related (addExtras id tableName column) := by
  have keys : Relates related (addExtras id tableName { column with check := none }) := by
    rw [addExtras]
    cases column.references with
    | none => exact .pure _
    | some references => exact relates_linkForeignKey schemas links tableName _
  rw [addExtras]
  cases column.check with
  | none => exact keys
  | some expression =>
      apply Relates.bind (.current schemas)
      intro schema
      apply Relates.bind
      · exact .always (.discard (checks _))
      · intro _
        exact keys

end

section

variable {id : TableId}
variable (parts : ∀ command : Command, command.IsPartOf id →
  (SessionM.perform command).Relates related)

include parts

theorem relates_addIndex (name : String) (columns : List String) (isUnique : Bool) :
    Relates related (addIndex id name columns isUnique) :=
  .always (.discard (parts (.addIndex { name, table := id, columns, isUnique }) trivial))

theorem relates_alterTable_column (change : ColumnChange) :
    Relates related (attempt (SessionM.alterTable id change)) := by
  apply Relates.attempt
  apply SessionM.Relates.of_answer (parts (.alterTable id change) rfl)
  apply SessionM.map_injective
  intro left right same
  cases same
  rfl

theorem relates_markColumns (key : Key) (columns : List Column) :
    Relates related (markColumns id key columns) := by
  apply Relates.forM
  intro column
  change Relates related (if key.mark column.toColumnSpec ≠ column.toColumnSpec then _ else _)
  split
  · exact .discard (relates_alterTable_column parts _)
  · exact .pure _

include schemas

theorem relates_addKey (tableName : String) (listed : Key) :
    Relates related (addKey id tableName listed) := by
  apply Relates.bind (.current schemas)
  intro schema
  cases schema.table? id with
  | none => exact .throw _
  | some table =>
      let columns := table.columns.map fun column => column.toColumnSpec
      let key := listed.restrict columns
      have marks : Relates related (do
          markColumns id key table.columns
          return listed.unknownWarnings tableName columns ++ key.compositeWarnings tableName) := by
        apply Relates.bind (relates_markColumns parts key table.columns)
        intro _
        exact .pure _
      change Relates related (if 2 ≤ key.entries.length then _ else _)
      split
      · apply Relates.bind (relates_addIndex parts _ _ _)
        intro _
        exact marks
      · exact marks

theorem relates_addConstraint (tableName : String) (constraint : TableConstraint) :
    Relates related (addConstraint id tableName constraint) := by
  cases constraint with
  | primaryKey columns => exact relates_addKey schemas parts tableName _
  | unique name columns =>
      change Relates related (if _ then _ else _)
      split
      · apply Relates.bind (relates_addIndex parts _ _ _)
        intro _
        exact .pure _
      · exact relates_addKey schemas parts tableName _
  | index name columns =>
      apply Relates.bind (relates_addIndex parts _ _ _)
      intro _
      exact .pure _
  | check name expression =>
      apply Relates.bind (.current schemas)
      intro schema
      apply Relates.bind
      · exact .always (.discard (parts (.addConstraint _) trivial))
      · intro _
        exact .pure _
  | foreignKey name columns references =>
      exact relates_linkForeignKey schemas (fun spec => parts (.addRelationship spec) trivial)
        tableName _

end

/-! ### Changes of a table -/

section

variable {id : TableId}
variable (alters : ∀ command : Command, command.Alters id →
  (SessionM.perform command).Relates related)

include alters

theorem relates_renameTable (name : String) :
    Relates related (attempt (SessionM.renameTable id name)) := by
  apply Relates.attempt
  apply SessionM.Relates.of_answer (alters (.renameTable id name) (.inr ⟨name, rfl⟩))
  apply SessionM.map_injective
  intro left right _
  rfl

include schemas

theorem relates_perform (tableName : String) (action : AlterAction) :
    Relates related (perform id tableName action) := by
  have parts (command : Command) (part : command.IsPartOf id) := alters command (.inl part)
  cases action with
  | addColumn column =>
      apply Relates.bind (.discard (relates_alterTable_column parts _))
      intro _
      apply Relates.bind (relates_addExtras schemas
        (fun spec => parts (.addRelationship spec) trivial)
        (fun spec => parts (.addConstraint spec) trivial) tableName column)
      intro warnings
      exact .pure _
  | dropColumn name =>
      apply Relates.bind (.discard (relates_alterTable_column parts _))
      intro _
      exact .pure _
  | modifyColumn column =>
      apply Relates.bind (.discard (relates_alterTable_column parts _))
      intro _
      exact .pure _
  | renameColumn old new =>
      apply Relates.bind (.current schemas)
      intro schema
      cases (schema.table? id).bind fun table => table.columnNamed? old with
      | none => exact .throw _
      | some column =>
          apply Relates.bind (.discard (relates_alterTable_column parts _))
          intro _
          exact .pure _
  | renameTo name =>
      apply Relates.bind (.current schemas)
      intro schema
      have renames : Relates related (do
          attempt (SessionM.renameTable id name)
          return ({ change := "renamed to '" ++ name ++ "'", newName := some name } :
            ActionEffect)) := by
        apply Relates.bind (relates_renameTable alters name)
        intro _
        exact .pure _
      change Relates related (if schema.hasTable name then _ else _)
      split
      · apply Relates.bind (.throw _)
        intro _
        exact renames
      · exact renames
  | addConstraint constraint =>
      apply Relates.bind (relates_addConstraint schemas parts tableName constraint)
      intro warnings
      exact .pure _

theorem relates_performAll (tableName : String) (actions : List AlterAction) :
    Relates related (performAll id tableName actions) := by
  induction actions generalizing tableName with
  | nil => exact .pure _
  | cons action actions ih =>
      apply Relates.bind (relates_perform schemas alters tableName action)
      intro effect
      apply Relates.bind (ih _)
      intro effects
      exact .pure _

end

/-! ### Tables -/

section

variable (commands : ∀ command, (SessionM.perform command).Relates related)

include commands

theorem relates_addTable (spec : TableSpec) :
    Relates related (always (SessionM.addTable spec)) := by
  apply Relates.always
  apply SessionM.Relates.of_answer (commands (.addTable spec))
  intro left right same
  cases same
  rfl

theorem relates_removeTable (id : TableId) :
    Relates related (attempt (SessionM.removeTable id)) := by
  apply Relates.attempt
  apply SessionM.Relates.of_answer (commands (.removeTable id))
  apply SessionM.map_injective
  intro left right same
  cases same
  rfl

include schemas

theorem relates_createTable (definition : CreateTable) :
    Relates related (createTable definition) := by
  have parts (id : TableId) (command : Command) (_ : command.IsPartOf id) := commands command
  apply Relates.bind (.current schemas)
  intro schema
  change Relates related (if _ then _ else _)
  split
  · split
    · exact .pure _
    · exact .throw _
  · apply Relates.bind (relates_addTable commands _)
    intro id
    apply Relates.bind
    · apply Relates.mapM
      intro column
      exact relates_addExtras schemas (fun spec => commands (.addRelationship spec))
        (fun spec => commands (.addConstraint spec)) _ column
    · intro extras
      apply Relates.bind
      · apply Relates.mapM
        intro constraint
        exact relates_addConstraint schemas (parts id) _ constraint
      · intro others
        exact .pure _

theorem relates_alterTable (name : String) (actions : List AlterAction) :
    Relates related (alterTable name actions) := by
  apply Relates.bind (.current schemas)
  intro schema
  cases schema.tableNamed? name with
  | none => exact .throw _
  | some table =>
      apply Relates.bind
      · exact relates_performAll schemas (fun command _ => commands command) name actions
      intro effects
      exact .pure _

theorem relates_dropTables (names : List String) (ifExists : Bool) :
    Relates related (dropTables names ifExists) := by
  apply Relates.bind
  · apply Relates.mapM
    intro name
    apply Relates.bind (.current schemas)
    intro schema
    cases schema.tableNamed? name with
    | some table =>
        apply Relates.bind (.discard (relates_removeTable commands table.id))
        intro _
        exact .pure _
    | none =>
        change Relates related (if _ then _ else _)
        split
        · exact .pure _
        · exact .throw _
  · intro existed
    exact .pure _

theorem relates_apply
    (text : String) {statement : Statement} (own : statement ≠ .passthrough) :
    Relates related (apply text statement) := by
  cases statement with
  | createTable definition => exact relates_createTable schemas commands definition
  | alterTable table actions => exact relates_alterTable schemas commands table actions
  | dropTable tables ifExists => exact relates_dropTables schemas commands tables ifExists
  | passthrough => exact absurd rfl own

/-- Only a statement that is left to the database tells related sessions apart. -/
theorem relates_applyText (text : String) (own : Statement.ofText text ≠ .ok .passthrough) :
    Relates related (applyText text) := by
  cases read : Statement.ofText text with
  | error error =>
      rw [applyText_of_error read]
      exact .throw _
  | ok statement =>
      rw [applyText_of_read read]
      apply relates_apply schemas commands text
      rintro rfl
      exact own read

end

end

end Execution

end SchemaDesign
