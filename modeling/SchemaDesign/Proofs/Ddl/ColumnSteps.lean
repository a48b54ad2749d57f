import SchemaDesign.Ddl.Alteration
import SchemaDesign.Proofs.Sql.Pieces
import SchemaDesign.Proofs.Sql.Writing

/-!
# Statements as steps of the names of columns

PostgreSQL and Oracle tell names in double quotes apart by the case of their letters.  Of a
statement that changes the columns of a table they read which exact names it drops, replaces or
expects, and they refuse one that means a column by a name that none has.
-/

namespace SchemaDesign

/-- What a statement does to the columns of a table, which it means by their exact names. -/
inductive ColumnStep where
  | add (name : String)
  | drop (name : String)
  | rename (old new : String)
  /-- The column stays, with another definition. -/
  | redefine (name : String)
deriving DecidableEq, Repr

namespace ColumnStep

/-! ## Reading statements -/

/-- The name in double quotes after a start of a text, and what follows it. -/
def nameAfter? (start : String) (text : List Char) : Option (String × List Char) := do
  let quoted ← Text.afterStart? start.toList text
  let inner ← Text.afterStart? ['"'] quoted
  let (name, rest) ← Sql.readQuoted? '"' inner
  return (String.ofList name, rest)

/-- The clauses that begin with words and go on with the name of one column. -/
def singleNamed : List (String × (String → ColumnStep)) :=
  [(" ADD COLUMN ", add), (" ADD ", add), (" DROP COLUMN ", drop), (" ALTER COLUMN ", redefine),
    (" MODIFY (", redefine)]

/-- The step that a clause of a statement makes. -/
def ofClause? (text : List Char) : Option ColumnStep :=
  match nameAfter? " RENAME COLUMN " text with
  | some (old, rest) => (nameAfter? " TO " rest).map fun found => rename old found.1
  | none =>
      singleNamed.findSome? fun entry =>
        (nameAfter? entry.1 text).map fun found => entry.2 found.1

/-- The step that a statement makes, if it alters the table of an exact name. -/
def ofText? (tableName statement : String) : Option ColumnStep := do
  let (altered, clause) ← nameAfter? "ALTER TABLE " statement.toList
  guard (altered = tableName)
  ofClause? clause

/-! ## Making steps -/

/-- The names of the columns after a step, if there is a column of the name that it means. -/
def namesAfter? (names : List String) : ColumnStep → Option (List String)
  | .add name => some (names ++ [name])
  | .drop name => if name ∈ names then some (names.erase name) else none
  | .rename old new => if old ∈ names then some (names.replace old new) else none
  | .redefine name => if name ∈ names then some names else none

/-- The names of the columns of a table after statements, if each of them is a step that can be
made. -/
def replay? (tableName : String) (names : List String) (statements : List String) :
    Option (List String) :=
  statements.foldlM
    (fun names statement => (ofText? tableName statement).bind (namesAfter? names)) names

theorem replay?_cons
    (tableName : String) (names : List String) (statement : String) (statements : List String) :
    replay? tableName names (statement :: statements) =
      ((ofText? tableName statement).bind (namesAfter? names)).bind fun later =>
        replay? tableName later statements :=
  rfl

theorem replay?_single {tableName statement : String} {step : ColumnStep}
    (read : ofText? tableName statement = some step) (names : List String) :
    replay? tableName names [statement] = step.namesAfter? names := by
  rw [replay?_cons, read, Option.bind_some]
  exact Option.bind_fun_some _

/-! ## The steps of the statements that are written -/

theorem exists_columnDefinition
    (dialect : Dialect) (column : ColumnSpec) (forceNotNull : Bool) :
    ∃ rest, Ddl.columnDefinition dialect column forceNotNull =
      dialect.quote column.name ++ (" " ++ rest) := by
  rw [Ddl.columnDefinition]
  iterate 4 rw [String.append_assoc]
  exact ⟨_, rfl⟩

section

variable {dialect : Dialect} (marks : dialect.quotes = ('"', '"'))

include marks

theorem nameAfter?_quote
    (start name : String) {rest : List Char} (next : rest.head? ≠ some '"') :
    nameAfter? start (start.toList ++ ((dialect.quote name).toList ++ rest)) =
      some (name, rest) := by
  have shape : (dialect.quote name).toList ++ rest =
      ['"'] ++ (name.toList.flatMap (fun c => if c = '"' then ['"', '"'] else [c]) ++ ['"'] ++
        rest) := by
    simp [Dialect.quote, marks, Sql.Writes.toList_doubled]
  rw [nameAfter?, Text.afterStart?_self, shape]
  simp only [Option.bind_eq_bind, Option.bind_some, Text.afterStart?_self]
  rw [Sql.Lexer.readQuoted?_quotedText _ _ next]
  simp

theorem ofText?_alter
    (tableName : String) {clause : String} (next : clause.toList.head? ≠ some '"') :
    ofText? tableName ("ALTER TABLE " ++ dialect.quote tableName ++ clause) =
      ofClause? clause.toList := by
  have read := nameAfter?_quote marks "ALTER TABLE " tableName next
  rw [ofText?, String.toList_append, String.toList_append, List.append_assoc, read]
  change ((guard (tableName = tableName) : Option Unit).bind fun _ => ofClause? clause.toList) = _
  rw [guard, if_pos rfl]
  rfl

theorem ofClause?_rename (old new : String) :
    ofClause? (" RENAME COLUMN " ++ dialect.quote old ++ " TO " ++ dialect.quote new ++
      ";").toList = some (rename old new) := by
  have next : (" TO ".toList ++ ((dialect.quote new).toList ++ [';'])).head? ≠ some '"' := by
    simp
  have last : [';'].head? ≠ some '"' := by
    simp
  have shape : (" RENAME COLUMN " ++ dialect.quote old ++ " TO " ++ dialect.quote new ++
      ";").toList = " RENAME COLUMN ".toList ++ ((dialect.quote old).toList ++
        (" TO ".toList ++ ((dialect.quote new).toList ++ [';']))) := by
    simp
  rw [shape, ofClause?, nameAfter?_quote marks _ old next]
  simp only [nameAfter?_quote marks _ new last, Option.map_some]

/-- A clause that names a column after some words is not read as one that names it after others. -/
theorem ofClause?_single
    {start : String} {make : String → ColumnStep} (known : (start, make) ∈ singleNamed)
    (name : String) {rest : List Char} (next : rest.head? ≠ some '"') :
    ofClause? (start.toList ++ ((dialect.quote name).toList ++ rest)) = some (make name) := by
  have read := nameAfter?_quote marks start name next
  have opening : ∃ more, (dialect.quote name).toList ++ rest = '"' :: more := by
    simp [Dialect.quote, marks]
  obtain ⟨more, opening⟩ := opening
  rw [opening] at read ⊢
  simp only [singleNamed, List.mem_cons, List.not_mem_nil, or_false, Prod.mk.injEq] at known
  rcases known with ⟨rfl, rfl⟩ | ⟨rfl, rfl⟩ | ⟨rfl, rfl⟩ | ⟨rfl, rfl⟩ | ⟨rfl, rfl⟩
  all_goals
    simp only [ofClause?, singleNamed, List.findSome?_cons, read, Option.map_some]
    simp [nameAfter?, Text.afterStart?]

theorem ofText?_single
    {start : String} {make : String → ColumnStep} (known : (start, make) ∈ singleNamed)
    (tableName name : String) {rest : String} (next : rest.toList.head? ≠ some '"') :
    ofText? tableName ("ALTER TABLE " ++ dialect.quote tableName ++
      (start ++ dialect.quote name ++ rest)) = some (make name) := by
  have shape : (start ++ dialect.quote name ++ rest).toList =
      start.toList ++ ((dialect.quote name).toList ++ rest.toList) := by
    simp
  have blank : start.toList.head? = some ' ' := by
    simp only [singleNamed, List.mem_cons, List.not_mem_nil, or_false, Prod.mk.injEq] at known
    rcases known with ⟨rfl, _⟩ | ⟨rfl, _⟩ | ⟨rfl, _⟩ | ⟨rfl, _⟩ | ⟨rfl, _⟩
    all_goals rfl
  rw [ofText?_alter marks tableName, shape, ofClause?_single marks known name next]
  rw [shape, List.head?_append, blank]
  simp

theorem ofText?_dropColumn (tableName name : String) :
    ofText? tableName (Ddl.dropColumn dialect tableName name) = some (drop name) := by
  have known : (" DROP COLUMN ", drop) ∈ singleNamed := by
    simp [singleNamed]
  have next : ";".toList.head? ≠ some '"' := by
    simp
  have read := ofText?_single marks known tableName name next
  rw [← read]
  unfold Ddl.dropColumn
  simp only [String.append_assoc]

end

section

variable {dialect : Dialect} (exact : dialect = .postgreSql ∨ dialect = .oracle)

include exact

theorem quotes_of_exact : dialect.quotes = ('"', '"') := by
  rcases exact with rfl | rfl
  · rfl
  · rfl

theorem ofText?_addColumn (tableName : String) (column : ColumnSpec) :
    ofText? tableName (Ddl.addColumn dialect tableName column) = some (add column.name) := by
  have marks := quotes_of_exact exact
  obtain ⟨rest, defined⟩ := exists_columnDefinition dialect column false
  obtain ⟨start, known, written⟩ : ∃ start, (start, add) ∈ singleNamed ∧
      Ddl.addColumn dialect tableName column = "ALTER TABLE " ++ dialect.quote tableName ++
        (start ++ dialect.quote column.name ++ (" " ++ rest ++ ";")) := by
    have around (left table keyword name right : String) :
        left ++ table ++ " " ++ keyword ++ " " ++ (name ++ right) ++ ";" =
          left ++ table ++ (" " ++ keyword ++ " " ++ name ++ (right ++ ";")) := by
      simp only [String.append_assoc]
    unfold Ddl.addColumn
    rw [defined]
    rcases exact with rfl | rfl
    · exact ⟨" " ++ "ADD COLUMN" ++ " ", by simp [singleNamed], around _ _ _ _ _⟩
    · exact ⟨" " ++ "ADD" ++ " ", by simp [singleNamed], around _ _ _ _ _⟩
  rw [written]
  exact ofText?_single marks known tableName column.name (by simp)

theorem ofText?_renameColumn (tableName old new : String) :
    ofText? tableName (Ddl.renameColumn dialect tableName old new) = some (rename old new) := by
  have marks := quotes_of_exact exact
  have written : Ddl.renameColumn dialect tableName old new =
      "ALTER TABLE " ++ dialect.quote tableName ++
        (" RENAME COLUMN " ++ dialect.quote old ++ " TO " ++ dialect.quote new ++ ";") := by
    unfold Ddl.renameColumn
    split
    · exact absurd marks (by decide)
    · simp only [String.append_assoc]
  rw [written, ofText?_alter marks tableName, ofClause?_rename marks old new]
  simp

/-- The statements that modify a column rename it if its name changes by more than letter case, and
expect it under its new name. -/
theorem replay?_modifyColumn
    (tableName oldName : String) (column : ColumnSpec) (names : List String) :
    replay? tableName names (Ddl.modifyColumn dialect tableName oldName column) =
      if Text.same oldName column.name then namesAfter? names (redefine column.name)
      else (namesAfter? names (rename oldName column.name)).bind fun renamed =>
        namesAfter? renamed (redefine column.name) := by
  have marks := quotes_of_exact exact
  obtain ⟨start, rest, known, next, written⟩ :
      ∃ start rest, (start, redefine) ∈ singleNamed ∧ rest.toList.head? ≠ some '"' ∧
        Ddl.modifyColumn dialect tableName oldName column =
          (if !Text.same oldName column.name then
            [Ddl.renameColumn dialect tableName oldName column.name] else []) ++
          ["ALTER TABLE " ++ dialect.quote tableName ++
            (start ++ dialect.quote column.name ++ rest)] := by
    rcases exact with rfl | rfl
    · refine ⟨" ALTER COLUMN ", " TYPE " ++ column.dataType ++ ";", by simp [singleNamed],
        by simp, ?_⟩
      simp only [Ddl.modifyColumn, String.append_assoc]
    · refine ⟨" MODIFY (", " " ++ column.dataType ++ ");", by simp [singleNamed], by simp, ?_⟩
      simp only [Ddl.modifyColumn, String.append_assoc]
  have read := ofText?_single marks known tableName column.name next
  rw [written]
  cases Text.same oldName column.name with
  | true => exact replay?_single read names
  | false =>
      refine (replay?_cons _ _ _ _).trans ?_
      rw [ofText?_renameColumn exact, Option.bind_some]
      exact congrArg _ (funext (replay?_single read))

end

end ColumnStep

end SchemaDesign
