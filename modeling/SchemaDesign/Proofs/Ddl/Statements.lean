import Mathlib.Tactic.Choose
import SchemaDesign.Ddl.Script
import SchemaDesign.Proofs.Ddl.Columns
import SchemaDesign.Proofs.Sql.Cutting

/-!
# Statements of a creation script that are read again

The statements that create tables and add foreign keys are read as what they were written for.
-/

namespace SchemaDesign.Sql

/-- A string is a statement that is read in one way, once its semicolon is cut off. -/
structure Reads (text : String) (read : Statement) : Prop where
  solid : Solid text.toList
  statement : Statement.ofText text = .ok read

theorem mapM_eq_pure
    {m : Type → Type} [Monad m] [LawfulMonad m] {α β : Type} {read : α → m β} {value : α → β}
    {xs : List α} (succeeds : ∀ x ∈ xs, read x = pure (value x)) :
    xs.mapM read = pure (xs.map value) := by
  induction xs with
  | nil => rfl
  | cons x xs ih =>
      have rest := ih fun other member => succeeds other (List.mem_cons_of_mem _ member)
      rw [List.mapM_cons, succeeds x List.mem_cons_self, rest, pure_bind, pure_bind, List.map_cons]

theorem createTable_read
    (name : String) {parts : List (List Token)} {columns : List ColumnDef}
    (balanced : ∀ part ∈ parts, Balanced false part) (nonempty : ∀ part ∈ parts, part ≠ [])
    (read : parts.mapM Parser.element? =
      .ok (columns.map fun column => some (.column column))) :
    statement
        (.word "CREATE" false :: .word "TABLE" false :: .word name true :: .openParen ::
          (joined parts ++ [.closeParen])) =
      .ok (.createTable { name, ifNotExists := false, columns, constraints := [] }) := by
  have body : Parser.parenthesized (.openParen :: (joined parts ++ [.closeParen])) =
      .ok (joined parts, []) := (balanced_joined balanced).parenthesized []
  have options : Parser.skipOptions [] = .ok () := by rw [Parser.skipOptions]
  have divided : Parser.parts (joined parts) = parts := parts_joined balanced nonempty
  change Parser.createTable (.word name true :: .openParen :: (joined parts ++ [.closeParen])) = _
  have noCondition (rest : List Token) :
      Parser.afterKeywords? ["IF", "NOT", "EXISTS"] (.word name true :: rest) = none := rfl
  have named (rest : List Token) :
      Parser.objectName (.word name true :: .openParen :: rest) =
        .ok (name, .openParen :: rest) := by
    rw [Parser.objectName, Parser.identifier]
    rfl
  simp only [Parser.createTable, noCondition, Option.getD_none, named, body, options, divided, read,
    bind, Except.bind, pure, Except.pure, List.filterMap_map, Function.comp_def,
    List.filterMap_some, List.filterMap_none, Option.isSome_none]

theorem foreignRef_read (target column : String) :
    Parser.foreignRef [.word target true, .openParen, .word column true, .closeParen] =
      .ok ({ table := target, columns := [column] }, []) := by
  have named (rest : List Token) : Parser.objectName (.word target true :: .openParen :: rest) =
      .ok (target, .openParen :: rest) := rfl
  have listed : Parser.optionalColumns [.openParen, .word column true, .closeParen] =
      .ok ([column], []) := rfl
  have actions : Parser.skipActions [] = .ok [] := by
    rw [Parser.skipActions]
    rfl
  simp only [Parser.foreignRef, named, listed, actions, bind, Except.bind, pure, Except.pure]

theorem foreignKey_read (source name sourceColumn target targetColumn : String) :
    statement
        [.word "ALTER" false, .word "TABLE" false, .word source true, .word "ADD" false,
          .word "CONSTRAINT" false, .word name true, .word "FOREIGN" false, .word "KEY" false,
          .openParen, .word sourceColumn true, .closeParen, .word "REFERENCES" false,
          .word target true, .openParen, .word targetColumn true, .closeParen] =
      .ok (.alterTable source
        [.addConstraint (.foreignKey (some name) [sourceColumn]
          { table := target, columns := [targetColumn] })]) := by
  let tail : List Token := [.word target true, .openParen, .word targetColumn true, .closeParen]
  let key : List Token := .word "FOREIGN" false :: .word "KEY" false :: .openParen ::
    .word sourceColumn true :: .closeParen :: .word "REFERENCES" false :: tail
  have constraint : Parser.tableConstraint (.word "CONSTRAINT" false :: .word name true :: key) =
      .ok (.foreignKey (some name) [sourceColumn]
        { table := target, columns := [targetColumn] }) := by
    have after : Parser.constraintAfter (some name) key =
        .ok (.foreignKey (some name) [sourceColumn]
          { table := target, columns := [targetColumn] }, []) := by
      change (Parser.foreignRef tail >>= _) = _
      rw [foreignRef_read]
      rfl
    change (Parser.constraintAfter (some name) key >>= _) = _
    rw [after]
    rfl
  have action : Parser.alterAction
      (.word "ADD" false :: .word "CONSTRAINT" false :: .word name true :: key) =
        .ok (.addConstraint (.foreignKey (some name) [sourceColumn]
          { table := target, columns := [targetColumn] })) := by
    change (Parser.tableConstraint _).map _ = _
    rw [constraint]
    rfl
  change (([_].mapM Parser.alterAction) >>= _) = _
  rw [List.mapM_cons, action]
  rfl

/-! ## The texts -/

/-- The statement that is read for a table. -/
def creationOf (table : Table) : CreateTable :=
  { name := table.name
    ifNotExists := false
    columns := table.columns.map fun column => definitionOf column.toColumnSpec
    constraints := [] }

/-- The lines of some columns as they stand between the parentheses of a statement. -/
def columnLines (dialect : Dialect) (columns : List Column) : String :=
  "\n" ++ (("," ++ "\n").intercalate (columns.map fun column =>
    "  " ++ Ddl.columnDefinition dialect column.toColumnSpec false) ++ ("\n" ++ ""))

/-- The lines of some columns are written as parts from which the columns are read. -/
structure WritesColumns (dialect : Dialect) (columns : List Column) (parts : List (List Token)) :
    Prop where
  writes : Writes true (columnLines dialect columns) (joined parts)
  balanced : ∀ part ∈ parts, Balanced false part
  nonempty : ∀ part ∈ parts, part ≠ []
  read : parts.mapM Parser.element? =
    .ok (columns.map fun column => some (.column (definitionOf column.toColumnSpec)))

section

variable {dialect : Dialect} (noBrackets : dialect ≠ .sqlServer)

include noBrackets

theorem written_columns
    {columns : List Column} (portable : ∀ column ∈ columns, column.toColumnSpec.Portable) :
    ∃ parts, WritesColumns dialect columns parts := by
  have written : ∀ column ∈ columns, ∃ tokens,
      Writes false (Ddl.columnDefinition dialect column.toColumnSpec false) tokens ∧ tokens ≠ [] ∧
        Parser.element? tokens = .ok (some (.column (definitionOf column.toColumnSpec))) :=
    fun column member => written_column noBrackets (portable column member)
  choose! tokens writes nonempty read using written
  refine ⟨columns.map tokens, ?_, ?_, ?_, ?_⟩
  · have lines := Writes.intercalate Writes.newline columns _ tokens fun column member =>
      (writes column member).indented
    have whole := (lines.append Writes.empty.newline rfl).newline
    rwa [List.append_nil] at whole
  · intro part member
    obtain ⟨column, columnMember, rfl⟩ := List.mem_map.mp member
    exact (writes column columnMember).balanced
  · intro part member
    obtain ⟨column, columnMember, rfl⟩ := List.mem_map.mp member
    exact nonempty column columnMember
  · rw [List.mapM_map]
    exact mapM_eq_pure read

theorem reads_createTable
    {schema : Schema} {table : Table} (unconstrained : schema.constraintsOf table.id = [])
    (portable : ∀ column ∈ table.columns, column.toColumnSpec.Portable) :
    ∃ text, Ddl.createTable dialect schema table = text ++ ";" ∧
      Reads text (.createTable (creationOf table)) := by
  obtain ⟨parts, columns⟩ := written_columns noBrackets portable
  let lines := columnLines dialect table.columns
  let phrases : List Phrase :=
    [.keyword "CREATE", .keyword "TABLE", .name dialect table.name, .grouped (lines, joined parts)]
  have writesPhrases : ∀ phrase ∈ phrases, Writes false phrase.1 phrase.2 := by
    simp only [phrases, List.forall_mem_cons]
    refine ⟨.keyword rfl, .keyword rfl, .name noBrackets _, .grouped columns.writes, ?_⟩
    intro phrase none
    cases none
  have writesText := Writes.spaced writesPhrases
  let middle := " " ++ ("TABLE" ++ (" " ++ (dialect.quote table.name ++ (" " ++ ("(" ++ lines)))))
  have shape : " ".intercalate (phrases.map fun phrase => phrase.1) =
      "CREATE" ++ (middle ++ ")") := by
    apply String.toList_inj.mp
    simp [phrases, middle, Phrase.keyword, Phrase.name, Phrase.grouped]
  have spelled : (phrases.flatMap fun phrase => phrase.2) =
      .word "CREATE" false :: .word "TABLE" false :: .word table.name true :: .openParen ::
        (joined parts ++ [.closeParen]) := by
    simp [phrases, Phrase.keyword, Phrase.name, Phrase.grouped]
  rw [shape, spelled] at writesText
  refine ⟨"CREATE" ++ (middle ++ ")"), ?_, writesText.solid rfl, ?_⟩
  · have sameLines : (Ddl.tableLines dialect schema table).map ("  " ++ ·) =
        table.columns.map fun column =>
          "  " ++ Ddl.columnDefinition dialect column.toColumnSpec false := by
      simp only [Ddl.tableLines, unconstrained, List.filterMap_nil, List.append_nil, List.map_map]
      rfl
    unfold Ddl.createTable
    rw [sameLines]
    apply String.toList_inj.mp
    simp [middle, lines, columnLines]
  · have elements : parts.mapM Parser.element? =
        .ok ((creationOf table).columns.map fun column => some (.column column)) := by
      rw [columns.read, creationOf, List.map_map]
      rfl
    rw [Statement.ofText, writesText.tokens]
    exact createTable_read table.name columns.balanced columns.nonempty elements

end

/-- The statement that is read for a foreign key between two columns. -/
def linkOf (name : String) (source : Table) (sourceColumn : Column) (target : Table)
    (targetColumn : Column) : Statement :=
  .alterTable source.name
    [.addConstraint (.foreignKey (some name) [sourceColumn.name]
      { table := target.name, columns := [targetColumn.name] })]

theorem reads_foreignKey
    {dialect : Dialect} (noBrackets : dialect ≠ .sqlServer) {schema : Schema}
    {relationship : RelationshipSpec} {name : String} (named : relationship.name = some name)
    {source target : Table} {sourceColumn targetColumn : Column}
    (ends : schema.endpoints? relationship =
      some ((source, sourceColumn), (target, targetColumn))) :
    ∃ text, Ddl.foreignKey? dialect schema relationship = some (text ++ ";") ∧
      Reads text (linkOf name source sourceColumn target targetColumn) := by
  let phrases : List Phrase :=
    [.keyword "ALTER", .keyword "TABLE", .name dialect source.name, .keyword "ADD",
      .keyword "CONSTRAINT", .name dialect name, .keyword "FOREIGN", .keyword "KEY",
      .grouped (.name dialect sourceColumn.name), .keyword "REFERENCES",
      .name dialect target.name, .grouped (.name dialect targetColumn.name)]
  have quoted {commas : Bool} (name : String) :
      Writes commas (Phrase.name dialect name).1 (Phrase.name dialect name).2 :=
    .name noBrackets name
  have writesPhrases : ∀ phrase ∈ phrases, Writes false phrase.1 phrase.2 := by
    simp only [phrases, List.forall_mem_cons]
    refine ⟨.keyword rfl, .keyword rfl, quoted _, .keyword rfl, .keyword rfl, quoted _,
      .keyword rfl, .keyword rfl, .grouped (quoted _), .keyword rfl, quoted _,
      .grouped (quoted _), ?_⟩
    intro phrase none
    cases none
  have writesText := Writes.spaced writesPhrases
  let middle := " TABLE " ++ (dialect.quote source.name ++ (" ADD CONSTRAINT " ++
    (dialect.quote name ++ (" FOREIGN KEY (" ++ (dialect.quote sourceColumn.name ++
      (") REFERENCES " ++ (dialect.quote target.name ++ (" (" ++
        dialect.quote targetColumn.name))))))))
  have shape : " ".intercalate (phrases.map fun phrase => phrase.1) =
      "ALTER" ++ (middle ++ ")") := by
    apply String.toList_inj.mp
    simp [phrases, middle, Phrase.keyword, Phrase.name, Phrase.grouped]
  rw [shape] at writesText
  refine ⟨"ALTER" ++ (middle ++ ")"), ?_, writesText.solid rfl, ?_⟩
  · rw [Ddl.foreignKey?, ends, named]
    apply congrArg some
    apply String.toList_inj.mp
    simp [middle]
  · rw [Statement.ofText, writesText.tokens]
    exact foreignKey_read source.name name sourceColumn.name target.name targetColumn.name

end SchemaDesign.Sql
