import SchemaDesign.Ddl.Definition
import SchemaDesign.Proofs.Sql.Pieces
import SchemaDesign.Proofs.Sql.Writing

/-!
# The columns that indexes begin with

The first column of an index is read off the statement that creates it, by the rule of the dialect
that a closing quote inside a quoted name is doubled.
-/

namespace SchemaDesign

/-- The name in quotes at the start of a text, and what follows it. -/
def Dialect.quoted? (dialect : Dialect) (text : List Char) : Option (String × List Char) := do
  let inner ← Text.afterStart? [dialect.quotes.1] text
  let (name, rest) ← Sql.readQuoted? dialect.quotes.2 inner
  return (String.ofList name, rest)

theorem Dialect.quoted?_quote
    (dialect : Dialect) (name : String) {rest : List Char}
    (next : rest.head? ≠ some dialect.quotes.2) :
    dialect.quoted? ((dialect.quote name).toList ++ rest) = some (name, rest) := by
  have shape : (dialect.quote name).toList ++ rest =
      [dialect.quotes.1] ++ (name.toList.flatMap
        (fun c => if c = dialect.quotes.2 then [dialect.quotes.2, dialect.quotes.2] else [c]) ++
          [dialect.quotes.2] ++ rest) := by
    simp [quote, Sql.Writes.toList_doubled]
  rw [quoted?, shape, Text.afterStart?_self]
  simp only [Option.bind_eq_bind, Option.bind_some]
  rw [Sql.Lexer.readQuoted?_quotedText _ _ next]
  simp

namespace Ddl

/-- The name in quotes after a start of a text, and what follows it. -/
def quotedAfter? (dialect : Dialect) (start : String) (text : List Char) :
    Option (String × List Char) :=
  (Text.afterStart? start.toList text).bind dialect.quoted?

/-- The first column of the index that a statement creates. -/
def leadingColumn? (dialect : Dialect) (statement : String) : Option String := do
  let created ← Text.afterStart? "CREATE ".toList statement.toList
  let index := (Text.afterStart? "UNIQUE ".toList created).getD created
  let (_, rest) ← quotedAfter? dialect "INDEX " index
  let (_, rest) ← quotedAfter? dialect " ON " rest
  let (column, _) ← quotedAfter? dialect " (" rest
  return column

theorem quotedAfter?_quote
    (dialect : Dialect) (start name : String) {rest : List Char}
    (next : rest.head? ≠ some dialect.quotes.2) :
    quotedAfter? dialect start (start.toList ++ ((dialect.quote name).toList ++ rest)) =
      some (name, rest) := by
  rw [quotedAfter?, Text.afterStart?_self]
  exact dialect.quoted?_quote name next

/-- Listed names begin with the first one, and what follows it is no quote. -/
theorem exists_quoteList (dialect : Dialect) (name : String) (names : List String) :
    ∃ rest, (dialect.quoteList (name :: names)).toList ++ [')', ';'] =
        (dialect.quote name).toList ++ rest ∧
      rest.head? ≠ some dialect.quotes.2 := by
  have apart : ',' ≠ dialect.quotes.2 ∧ ')' ≠ dialect.quotes.2 := by
    cases dialect <;> decide
  cases names with
  | nil =>
      refine ⟨[')', ';'], by simp [Dialect.quoteList], ?_⟩
      simpa using apart.2
  | cons next names =>
      refine ⟨", ".toList ++ ((dialect.quoteList (next :: names)).toList ++ [')', ';']), ?_, ?_⟩
      · simp [Dialect.quoteList]
      · simpa using apart.1

/-- No index begins with anything if the list of its columns is empty. -/
theorem quotedAfter?_quoteList (dialect : Dialect) (columns : List String) :
    (quotedAfter? dialect " (" (" (".toList ++ ((dialect.quoteList columns).toList ++
      [')', ';']))).map Prod.fst = columns.head? := by
  cases columns with
  | nil =>
      have apart : dialect.quotes.1 ≠ ')' := by
        cases dialect <;> decide
      simp [quotedAfter?, Dialect.quoted?, Dialect.quoteList, Text.afterStart?, apart]
  | cons name names =>
      obtain ⟨rest, listed, next⟩ := exists_quoteList dialect name names
      rw [listed, quotedAfter?_quote dialect " (" name next]
      rfl

theorem leadingColumn?_createIndex
    (dialect : Dialect) (tableName : String) (index : IndexSpec) :
    leadingColumn? dialect (createIndex dialect tableName index) = index.columns.head? := by
  let columns := " (".toList ++ ((dialect.quoteList index.columns).toList ++ [')', ';'])
  let table := " ON ".toList ++ ((dialect.quote tableName).toList ++ columns)
  let name := "INDEX ".toList ++ ((dialect.quote index.name).toList ++ table)
  have shape : (createIndex dialect tableName index).toList =
      "CREATE ".toList ++ ((if index.isUnique then "UNIQUE " else "").toList ++ name) := by
    simp [createIndex, name, table, columns]
  have indexed : (Text.afterStart? "UNIQUE ".toList
      ((if index.isUnique then "UNIQUE " else "").toList ++ name)).getD
        ((if index.isUnique then "UNIQUE " else "").toList ++ name) = name := by
    cases index.isUnique with
    | true =>
        rw [if_pos rfl, Text.afterStart?_self]
        rfl
    | false => rfl
  have blank : ' ' ≠ dialect.quotes.2 := by
    cases dialect <;> decide
  have named : quotedAfter? dialect "INDEX " name = some (index.name, table) :=
    quotedAfter?_quote dialect "INDEX " index.name (by simpa [table] using blank)
  have owned : quotedAfter? dialect " ON " table = some (tableName, columns) :=
    quotedAfter?_quote dialect " ON " tableName (by simpa [columns] using blank)
  rw [leadingColumn?, shape, Text.afterStart?_self]
  simp only [Option.bind_eq_bind, Option.bind_some, indexed, named, owned]
  rw [← quotedAfter?_quoteList dialect index.columns]
  exact (Option.map_eq_bind ..).symm

end Ddl

end SchemaDesign
