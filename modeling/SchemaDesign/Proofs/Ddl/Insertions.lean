import SchemaDesign.Ddl.Alteration
import SchemaDesign.Proofs.Ddl.Statements
import SchemaDesign.Proofs.Json.Numerals

/-!
# Rows that are read again

The statement that inserts a row is one statement whatever the names and the values are, and the
columns and the values that were written into it are read from it.
-/

namespace SchemaDesign

namespace Sql

/-! ## Numbers -/

theorem IsUnsigned.pointed
    {whole places exponent : List Char} (nonempty : whole ≠ [])
    (isWhole : ∀ c ∈ whole, c.isDigit = true) (isPlaces : ∀ c ∈ places, c.isDigit = true)
    (isExponent : Lexer.IsExponent exponent) :
    IsUnsigned (whole ++ '.' :: (places ++ exponent)) :=
  ⟨whole, ['.'], places, exponent, nonempty,
    ⟨isWhole, .inl rfl, isPlaces, isExponent, .inl nonempty⟩, by simp⟩

theorem IsUnsigned.scaled
    {whole exponent : List Char} (nonempty : whole ≠ [])
    (isWhole : ∀ c ∈ whole, c.isDigit = true) (isExponent : Lexer.IsExponent exponent) :
    IsUnsigned (whole ++ exponent) :=
  ⟨whole, [], [], exponent, nonempty,
    ⟨isWhole, .inr ⟨rfl, rfl⟩, fun _ member => absurd member List.not_mem_nil, isExponent,
      .inl nonempty⟩, by simp⟩

end Sql

namespace Number.Binary64

/-- The digits of a positive number without the zeros at the end. -/
theorem figures_ne_nil {n : Nat} (positive : 0 < n) :
    (digits n).take
      ((digits n).length - ((digits n).reverse.takeWhile (· == '0')).length) ≠ [] := by
  -- If nothing were left, all digits would be zeros, and the first one is none.
  intro none
  have zeros : (digits n).reverse.takeWhile (· == '0') = (digits n).reverse := by
    apply (List.takeWhile_prefix _).eq_of_length_le
    rw [List.take_eq_nil_iff, or_iff_left (digits_ne_nil n)] at none
    rw [List.length_reverse]
    omega
  obtain ⟨first, rest, shape⟩ := List.exists_cons_of_ne_nil (digits_ne_nil n)
  have member : first ∈ (digits n).reverse := by
    rw [List.mem_reverse, shape]
    exact List.mem_cons_self
  have zero : first = '0' := by
    rw [← zeros] at member
    simpa using List.mem_takeWhile_imp member
  apply head?_digits positive
  rw [shape, zero, List.head?_cons]

theorem isDigit_of_mem_zeros (count : Nat) : ∀ c ∈ List.replicate count '0', c.isDigit = true := by
  intro c member
  rw [List.eq_of_mem_replicate member]
  rfl

/-- Figures with a point after the first one, if there are more. -/
def mantissa : List Char → List Char
  | [] => []
  | [d] => [d]
  | d :: rest => d :: '.' :: rest

section

variable {figures : List Char} (nonempty : figures ≠ [])
  (isFigures : ∀ c ∈ figures, c.isDigit = true)

include nonempty isFigures

theorem isUnsigned_positional (count : Nat) :
    Sql.IsUnsigned (figures.take (count + 1) ++
      '.' :: (if (figures.drop (count + 1)).isEmpty then ['0'] else figures.drop (count + 1))) := by
  have whole : figures.take (count + 1) ≠ [] := by simp [nonempty]
  have isWhole : ∀ c ∈ figures.take (count + 1), c.isDigit = true :=
    fun c member => isFigures c (List.mem_of_mem_take member)
  have places : ∀ c ∈ figures.drop (count + 1), c.isDigit = true :=
    fun c member => isFigures c (List.mem_of_mem_drop member)
  split
  · exact .pointed whole isWhole (isDigit_of_mem_zeros 1) .none
  · have text := Sql.IsUnsigned.pointed whole isWhole places .none
    rwa [List.append_nil] at text

theorem isUnsigned_exponential (exponent : Int) :
    Sql.IsUnsigned (mantissa figures ++
      'e' :: (if exponent < 0 then '-' else '+') :: digits exponent.natAbs) := by
  have isExponent : Sql.Lexer.IsExponent
      ('e' :: (if exponent < 0 then '-' else '+') :: digits exponent.natAbs) := by
    have sign : [if exponent < 0 then '-' else '+'] ∈ [[], ['+'], ['-']] := by
      split <;> decide
    exact .some (.inl rfl) sign (digits_ne_nil _) fun _ => isDigit_of_mem_digits
  cases figures with
  | nil => exact absurd rfl nonempty
  | cons d rest =>
      have whole : ∀ c ∈ [d], c.isDigit = true := by
        simpa using isFigures d List.mem_cons_self
      have places : ∀ c ∈ rest, c.isDigit = true :=
        fun c member => isFigures c (List.mem_cons_of_mem d member)
      cases rest with
      | nil => exact .scaled (List.cons_ne_nil d []) whole isExponent
      | cons next rest => exact .pointed (List.cons_ne_nil d []) whole places isExponent

end

/-- The text of a decimal has digits first, whatever its exponent is. -/
theorem isUnsigned_digitsText (d : Digits) : Sql.IsUnsigned d.text := by
  have zero := isDigit_of_mem_zeros 1
  rw [Digits.text]
  dsimp only
  split
  · exact .pointed (List.cons_ne_nil '0' []) zero zero .none
  · rename_i nonzero
    have nonempty := figures_ne_nil (Nat.pos_of_ne_zero nonzero)
    have isFigures : ∀ c ∈ (digits d.significand).take ((digits d.significand).length -
        ((digits d.significand).reverse.takeWhile (· == '0')).length), c.isDigit = true :=
      fun c member => isDigit_of_mem_digits (List.mem_of_mem_take member)
    generalize (digits d.significand).take ((digits d.significand).length -
        ((digits d.significand).reverse.takeWhile (· == '0')).length) = figures
      at nonempty isFigures ⊢
    split
    · have places (count : Nat) : ∀ c ∈ List.replicate count '0' ++ figures, c.isDigit = true :=
        List.forall_mem_append.mpr ⟨isDigit_of_mem_zeros count, isFigures⟩
      have text (count : Nat) :=
        Sql.IsUnsigned.pointed (List.cons_ne_nil '0' []) zero (places count) .none
      simpa using text _
    · split
      · exact isUnsigned_positional (List.append_ne_nil_of_left_ne_nil nonempty _)
          (List.forall_mem_append.mpr ⟨isFigures, isDigit_of_mem_zeros _⟩) _
      · exact isUnsigned_exponential nonempty isFigures _

end Number.Binary64

namespace Sql

/-! ## What is read -/

/-- A value of a row as a database understands it. -/
inductive Cell where
  | null
  | truth (value : Bool)
  | number (numeral : String)
  | text (value : String)
deriving DecidableEq

namespace Cell

/-- The cell for a value of a row; an array or an object is kept as its JSON text. -/
def of : Json → Cell
  | .null => .null
  | .bool value => .truth value
  | .integer n => .number (Json.integer n).compact
  | .float x => .number (Json.float x).compact
  | .string value => .text value
  | value => .text value.compact

/-- The cell that some tokens stand for. -/
def ofTokens? : List Token → Option Cell
  | [.word value false] =>
      if value = "NULL" then some .null
      else if value = "TRUE" then some (.truth true)
      else if value = "FALSE" then some (.truth false)
      else none
  | [.number digits] => some (.number digits)
  | [.other sign, .number digits] =>
      if sign = "-" then some (.number ("-" ++ digits)) else none
  | [.literal value] => some (.text value)
  | _ => none

end Cell

/-- A row for a table: columns with their values. -/
structure Insertion where
  table : String
  entries : List (String × Cell)
deriving DecidableEq

namespace Insertion

/-- The name of a column that is a part of a list by itself. -/
def column? : List Token → Option String
  | [.word value _] => some value
  | _ => none

/-- The insertion that is read from tokens: a table, a list of columns and as many values. -/
def ofTokens? (tokens : List Token) : Option Insertion := do
  let rest ← Parser.afterKeywords? ["INSERT", "INTO"] tokens
  let (table, rest) ← (Parser.identifier rest).toOption
  let (columnList, rest) ← (Parser.parenthesized rest).toOption
  let rest ← Parser.afterKeywords? ["VALUES"] rest
  let (valueList, rest) ← (Parser.parenthesized rest).toOption
  let columns ← (Parser.parts columnList).mapM column?
  let cells ← (Parser.parts valueList).mapM Cell.ofTokens?
  if rest.isEmpty && columns.length == cells.length then
    some { table, entries := columns.zip cells }
  else none

/-- The insertion that a text is read as. -/
def ofText? (text : String) : Option Insertion :=
  (tokens text).toOption.bind ofTokens?

end Insertion

/-! ## One statement -/

/-- A text that is cut as it stands is the only statement of a script in which a semicolon follows
it. -/
theorem statements_solid {text : String} (solid : Solid text.toList) :
    statements (text ++ ";") =
      [{ text
         start := { line := 1, column := 1, offset := 0 }
         finish := .ofOffset (text ++ ";").toList (byteLength text.toList)
         terminated := true }] := by
  obtain ⟨c, body, shape, notBlank, noDash, noSlash⟩ := solid.begins
  obtain ⟨start, last, ends, lastNotBlank⟩ := solid.ends
  have cut : pieces .code (text ++ ";").toList = [text.toList, []] := by
    have semicolon : pieces .code (';' :: []) = [[], []] := by simp [pieces]
    rw [String.toList_append]
    change pieces .code (text.toList ++ [';']) = _
    rw [solid.closed, semicolon, prependText_cons, List.append_nil]
  have found : meaningful? text.toList = some text.toList := by
    rw [shape]
    exact meaningful?_of_begins notBlank (absurd · noDash) (absurd · noSlash)
  have trimmed : Text.trimEnd text.toList = text.toList := by
    rw [ends, Text.trimEnd, List.reverse_append]
    simp [lastNotBlank]
  have nothing : meaningful? [] = none := by
    rw [meaningful?]
    rfl
  have first : SourcePosition.ofOffset (text ++ ";").toList 0 =
      { line := 1, column := 1, offset := 0 } := by
    rw [String.toList_append, shape]
    rfl
  rw [statements, cut, statementsFrom, statementOf?, found, statementsFrom, statementOf?, nothing,
    Option.map_some, Option.map_none, trimmed, Nat.sub_self, Nat.add_zero, Nat.zero_add, first,
    String.ofList_toList]
  rfl

/-! ## Values -/

/-- A text is written as tokens that stand for a cell. -/
structure WritesCell (text : String) (cell : Cell) (tokens : List Token) : Prop where
  writes : Writes false text tokens
  nonempty : tokens ≠ []
  read : Cell.ofTokens? tokens = some cell

theorem exists_writesCell_number
    (negative : Bool) {digits : List Char} (unsigned : IsUnsigned digits) :
    let text := String.ofList ((if negative then ['-'] else []) ++ digits)
    ∃ tokens, WritesCell text (.number text) tokens := by
  have isUnsigned : IsUnsigned (String.ofList digits).toList := by rwa [String.toList_ofList]
  intro text
  cases negative with
  | true =>
      have shape : text = String.singleton '-' ++ String.ofList digits := by
        apply String.toList_inj.mp
        simp [text]
      refine ⟨[.other "-", .number (String.ofList digits)], ?_, List.cons_ne_nil _ _, ?_⟩
      · rw [shape]
        exact .signed (.inr rfl) isUnsigned
      · rw [shape]
        rfl
  | false => exact ⟨[.number text], .number isUnsigned, List.cons_ne_nil _ _, rfl⟩

/-- Every value is written as tokens that stand for it. -/
theorem exists_writesCell (value : Json) :
    ∃ tokens, WritesCell (Ddl.literal value) (.of value) tokens := by
  have quoted (text : String) : WritesCell (quotedLiteral text) (.text text) [.literal text] :=
    ⟨.literal text, List.cons_ne_nil _ _, rfl⟩
  have word {text : String} {cell : Cell} (plain : isPlain text = true)
      (read : Cell.ofTokens? [.word text false] = some cell) :
      WritesCell text cell [.word text false] :=
    ⟨.word plain, List.cons_ne_nil _ _, read⟩
  cases value with
  | null => exact ⟨_, word rfl rfl⟩
  | bool value =>
      cases value with
      | true => exact ⟨_, word rfl rfl⟩
      | false => exact ⟨_, word rfl rfl⟩
  | integer n =>
      have unsigned : IsUnsigned (Number.digits n.natAbs) :=
        .of_digits (Number.digits_ne_nil _) fun _ => Number.isDigit_of_mem_digits
      have shape : (Json.integer n).compact =
          String.ofList ((if decide (n < 0) then ['-'] else []) ++ Number.digits n.natAbs) := by
        rw [Json.compact, Json.compactText, Json.integerText]
        by_cases negative : n < 0
        · simp [negative]
        · simp [negative]
      change ∃ tokens, WritesCell (Json.integer n).compact (.number (Json.integer n).compact) tokens
      rw [shape]
      exact exists_writesCell_number (n < 0) unsigned
  | float x =>
      have shape : (Json.float x).compact = x.text := String.ofList_toList
      change ∃ tokens, WritesCell (Json.float x).compact (.number (Json.float x).compact) tokens
      rw [shape]
      exact exists_writesCell_number x.negative (Number.Binary64.isUnsigned_digitsText x.shortest)
  | string text => exact ⟨_, quoted text⟩
  | array items => exact ⟨_, quoted _⟩
  | object members => exact ⟨_, quoted _⟩

/-! ## Rows -/

/-- An insertion is read from the tokens that its names and values are written as. -/
theorem Insertion.ofTokens?_joined
    (table : String) {entries : List (String × Json)} {tokens : Json → List Token}
    (written : ∀ value, WritesCell (Ddl.literal value) (.of value) (tokens value)) :
    ofTokens?
        (.word "INSERT" false :: .word "INTO" false :: .word table true :: .openParen ::
          (joined (entries.map fun entry => [.word entry.1 true]) ++ .closeParen ::
            .word "VALUES" false :: .openParen ::
              (joined (entries.map fun entry => tokens entry.2) ++ [.closeParen]))) =
      some { table, entries := entries.map fun entry => (entry.1, .of entry.2) } := by
  have names : ∀ part ∈ entries.map fun entry => [Token.word entry.1 true],
      Balanced false part ∧ part ≠ [] := by
    intro part member
    obtain ⟨entry, _, rfl⟩ := List.mem_map.mp member
    exact ⟨.single Token.noConfusion Token.noConfusion Token.noConfusion, List.cons_ne_nil _ _⟩
  have values : ∀ part ∈ entries.map fun entry => tokens entry.2,
      Balanced false part ∧ part ≠ [] := by
    intro part member
    obtain ⟨entry, _, rfl⟩ := List.mem_map.mp member
    exact ⟨(written entry.2).writes.balanced, (written entry.2).nonempty⟩
  have columnRead : (entries.map fun entry => [Token.word entry.1 true]).mapM column? =
      some (entries.map fun entry => entry.1) := by
    rw [List.mapM_map]
    exact mapM_eq_pure fun _ _ => rfl
  have valueRead : (entries.map fun entry => tokens entry.2).mapM Cell.ofTokens? =
      some (entries.map fun entry => Cell.of entry.2) := by
    rw [List.mapM_map]
    exact mapM_eq_pure fun entry _ => (written entry.2).read
  have namesBetween := (balanced_joined fun part member => (names part member).1).parenthesized
    (.word "VALUES" false :: .openParen ::
      (joined (entries.map fun entry => tokens entry.2) ++ [.closeParen]))
  have valuesBetween := (balanced_joined fun part member => (values part member).1).parenthesized []
  have keywords (rest : List Token) : Parser.afterKeywords? ["INSERT", "INTO"]
      (.word "INSERT" false :: .word "INTO" false :: rest) = some rest := rfl
  have keyword (rest : List Token) : Parser.afterKeywords? ["VALUES"]
      (.word "VALUES" false :: rest) = some rest := rfl
  have namesDivided := parts_joined (fun part member => (names part member).1)
    fun part member => (names part member).2
  have valuesDivided := parts_joined (fun part member => (values part member).1)
    fun part member => (values part member).2
  have paired : (entries.map fun entry => entry.1).zip (entries.map fun entry => Cell.of entry.2) =
      entries.map fun entry => (entry.1, .of entry.2) := List.zip_map'
  simp only [ofTokens?, keywords, keyword, Parser.identifier, namesBetween, valuesBetween,
    namesDivided, valuesDivided, columnRead, valueRead, paired, Except.toOption,
    Option.bind_eq_bind, Option.bind_some, List.length_map, List.isEmpty_nil, beq_self_eq_true,
    Bool.and_self, if_true]

end Sql

namespace Ddl

open Sql (Cell Insertion Phrase Writes WritesCell joined)

/-- The text of an insertion without its semicolon is written as tokens. -/
theorem exists_writes_insertion
    {dialect : Dialect} (noBrackets : dialect ≠ .sqlServer) (name : String)
    (entries : List (String × Json)) {tokens : Json → List Sql.Token}
    (written : ∀ value, WritesCell (literal value) (.of value) (tokens value)) :
    ∃ middle,
      "INSERT INTO " ++ dialect.quote name ++ " (" ++ dialect.quoteList (entries.map Prod.fst) ++
          ") VALUES (" ++ ", ".intercalate (entries.map fun entry => literal entry.2) ++ ");" =
        "INSERT" ++ (middle ++ ")") ++ ";" ∧
      Writes false ("INSERT" ++ (middle ++ ")"))
        (.word "INSERT" false :: .word "INTO" false :: .word name true :: .openParen ::
          (joined (entries.map fun entry => [.word entry.1 true]) ++ .closeParen ::
            .word "VALUES" false :: .openParen ::
              (joined (entries.map fun entry => tokens entry.2) ++ [.closeParen]))) := by
  let columns : Phrase :=
    (dialect.quoteList (entries.map Prod.fst),
      joined (entries.map fun entry => [.word entry.1 true]))
  let values : Phrase :=
    (", ".intercalate (entries.map fun entry => literal entry.2),
      joined (entries.map fun entry => tokens entry.2))
  have writesColumns : Writes true columns.1 columns.2 := by
    have list := Writes.intercalate Writes.blank entries (dialect.quote ∘ Prod.fst)
      (fun entry => [.word entry.1 true]) fun entry _ => .quote noBrackets entry.1
    rwa [← List.map_map] at list
  have writesValues : Writes true values.1 values.2 :=
    Writes.intercalate Writes.blank entries (fun entry => literal entry.2)
      (fun entry => tokens entry.2) fun entry _ => (written entry.2).writes
  let phrases : List Phrase :=
    [.keyword "INSERT", .keyword "INTO", .name dialect name, columns.grouped, .keyword "VALUES",
      values.grouped]
  have writesPhrases : ∀ phrase ∈ phrases, Writes false phrase.1 phrase.2 := by
    simp only [phrases, List.forall_mem_cons]
    refine ⟨.keyword rfl, .keyword rfl, .name noBrackets _, .grouped writesColumns, .keyword rfl,
      .grouped writesValues, ?_⟩
    intro phrase none
    cases none
  have writesText := Writes.spaced writesPhrases
  let middle :=
    " INTO " ++ (dialect.quote name ++ (" (" ++ (columns.1 ++ (") VALUES (" ++ values.1))))
  have shape : " ".intercalate (phrases.map fun phrase => phrase.1) =
      "INSERT" ++ (middle ++ ")") := by
    apply String.toList_inj.mp
    simp [phrases, middle, Phrase.keyword, Phrase.name, Phrase.grouped]
  have spelled : (phrases.flatMap fun phrase => phrase.2) =
      .word "INSERT" false :: .word "INTO" false :: .word name true :: .openParen ::
        (columns.2 ++ .closeParen :: .word "VALUES" false :: .openParen ::
          (values.2 ++ [.closeParen])) := by
    simp [phrases, Phrase.keyword, Phrase.name, Phrase.grouped]
  rw [shape, spelled] at writesText
  refine ⟨middle, ?_, writesText⟩
  apply String.toList_inj.mp
  simp [middle, columns, values]

/-- The statement that inserts a row is one statement and ends with its semicolon, whatever quotes,
semicolons and comments its names and values have; and it is read as an insertion into the table of
the columns that the row has a value for, in the table's order, each with its value. -/
theorem insertRow?_reads
    {dialect : Dialect} (noBrackets : dialect ≠ .sqlServer) {table : Table} {row : Row}
    {sql : String} (written : insertRow? dialect table row = some sql) :
    ∃ text, sql = text ++ ";" ∧
      Sql.statements sql =
        [{ text
           start := { line := 1, column := 1, offset := 0 }
           finish := .ofOffset sql.toList (Sql.byteLength text.toList)
           terminated := true }] ∧
      Insertion.ofText? text =
        some
          { table := table.name
            entries := table.columns.filterMap fun column =>
              (row.get? column.name).map fun value => (column.name, .of value) } := by
  choose tokens cells using Sql.exists_writesCell
  obtain ⟨middle, shape, writes⟩ :=
    exists_writes_insertion noBrackets table.name (insertedValues table row) cells
  have same : sql = "INSERT" ++ (middle ++ ")") ++ ";" := by
    rw [insertRow?] at written
    split at written
    · cases written
    · rw [← shape]
      exact (Option.some.inj written).symm
  have entries : ((insertedValues table row).map fun entry => (entry.1, Cell.of entry.2)) =
      table.columns.filterMap fun column =>
        (row.get? column.name).map fun value => (column.name, .of value) := by
    rw [insertedValues, List.map_filterMap]
    simp only [Option.map_map]
    rfl
  refine ⟨"INSERT" ++ (middle ++ ")"), same, ?_, ?_⟩
  · rw [same]
    exact Sql.statements_solid (writes.solid rfl)
  · rw [Insertion.ofText?, writes.tokens]
    exact (Insertion.ofTokens?_joined table.name cells).trans (by rw [entries])

/-- The names and the values of a row have quotes, semicolons and comments in them. -/
theorem insertRow?_reads_odd_row :
    let table : Table :=
      { (default : Table) with
        name := "a;\"b"
        columns :=
          [{ id := ⟨0⟩, name := "x--", dataType := "TEXT" },
            { id := ⟨1⟩, name := "it's", dataType := "JSON" },
            { id := ⟨2⟩, name := "unknown", dataType := "INT" },
            { id := ⟨3⟩, name := "n", dataType := "DOUBLE" }] }
    let row : Row :=
      { entries :=
          [("it's", .array [.string "';", .null]),
            ("n", .float { negative := true, significand := 2 ^ 52, exponent := 18 }),
            ("x--", .string "'); DROP TABLE users; /*")]
        ordered := by decide +kernel }
    ∃ text, insertRow? .postgreSql table row = some (text ++ ";") ∧
      (Sql.statements (text ++ ";")).map (fun statement => statement.text) = [text] ∧
      Insertion.ofText? text =
        some
          { table := "a;\"b"
            entries :=
              [("x--", .text "'); DROP TABLE users; /*"), ("it's", .text "[\"';\",null]"),
                ("n", .number "-1.1805916207174113e+21")] } := by
  intro table row
  obtain ⟨sql, written⟩ : ∃ sql, insertRow? .postgreSql table row = some sql :=
    Option.isSome_iff_exists.mp (by decide +kernel)
  obtain ⟨text, rfl, statements, read⟩ := insertRow?_reads (by decide) written
  refine ⟨text, written, by rw [statements]; rfl, read.trans ?_⟩
  decide +kernel

end Ddl

end SchemaDesign
