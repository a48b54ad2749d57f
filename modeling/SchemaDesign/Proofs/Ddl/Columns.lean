import SchemaDesign.DataType
import SchemaDesign.Ddl.Definition
import SchemaDesign.Execution.Basic
import SchemaDesign.Proofs.Sql.Writing

/-!
# Definitions of columns that are read again

Which columns are written so that the same column is read again, and that they are.
-/

namespace SchemaDesign

/-- Digits, at least one of them. -/
def IsNumeral (text : String) : Prop :=
  text.toList ≠ [] ∧ ∀ c ∈ text.toList, c.isDigit = true

theorem IsNumeral.isUnsigned {text : String} (numeral : IsNumeral text) :
    Sql.IsUnsigned text.toList :=
  .of_digits numeral.1 numeral.2

/-- A data type of the catalogue, which may have sizes. -/
inductive DataType.Portable : String → Prop where
  | named {name : String} : name ∈ catalog → Portable name
  | sized {name : String} {sizes : List String} :
      name ∈ catalog → (∀ size ∈ sizes, IsNumeral size) →
        Portable (name ++ "(" ++ ",".intercalate sizes ++ ")")

/-- A default value that is a number, which may have a sign, or a literal. -/
inductive ColumnSpec.PortableDefault : String → Prop where
  | number {digits : String} : IsNumeral digits → PortableDefault digits
  | signed {sign : Char} {digits : String} :
      sign = '+' ∨ sign = '-' → IsNumeral digits →
        PortableDefault (String.singleton sign ++ digits)
  | literal (value : String) : PortableDefault (quotedLiteral value)

/-- A column that has nothing a definition in SQL does not say. -/
structure ColumnSpec.Portable (column : ColumnSpec) : Prop where
  dataType : DataType.Portable column.dataType
  default : ∀ value, column.defaultValue = some value → PortableDefault value
  primaryKey : column.isPrimaryKey = true → column.nullable = false ∧ column.isUnique = false
  notIndexed : column.isIndexed = false

namespace Sql

/-- The words that begin the clauses which are written after a type. -/
def clauseKeywords : List String :=
  ["NOT", "DEFAULT", "PRIMARY", "UNIQUE"]

/-- Tokens that begin with a clause, if there are any. -/
def Clausal : List Token → Prop
  | [] => True
  | .word value false :: _ => value ∈ clauseKeywords
  | _ => False

theorem Clausal.cases {tokens : List Token} (clausal : Clausal tokens) :
    tokens = [] ∨ ∃ value ∈ clauseKeywords, ∃ rest, tokens = .word value false :: rest := by
  cases tokens with
  | nil => exact .inl rfl
  | cons token rest =>
      cases token with
      | word value quoted =>
          cases quoted with
          | true => exact False.elim clausal
          | false => exact .inr ⟨value, clausal, rest, rfl⟩
      | _ => exact False.elim clausal

/-! ## Types -/

section

variable {name : String} {tokens after : List Token}

theorem dataTypeAfter_clausal (clausal : Clausal after) :
    Parser.dataTypeAfter name after = .ok (name, after) := by
  rcases clausal.cases with rfl | ⟨value, member, rest, rfl⟩
  · rw [Parser.dataTypeAfter]
    · simp
    · simp
  · have modifier : Parser.isModifierKeyword value = true := by
      have known : ∀ keyword ∈ clauseKeywords, Parser.isModifierKeyword keyword = true := by decide
      exact known value member
    rw [Parser.dataTypeAfter, if_pos modifier]

theorem dataTypeAfter_group {inner rest : List Token}
    (read : Parser.parenthesized (.openParen :: rest) = .ok (inner, after)) :
    Parser.dataTypeAfter name (.openParen :: rest) =
      Parser.dataTypeAfter (name ++ "(" ++ Parser.argumentsText inner ++ ")") after := by
  rw [Parser.dataTypeAfter]
  split
  · next found => cases read.symm.trans found
  · next found =>
      cases read.symm.trans found
      rfl

theorem argumentsText_sizes (sizes : List String) :
    Parser.argumentsText (joined (sizes.map fun size => [.number size])) =
      ",".intercalate sizes := by
  have divided : Parser.parts (joined (sizes.map fun size => [.number size])) =
      sizes.map fun size => [.number size] := by
    apply parts_joined
    · intro part member
      obtain ⟨size, _, rfl⟩ := List.mem_map.mp member
      exact .single Token.noConfusion Token.noConfusion Token.noConfusion
    · intro part member
      obtain ⟨size, _, rfl⟩ := List.mem_map.mp member
      exact List.cons_ne_nil _ _
  have shown : (fun part : List Token => " ".intercalate (part.map Token.text)) ∘
      (fun size => [.number size]) = id := by
    funext size
    simp [Token.text]
  rw [Parser.argumentsText, divided, List.map_map, shown, List.map_id]

end

theorem writes_catalog {commas : Bool} {name : String} (known : name ∈ DataType.catalog) :
    Writes commas name [.word name false] := by
  have plain : ∀ name ∈ DataType.catalog, isPlain name = true := by decide
  exact .word (plain name known)

/-- A type is written as a word and arguments, from which the same type is read. -/
theorem written_dataType {dataType : String} (portable : DataType.Portable dataType) :
    ∃ name arguments, Writes false dataType (.word name false :: arguments) ∧
      ∀ after, Clausal after →
        Parser.dataTypeAfter name (arguments ++ after) = .ok (dataType, after) := by
  cases portable with
  | named known => exact ⟨dataType, [], writes_catalog known, fun _ => dataTypeAfter_clausal⟩
  | @sized name sizes known numerals =>
      let inner := joined (sizes.map fun size => [Token.number size])
      have writesSizes : Writes true (("," ++ "").intercalate (sizes.map id)) inner := by
        apply Writes.intercalate
        · intro text tokens writes
          rwa [String.empty_append]
        · intro size member
          exact .number (numerals size member).isUnsigned
      rw [String.append_empty, List.map_id] at writesSizes
      refine ⟨name, .openParen :: (inner ++ [.closeParen]), ?_, ?_⟩
      · rw [String.append_assoc, String.append_assoc]
        exact (writes_catalog known).append writesSizes.group (parted_append "(" rfl (by decide) _)
      · intro after clausal
        have enclosed : Parser.parenthesized (.openParen :: (inner ++ .closeParen :: after)) =
            .ok (inner, after) := writesSizes.balanced.parenthesized after
        have read : Parser.dataTypeAfter name (.openParen :: (inner ++ .closeParen :: after)) =
            .ok (name ++ "(" ++ ",".intercalate sizes ++ ")", after) := by
          rw [dataTypeAfter_group enclosed, argumentsText_sizes]
          exact dataTypeAfter_clausal clausal
        rwa [List.cons_append, List.append_assoc]

/-! ## Default values -/

theorem written_default {value : String} (portable : ColumnSpec.PortableDefault value) :
    ∃ tokens, Writes false value tokens ∧
      ∀ after, Parser.defaultValue (tokens ++ after) = .ok (value, after) := by
  cases portable with
  | number numeral => exact ⟨_, .number numeral.isUnsigned, fun _ => rfl⟩
  | @signed sign digits isSign numeral =>
      refine ⟨_, .signed isSign numeral.isUnsigned, ?_⟩
      intro after
      rcases isSign with rfl | rfl
      · rfl
      · rfl
  | literal value => exact ⟨_, .literal value, fun _ => rfl⟩

/-! ## Clauses after the type -/

theorem modifiers_cons
    {token : Token} {tokens rest : List Token} {modifier : Modifier}
    (read : Parser.readModifier Parser.modifierReaders (token :: tokens) = .ok (modifier, rest)) :
    Parser.modifiers (token :: tokens) = (Parser.modifiers rest).map (modifier :: ·) := by
  rw [Parser.modifiers]
  split
  · next found => cases read.symm.trans found
  · next found =>
      cases read.symm.trans found
      rfl

/-- A text of clauses, and the modifiers that are read from it. -/
structure Clauses (text : String) (tokens : List Token) (modifiers : List Modifier) : Prop where
  writes : Writes false text tokens
  parted : Parted text.toList
  clausal : ∀ after, Clausal after → Clausal (tokens ++ after)
  reads : ∀ after rest, Clausal after → Parser.modifiers after = .ok rest →
    Parser.modifiers (tokens ++ after) = .ok (modifiers ++ rest)

namespace Clauses

theorem none : Clauses "" [] [] := by
  refine ⟨.empty, trivial, fun _ clausal => clausal, ?_⟩
  intro after rest _ read
  exact read

theorem append
    {left right : String} {tokens more : List Token} {modifiers others : List Modifier}
    (first : Clauses left tokens modifiers) (second : Clauses right more others) :
    Clauses (left ++ right) (tokens ++ more) (modifiers ++ others) := by
  constructor
  · exact first.writes.append second.writes second.parted
  · rw [String.toList_append]
    exact first.parted.append second.parted
  · intro after clausal
    rw [List.append_assoc]
    exact first.clausal _ (second.clausal after clausal)
  · intro after rest clausal read
    rw [List.append_assoc, List.append_assoc]
    exact first.reads _ _ (second.clausal after clausal) (second.reads after rest clausal read)

/-- One clause: a keyword, and what its reader takes. -/
theorem single
    {text keyword : String} {tokens : List Token} {modifier : Modifier}
    (known : keyword ∈ clauseKeywords)
    (writes : Writes false text (.word keyword false :: tokens))
    (reads : ∀ after, Clausal after →
      Parser.readModifier Parser.modifierReaders (.word keyword false :: (tokens ++ after)) =
        .ok (modifier, after)) :
    Clauses (" " ++ text) (.word keyword false :: tokens) [modifier] := by
  constructor
  · exact writes.blank
  · exact parted_append " " rfl (by decide) text
  · intro after _
    exact known
  · intro after rest clausal read
    rw [List.cons_append, modifiers_cons (reads after clausal), read]
    rfl

theorem notNull : Clauses " NOT NULL" [.word "NOT" false, .word "NULL" false] [.notNull] := by
  have writes : Writes false ("NOT" ++ (" " ++ "NULL")) [.word "NOT" false, .word "NULL" false] :=
    (Writes.word rfl).append (Writes.word rfl).blank rfl
  exact single (by decide) writes fun _ _ => rfl

theorem primaryKey :
    Clauses " PRIMARY KEY" [.word "PRIMARY" false, .word "KEY" false] [.primaryKey] := by
  have writes : Writes false ("PRIMARY" ++ (" " ++ "KEY"))
      [.word "PRIMARY" false, .word "KEY" false] :=
    (Writes.word rfl).append (Writes.word rfl).blank rfl
  exact single (by decide) writes fun _ _ => rfl

theorem unique : Clauses " UNIQUE" [.word "UNIQUE" false] [.unique] := by
  have writes : Writes false "UNIQUE" [.word "UNIQUE" false] := .word rfl
  apply single (by decide) writes
  intro after clausal
  have noKey : Parser.skipKeyword "KEY" after = after := by
    rcases clausal.cases with rfl | ⟨value, member, rest, rfl⟩
    · rfl
    · have different : ∀ keyword ∈ clauseKeywords,
          (Token.word keyword false).isKeyword "KEY" = false := by decide
      simp [Parser.skipKeyword, Parser.afterKeywords?, different value member]
  change Except.ok (Modifier.unique, Parser.skipKeyword "KEY" after) = _
  rw [noKey]

theorem default {value : String} (portable : ColumnSpec.PortableDefault value) :
    ∃ tokens, Clauses (" DEFAULT " ++ value) tokens [.default value] := by
  obtain ⟨tokens, writes, reads⟩ := written_default portable
  have word : Writes false "DEFAULT" [.word "DEFAULT" false] := .word rfl
  have whole : Writes false ("DEFAULT" ++ (" " ++ value)) (.word "DEFAULT" false :: tokens) :=
    word.append writes.blank (parted_append " " rfl (by decide) value)
  have shape : " DEFAULT " ++ value = " " ++ ("DEFAULT" ++ (" " ++ value)) := by
    simp [← String.append_assoc]
  refine ⟨.word "DEFAULT" false :: tokens, ?_⟩
  rw [shape]
  apply single (by decide) whole
  intro after _
  have read : Parser.readModifier Parser.modifierReaders
      (.word "DEFAULT" false :: (tokens ++ after)) =
        (Parser.defaultValue (tokens ++ after)).map fun found => (.default found.1, found.2) := rfl
  rw [read, reads after]
  rfl

theorem nullability (column : ColumnSpec) :
    ∃ tokens,
      Clauses (if !column.isPrimaryKey && (!column.nullable || false) then " NOT NULL" else "")
        tokens (if !column.isPrimaryKey && !column.nullable then [.notNull] else []) := by
  rw [Bool.or_false]
  cases !column.isPrimaryKey && !column.nullable with
  | true => exact ⟨_, notNull⟩
  | false => exact ⟨_, none⟩

theorem defaulted {column : ColumnSpec} (portable : column.Portable) :
    ∃ tokens,
      Clauses (match column.defaultValue with
          | some value => " DEFAULT " ++ value
          | .none => "")
        tokens (column.defaultValue.toList.map .default) := by
  cases given : column.defaultValue with
  | none => exact ⟨_, none⟩
  | some value => exact default (portable.default value given)

theorem key (column : ColumnSpec) :
    ∃ tokens,
      Clauses (if column.isPrimaryKey then " PRIMARY KEY" else if column.isUnique then " UNIQUE"
          else "")
        tokens (if column.isPrimaryKey then [.primaryKey] else if column.isUnique then [.unique]
          else []) := by
  cases column.isPrimaryKey with
  | true => exact ⟨_, primaryKey⟩
  | false =>
      cases column.isUnique with
      | true => exact ⟨_, unique⟩
      | false => exact ⟨_, none⟩

end Clauses

/-! ## Columns -/

/-- The definition that is read for a column. -/
def definitionOf (column : ColumnSpec) : ColumnDef :=
  { name := column.name
    dataType := column.dataType
    notNull := !column.isPrimaryKey && !column.nullable
    primaryKey := column.isPrimaryKey
    unique := column.isUnique
    default := column.defaultValue }

theorem columnOf_definitionOf {column : ColumnSpec} (portable : column.Portable) :
    Execution.columnOf (definitionOf column) = { column with isForeignKey := false } := by
  obtain ⟨name, dataType, nullable, defaultValue, isPrimaryKey, isForeignKey, isUnique,
    isIndexed⟩ := column
  obtain ⟨_, _, primary, notIndexed⟩ := portable
  cases notIndexed
  cases isPrimaryKey with
  | false =>
      cases nullable with
      | false => rfl
      | true => rfl
  | true =>
      obtain ⟨notNull, _⟩ := primary rfl
      cases notNull
      rfl

/-- The modifiers that are written after the type of a column. -/
def modifiersOf (column : ColumnSpec) : List Modifier :=
  (if !column.isPrimaryKey && !column.nullable then [.notNull] else []) ++
    (column.defaultValue.toList.map .default ++
      (if column.isPrimaryKey then [.primaryKey] else if column.isUnique then [.unique] else []))

theorem foldl_modifiersOf {column : ColumnSpec} (portable : column.Portable) :
    (modifiersOf column).foldl ColumnDef.modify
      { name := column.name, dataType := column.dataType } = definitionOf column := by
  have primary := portable.primaryKey
  obtain ⟨name, dataType, nullable, defaultValue, isPrimaryKey, isForeignKey, isUnique,
    isIndexed⟩ := column
  cases isPrimaryKey with
  | false => cases nullable <;> cases defaultValue <;> cases isUnique <;> rfl
  | true =>
      cases (primary rfl).2
      cases nullable <;> cases defaultValue <;> rfl

theorem columnDef?_quoted
    (name : String) {dataType word : String} {arguments clauses : List Token}
    {modifiers : List Modifier}
    (typeRead : Parser.dataTypeAfter word (arguments ++ clauses) = .ok (dataType, clauses))
    (clausesRead : Parser.modifiers clauses = .ok modifiers) :
    Parser.columnDef? (.word name true :: .word word false :: (arguments ++ clauses)) =
      .ok (some (modifiers.foldl ColumnDef.modify { name, dataType })) := by
  simp only [Parser.columnDef?, typeRead, clausesRead, bind, Except.bind]
  rfl

/-- A column is written as tokens from which its definition is read. -/
theorem written_column
    {dialect : Dialect} (noBrackets : dialect ≠ .sqlServer) {column : ColumnSpec}
    (portable : column.Portable) :
    ∃ tokens, Writes false (Ddl.columnDefinition dialect column false) tokens ∧ tokens ≠ [] ∧
      Parser.element? tokens = .ok (some (.column (definitionOf column))) := by
  obtain ⟨word, arguments, writesType, readsType⟩ := written_dataType portable.dataType
  obtain ⟨nullTokens, nullability⟩ := Clauses.nullability column
  obtain ⟨defaultTokens, defaulted⟩ := Clauses.defaulted portable
  obtain ⟨keyTokens, key⟩ := Clauses.key column
  have clauses := nullability.append (defaulted.append key)
  let tokens := nullTokens ++ (defaultTokens ++ keyTokens)
  refine ⟨.word column.name true :: .word word false :: (arguments ++ tokens), ?_,
    List.cons_ne_nil _ _, ?_⟩
  · have writesName : Writes false (dialect.quote column.name) [.word column.name true] :=
      .quote noBrackets column.name
    have writesRest := writesType.append clauses.writes clauses.parted
    have whole := writesName.append writesRest.blank (parted_append " " rfl (by decide) _)
    simp only [Ddl.columnDefinition, String.append_assoc]
    exact whole
  · have clausal : Clausal (tokens ++ []) := clauses.clausal [] trivial
    have read : Parser.modifiers (tokens ++ []) = .ok (modifiersOf column ++ []) :=
      clauses.reads [] [] trivial (by rw [Parser.modifiers])
    rw [List.append_nil] at clausal
    rw [List.append_nil, List.append_nil] at read
    have columnRead := columnDef?_quoted column.name (readsType tokens clausal) read
    rw [foldl_modifiersOf portable] at columnRead
    have noConstraint : Parser.isTableConstraint
        (.word column.name true :: .word word false :: (arguments ++ tokens)) = false := rfl
    rw [Parser.element?, noConstraint, columnRead]
    rfl

end Sql

end SchemaDesign
