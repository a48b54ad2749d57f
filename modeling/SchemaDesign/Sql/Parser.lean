import SchemaDesign.Sql.Statement

/-!
# Reading statements

How tokens are read as a statement.  Each reader takes tokens away from the front and answers with
those left, which are never more; what has to be read to its end fails if tokens are left over.
-/

namespace SchemaDesign.Sql

namespace Parser

/-- The error of finding something else than expected at the front of some tokens. -/
def unexpected (expected : String) : List Token → DdlError
  | token :: _ => .unexpectedToken expected token.text
  | [] => .unexpectedEnd expected

/-- What follows some keywords at the front, if all of them are there. -/
def afterKeywords? : List String → List Token → Option (List Token)
  | [], tokens => some tokens
  | _ :: _, [] => none
  | keyword :: keywords, token :: tokens =>
      if token.isKeyword keyword then afterKeywords? keywords tokens else none

/-- What follows the first of some sequences of keywords that is at the front. -/
def afterAny? (sequences : List (List String)) (tokens : List Token) : Option (List Token) :=
  sequences.findSome? fun keywords => afterKeywords? keywords tokens

/-- What follows a keyword that may be at the front. -/
def skipKeyword (keyword : String) (tokens : List Token) : List Token :=
  (afterKeywords? [keyword] tokens).getD tokens

/-- Demands that no token is left. -/
def atEnd (result : α) : List Token → Except DdlError α
  | [] => .ok result
  | token :: _ => .error (.unexpectedToken "end of statement" token.text)

/-- A name. -/
def identifier : List Token → Except DdlError (String × List Token)
  | .word value _ :: rest => .ok (value, rest)
  | tokens => .error (unexpected "identifier" tokens)

/-- The last of several names with periods between them, when the first has been read. -/
def objectNameAfter (name : String) : List Token → Except DdlError (String × List Token)
  | .period :: .word value _ :: rest => objectNameAfter value rest
  | .period :: rest => .error (unexpected "identifier" rest)
  | tokens => .ok (name, tokens)

/-- A name, which may have the names of a schema and a database before it; these are not kept. -/
def objectName (tokens : List Token) : Except DdlError (String × List Token) := do
  let (name, rest) ← identifier tokens
  objectNameAfter name rest

/-! ## Parentheses -/

/-- The tokens up to the parenthesis that closes an opened one, in which some more are open, and the
tokens after it. -/
def enclosed? : Nat → List Token → Option (List Token × List Token)
  | _, [] => none
  | inner, token :: rest =>
      match token, inner with
      | .openParen, _ => (enclosed? (inner + 1) rest).map fun found => (token :: found.1, found.2)
      | .closeParen, 0 => some ([], rest)
      | .closeParen, inner + 1 =>
          (enclosed? inner rest).map fun found => (token :: found.1, found.2)
      | _, _ => (enclosed? inner rest).map fun found => (token :: found.1, found.2)

/-- The tokens between parentheses. -/
def parenthesized : List Token → Except DdlError (List Token × List Token)
  | .openParen :: rest =>
      match enclosed? 0 rest with
      | some found => .ok found
      | none => .error (.unexpectedEnd ")")
  | tokens => .error (unexpected "(" tokens)

/-- The parts of some tokens between the commas outside parentheses, when some parentheses are
open. -/
def partsFrom : Nat → List Token → List (List Token)
  | _, [] => [[]]
  | depth, token :: rest =>
      if token = .comma ∧ depth = 0 then [] :: partsFrom 0 rest
      else
        let depth :=
          if token = .openParen then depth + 1
          else if token = .closeParen then depth - 1
          else depth
        match partsFrom depth rest with
        | [] => [[token]]
        | part :: parts => (token :: part) :: parts

/-- The parts of some tokens between the commas outside parentheses, but for empty ones. -/
def parts (tokens : List Token) : List (List Token) :=
  (partsFrom 0 tokens).filter fun part => !part.isEmpty

/-- The name at the front of a part of a column list; what follows it is not kept. -/
def listedColumn : List Token → Except DdlError String
  | .word value _ :: _ => .ok value
  | tokens => .error (unexpected "column name" tokens)

/-- A list of columns in parentheses. -/
def columnList (tokens : List Token) : Except DdlError (List String × List Token) := do
  let (inner, rest) ← parenthesized tokens
  let columns ← (parts inner).mapM listedColumn
  return (columns, rest)

/-! ## Columns -/

/-- The words that end a column's type and begin its modifiers. -/
def modifierKeywords : List String :=
  ["NOT", "NULL", "PRIMARY", "UNIQUE", "DEFAULT", "AUTO_INCREMENT", "AUTOINCREMENT", "REFERENCES",
    "CHECK", "COMMENT", "COLLATE", "CHARACTER", "CONSTRAINT", "GENERATED", "ON"]

/-- Whether a word ends a column's type. -/
def isModifierKeyword (word : String) : Bool :=
  modifierKeywords.any fun keyword => Text.same word keyword

/-- The arguments of a type as they are kept: without blanks around commas. -/
def argumentsText (inner : List Token) : String :=
  ",".intercalate ((parts inner).map fun part => " ".intercalate (part.map Token.text))

/-- What ends a foreign key's action. -/
def afterAction? (tokens : List Token) : Option (List Token) :=
  afterAny? [["CASCADE"], ["RESTRICT"], ["SET", "NULL"], ["SET", "DEFAULT"], ["NO", "ACTION"]]
    tokens

/-- Skips what happens to a foreign key when its target is deleted or updated. -/
def skipAction (tokens : List Token) : Except DdlError (List Token) :=
  match afterAny? [["DELETE"], ["UPDATE"]] tokens with
  | none => .error (unexpected "DELETE or UPDATE" tokens)
  | some rest =>
      match afterAction? rest with
      | none => .error (unexpected "referential action" rest)
      | some rest => .ok rest

/-- A default value: a number with a sign, a literal, a word, a call, or an expression in
parentheses. -/
def defaultValue (tokens : List Token) : Except DdlError (String × List Token) :=
  match tokens with
  | [] => .error (.unexpectedEnd "default value")
  | .number digits :: rest => .ok (digits, rest)
  | .literal value :: rest => .ok ((Token.literal value).text, rest)
  | .word value _ :: .openParen :: rest => do
      let (inner, rest) ← parenthesized (.openParen :: rest)
      return (value ++ "(" ++ Token.render inner ++ ")", rest)
  | .word value _ :: rest => .ok (value, rest)
  | .openParen :: rest => do
      let (inner, rest) ← parenthesized (.openParen :: rest)
      return ("(" ++ Token.render inner ++ ")", rest)
  | .other sign :: rest =>
      if sign = "-" ∨ sign = "+" then
        match rest with
        | .number digits :: rest => .ok (sign ++ digits, rest)
        | _ => .error (.unexpectedToken "number" sign)
      else .error (.unexpectedToken "default value" sign)
  | token :: _ => .error (.unexpectedToken "default value" token.text)

/-! ## Readers take tokens away -/

theorem length_of_afterKeywords?
    {keywords : List String} {tokens after : List Token}
    (found : afterKeywords? keywords tokens = some after) :
    after.length + keywords.length = tokens.length := by
  induction keywords generalizing tokens with
  | nil => simp_all [afterKeywords?]
  | cons keyword keywords induction =>
      cases tokens with
      | nil => simp [afterKeywords?] at found
      | cons token tokens =>
          simp only [afterKeywords?] at found
          split at found
          · have := induction found
            simp only [List.length_cons]
            omega
          · simp at found

theorem length_of_afterAny?
    {sequences : List (List String)} {tokens after : List Token}
    (found : afterAny? sequences tokens = some after) : after.length ≤ tokens.length := by
  obtain ⟨keywords, _, found⟩ := List.exists_of_findSome?_eq_some found
  have := length_of_afterKeywords? found
  omega

theorem length_of_skipKeyword (keyword : String) (tokens : List Token) :
    (skipKeyword keyword tokens).length ≤ tokens.length := by
  simp only [skipKeyword]
  cases found : afterKeywords? [keyword] tokens with
  | none => simp
  | some after =>
      have := length_of_afterKeywords? found
      simp only [Option.getD_some]
      omega

theorem length_of_objectNameAfter
    {name result : String} {tokens after : List Token}
    (read : objectNameAfter name tokens = .ok (result, after)) :
    after.length ≤ tokens.length := by
  fun_induction objectNameAfter name tokens <;> simp_all
  omega

theorem length_of_objectName
    {result : String} {tokens after : List Token}
    (read : objectName tokens = .ok (result, after)) : after.length < tokens.length := by
  cases tokens with
  | nil => simp [objectName, identifier, bind, Except.bind] at read
  | cons token tokens =>
      cases token with
      | word value quoted =>
          simp only [objectName, identifier, bind, Except.bind] at read
          have := length_of_objectNameAfter read
          simp only [List.length_cons]
          omega
      | _ => simp [objectName, identifier, bind, Except.bind] at read

theorem length_of_enclosed?
    {inner : Nat} {tokens between after : List Token}
    (found : enclosed? inner tokens = some (between, after)) : after.length < tokens.length := by
  fun_induction enclosed? inner tokens generalizing between <;> simp_all <;> grind

theorem length_of_parenthesized
    {tokens inner after : List Token} (read : parenthesized tokens = .ok (inner, after)) :
    after.length < tokens.length := by
  fun_cases parenthesized tokens <;> simp_all [parenthesized]
  · have := length_of_enclosed? ‹_›
    omega

theorem length_of_columnList
    {tokens after : List Token} {columns : List String}
    (read : columnList tokens = .ok (columns, after)) : after.length < tokens.length := by
  simp only [columnList, bind, Except.bind] at read
  split at read
  · simp at read
  · rename_i found
    have := length_of_parenthesized found
    split at read
    · simp at read
    · simp only [pure, Except.pure, Except.ok.injEq, Prod.mk.injEq] at read
      rw [← read.2]
      exact this

theorem length_of_skipAction
    {tokens after : List Token} (read : skipAction tokens = .ok after) :
    after.length ≤ tokens.length := by
  simp only [skipAction] at read
  split at read
  · simp at read
  · rename_i found
    have first := length_of_afterAny? found
    split at read
    · simp at read
    · rename_i found
      have second := length_of_afterAny? found
      simp_all
      omega

theorem length_of_defaultValue
    {tokens after : List Token} {value : String}
    (read : defaultValue tokens = .ok (value, after)) : after.length ≤ tokens.length := by
  have call {rest : List Token} (make : List Token → String)
      (read : (do
        let (inner, rest) ← parenthesized (.openParen :: rest)
        return (make inner, rest) : Except DdlError (String × List Token)) = .ok (value, after)) :
      after.length ≤ rest.length + 1 := by
    simp only [bind, Except.bind] at read
    split at read
    · simp at read
    · rename_i found
      have := length_of_parenthesized found
      simp only [pure, Except.pure, Except.ok.injEq, Prod.mk.injEq] at read
      simp only [List.length_cons] at this
      rw [← read.2]
      omega
  unfold defaultValue at read
  repeat' split at read
  all_goals try simp only [Except.ok.injEq, Prod.mk.injEq, reduceCtorEq] at read
  all_goals simp only [List.length_cons]
  · rw [← read.2]; omega
  · rw [← read.2]; omega
  · have := call (fun inner => _ ++ "(" ++ Token.render inner ++ ")") read
    omega
  · rw [← read.2]; omega
  · have := call (fun inner => "(" ++ Token.render inner ++ ")") read
    omega
  · rw [← read.2]; omega

/-! ## Repeated parts -/

set_option linter.unusedVariables false in
/-- Skips what happens to a foreign key, as often as it is said. -/
def skipActions (tokens : List Token) : Except DdlError (List Token) :=
  match on : afterKeywords? ["ON"] tokens with
  | none => .ok tokens
  | some rest =>
      match action : skipAction rest with
      | .error error => .error error
      | .ok rest => skipActions rest
termination_by tokens.length
decreasing_by
  have := length_of_afterKeywords? on
  have := length_of_skipAction action
  simp only [List.length_cons, List.length_nil] at *
  omega

theorem length_of_skipActions
    {tokens after : List Token} (read : skipActions tokens = .ok after) :
    after.length ≤ tokens.length := by
  fun_induction skipActions tokens with
  | case1 tokens _ => simp_all
  | case2 => simp at read
  | case3 tokens _ on _ action induction =>
      have := induction read
      have := length_of_afterKeywords? on
      have := length_of_skipAction action
      omega

/-- A list of columns in parentheses, which may be missing. -/
def optionalColumns : List Token → Except DdlError (List String × List Token)
  | .openParen :: rest => columnList (.openParen :: rest)
  | tokens => .ok ([], tokens)

theorem length_of_optionalColumns
    {tokens after : List Token} {columns : List String}
    (read : optionalColumns tokens = .ok (columns, after)) : after.length ≤ tokens.length := by
  unfold optionalColumns at read
  split at read
  · exact Nat.le_of_lt (length_of_columnList read)
  · simp_all

/-- The target of a foreign key. -/
def foreignRef (tokens : List Token) : Except DdlError (ForeignRef × List Token) := do
  let (table, rest) ← objectName tokens
  let (columns, rest) ← optionalColumns rest
  let rest ← skipActions rest
  return ({ table, columns }, rest)

theorem length_of_foreignRef
    {tokens after : List Token} {target : ForeignRef}
    (read : foreignRef tokens = .ok (target, after)) : after.length ≤ tokens.length := by
  simp only [foreignRef, bind, Except.bind] at read
  split at read
  · simp at read
  · rename_i found
    have name := length_of_objectName found
    split at read
    · simp at read
    · rename_i listed
      have columns := length_of_optionalColumns listed
      split at read
      · simp at read
      · rename_i skipped
        have actions := length_of_skipActions skipped
        simp only [pure, Except.pure, Except.ok.injEq, Prod.mk.injEq] at read
        rw [← read.2]
        omega

set_option linter.unusedVariables false in
/-- A type whose beginning has been read: further words, and arguments in parentheses. -/
def dataTypeAfter (name : String) (tokens : List Token) :
    Except DdlError (String × List Token) :=
  match tokens with
  | .openParen :: rest =>
      match read : parenthesized (.openParen :: rest) with
      | .error error => .error error
      | .ok (inner, after) => dataTypeAfter (name ++ "(" ++ argumentsText inner ++ ")") after
  | .word value false :: rest =>
      if isModifierKeyword value then .ok (name, .word value false :: rest)
      else dataTypeAfter (name ++ " " ++ value) rest
  | rest => .ok (name, rest)
termination_by tokens.length
decreasing_by
  · exact length_of_parenthesized read
  · simp

/-! ## Modifiers of columns -/

/-- A modifier without parts. -/
def plain (modifier : Modifier) (rest : List Token) :
    Except DdlError (Modifier × List Token) :=
  .ok (modifier, rest)

/-- A modifier that has one part. -/
def withPart (make : α → Modifier) (read : List Token → Except DdlError (α × List Token))
    (rest : List Token) : Except DdlError (Modifier × List Token) :=
  (read rest).map fun found => (make found.1, found.2)

/-- What a column becomes when its row is updated: the action of a foreign key, which is not kept,
or a value. -/
def onUpdate (rest : List Token) : Except DdlError (Modifier × List Token) :=
  match afterAction? rest with
  | some rest => .ok (.ignored, rest)
  | none => withPart .onUpdate defaultValue rest

/-- The keywords that begin the modifiers, in the order in which they are tried, with the reader of
what follows them. -/
def modifierReaders :
    List (List String × (List Token → Except DdlError (Modifier × List Token))) :=
  [(["NOT", "NULL"], plain .notNull),
    (["NULL"], plain .nullable),
    (["PRIMARY", "KEY"], plain .primaryKey),
    (["UNIQUE"], fun rest => .ok (.unique, skipKeyword "KEY" rest)),
    (["DEFAULT"], withPart .default defaultValue),
    (["AUTO_INCREMENT"], plain .autoIncrement),
    (["AUTOINCREMENT"], plain .autoIncrement),
    (["REFERENCES"], withPart .references foreignRef),
    (["CHECK"], withPart (fun inner => .check (Token.render inner)) parenthesized),
    (["CONSTRAINT"], withPart (fun _ => .ignored) identifier),
    (["COMMENT"], fun rest => .ok (.ignored, rest.drop 1)),
    (["COLLATE"], fun rest => .ok (.ignored, rest.drop 1)),
    (["CHARACTER", "SET"], fun rest => .ok (.ignored, rest.drop 1)),
    (["ON", "UPDATE"], onUpdate),
    (["ON"], fun rest => (skipAction rest).map fun rest => (.ignored, rest))]

/-- The modifier at the front, read by the first reader whose keywords are there. -/
def readModifier
    (readers : List (List String × (List Token → Except DdlError (Modifier × List Token))))
    (tokens : List Token) : Except DdlError (Modifier × List Token) :=
  match readers with
  | [] => .error (unexpected "column modifier" tokens)
  | (keywords, read) :: readers =>
      match afterKeywords? keywords tokens with
      | some rest => read rest
      | none => readModifier readers tokens

theorem length_of_identifier
    {tokens after : List Token} {name : String} (read : identifier tokens = .ok (name, after)) :
    after.length ≤ tokens.length := by
  unfold identifier at read
  split at read
  · simp_all
  · simp at read

theorem length_of_withPart
    {make : α → Modifier} {read : List Token → Except DdlError (α × List Token)}
    (bounded : ∀ tokens part after, read tokens = .ok (part, after) →
      after.length ≤ tokens.length)
    {tokens after : List Token} {modifier : Modifier}
    (found : withPart make read tokens = .ok (modifier, after)) :
    after.length ≤ tokens.length := by
  simp only [withPart, map_eq_ok_iff] at found
  obtain ⟨⟨part, left⟩, found, equality⟩ := found
  simp only [Prod.mk.injEq] at equality
  rw [← equality.2]
  exact bounded _ _ _ found

/-- Every reader of a modifier follows a keyword and leaves no more than it is given. -/
theorem modifierReaders_bounded :
    ∀ reader ∈ modifierReaders, reader.1.length ≠ 0 ∧
      ∀ tokens modifier after, reader.2 tokens = .ok (modifier, after) →
        after.length ≤ tokens.length := by
  have plainly (modifier : Modifier) : ∀ tokens result after,
      plain modifier tokens = .ok (result, after) → after.length ≤ tokens.length := by
    intro tokens result after found
    simp only [plain, Except.ok.injEq, Prod.mk.injEq] at found
    simp [found.2]
  have dropping : ∀ (tokens : List Token) (result : Modifier) (after : List Token),
      (Except.ok (.ignored, tokens.drop 1) : Except DdlError _) = .ok (result, after) →
        after.length ≤ tokens.length := by
    intro tokens result after found
    simp only [Except.ok.injEq, Prod.mk.injEq] at found
    rw [← found.2]
    simp
  have default (make : String → Modifier) : ∀ tokens modifier after,
      withPart make defaultValue tokens = .ok (modifier, after) →
        after.length ≤ tokens.length :=
    fun _ _ _ => length_of_withPart fun _ _ _ => length_of_defaultValue
  simp only [modifierReaders, List.forall_mem_cons, List.not_mem_nil, false_implies,
    implies_true, and_true, List.length_cons, List.length_nil]
  refine ⟨⟨by decide, plainly _⟩, ⟨by decide, plainly _⟩, ⟨by decide, plainly _⟩, ⟨by decide, ?_⟩,
    ⟨by decide, default _⟩, ⟨by decide, plainly _⟩, ⟨by decide, plainly _⟩,
    ⟨by decide, fun _ _ _ => length_of_withPart fun _ _ _ => length_of_foreignRef⟩,
    ⟨by decide, fun _ _ _ => length_of_withPart fun _ _ _ read =>
      Nat.le_of_lt (length_of_parenthesized read)⟩,
    ⟨by decide, fun _ _ _ => length_of_withPart fun _ _ _ => length_of_identifier⟩,
    ⟨by decide, dropping⟩, ⟨by decide, dropping⟩, ⟨by decide, dropping⟩, ⟨by decide, ?_⟩,
    ⟨by decide, ?_⟩⟩
  · intro tokens modifier after found
    simp only [Except.ok.injEq, Prod.mk.injEq] at found
    rw [← found.2]
    exact length_of_skipKeyword _ _
  · intro tokens modifier after found
    simp only [onUpdate] at found
    split at found
    · rename_i action
      have := length_of_afterAny? action
      simp_all
    · exact default _ _ _ _ found
  · intro tokens modifier after found
    simp only [map_eq_ok_iff] at found
    obtain ⟨left, found, equality⟩ := found
    simp only [Prod.mk.injEq] at equality
    rw [← equality.2]
    exact length_of_skipAction found

theorem length_of_readModifier
    {readers : List (List String × (List Token → Except DdlError (Modifier × List Token)))}
    (bounded : ∀ reader ∈ readers, reader.1.length ≠ 0 ∧
      ∀ tokens modifier after, reader.2 tokens = .ok (modifier, after) →
        after.length ≤ tokens.length)
    {tokens after : List Token} {modifier : Modifier}
    (found : readModifier readers tokens = .ok (modifier, after)) :
    after.length < tokens.length := by
  induction readers with
  | nil => simp [readModifier] at found
  | cons reader readers induction =>
      obtain ⟨keywords, read⟩ := reader
      simp only [readModifier] at found
      split at found
      · rename_i keyed
        have := length_of_afterKeywords? keyed
        have ⟨nonempty, left⟩ := bounded (keywords, read) (by simp)
        have := left _ _ _ found
        simp only [ne_eq] at nonempty
        omega
      · exact induction (fun other member => bounded other (by simp [member])) found

set_option linter.unusedVariables false in
/-- The modifiers that some tokens are made of. -/
def modifiers (tokens : List Token) : Except DdlError (List Modifier) :=
  match tokens with
  | [] => .ok []
  | token :: tokens =>
      match read : readModifier modifierReaders (token :: tokens) with
      | .error error => .error error
      | .ok (modifier, rest) => (modifiers rest).map (modifier :: ·)
termination_by tokens.length
decreasing_by
  have := length_of_readModifier modifierReaders_bounded read
  simpa using this

/-- The definition of a column that some tokens are made of; without a name and a type there is
none. -/
def columnDef? : List Token → Except DdlError (Option ColumnDef)
  | .word name _ :: .word dataType _ :: rest => do
      let (dataType, rest) ← dataTypeAfter dataType rest
      let modifiers ← modifiers rest
      return some (modifiers.foldl ColumnDef.modify { name, dataType })
  | _ => return none

/-! ## Constraints of tables -/

/-- Whether there is a keyword at a place. -/
def keywordAt (tokens : List Token) (place : Nat) (keyword : String) : Bool :=
  match tokens[place]? with
  | some token => token.isKeyword keyword
  | none => false

/-- Whether there is a word at a place. -/
def wordAt (tokens : List Token) (place : Nat) : Bool :=
  match tokens[place]? with
  | some token => token.isWord
  | none => false

/-- Whether a list of columns begins at a place. -/
def columnListAt (tokens : List Token) (place : Nat) : Bool :=
  tokens[place]? == some .openParen && wordAt tokens (place + 1)

/-- Whether tokens have the shape of a table's constraint.  A column whose name is a keyword has
not. -/
def isTableConstraint (tokens : List Token) : Bool :=
  let named (place : Nat) : Bool :=
    columnListAt tokens place || (wordAt tokens place && columnListAt tokens (place + 1))
  if keywordAt tokens 0 "CONSTRAINT" then
    wordAt tokens 1 &&
      ["PRIMARY", "UNIQUE", "FOREIGN", "CHECK"].any (keywordAt tokens 2)
  else if keywordAt tokens 0 "PRIMARY" || keywordAt tokens 0 "FOREIGN" then
    keywordAt tokens 1 "KEY"
  else if keywordAt tokens 0 "CHECK" then tokens[1]? == some .openParen
  else if keywordAt tokens 0 "UNIQUE" then
    if keywordAt tokens 1 "KEY" || keywordAt tokens 1 "INDEX" then named 2 else named 1
  else if keywordAt tokens 0 "INDEX" || keywordAt tokens 0 "KEY" then named 1
  else false

/-- A name that may be at the front. -/
def optionalName : List Token → Option String × List Token
  | .word value _ :: rest => (some value, rest)
  | tokens => (none, tokens)

/-- The name of a constraint, if it is given one. -/
def constraintName (tokens : List Token) : Except DdlError (Option String × List Token) :=
  match afterKeywords? ["CONSTRAINT"] tokens with
  | some rest => (identifier rest).map fun (name, rest) => (some name, rest)
  | none => .ok (none, tokens)

/-- A constraint after its name. -/
def constraintAfter (name : Option String) (tokens : List Token) :
    Except DdlError (TableConstraint × List Token) := do
  if let some rest := afterKeywords? ["PRIMARY", "KEY"] tokens then
    let (columns, rest) ← columnList rest
    return (.primaryKey columns, rest)
  else if let some rest := afterKeywords? ["UNIQUE"] tokens then
    let rest := (afterAny? [["KEY"], ["INDEX"]] rest).getD rest
    let (ownName, rest) := optionalName rest
    let (columns, rest) ← columnList rest
    return (.unique (ownName.or name) columns, rest)
  else if let some rest := afterKeywords? ["FOREIGN", "KEY"] tokens then
    let (columns, rest) ← columnList rest
    match afterKeywords? ["REFERENCES"] rest with
    | none => .error (unexpected "REFERENCES" rest)
    | some rest =>
        let (target, rest) ← foreignRef rest
        return (.foreignKey name columns target, rest)
  else if let some rest := afterKeywords? ["CHECK"] tokens then
    let (inner, rest) ← parenthesized rest
    return (.check name (Token.render inner), rest)
  else if let some rest := afterAny? [["INDEX"], ["KEY"]] tokens then
    let (ownName, rest) := optionalName rest
    let (columns, rest) ← columnList rest
    return (.index ownName columns, rest)
  else .error (unexpected "PRIMARY KEY, UNIQUE, FOREIGN KEY or CHECK" tokens)

/-- The constraint that some tokens are made of. -/
def tableConstraint (tokens : List Token) : Except DdlError TableConstraint := do
  let (name, rest) ← constraintName tokens
  let (constraint, rest) ← constraintAfter name rest
  atEnd constraint rest

/-! ## Tables that are created -/

/-- The options of a table that have one keyword. -/
def optionKeywords : List String :=
  ["ENGINE", "CHARSET", "COLLATE", "AUTO_INCREMENT", "COMMENT", "ROW_FORMAT", "TABLESPACE",
    "KEY_BLOCK_SIZE"]

/-- Skips a token that may be at the front. -/
def skipToken (skipped : Token) : List Token → List Token
  | [] => []
  | token :: rest => if token = skipped then rest else token :: rest

/-- What follows the value of a table's option and a comma after it. -/
def skipOptionValue (tokens : List Token) : Except DdlError (List Token) :=
  match skipToken (.other "=") tokens with
  | .word _ _ :: rest => .ok (skipToken .comma rest)
  | .number _ :: rest => .ok (skipToken .comma rest)
  | .literal _ :: rest => .ok (skipToken .comma rest)
  | rest => .error (unexpected "table option value" rest)

/-- What follows one option of a table. -/
def skipOption (tokens : List Token) : Except DdlError (List Token) :=
  let rest := skipKeyword "DEFAULT" tokens
  match afterAny? (["CHARACTER", "SET"] :: optionKeywords.map ([·])) rest with
  | none => .error (unexpected "table option" rest)
  | some rest => skipOptionValue rest

theorem length_of_skipToken (skipped : Token) (tokens : List Token) :
    (skipToken skipped tokens).length ≤ tokens.length := by
  cases tokens with
  | nil => simp [skipToken]
  | cons token tokens =>
      simp only [skipToken]
      split <;> simp

theorem length_of_skipOption
    {tokens after : List Token} (read : skipOption tokens = .ok after) :
    after.length < tokens.length := by
  have value {tokens : List Token} (read : skipOptionValue tokens = .ok after) :
      after.length < tokens.length := by
    have skipped := length_of_skipToken (.other "=") tokens
    have comma (rest : List Token) := length_of_skipToken .comma rest
    simp only [skipOptionValue] at read
    split at read
    all_goals simp only [Except.ok.injEq, reduceCtorEq] at read
    all_goals
      rename_i equality
      rw [equality] at skipped
      simp only [List.length_cons] at skipped
      rw [← read]
      have := comma ‹_›
      omega
  have default := length_of_skipKeyword "DEFAULT" tokens
  simp only [skipOption] at read
  split at read
  · simp at read
  · rename_i found
    have := length_of_afterAny? found
    have := value read
    omega

set_option linter.unusedVariables false in
/-- Skips the options of a table to the end. -/
def skipOptions (tokens : List Token) : Except DdlError Unit :=
  match tokens with
  | [] => .ok ()
  | token :: tokens =>
      match read : skipOption (token :: tokens) with
      | .error error => .error error
      | .ok rest => skipOptions rest
termination_by tokens.length
decreasing_by exact length_of_skipOption read

/-- What the definition of a table is made of. -/
inductive Element where
  | column (column : ColumnDef)
  | constraint (constraint : TableConstraint)
deriving DecidableEq, Repr

/-- One part of a table's definition; a part without a name and a type is passed over. -/
def element? (part : List Token) : Except DdlError (Option Element) :=
  if isTableConstraint part then
    (tableConstraint part).map fun constraint => some (.constraint constraint)
  else (columnDef? part).map fun column => column.map .column

/-- The rest of a statement that creates a table. -/
def createTable (tokens : List Token) : Except DdlError Statement := do
  let created := afterKeywords? ["IF", "NOT", "EXISTS"] tokens
  let (name, rest) ← objectName (created.getD tokens)
  let (body, rest) ← parenthesized rest
  skipOptions rest
  let elements ← (parts body).mapM element?
  let columns := elements.filterMap fun element =>
    match element with
    | some (.column column) => some column
    | _ => none
  let constraints := elements.filterMap fun element =>
    match element with
    | some (.constraint constraint) => some constraint
    | _ => none
  return .createTable { name, ifNotExists := created.isSome, columns, constraints }

/-! ## Tables that are altered -/

/-- The definition of a column that an action is made of from here on. -/
def remainingColumn (tokens : List Token) : Except DdlError ColumnDef := do
  match ← columnDef? tokens with
  | some column => return column
  | none =>
      match tokens with
      | [] => .error (.unexpectedEnd "column definition")
      | [token] => .error (.unexpectedEnd ("data type for column '" ++ token.text ++ "'"))
      | token :: _ => .error (.unexpectedToken "column definition" token.text)

/-- What is dropped in ways that are not understood. -/
def undroppable : List String := ["CONSTRAINT", "INDEX", "KEY", "PRIMARY", "FOREIGN"]

/-- The action of dropping what is named from here on. -/
def dropAction (tokens : List Token) : Except DdlError AlterAction := do
  match tokens with
  | token :: _ =>
      if undroppable.any token.isKeyword then
        .error (.unsupported ("ALTER TABLE DROP " ++ token.text))
  | [] => pure ()
  let (name, rest) ← identifier (skipKeyword "COLUMN" tokens)
  atEnd (.dropColumn name) rest

/-- The action of renaming a column, or the table. -/
def renameAction (tokens : List Token) : Except DdlError AlterAction := do
  match afterKeywords? ["COLUMN"] tokens with
  | some rest =>
      let (old, rest) ← identifier rest
      match afterKeywords? ["TO"] rest with
      | none => .error (unexpected "TO" rest)
      | some rest =>
          let (new, rest) ← identifier rest
          atEnd (.renameColumn old new) rest
  | none =>
      let (name, rest) ← objectName ((afterAny? [["TO"], ["AS"]] tokens).getD tokens)
      atEnd (.renameTo name) rest

/-- The action that some tokens are made of. -/
def alterAction (tokens : List Token) : Except DdlError AlterAction :=
  if let some rest := afterKeywords? ["ADD"] tokens then
    if isTableConstraint rest then (tableConstraint rest).map .addConstraint
    else (remainingColumn (skipKeyword "COLUMN" rest)).map .addColumn
  else if let some rest := afterKeywords? ["DROP"] tokens then dropAction rest
  else if let some rest := afterKeywords? ["MODIFY"] tokens then
    (remainingColumn (skipKeyword "COLUMN" rest)).map .modifyColumn
  else if let some rest := afterKeywords? ["RENAME"] tokens then renameAction rest
  else
    match tokens with
    | token :: _ => .error (.unsupported ("ALTER TABLE action '" ++ token.text ++ "'"))
    | [] => .error (.unexpectedEnd "ALTER TABLE action")

/-- The rest of a statement that alters a table. -/
def alterTable (tokens : List Token) : Except DdlError Statement := do
  let (table, rest) ← objectName tokens
  if rest.isEmpty then .error (.unexpectedEnd "ALTER TABLE action")
  else
    let actions ← (parts rest).mapM alterAction
    return .alterTable table actions

/-! ## Tables that are dropped -/

set_option linter.unusedVariables false in
/-- The names of several tables with commas between them. -/
def objectNames (tokens : List Token) : Except DdlError (List String × List Token) :=
  match read : objectName tokens with
  | .error error => .error error
  | .ok (name, .comma :: rest) =>
      (objectNames rest).map fun (names, rest) => (name :: names, rest)
  | .ok (name, rest) => .ok ([name], rest)
termination_by tokens.length
decreasing_by
  have := length_of_objectName read
  simp only [List.length_cons] at this
  omega

/-- The rest of a statement that drops tables. -/
def dropTable (tokens : List Token) : Except DdlError Statement := do
  let existing := afterKeywords? ["IF", "EXISTS"] tokens
  let (tables, rest) ← objectNames (existing.getD tokens)
  let rest := (afterAny? [["CASCADE"], ["RESTRICT"]] rest).getD rest
  atEnd (.dropTable tables existing.isSome) rest

end Parser

/-- The statement that some tokens are made of. -/
def statement (tokens : List Token) : Except DdlError Statement :=
  if let some rest := Parser.afterKeywords? ["CREATE", "TABLE"] tokens then
    Parser.createTable rest
  else if let some rest := Parser.afterKeywords? ["ALTER", "TABLE"] tokens then
    Parser.alterTable rest
  else if let some rest := Parser.afterKeywords? ["DROP", "TABLE"] tokens then
    Parser.dropTable rest
  else .ok .passthrough

/-- The statement that a text spells. -/
def Statement.ofText (sql : String) : Except DdlError Statement :=
  match tokens sql with
  | .ok tokens => statement tokens
  | .error error => .error (.tokenize (error.message sql))

end SchemaDesign.Sql
