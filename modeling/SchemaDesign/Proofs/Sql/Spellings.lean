import SchemaDesign.Proofs.Sql.CommaLists
import SchemaDesign.Proofs.Sql.Constraints
import SchemaDesign.Proofs.Sql.ModifierOrder

/-!
# What readers take away

Each reader takes tokens from the front that spell what it answers with, and leaves the others as
they are.  What is read to its end is therefore spelled by all of its tokens.
-/

namespace SchemaDesign.Sql

/-! ## Spellings -/

/-- A name of one word. -/
def WordTokens (name : String) (tokens : List Token) : Prop :=
  ∃ quoted, tokens = [.word name quoted]

/-- Tokens in parentheses. -/
def GroupTokens (inner tokens : List Token) : Prop :=
  tokens = .openParen :: (inner ++ [.closeParen]) ∧ Balanced true inner

/-- Tokens spell one of some sequences of keywords. -/
def AreAnyKeywords (sequences : List (List String)) (tokens : List Token) : Prop :=
  ∃ keywords ∈ sequences, AreKeywords keywords tokens

/-- Tokens spell something that may be missing. -/
def Optionally (spells : List Token → Prop) (tokens : List Token) : Prop :=
  tokens = [] ∨ spells tokens

/-- A list of columns, of which those fragments count that are not empty.  Each begins with the name
of its column. -/
def ListTokens (columns : List String) (tokens : List Token) : Prop :=
  ∃ inner fragments, GroupTokens inner tokens ∧ Fragments 0 fragments inner ∧
    List.Forall₂ (fun column fragment => ∃ quoted more, fragment = .word column quoted :: more)
      columns (fragments.filter fun fragment => !fragment.isEmpty)

/-- The target of a foreign key, with what is done to the key. -/
def TargetTokens (target : ForeignRef) (tokens : List Token) : Prop :=
  ∃ name list actions, tokens = name ++ (list ++ actions) ∧ NameTokens target.table name ∧
    (target.columns = [] ∧ list = [] ∨ ListTokens target.columns list) ∧ ActionTokens actions

/-- A modifier of a column, whether it is kept or not. -/
inductive ModifierSpelling : Modifier → List Token → Prop where
  | usual {modifier : Modifier} {tokens : List Token} :
      ModifierTokens modifier tokens → ModifierSpelling modifier tokens
  | nullable {tokens : List Token} :
      AreKeywords ["NULL"] tokens → ModifierSpelling .nullable tokens
  | references {target : ForeignRef} {opening tokens : List Token} :
      AreKeywords ["REFERENCES"] opening → TargetTokens target tokens →
        ModifierSpelling (.references target) (opening ++ tokens)
  | onUpdate {value : String} {opening tokens : List Token} :
      AreKeywords ["ON", "UPDATE"] opening → DefaultTokens value tokens →
        ModifierSpelling (.onUpdate value) (opening ++ tokens)
  | action {event : String} {action : List String} {tokens : List Token} :
      event ∈ ["DELETE", "UPDATE"] → action ∈ referentialActions →
        AreKeywords ("ON" :: event :: action) tokens → ModifierSpelling .ignored tokens
  | named {name : String} {opening tokens : List Token} :
      AreKeywords ["CONSTRAINT"] opening → WordTokens name tokens →
        ModifierSpelling .ignored (opening ++ tokens)
  | remark {opening tokens : List Token} :
      AreAnyKeywords [["COMMENT"], ["COLLATE"], ["CHARACTER", "SET"]] opening →
        tokens.length ≤ 1 → ModifierSpelling .ignored (opening ++ tokens)

/-- What spells a modifier together with the tokens before it. -/
def ModifierAfter (opening : List Token) (modifier : Modifier) (tokens : List Token) : Prop :=
  ModifierSpelling modifier (opening ++ tokens)

/-- The definition of a column. -/
def ColumnTokens (column : ColumnDef) (tokens : List Token) : Prop :=
  ∃ name quoted dataType type, ∃ clauses : List (Modifier × List Token),
    tokens = .word name quoted :: (type ++ clauses.flatMap fun clause => clause.2) ∧
      TypeTokens dataType type ∧
      (∀ clause ∈ clauses, ModifierSpelling clause.1 clause.2) ∧
      column = (clauses.map fun clause => clause.1).foldl ColumnDef.modify { name, dataType }

/-- A name that may be missing. -/
inductive MayBeNamed : Option String → List Token → Prop where
  | unnamed : MayBeNamed none []
  | named {name : String} {tokens : List Token} :
      WordTokens name tokens → MayBeNamed (some name) tokens

/-- A constraint of a table after its name. -/
inductive ConstraintTokens (name : Option String) : TableConstraint → List Token → Prop where
  | primaryKey {columns : List String} {opening list : List Token} :
      AreKeywords ["PRIMARY", "KEY"] opening → ListTokens columns list →
        ConstraintTokens name (.primaryKey columns) (opening ++ list)
  | unique {own : Option String} {columns : List String} {opening key named list : List Token} :
      AreKeywords ["UNIQUE"] opening → Optionally (AreAnyKeywords [["KEY"], ["INDEX"]]) key →
        MayBeNamed own named → ListTokens columns list →
          ConstraintTokens name (.unique (own.or name) columns)
            (opening ++ (key ++ (named ++ list)))
  | foreignKey {columns : List String} {target : ForeignRef}
      {opening list references tokens : List Token} :
      AreKeywords ["FOREIGN", "KEY"] opening → ListTokens columns list →
        AreKeywords ["REFERENCES"] references → TargetTokens target tokens →
          ConstraintTokens name (.foreignKey name columns target)
            (opening ++ (list ++ (references ++ tokens)))
  | check {opening inner tokens : List Token} :
      AreKeywords ["CHECK"] opening → GroupTokens inner tokens →
        ConstraintTokens name (.check name (Token.render inner)) (opening ++ tokens)
  | index {own : Option String} {columns : List String} {opening named list : List Token} :
      AreAnyKeywords [["INDEX"], ["KEY"]] opening → MayBeNamed own named →
        ListTokens columns list →
          ConstraintTokens name (.index own columns) (opening ++ (named ++ list))

/-- The name of a constraint, if it is given one. -/
inductive ConstraintNameTokens : Option String → List Token → Prop where
  | unnamed : ConstraintNameTokens none []
  | named {name : String} {opening tokens : List Token} :
      AreKeywords ["CONSTRAINT"] opening → WordTokens name tokens →
        ConstraintNameTokens (some name) (opening ++ tokens)

/-- A constraint of a table with its name. -/
def NamedConstraintTokens (constraint : TableConstraint) (tokens : List Token) : Prop :=
  ∃ name named body, tokens = named ++ body ∧ ConstraintNameTokens name named ∧
    ConstraintTokens name constraint body

/-! ## Readers -/

namespace Parser

/-- A reader takes tokens from the front that spell what it answers with. -/
def Takes (read : List Token → Except DdlError (α × List Token)) (spells : α → List Token → Prop) :
    Prop :=
  ∀ ⦃tokens value after⦄, read tokens = .ok (value, after) →
    ∃ taken, tokens = taken ++ after ∧ spells value taken

section

variable {tokens after : List Token}

theorem areKeywords_of_afterKeywords? {keywords : List String}
    (found : afterKeywords? keywords tokens = some after) :
    ∃ taken, tokens = taken ++ after ∧ AreKeywords keywords taken := by
  induction keywords generalizing tokens with
  | nil =>
      cases found
      exact ⟨[], rfl, .nil⟩
  | cons keyword keywords ih =>
      cases tokens with
      | nil => cases found
      | cons token tokens =>
          rw [afterKeywords?] at found
          split at found
          · rename_i first
            obtain ⟨taken, rfl, spelled⟩ := ih found
            exact ⟨token :: taken, rfl, .cons first spelled⟩
          · cases found

theorem areAnyKeywords_of_afterAny? {sequences : List (List String)}
    (found : afterAny? sequences tokens = some after) :
    ∃ taken, tokens = taken ++ after ∧ AreAnyKeywords sequences taken := by
  obtain ⟨keywords, listed, found⟩ := List.exists_of_findSome?_eq_some found
  obtain ⟨taken, whole, spelled⟩ := areKeywords_of_afterKeywords? found
  exact ⟨taken, whole, keywords, listed, spelled⟩

theorem optionally_of_getD
    {found : Option (List Token)} {spells : List Token → Prop}
    (takes : ∀ after, found = some after → ∃ taken, tokens = taken ++ after ∧ spells taken) :
    ∃ taken, tokens = taken ++ found.getD tokens ∧ Optionally spells taken := by
  cases found with
  | none => exact ⟨[], rfl, .inl rfl⟩
  | some after =>
      obtain ⟨taken, whole, spelled⟩ := takes after rfl
      exact ⟨taken, whole, .inr spelled⟩

theorem optionally_of_afterAny? (sequences : List (List String)) (tokens : List Token) :
    ∃ taken, tokens = taken ++ (afterAny? sequences tokens).getD tokens ∧
      Optionally (AreAnyKeywords sequences) taken :=
  optionally_of_getD fun _ => areAnyKeywords_of_afterAny?

theorem optionally_of_skipKeyword (keyword : String) (tokens : List Token) :
    ∃ taken, tokens = taken ++ skipKeyword keyword tokens ∧
      Optionally (AreKeywords [keyword]) taken :=
  optionally_of_getD fun _ => areKeywords_of_afterKeywords?

theorem takes_identifier : Takes identifier WordTokens := by
  intro tokens name after read
  unfold identifier at read
  split at read
  · rename_i quoted rest
    cases read
    exact ⟨[.word name quoted], rfl, quoted, rfl⟩
  · cases read

/-- A name goes on from its first word, whether that is in quotes or not. -/
theorem takes_objectNameAfter
    {first name : String} (read : objectNameAfter first tokens = .ok (name, after))
    (quoted : Bool) :
    ∃ taken, tokens = taken ++ after ∧ NameTokens name (.word first quoted :: taken) := by
  fun_induction objectNameAfter first tokens generalizing quoted with
  | case1 first value nextQuoted rest ih =>
      obtain ⟨taken, rfl, spelled⟩ := ih read nextQuoted
      exact ⟨.period :: .word value nextQuoted :: taken, rfl, .qualified first quoted spelled⟩
  | case2 => cases read
  | case3 =>
      cases read
      exact ⟨[], rfl, .word _ quoted⟩

theorem takes_objectName : Takes objectName NameTokens := by
  intro tokens name after read
  obtain ⟨⟨first, rest⟩, firstRead, read⟩ := bind_eq_ok read
  obtain ⟨taken, rfl, quoted, rfl⟩ := takes_identifier firstRead
  obtain ⟨more, rfl, spelled⟩ := takes_objectNameAfter read quoted
  exact ⟨.word first quoted :: more, rfl, spelled⟩

/-! ## Parentheses -/

/-- Tokens that close some parentheses that are open, with matching ones between. -/
inductive Closes : Nat → List Token → Prop where
  | balanced {tokens : List Token} : Balanced true tokens → Closes 0 tokens
  | close {depth : Nat} {tokens rest : List Token} :
      Balanced true tokens → Closes depth rest → Closes (depth + 1) (tokens ++ .closeParen :: rest)

theorem Closes.append {depth : Nat} {first second : List Token}
    (balanced : Balanced true first) (closes : Closes depth second) :
    Closes depth (first ++ second) := by
  cases closes with
  | balanced rest => exact .balanced (balanced.append rest)
  | close inside rest =>
      rw [← List.append_assoc]
      exact .close (balanced.append inside) rest

theorem Closes.group {depth : Nat} (closes : Closes (depth + 1) tokens) :
    Closes depth (.openParen :: tokens) := by
  cases closes with
  | @close _ inside rest balanced closes =>
      have group : Balanced true (.openParen :: (inside ++ [.closeParen])) := .group balanced .nil
      have whole := closes.append group
      rwa [List.cons_append, List.append_assoc] at whole

/-- What is found before the closing parenthesis closes all that are open within. -/
theorem closes_of_enclosed? {depth : Nat} {between : List Token}
    (found : enclosed? depth tokens = some (between, after)) :
    tokens = between ++ .closeParen :: after ∧ Closes depth between := by
  fun_induction enclosed? depth tokens generalizing between with
  | case1 => cases found
  | case2 inner rest ih =>
      obtain ⟨⟨inside, left⟩, foundLater, same⟩ := Option.map_eq_some_iff.mp found
      cases same
      obtain ⟨rfl, closes⟩ := ih foundLater
      exact ⟨rfl, closes.group⟩
  | case3 rest =>
      cases found
      exact ⟨rfl, .balanced .nil⟩
  | case4 rest inner ih =>
      obtain ⟨⟨inside, left⟩, foundLater, same⟩ := Option.map_eq_some_iff.mp found
      cases same
      obtain ⟨rfl, closes⟩ := ih foundLater
      exact ⟨rfl, .close .nil closes⟩
  | case5 inner token rest noOpen noClose notLast ih =>
      obtain ⟨⟨inside, left⟩, foundLater, same⟩ := Option.map_eq_some_iff.mp found
      cases same
      obtain ⟨rfl, closes⟩ := ih foundLater
      have noClosing : token ≠ .closeParen := by
        rintro rfl
        cases inner with
        | zero => exact noClose rfl rfl
        | succ inner => exact notLast inner rfl rfl
      have alone : Balanced true [token] := by
        by_cases comma : token = .comma
        · rw [comma]
          exact .comma .nil
        · exact .token noOpen noClosing comma .nil
      exact ⟨rfl, closes.append alone⟩

theorem takes_parenthesized : Takes parenthesized GroupTokens := by
  intro tokens inner after read
  unfold parenthesized at read
  split at read
  · split at read
    · rename_i found
      cases read
      obtain ⟨rfl, closes⟩ := closes_of_enclosed? found
      cases closes with
      | balanced balanced => exact ⟨_, by simp, rfl, balanced⟩
    · cases read
  · cases read

/-! ## Columns that are listed -/

theorem forall₂_of_mapM_eq_ok
    {α β ε : Type} {read : α → Except ε β} {xs : List α} {ys : List β}
    (succeeded : xs.mapM read = .ok ys) : List.Forall₂ (fun y x => read x = .ok y) ys xs := by
  induction xs generalizing ys with
  | nil =>
      cases succeeded
      exact .nil
  | cons x xs ih =>
      rw [List.mapM_cons] at succeeded
      obtain ⟨first, firstRead, succeeded⟩ := bind_eq_ok succeeded
      obtain ⟨rest, restRead, succeeded⟩ := bind_eq_ok succeeded
      cases succeeded
      exact .cons firstRead (ih restRead)

theorem takes_columnList : Takes columnList ListTokens := by
  intro tokens columns after read
  obtain ⟨⟨inner, rest⟩, group, read⟩ := bind_eq_ok read
  obtain ⟨listed, each, read⟩ := bind_eq_ok read
  cases read
  obtain ⟨taken, rfl, spelled⟩ := takes_parenthesized group
  refine ⟨taken, rfl, inner, _, spelled, fragments_partsFrom 0 inner, ?_⟩
  refine (forall₂_of_mapM_eq_ok each).imp ?_
  intro column fragment found
  unfold listedColumn at found
  split at found
  · cases found
    exact ⟨_, _, rfl⟩
  · cases found

/-! ## Foreign keys -/

theorem takes_action
    {tokens after : List Token} (read : skipAction tokens = .ok after) :
    ∃ taken event action, tokens = taken ++ after ∧ event ∈ ["DELETE", "UPDATE"] ∧
      action ∈ referentialActions ∧ AreKeywords (event :: action) taken := by
  rw [skipAction] at read
  split at read
  · cases read
  · rename_i rest found
    obtain ⟨event, rfl, keywords, known, eventSpelled⟩ := areAnyKeywords_of_afterAny? found
    split at read
    · cases read
    · rename_i left actionFound
      cases read
      obtain ⟨action, rfl, actionKeywords, actionKnown, actionSpelled⟩ :=
        areAnyKeywords_of_afterAny? actionFound
      have single : ∃ name ∈ ["DELETE", "UPDATE"], keywords = [name] := by
        simpa using known
      obtain ⟨name, nameKnown, rfl⟩ := single
      exact ⟨event ++ action, name, actionKeywords, by simp, nameKnown, actionKnown,
        List.rel_append eventSpelled actionSpelled⟩

theorem takes_skipActions (read : skipActions tokens = .ok after) :
    ∃ taken, tokens = taken ++ after ∧ ActionTokens taken := by
  fun_induction skipActions tokens with
  | case1 =>
      cases read
      exact ⟨[], rfl, .nil⟩
  | case2 => cases read
  | case3 tokens rest on left action ih =>
      obtain ⟨word, rfl, wordSpelled⟩ := areKeywords_of_afterKeywords? on
      obtain ⟨taken, event, keywords, rfl, eventKnown, actionKnown, spelled⟩ := takes_action action
      obtain ⟨others, rfl, actions⟩ := ih read
      refine ⟨word ++ taken ++ others, by simp only [List.append_assoc], ?_⟩
      exact .cons eventKnown actionKnown (List.rel_append wordSpelled spelled) actions

theorem takes_optionalColumns :
    Takes optionalColumns fun columns tokens =>
      columns = [] ∧ tokens = [] ∨ ListTokens columns tokens := by
  intro tokens columns after read
  unfold optionalColumns at read
  split at read
  · obtain ⟨taken, whole, spelled⟩ := takes_columnList read
    exact ⟨taken, whole, .inr spelled⟩
  · cases read
    exact ⟨[], rfl, .inl ⟨rfl, rfl⟩⟩

theorem takes_foreignRef : Takes foreignRef TargetTokens := by
  intro tokens target after read
  obtain ⟨⟨table, rest⟩, named, read⟩ := bind_eq_ok read
  obtain ⟨⟨columns, rest⟩, listed, read⟩ := bind_eq_ok read
  obtain ⟨rest, acts, read⟩ := bind_eq_ok read
  cases read
  obtain ⟨name, rfl, nameSpelled⟩ := takes_objectName named
  obtain ⟨list, rfl, listSpelled⟩ := takes_optionalColumns listed
  obtain ⟨actions, rfl, actionsSpelled⟩ := takes_skipActions acts
  exact ⟨name ++ (list ++ actions), by simp only [List.append_assoc], name, list, actions, rfl,
    nameSpelled, listSpelled, actionsSpelled⟩

/-! ## Columns -/

/-- A type goes on from the tokens that have been read of it. -/
theorem takes_dataTypeAfter
    {first dataType : String} {before : List Token} (typed : TypeTokens first before)
    (read : dataTypeAfter first tokens = .ok (dataType, after)) :
    ∃ taken, tokens = taken ++ after ∧ TypeTokens dataType (before ++ taken) := by
  fun_induction dataTypeAfter first tokens generalizing before with
  | case1 => cases read
  | case2 first rest inner left group ih =>
      obtain ⟨taken, whole, rfl, balanced⟩ := takes_parenthesized group
      obtain ⟨more, rfl, spelled⟩ := ih (.arguments typed balanced) read
      refine ⟨.openParen :: (inner ++ [.closeParen]) ++ more, ?_, ?_⟩
      · rw [whole, List.append_assoc]
      · rw [← List.append_assoc]
        exact spelled
  | case3 first value rest modifier =>
      cases read
      exact ⟨[], rfl, (List.append_nil before).symm ▸ typed⟩
  | case4 first value rest further ih =>
      obtain ⟨more, rfl, spelled⟩ := ih (.further typed (Bool.eq_false_iff.mpr further)) read
      refine ⟨.word value false :: more, rfl, ?_⟩
      rw [← List.singleton_append, ← List.append_assoc]
      exact spelled
  | case5 first rest =>
      cases read
      exact ⟨[], rfl, (List.append_nil before).symm ▸ typed⟩

theorem takes_defaultValue : Takes defaultValue DefaultTokens := by
  intro tokens value after read
  unfold defaultValue at read
  split at read
  · cases read
  · cases read
    exact ⟨[_], rfl, .number _⟩
  · cases read
    exact ⟨[_], rfl, .literal _⟩
  · rename_i word quoted rest
    obtain ⟨⟨inner, left⟩, group, read⟩ := bind_eq_ok read
    cases read
    obtain ⟨taken, whole, rfl, balanced⟩ := takes_parenthesized group
    refine ⟨_, ?_, .call word quoted balanced⟩
    rw [whole]
    rfl
  · cases read
    exact ⟨[_], rfl, .word _ _⟩
  · obtain ⟨⟨inner, left⟩, group, read⟩ := bind_eq_ok read
    cases read
    obtain ⟨taken, whole, rfl, balanced⟩ := takes_parenthesized group
    exact ⟨_, whole, .expression balanced⟩
  · rename_i sign rest
    split at read
    · rename_i isSign
      split at read
      · cases read
        exact ⟨[_, _], rfl, .signed _ isSign⟩
      · cases read
    · cases read
  · cases read

theorem takes_plain
    {modifier : Modifier} {opening : List Token} (spelled : ModifierSpelling modifier opening) :
    Takes (plain modifier) (ModifierAfter opening) := by
  intro tokens found after read
  cases read
  refine ⟨[], rfl, ?_⟩
  rwa [ModifierAfter, List.append_nil]

theorem Takes.withPart
    {α : Type} {read : List Token → Except DdlError (α × List Token)}
    {spells : α → List Token → Prop} (takes : Takes read spells) {make : α → Modifier}
    {opening : List Token}
    (spelled : ∀ part tokens, spells part tokens → ModifierAfter opening (make part) tokens) :
    Takes (withPart make read) (ModifierAfter opening) := by
  intro tokens found after succeeded
  obtain ⟨⟨part, left⟩, partRead, same⟩ := map_eq_ok succeeded
  cases same
  obtain ⟨taken, whole, partSpelled⟩ := takes partRead
  exact ⟨taken, whole, spelled part taken partSpelled⟩

theorem takes_remark
    {opening : List Token}
    (known : AreAnyKeywords [["COMMENT"], ["COLLATE"], ["CHARACTER", "SET"]] opening) :
    Takes (fun rest => .ok (.ignored, rest.drop 1)) (ModifierAfter opening) := by
  intro tokens found after read
  cases read
  exact ⟨tokens.take 1, (List.take_append_drop 1 tokens).symm,
    .remark known (List.length_take_le _ _)⟩

theorem takes_onUpdate {opening : List Token} (spelled : AreKeywords ["ON", "UPDATE"] opening) :
    Takes onUpdate (ModifierAfter opening) := by
  intro tokens found after read
  rw [onUpdate] at read
  split at read
  · rename_i rest action
    cases read
    obtain ⟨taken, whole, keywords, known, actionSpelled⟩ := areAnyKeywords_of_afterAny? action
    have event : "UPDATE" ∈ ["DELETE", "UPDATE"] := by decide
    exact ⟨taken, whole, .action event known (List.rel_append spelled actionSpelled)⟩
  · exact takes_defaultValue.withPart (fun _ _ value => .onUpdate spelled value) read

theorem takes_skipAction {opening : List Token} (spelled : AreKeywords ["ON"] opening) :
    Takes (fun rest => (skipAction rest).map fun rest => (.ignored, rest))
      (ModifierAfter opening) := by
  intro tokens found after read
  obtain ⟨left, action, same⟩ := map_eq_ok read
  cases same
  obtain ⟨taken, event, keywords, whole, eventKnown, actionKnown, actionSpelled⟩ :=
    takes_action action
  exact ⟨taken, whole, .action eventKnown actionKnown (List.rel_append spelled actionSpelled)⟩

/-- What follows the keywords of a modifier belongs to it as far as its reader takes it. -/
theorem takes_modifierReaders :
    ∀ reader ∈ modifierReaders, ∀ opening, AreKeywords reader.1 opening →
      Takes reader.2 (ModifierAfter opening) := by
  simp only [modifierReaders, List.forall_mem_cons, List.not_mem_nil, false_implies,
    implies_true, and_true]
  refine ⟨?notNull, ?nullable, ?primaryKey, ?unique, ?default, ?autoIncrement, ?autoincrement,
    ?references, ?check, ?named, ?comment, ?collate, ?characterSet, ?onUpdate, ?on⟩
  case notNull => exact fun _ spelled => takes_plain (.usual (.notNull spelled))
  case nullable => exact fun _ spelled => takes_plain (.nullable spelled)
  case primaryKey => exact fun _ spelled => takes_plain (.usual (.primaryKey spelled))
  case unique =>
    intro opening spelled tokens found after read
    cases read
    obtain ⟨taken, whole, key⟩ := optionally_of_skipKeyword "KEY" tokens
    exact ⟨taken, whole, .usual (.unique spelled key)⟩
  case default =>
    exact fun _ spelled =>
      takes_defaultValue.withPart fun _ _ value => .usual (.default spelled value)
  case autoIncrement => exact fun _ spelled => takes_plain (.usual (.autoIncrement (.inl spelled)))
  case autoincrement => exact fun _ spelled => takes_plain (.usual (.autoIncrement (.inr spelled)))
  case references =>
    exact fun _ spelled => takes_foreignRef.withPart fun _ _ target => .references spelled target
  case check =>
    intro opening spelled
    refine takes_parenthesized.withPart ?_
    rintro inner tokens ⟨rfl, balanced⟩
    exact .usual (.check spelled balanced)
  case named =>
    exact fun _ spelled => takes_identifier.withPart fun _ _ name => .named spelled name
  case comment => exact fun _ spelled => takes_remark ⟨_, by simp, spelled⟩
  case collate => exact fun _ spelled => takes_remark ⟨_, by simp, spelled⟩
  case characterSet => exact fun _ spelled => takes_remark ⟨_, by simp, spelled⟩
  case onUpdate => exact fun _ spelled => takes_onUpdate spelled
  case on => exact fun _ spelled => takes_skipAction spelled

theorem takes_readModifier
    {readers : List (List String × (List Token → Except DdlError (Modifier × List Token)))}
    (each : ∀ reader ∈ readers, ∀ opening, AreKeywords reader.1 opening →
      Takes reader.2 (ModifierAfter opening)) :
    Takes (readModifier readers) ModifierSpelling := by
  intro tokens modifier after read
  induction readers with
  | nil => cases read
  | cons reader readers ih =>
      obtain ⟨first, others⟩ := List.forall_mem_cons.mp each
      rw [readModifier] at read
      split at read
      · rename_i rest found
        obtain ⟨opening, rfl, spelled⟩ := areKeywords_of_afterKeywords? found
        obtain ⟨taken, rfl, modifies⟩ := first opening spelled read
        exact ⟨opening ++ taken, (List.append_assoc _ _ _).symm, modifies⟩
      · exact ih others read

theorem modifiers_spelled {found : List Modifier} (read : modifiers tokens = .ok found) :
    ∃ clauses : List (Modifier × List Token), tokens = clauses.flatMap (fun clause => clause.2) ∧
      (∀ clause ∈ clauses, ModifierSpelling clause.1 clause.2) ∧
      found = clauses.map fun clause => clause.1 := by
  fun_induction modifiers tokens generalizing found with
  | case1 =>
      cases read
      exact ⟨[], rfl, nofun, rfl⟩
  | case2 => cases read
  | case3 token tokens modifier rest first ih =>
      obtain ⟨later, laterRead, rfl⟩ := map_eq_ok read
      obtain ⟨taken, whole, spelled⟩ := takes_readModifier takes_modifierReaders first
      obtain ⟨clauses, rfl, each, rfl⟩ := ih laterRead
      exact ⟨(modifier, taken) :: clauses, whole, List.forall_mem_cons.mpr ⟨spelled, each⟩, rfl⟩

theorem columnTokens_of_columnDef? {column : ColumnDef}
    (read : columnDef? tokens = .ok (some column)) : ColumnTokens column tokens := by
  unfold columnDef? at read
  split at read
  · rename_i name quoted value typeQuoted rest
    obtain ⟨⟨dataType, left⟩, typed, read⟩ := bind_eq_ok read
    obtain ⟨found, modified, read⟩ := bind_eq_ok read
    cases read
    obtain ⟨type, rfl, typeSpelled⟩ := takes_dataTypeAfter (.word value typeQuoted) typed
    obtain ⟨clauses, rfl, each, rfl⟩ := modifiers_spelled modified
    exact ⟨name, quoted, dataType, _, clauses, rfl, typeSpelled, each, rfl⟩
  · cases read

theorem columnTokens_of_remainingColumn {column : ColumnDef}
    (read : remainingColumn tokens = .ok column) : ColumnTokens column tokens := by
  obtain ⟨found, definition, read⟩ := bind_eq_ok read
  cases found with
  | none =>
      dsimp only at read
      split at read
      · cases read
      · cases read
      · cases read
  | some found =>
      cases read
      exact columnTokens_of_columnDef? definition

/-! ## Constraints -/

theorem takes_optionalName {name : Option String} (read : optionalName tokens = (name, after)) :
    ∃ taken, tokens = taken ++ after ∧ MayBeNamed name taken := by
  unfold optionalName at read
  split at read
  · cases read
    exact ⟨[_], rfl, .named ⟨_, rfl⟩⟩
  · cases read
    exact ⟨[], rfl, .unnamed⟩

theorem takes_constraintAfter (name : Option String) :
    Takes (constraintAfter name) (ConstraintTokens name) := by
  intro tokens constraint after read
  rw [constraintAfter] at read
  split at read
  · rename_i rest primary
    obtain ⟨opening, rfl, spelled⟩ := areKeywords_of_afterKeywords? primary
    obtain ⟨⟨columns, left⟩, listed, read⟩ := bind_eq_ok read
    cases read
    obtain ⟨list, rfl, columnsSpelled⟩ := takes_columnList listed
    exact ⟨opening ++ list, by simp only [List.append_assoc], .primaryKey spelled columnsSpelled⟩
  split at read
  · rename_i rest unique
    obtain ⟨opening, rfl, spelled⟩ := areKeywords_of_afterKeywords? unique
    obtain ⟨key, whole, keySpelled⟩ := optionally_of_afterAny? [["KEY"], ["INDEX"]] rest
    rcases name : optionalName ((afterAny? [["KEY"], ["INDEX"]] rest).getD rest) with ⟨own, left⟩
    simp only [name] at read
    obtain ⟨⟨columns, left⟩, listed, read⟩ := bind_eq_ok read
    cases read
    obtain ⟨named, wholeName, nameSpelled⟩ := takes_optionalName name
    obtain ⟨list, rfl, columnsSpelled⟩ := takes_columnList listed
    refine ⟨opening ++ (key ++ (named ++ list)), ?_,
      .unique spelled keySpelled nameSpelled columnsSpelled⟩
    rw [whole, wholeName]
    simp only [List.append_assoc]
  split at read
  · rename_i rest foreign
    obtain ⟨opening, rfl, spelled⟩ := areKeywords_of_afterKeywords? foreign
    obtain ⟨⟨columns, left⟩, listed, read⟩ := bind_eq_ok read
    dsimp only at read
    split at read
    · cases read
    · rename_i references found
      obtain ⟨⟨target, left⟩, referred, read⟩ := bind_eq_ok read
      cases read
      obtain ⟨list, rfl, columnsSpelled⟩ := takes_columnList listed
      obtain ⟨word, rfl, wordSpelled⟩ := areKeywords_of_afterKeywords? found
      obtain ⟨taken, rfl, targetSpelled⟩ := takes_foreignRef referred
      exact ⟨opening ++ (list ++ (word ++ taken)), by simp only [List.append_assoc],
        .foreignKey spelled columnsSpelled wordSpelled targetSpelled⟩
  split at read
  · rename_i rest check
    obtain ⟨opening, rfl, spelled⟩ := areKeywords_of_afterKeywords? check
    obtain ⟨⟨inner, left⟩, group, read⟩ := bind_eq_ok read
    cases read
    obtain ⟨taken, rfl, groupSpelled⟩ := takes_parenthesized group
    exact ⟨opening ++ taken, by simp only [List.append_assoc], .check spelled groupSpelled⟩
  split at read
  · rename_i rest index
    obtain ⟨opening, rfl, spelled⟩ := areAnyKeywords_of_afterAny? index
    rcases name : optionalName rest with ⟨own, left⟩
    simp only [name] at read
    obtain ⟨⟨columns, left⟩, listed, read⟩ := bind_eq_ok read
    cases read
    obtain ⟨named, rfl, nameSpelled⟩ := takes_optionalName name
    obtain ⟨list, rfl, columnsSpelled⟩ := takes_columnList listed
    exact ⟨opening ++ (named ++ list), by simp only [List.append_assoc],
      .index spelled nameSpelled columnsSpelled⟩
  · cases read

theorem takes_constraintName : Takes constraintName ConstraintNameTokens := by
  intro tokens name after read
  rw [constraintName] at read
  split at read
  · rename_i rest found
    obtain ⟨⟨word, left⟩, named, same⟩ := map_eq_ok read
    cases same
    obtain ⟨opening, rfl, spelled⟩ := areKeywords_of_afterKeywords? found
    obtain ⟨taken, rfl, nameSpelled⟩ := takes_identifier named
    exact ⟨opening ++ taken, by simp only [List.append_assoc], .named spelled nameSpelled⟩
  · cases read
    exact ⟨[], rfl, .unnamed⟩

theorem nil_of_atEnd {α : Type} {result found : α} (read : atEnd result tokens = .ok found) :
    tokens = [] ∧ found = result := by
  cases tokens with
  | nil => exact ⟨rfl, atEnd_eq_ok read⟩
  | cons token tokens => cases read

theorem namedConstraintTokens_of_tableConstraint {constraint : TableConstraint}
    (read : tableConstraint tokens = .ok constraint) : NamedConstraintTokens constraint tokens := by
  obtain ⟨⟨name, rest⟩, nameRead, read⟩ := bind_eq_ok read
  obtain ⟨⟨found, left⟩, bodyRead, read⟩ := bind_eq_ok read
  obtain ⟨rfl, rfl⟩ := nil_of_atEnd read
  obtain ⟨named, rfl, nameSpelled⟩ := takes_constraintName nameRead
  obtain ⟨body, rfl, bodySpelled⟩ := takes_constraintAfter name bodyRead
  rw [List.append_nil]
  exact ⟨name, named, body, rfl, nameSpelled, bodySpelled⟩

end

end Parser

end SchemaDesign.Sql
