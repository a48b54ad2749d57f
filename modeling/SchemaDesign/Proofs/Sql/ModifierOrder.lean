import Mathlib.Data.List.Nodup
import SchemaDesign.Proofs.Sql.Parentheses
import SchemaDesign.Proofs.Sql.Recognition

/-!
# The order of modifiers

What stands after the type of a column may be written in any order.  Each modifier begins with a
keyword that no part of another one is mistaken for, so each is read to its end wherever it stands,
and modifiers of different kinds change different fields of the column.
-/

namespace SchemaDesign.Sql

/-! ## What is written -/

/-- Tokens spell some keywords, in any letter case. -/
def AreKeywords (keywords : List String) (tokens : List Token) : Prop :=
  List.Forall₂ (fun keyword token => token.isKeyword keyword = true) keywords tokens

/-- Tokens of a type: a word, further words that begin no modifier, and arguments. -/
inductive TypeTokens : String → List Token → Prop where
  | word (value : String) (quoted : Bool) : TypeTokens value [.word value quoted]
  | further {dataType value : String} {tokens : List Token} :
      TypeTokens dataType tokens → Parser.isModifierKeyword value = false →
        TypeTokens (dataType ++ " " ++ value) (tokens ++ [.word value false])
  | arguments {dataType : String} {tokens inner : List Token} :
      TypeTokens dataType tokens → Balanced true inner →
        TypeTokens (dataType ++ "(" ++ Parser.argumentsText inner ++ ")")
          (tokens ++ .openParen :: (inner ++ [.closeParen]))

/-- Tokens of a default value: a number with or without a sign, a literal, a word, a call, or an
expression in parentheses. -/
inductive DefaultTokens : String → List Token → Prop where
  | number (digits : String) : DefaultTokens digits [.number digits]
  | signed {sign : String} (digits : String) :
      sign = "-" ∨ sign = "+" → DefaultTokens (sign ++ digits) [.other sign, .number digits]
  | literal (value : String) : DefaultTokens (quotedLiteral value) [.literal value]
  | word (value : String) (quoted : Bool) : DefaultTokens value [.word value quoted]
  | call (value : String) (quoted : Bool) {inner : List Token} :
      Balanced true inner →
        DefaultTokens (value ++ "(" ++ Token.render inner ++ ")")
          (.word value quoted :: .openParen :: (inner ++ [.closeParen]))
  | expression {inner : List Token} :
      Balanced true inner →
        DefaultTokens ("(" ++ Token.render inner ++ ")") (.openParen :: (inner ++ [.closeParen]))

/-- Tokens of the name of a table, which may have other names before it. -/
inductive NameTokens : String → List Token → Prop where
  | word (value : String) (quoted : Bool) : NameTokens value [.word value quoted]
  | qualified (value : String) (quoted : Bool) {name : String} {tokens : List Token} :
      NameTokens name tokens → NameTokens name (.word value quoted :: .period :: tokens)

/-- A part of a column list: the name of the column and what else is said of it. -/
def IsListed (column : String) (part : List Token) : Prop :=
  ∃ quoted more, part = .word column quoted :: more ∧ Balanced false more

/-- Tokens of a column list, which may be missing. -/
inductive ColumnListTokens : List String → List Token → Prop where
  | missing : ColumnListTokens [] []
  | listed {columns : List String} {parts : List (List Token)} :
      List.Forall₂ IsListed columns parts →
        ColumnListTokens columns (.openParen :: (joined parts ++ [.closeParen]))

/-- The keywords of what is done to a foreign key. -/
def referentialActions : List (List String) :=
  [["CASCADE"], ["RESTRICT"], ["SET", "NULL"], ["SET", "DEFAULT"], ["NO", "ACTION"]]

/-- Tokens that tell what is done to a foreign key when its target is deleted or updated. -/
inductive ActionTokens : List Token → Prop where
  | nil : ActionTokens []
  | cons {event : String} {action : List String} {tokens rest : List Token} :
      event ∈ ["DELETE", "UPDATE"] → action ∈ referentialActions →
        AreKeywords ("ON" :: event :: action) tokens → ActionTokens rest →
          ActionTokens (tokens ++ rest)

/-- Tokens of a modifier. -/
inductive ModifierTokens : Modifier → List Token → Prop where
  | notNull {tokens : List Token} :
      AreKeywords ["NOT", "NULL"] tokens → ModifierTokens .notNull tokens
  | primaryKey {tokens : List Token} :
      AreKeywords ["PRIMARY", "KEY"] tokens → ModifierTokens .primaryKey tokens
  | unique {tokens key : List Token} :
      AreKeywords ["UNIQUE"] tokens → key = [] ∨ AreKeywords ["KEY"] key →
        ModifierTokens .unique (tokens ++ key)
  | default {value : String} {tokens part : List Token} :
      AreKeywords ["DEFAULT"] tokens → DefaultTokens value part →
        ModifierTokens (.default value) (tokens ++ part)
  | autoIncrement {tokens : List Token} :
      AreKeywords ["AUTO_INCREMENT"] tokens ∨ AreKeywords ["AUTOINCREMENT"] tokens →
        ModifierTokens .autoIncrement tokens
  | check {tokens inner : List Token} :
      AreKeywords ["CHECK"] tokens → Balanced true inner →
        ModifierTokens (.check (Token.render inner))
          (tokens ++ .openParen :: (inner ++ [.closeParen]))
  | references {table : String} {columns : List String} {tokens name list actions : List Token} :
      AreKeywords ["REFERENCES"] tokens → NameTokens table name →
        ColumnListTokens columns list → ActionTokens actions →
          ModifierTokens (.references { table, columns }) (tokens ++ (name ++ (list ++ actions)))

/-- The kind of a modifier, whatever its value. -/
def Modifier.kind (modifier : Modifier) : Nat :=
  modifier.ctorIdx

/-! ## Keywords -/

/-- Two sequences of keywords have different ones at some place. -/
def apart : List String → List String → Bool
  | keyword :: keywords, other :: others => !Text.same keyword other || apart keywords others
  | _, _ => false

section

variable {keywords : List String} {tokens : List Token}

theorem isKeyword_eq_same {token : Token} {keyword : String}
    (spelled : token.isKeyword keyword = true) (other : String) :
    token.isKeyword other = Text.same keyword other := by
  cases token with
  | word value quoted =>
      cases quoted with
      | true => cases spelled
      | false =>
          have spelled : Text.same value keyword = true := spelled
          change Text.same value other = Text.same keyword other
          rw [Bool.eq_iff_iff]
          constructor
          · exact Text.same_trans (Text.same_comm value keyword ▸ spelled)
          · exact Text.same_trans spelled
  | _ => cases spelled

theorem AreKeywords.afterKeywords? (spelled : AreKeywords keywords tokens) (rest : List Token) :
    Parser.afterKeywords? keywords (tokens ++ rest) = some rest := by
  induction spelled with
  | nil => rfl
  | cons first _ ih =>
      rw [List.cons_append, Parser.afterKeywords?, if_pos first]
      exact ih

/-- Keywords are not found where others stand that differ from them at some place. -/
theorem AreKeywords.afterKeywords?_eq_none
    (spelled : AreKeywords keywords tokens) {others : List String}
    (different : apart keywords others = true) (rest : List Token) :
    Parser.afterKeywords? others (tokens ++ rest) = none := by
  induction spelled generalizing others with
  | nil => cases different
  | @cons keyword token _ _ first _ ih =>
      cases others with
      | nil => cases different
      | cons other others =>
          rw [List.cons_append, Parser.afterKeywords?, isKeyword_eq_same first]
          split
          · rename_i same
            rw [apart, same, Bool.not_true, Bool.false_or] at different
            exact ih different
          · rfl

/-- Of several sequences of keywords the first that can stand there is found. -/
theorem AreKeywords.afterAny?
    (spelled : AreKeywords keywords tokens) {sequences : List (List String)}
    (found : (sequences.find? fun others => !apart keywords others) = some keywords)
    (rest : List Token) : Parser.afterAny? sequences (tokens ++ rest) = some rest := by
  induction sequences with
  | nil => cases found
  | cons others sequences ih =>
      rw [Parser.afterAny?, List.findSome?_cons]
      rw [List.find?_cons] at found
      cases different : apart keywords others with
      | true =>
          rw [different] at found
          rw [spelled.afterKeywords?_eq_none different]
          exact ih found
      | false =>
          rw [different] at found
          cases found
          rw [spelled.afterKeywords?]

/-- Of several readers of modifiers the first whose keywords can stand there reads the rest. -/
theorem AreKeywords.readModifier
    (spelled : AreKeywords keywords tokens)
    {readers : List (List String × (List Token → Except DdlError (Modifier × List Token)))}
    {read : List Token → Except DdlError (Modifier × List Token)}
    (found : (readers.find? fun reader => !apart keywords reader.1) = some (keywords, read))
    (rest : List Token) : Parser.readModifier readers (tokens ++ rest) = read rest := by
  induction readers with
  | nil => cases found
  | cons reader readers ih =>
      rw [Parser.readModifier]
      rw [List.find?_cons] at found
      cases different : apart keywords reader.1 with
      | true =>
          rw [different] at found
          rw [spelled.afterKeywords?_eq_none different]
          exact ih found
      | false =>
          rw [different] at found
          cases found
          rw [spelled.afterKeywords?]

end

/-! ## What follows a part -/

/-- The keywords that begin a modifier. -/
def introducers : List String :=
  ["NOT", "PRIMARY", "UNIQUE", "DEFAULT", "AUTO_INCREMENT", "AUTOINCREMENT", "CHECK", "REFERENCES"]

/-- Tokens that begin with a modifier, if there are any. -/
inductive Introduced : List Token → Prop where
  | nil : Introduced []
  | cons {keyword : String} {token : Token} (rest : List Token) :
      keyword ∈ introducers → token.isKeyword keyword = true → Introduced (token :: rest)

section

variable {rest : List Token}

theorem AreKeywords.introduced
    {keyword : String} {keywords : List String} {tokens : List Token}
    (spelled : AreKeywords (keyword :: keywords) tokens) (known : keyword ∈ introducers)
    (rest : List Token) : Introduced (tokens ++ rest) := by
  cases spelled with
  | cons first _ => exact .cons _ known first

/-- What begins with a modifier begins with a word that is no part of a type, no `KEY` and no
`ON`. -/
theorem Introduced.cases (introduced : Introduced rest) :
    rest = [] ∨ ∃ value more, rest = .word value false :: more ∧
      Parser.isModifierKeyword value = true ∧ Text.same value "KEY" = false ∧
      Text.same value "ON" = false := by
  cases introduced with
  | nil => exact .inl rfl
  | @cons keyword token more known spelled =>
      cases token with
      | word value quoted =>
          cases quoted with
          | true => cases spelled
          | false =>
              have checked : ∀ keyword ∈ introducers, keyword ∈ Parser.modifierKeywords ∧
                  Text.same keyword "KEY" = false ∧ Text.same keyword "ON" = false := by
                decide +kernel
              obtain ⟨member, noKey, noOn⟩ := checked keyword known
              have compare := isKeyword_eq_same spelled
              refine .inr ⟨value, more, rfl, ?_, ?_, ?_⟩
              · exact List.any_eq_true.mpr ⟨keyword, member, spelled⟩
              · exact (compare "KEY").trans noKey
              · exact (compare "ON").trans noOn
      | _ => cases spelled

theorem Introduced.dataTypeAfter (introduced : Introduced rest) (dataType : String) :
    Parser.dataTypeAfter dataType rest = .ok (dataType, rest) := by
  rcases introduced.cases with rfl | ⟨value, more, rfl, modifier, _⟩
  · simp [Parser.dataTypeAfter]
  · rw [Parser.dataTypeAfter, if_pos modifier]

theorem Introduced.skipKeyword (introduced : Introduced rest) :
    Parser.skipKeyword "KEY" rest = rest := by
  rcases introduced.cases with rfl | ⟨value, more, rfl, _, noKey, _⟩
  · rfl
  · rw [Parser.skipKeyword, Parser.afterKeywords?, Token.isKeyword, noKey]
    rfl

theorem Introduced.skipActions (introduced : Introduced rest) :
    Parser.skipActions rest = .ok rest := by
  rw [Parser.skipActions_eq]
  rcases introduced.cases with rfl | ⟨value, more, rfl, _, _, noOn⟩
  · rfl
  · rw [Parser.afterKeywords?, Token.isKeyword, noOn]
    rfl

end

/-! ## Reading the parts -/

section

variable {tokens rest : List Token}

theorem balanced_group_append (inner rest : List Token) :
    .openParen :: (inner ++ [.closeParen]) ++ rest =
      .openParen :: (inner ++ .closeParen :: rest) := by
  simp

theorem TypeTokens.exists_cons {dataType : String} (typed : TypeTokens dataType tokens) :
    ∃ value quoted others, tokens = .word value quoted :: others ∧ ∀ rest,
      Parser.dataTypeAfter value (others ++ rest) = Parser.dataTypeAfter dataType rest := by
  induction typed with
  | word value quoted => exact ⟨value, quoted, [], rfl, fun _ => rfl⟩
  | @further dataType further tokens _ plain ih =>
      obtain ⟨value, quoted, others, rfl, read⟩ := ih
      refine ⟨value, quoted, others ++ [.word further false], rfl, fun rest => ?_⟩
      rw [List.append_assoc, read, List.singleton_append, Parser.dataTypeAfter,
        if_neg (ne_true_of_eq_false plain)]
  | @arguments dataType tokens inner _ balanced ih =>
      obtain ⟨value, quoted, others, rfl, read⟩ := ih
      refine ⟨value, quoted, others ++ .openParen :: (inner ++ [.closeParen]), rfl, fun rest => ?_⟩
      rw [List.append_assoc, read, balanced_group_append, Parser.dataTypeAfter_openParen,
        balanced.parenthesized]
      rfl

theorem DefaultTokens.defaultValue
    {value : String} (spelled : DefaultTokens value tokens) (introduced : Introduced rest) :
    Parser.defaultValue (tokens ++ rest) = .ok (value, rest) := by
  cases spelled with
  | number | literal => rfl
  | signed digits sign => rcases sign with rfl | rfl <;> rfl
  | word value quoted =>
      rcases introduced.cases with rfl | ⟨_, _, rfl, _⟩
      · rfl
      · rfl
  | call value quoted balanced =>
      rw [List.cons_append, balanced_group_append, Parser.defaultValue, balanced.parenthesized]
      rfl
  | expression balanced =>
      rw [balanced_group_append, Parser.defaultValue, balanced.parenthesized]
      rfl

theorem NameTokens.exists_cons {name : String} (spelled : NameTokens name tokens) :
    ∃ value quoted others, tokens = .word value quoted :: others ∧ ∀ rest,
      (∀ more, rest ≠ .period :: more) →
        Parser.objectNameAfter value (others ++ rest) = .ok (name, rest) := by
  induction spelled with
  | word value quoted =>
      refine ⟨value, quoted, [], rfl, fun rest noPeriod => ?_⟩
      cases rest with
      | nil => rfl
      | cons token more =>
          cases token with
          | period => exact absurd rfl (noPeriod more)
          | _ => rfl
  | qualified value quoted _ ih =>
      obtain ⟨next, nextQuoted, others, rfl, read⟩ := ih
      exact ⟨value, quoted, .period :: .word next nextQuoted :: others, rfl, read⟩

theorem NameTokens.objectName
    {name : String} (spelled : NameTokens name tokens)
    (noPeriod : ∀ more, rest ≠ .period :: more) :
    Parser.objectName (tokens ++ rest) = .ok (name, rest) := by
  obtain ⟨value, quoted, others, rfl, read⟩ := spelled.exists_cons
  exact read rest noPeriod

theorem mapM_listedColumn
    {columns : List String} {parts : List (List Token)}
    (each : List.Forall₂ IsListed columns parts) :
    parts.mapM Parser.listedColumn = .ok columns := by
  induction each with
  | nil => rfl
  | cons first _ ih =>
      obtain ⟨quoted, more, rfl, _⟩ := first
      rw [List.mapM_cons, ih]
      rfl

theorem shape_of_mem_listed
    {columns : List String} {parts : List (List Token)}
    (each : List.Forall₂ IsListed columns parts) :
    ∀ part ∈ parts, part ≠ [] ∧ Balanced false part := by
  induction each with
  | nil => exact fun _ member => nomatch member
  | cons first _ ih =>
      obtain ⟨quoted, more, rfl, balanced⟩ := first
      refine List.forall_mem_cons.mpr ⟨⟨List.cons_ne_nil _ _, ?_⟩, ih⟩
      exact .token Token.noConfusion Token.noConfusion Token.noConfusion balanced

theorem ColumnListTokens.optionalColumns
    {columns : List String} (spelled : ColumnListTokens columns tokens)
    (noParen : ∀ more, rest ≠ .openParen :: more) :
    Parser.optionalColumns (tokens ++ rest) = .ok (columns, rest) := by
  cases spelled with
  | missing =>
      cases rest with
      | nil => rfl
      | cons token more =>
          cases token with
          | openParen => exact absurd rfl (noParen more)
          | _ => rfl
  | @listed _ parts each =>
      have shape := shape_of_mem_listed each
      have balanced := balanced_joined fun part member => (shape part member).2
      have divided := parts_joined (fun part member => (shape part member).2)
        fun part member => (shape part member).1
      rw [balanced_group_append, Parser.optionalColumns, Parser.columnList, balanced.parenthesized]
      change (Parser.parts (joined parts)).mapM Parser.listedColumn >>= _ = _
      rw [divided, mapM_listedColumn each]
      rfl

/-- The keywords of an action are found as such, since no action begins like another one. -/
theorem find?_referentialActions {action : List String} (known : action ∈ referentialActions) :
    (referentialActions.find? fun others => !apart action others) = some action := by
  have checked : ∀ action ∈ referentialActions,
      (referentialActions.find? fun others => !apart action others) = some action := by
    decide +kernel
  exact checked action known

theorem find?_events {event : String} (known : event ∈ ["DELETE", "UPDATE"]) :
    ([["DELETE"], ["UPDATE"]].find? fun others => !apart [event] others) = some [event] := by
  have checked : ∀ event ∈ ["DELETE", "UPDATE"],
      ([["DELETE"], ["UPDATE"]].find? fun others => !apart [event] others) = some [event] := by
    decide +kernel
  exact checked event known

theorem skipActions_of_on (onRead : Parser.afterKeywords? ["ON"] tokens = some rest) :
    Parser.skipActions tokens = Parser.skipAction rest >>= Parser.skipActions := by
  rw [Parser.skipActions_eq, onRead]

theorem ActionTokens.skipActions (spelled : ActionTokens tokens) (introduced : Introduced rest) :
    Parser.skipActions (tokens ++ rest) = .ok rest := by
  induction spelled with
  | nil => exact introduced.skipActions
  | @cons event action _ others eventKnown actionKnown spelled _ ih =>
      cases spelled with
      | @cons _ on _ _ onSpelled spelled =>
          cases spelled with
          | @cons _ token _ words eventSpelled actionSpelled =>
              let after := words ++ (others ++ rest)
              have onRead : Parser.afterKeywords? ["ON"] (on :: token :: after) =
                  some (token :: after) :=
                AreKeywords.afterKeywords? (.cons onSpelled .nil) (token :: after)
              have eventRead : Parser.afterAny? [["DELETE"], ["UPDATE"]] (token :: after) =
                  some after :=
                AreKeywords.afterAny? (.cons eventSpelled .nil) (find?_events eventKnown) after
              have actionRead : Parser.afterAction? after = some (others ++ rest) :=
                AreKeywords.afterAny? actionSpelled (find?_referentialActions actionKnown) _
              have skipped : Parser.skipAction (token :: after) = .ok (others ++ rest) := by
                rw [Parser.skipAction, eventRead]
                dsimp only
                rw [actionRead]
              rw [List.append_assoc, List.cons_append, List.cons_append, skipActions_of_on onRead,
                skipped]
              exact ih

/-- What begins with a modifier or with an action begins with a word. -/
theorem Introduced.ne_cons
    (introduced : Introduced rest) {sign : Token} (notWord : sign.isWord = false)
    (more : List Token) : rest ≠ sign :: more := by
  rintro rfl
  rcases introduced.cases with none | ⟨value, _, word, _⟩
  · cases none
  · cases word
    cases notWord

theorem ActionTokens.ne_cons
    (spelled : ActionTokens tokens) (introduced : Introduced rest) {sign : Token}
    (notWord : sign.isWord = false) (more : List Token) : tokens ++ rest ≠ sign :: more := by
  cases spelled with
  | nil => exact introduced.ne_cons notWord more
  | cons _ _ spelled _ =>
      cases spelled with
      | @cons _ on _ _ first _ =>
          intro same
          cases same
          cases sign with
          | word => cases notWord
          | _ => cases first

theorem foreignRef_append
    {table : String} {columns : List String} {name list actions : List Token}
    (named : NameTokens table name) (listed : ColumnListTokens columns list)
    (acts : ActionTokens actions) (introduced : Introduced rest) :
    Parser.foreignRef (name ++ (list ++ actions) ++ rest) = .ok ({ table, columns }, rest) := by
  have noPeriod (more : List Token) : list ++ (actions ++ rest) ≠ .period :: more := by
    cases listed with
    | missing => exact acts.ne_cons introduced rfl more
    | listed _ => exact fun same => nomatch same
  have nameRead := named.objectName noPeriod
  have listRead := listed.optionalColumns fun more => acts.ne_cons introduced rfl more
  rw [List.append_assoc, List.append_assoc, Parser.foreignRef, nameRead]
  change Parser.optionalColumns (list ++ (actions ++ rest)) >>= _ = _
  rw [listRead]
  change Parser.skipActions (actions ++ rest) >>= _ = _
  rw [acts.skipActions introduced]
  rfl

end

/-! ## Modifiers -/

section

variable {tokens rest : List Token}

theorem ModifierTokens.introduced
    {modifier : Modifier} (spelled : ModifierTokens modifier tokens) (rest : List Token) :
    Introduced (tokens ++ rest) := by
  have known {keyword : String} (checked : introducers.contains keyword = true) :
      keyword ∈ introducers := List.contains_iff_mem.mp checked
  cases spelled with
  | notNull spelled | primaryKey spelled => exact spelled.introduced (by decide) rest
  | autoIncrement spelled =>
      rcases spelled with spelled | spelled
      · exact spelled.introduced (by decide) rest
      · exact spelled.introduced (by decide) rest
  | unique spelled _ | default spelled _ | check spelled _ | references spelled _ _ _ =>
      rw [List.append_assoc]
      exact spelled.introduced (by decide) _

/-- A modifier is read to its end, whatever modifier follows it. -/
theorem ModifierTokens.readModifier
    {modifier : Modifier} (spelled : ModifierTokens modifier tokens)
    (introduced : Introduced rest) :
    Parser.readModifier Parser.modifierReaders (tokens ++ rest) = .ok (modifier, rest) := by
  cases spelled with
  | notNull spelled | primaryKey spelled =>
      rw [spelled.readModifier rfl]
      rfl
  | unique spelled key =>
      rw [List.append_assoc, spelled.readModifier rfl]
      rcases key with rfl | key
      · rw [List.nil_append, introduced.skipKeyword]
      · rw [Parser.skipKeyword, key.afterKeywords?]
        rfl
  | autoIncrement spelled =>
      rcases spelled with spelled | spelled
      · rw [spelled.readModifier rfl]
        rfl
      · rw [spelled.readModifier rfl]
        rfl
  | default spelled value =>
      rw [List.append_assoc, spelled.readModifier rfl, Parser.withPart,
        value.defaultValue introduced]
      rfl
  | check spelled balanced =>
      rw [List.append_assoc, spelled.readModifier rfl, Parser.withPart, balanced_group_append,
        balanced.parenthesized]
      rfl
  | references spelled name columns actions =>
      rw [List.append_assoc, spelled.readModifier rfl, Parser.withPart,
        foreignRef_append name columns actions introduced]
      rfl

end

section

variable {clauses order : List (Modifier × List Token)}
  (written : ∀ clause ∈ clauses, ModifierTokens clause.1 clause.2)

include written

theorem introduced_flatMap : Introduced (clauses.flatMap fun clause => clause.2) := by
  cases clauses with
  | nil => exact .nil
  | cons clause clauses =>
      rw [List.flatMap_cons]
      exact (written clause List.mem_cons_self).introduced _

/-- Modifiers that are written one after the other are all read. -/
theorem modifiers_flatMap :
    Parser.modifiers (clauses.flatMap fun clause => clause.2) =
      .ok (clauses.map fun clause => clause.1) := by
  induction clauses with
  | nil =>
      rw [List.flatMap_nil, Parser.modifiers]
      rfl
  | cons clause clauses ih =>
      obtain ⟨first, others⟩ := List.forall_mem_cons.mp written
      have read := first.readModifier (introduced_flatMap others)
      rw [List.flatMap_cons]
      -- Nothing is read from no tokens, so the modifier has one that the loop goes on at.
      cases shape : clause.2 ++ clauses.flatMap fun clause => clause.2 with
      | nil =>
          rw [shape] at read
          cases read
      | cons token tokens =>
          rw [shape] at read
          rw [Parser.modifiers_cons, read]
          change (Parser.modifiers (clauses.flatMap fun clause => clause.2)).map _ = _
          rw [ih others]
          rfl

/-- Modifiers of different kinds change different fields. -/
theorem foldl_modify_perm
    (kinds : (clauses.map fun clause => clause.1.kind).Nodup) (perm : order.Perm clauses)
    (column : ColumnDef) :
    (order.map fun clause => clause.1).foldl ColumnDef.modify column =
      (clauses.map fun clause => clause.1).foldl ColumnDef.modify column := by
  have commute {left right : Modifier} {leftTokens rightTokens : List Token}
      (first : ModifierTokens left leftTokens) (second : ModifierTokens right rightTokens)
      (different : left.kind ≠ right.kind) (column : ColumnDef) :
      (column.modify left).modify right = (column.modify right).modify left := by
    cases first <;> cases second <;> first | rfl | exact absurd rfl different
  rw [List.foldl_map, List.foldl_map]
  refine (perm.symm.foldl_eq' ?_ column).symm
  intro left leftMember right rightMember column
  by_cases same : left.1.kind = right.1.kind
  · rw [List.inj_on_of_nodup_map kinds leftMember rightMember same]
  · exact commute (written left leftMember) (written right rightMember) same column

end

/-- A column is read from its name, its type and at most one modifier of each kind, and it is the
same one in whatever order the modifiers are written. -/
theorem columnDef?_of_perm
    (name : String) (quoted : Bool) {dataType : String} {tokens : List Token}
    (typed : TypeTokens dataType tokens) {clauses order : List (Modifier × List Token)}
    (written : ∀ clause ∈ clauses, ModifierTokens clause.1 clause.2)
    (kinds : (clauses.map fun clause => clause.1.kind).Nodup) (perm : order.Perm clauses) :
    Parser.columnDef? (.word name quoted :: (tokens ++ order.flatMap fun clause => clause.2)) =
      .ok (some ((clauses.map fun clause => clause.1).foldl ColumnDef.modify
        { name, dataType })) := by
  have orderWritten : ∀ clause ∈ order, ModifierTokens clause.1 clause.2 :=
    fun clause member => written clause (perm.mem_iff.mp member)
  obtain ⟨value, typeQuoted, others, rfl, typeRead⟩ := typed.exists_cons
  rw [List.cons_append, Parser.columnDef?, typeRead,
    (introduced_flatMap orderWritten).dataTypeAfter]
  change Parser.modifiers _ >>= _ = _
  rw [modifiers_flatMap orderWritten, ← foldl_modify_perm written kinds perm]
  rfl

/-- A reference before a default value, and the word that the column is not null at the end. -/
theorem columnDef?_of_perm_owner :
    Parser.columnDef?
        [.word "owner" true, .word "INT" false, .word "REFERENCES" false, .word "app" false,
          .period, .word "users" false, .openParen, .word "id" false, .closeParen,
          .word "ON" false, .word "DELETE" false, .word "SET" false, .word "NULL" false,
          .word "DEFAULT" false, .other "-", .number "1", .word "not" false, .word "NULL" false] =
      .ok (some
        { name := "owner", dataType := "INT", notNull := true, default := some "-1"
          references := some { table := "users", columns := ["id"] } }) := by
  let clauses : List (Modifier × List Token) :=
    [(.notNull, [.word "not" false, .word "NULL" false]),
      (.default "-1", [.word "DEFAULT" false, .other "-", .number "1"]),
      (.references { table := "users", columns := ["id"] },
        [.word "REFERENCES" false, .word "app" false, .period, .word "users" false, .openParen,
          .word "id" false, .closeParen, .word "ON" false, .word "DELETE" false,
          .word "SET" false, .word "NULL" false])]
  have onDelete : AreKeywords ["ON", "DELETE", "SET", "NULL"]
      [.word "ON" false, .word "DELETE" false, .word "SET" false, .word "NULL" false] :=
    .cons rfl (.cons rfl (.cons rfl (.cons rfl .nil)))
  have list : ColumnListTokens ["id"] [.openParen, .word "id" false, .closeParen] :=
    .listed (.cons ⟨false, [], rfl, .nil⟩ .nil)
  have written : ∀ clause ∈ clauses, ModifierTokens clause.1 clause.2 := by
    simp only [clauses, List.forall_mem_cons, List.not_mem_nil, false_implies, implies_true,
      and_true]
    exact ⟨.notNull (.cons rfl (.cons rfl .nil)),
      .default (.cons rfl .nil) (.signed "1" (.inl rfl)),
      .references (.cons rfl .nil) (.qualified "app" false (.word "users" false)) list
        (.cons (by decide) (by decide) onDelete .nil)⟩
  have kinds : (clauses.map fun clause => clause.1.kind).Nodup := by decide
  exact columnDef?_of_perm "owner" true (.word "INT" false) written kinds
    (List.reverse_perm clauses)

end SchemaDesign.Sql
