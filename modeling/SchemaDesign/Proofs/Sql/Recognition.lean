import SchemaDesign.Proofs.Sql.Folding

/-!
# Statements are recognised in any letter case

Every reader of the parser takes two lists of tokens that are alike to results that are alike, and
leaves alike tokens: it asks for keywords and for the kinds of tokens only.
-/

namespace SchemaDesign.Sql

variable {left right : List Token}

namespace Token.Alike

variable {token other : Token}

theorem isKeyword_eq (alike : token.Alike other) (keyword : String) :
    token.isKeyword keyword = other.isKeyword keyword := by
  cases alike with
  | plain => rfl
  | word quoted same =>
      cases quoted with
      | true => rfl
      | false => exact Text.same_congr same keyword

theorem isWord_eq (alike : token.Alike other) : token.isWord = other.isWord := by
  cases alike <;> rfl

theorem text_toLower (alike : token.Alike other) : token.text.toLower = other.text.toLower := by
  cases alike with
  | plain => rfl
  | word quoted same => exact same

theorem isEmpty_text (alike : token.Alike other) : token.text.isEmpty = other.text.isEmpty := by
  rw [← Text.isEmpty_toLower, alike.text_toLower, Text.isEmpty_toLower]

/-- Tokens that are alike are the same signs. -/
theorem eq_iff (alike : token.Alike other) (sign : Token) (plain : sign.isWord = false) :
    token = sign ↔ other = sign := by
  cases alike with
  | plain => rfl
  | word quoted same =>
      constructor <;>
        · rintro rfl
          simp [isWord] at plain

theorem sticks_eq
    {next following : Token} (alike : token.Alike other) (nexts : next.Alike following) :
    token.sticks next = other.sticks following := by
  cases alike with
  | word =>
      cases nexts with
      | word => rfl
      | plain => cases next <;> rfl
  | plain notWord =>
      cases nexts with
      | word => cases token <;> rfl
      | plain => rfl

end Token.Alike

namespace Token

theorem renderAfter_toLower
    (alike : List.Forall₂ Alike left right) {previous other : Token}
    (before : previous.Alike other) (written : Bool) :
    (renderAfter previous written left).toLower = (renderAfter other written right).toLower := by
  induction alike generalizing previous other written with
  | nil => rfl
  | cons head _ ih =>
      rw [renderAfter, renderAfter, before.sticks_eq head, head.isEmpty_text,
        Text.toLower_append, Text.toLower_append, Text.toLower_append, Text.toLower_append,
        head.text_toLower, ih head]

theorem render_toLower (alike : List.Forall₂ Alike left right) :
    (render left).toLower = (render right).toLower := by
  cases alike with
  | nil => rfl
  | cons head tail =>
      rw [render, render, Text.toLower_append, Text.toLower_append, head.text_toLower,
        head.isEmpty_text, renderAfter_toLower tail head]

end Token

namespace Parser

/-- Two runs of a reader on tokens that are alike agree on what they read and leave alike tokens. -/
abbrev ReadsAlike (fold : α → β) (read : List Token → Except DdlError (α × List Token)) : Prop :=
  ∀ left right, List.Forall₂ Token.Alike left right →
    Agree (Leaves fold) (read left) (read right)

theorem unexpected_folded (alike : List.Forall₂ Token.Alike left right) (expected : String) :
    (unexpected expected left).folded = (unexpected expected right).folded := by
  cases alike with
  | nil => rfl
  | cons head _ => simp [unexpected, DdlError.folded, head.text_toLower]

theorem agree_unexpected
    {related : α → β → Prop} (alike : List.Forall₂ Token.Alike left right) (expected : String) :
    Agree related (.error (unexpected expected left)) (.error (unexpected expected right)) :=
  .error (unexpected_folded alike expected)

/-! ## Keywords -/

theorem afterKeywords?_alike
    (alike : List.Forall₂ Token.Alike left right) (keywords : List String) :
    Option.Rel (List.Forall₂ Token.Alike) (afterKeywords? keywords left)
      (afterKeywords? keywords right) := by
  induction keywords generalizing left right with
  | nil => exact .some alike
  | cons keyword keywords ih =>
      cases alike with
      | nil => exact .none
      | cons head tail =>
          rw [afterKeywords?, afterKeywords?, head.isKeyword_eq]
          split
          · exact ih tail
          · exact .none

theorem afterAny?_alike
    (alike : List.Forall₂ Token.Alike left right) (sequences : List (List String)) :
    Option.Rel (List.Forall₂ Token.Alike) (afterAny? sequences left)
      (afterAny? sequences right) := by
  induction sequences with
  | nil => exact .none
  | cons keywords sequences ih =>
      rw [afterAny?, afterAny?, List.findSome?_cons, List.findSome?_cons]
      rcases rel_cases (afterKeywords?_alike alike keywords) with
        ⟨leftNone, rightNone⟩ | ⟨rest, other, leftSome, rightSome, rests⟩
      · rw [leftNone, rightNone]
        exact ih
      · rw [leftSome, rightSome]
        exact .some rests

theorem skipKeyword_alike (alike : List.Forall₂ Token.Alike left right) (keyword : String) :
    List.Forall₂ Token.Alike (skipKeyword keyword left) (skipKeyword keyword right) :=
  rel_getD (afterKeywords?_alike alike [keyword]) alike

/-! ## Names -/

theorem atEnd_agree
    {fold : α → β} {result other : α} (same : fold result = fold other)
    (alike : List.Forall₂ Token.Alike left right) :
    Agree (fun x y => fold x = fold y) (atEnd result left) (atEnd other right) := by
  cases alike with
  | nil => exact .ok same
  | cons head _ => exact .error (by simp [DdlError.folded, head.text_toLower])

theorem identifier_agree : ReadsAlike String.toLower identifier := by
  intro left right alike
  cases alike with
  | nil => exact agree_unexpected .nil _
  | @cons token _ _ _ head tail =>
      cases head with
      | word quoted same => exact .ok ⟨same, tail⟩
      | plain notWord =>
          cases token with
          | word => cases notWord
          | _ => exact agree_unexpected (.cons (.refl _) tail) _

theorem objectNameAfter_agree
    {name other : String} (same : name.toLower = other.toLower)
    (alike : List.Forall₂ Token.Alike left right) :
    Agree (Leaves String.toLower) (objectNameAfter name left) (objectNameAfter other right) := by
  induction sized : left.length using Nat.strongRecOn generalizing left right name other with
  | _ size ih =>
      cases alike with
      | nil => exact .ok ⟨same, .nil⟩
      | @cons token _ _ _ head tail =>
          cases head with
          | word quoted words => exact .ok ⟨same, .cons (.word quoted words) tail⟩
          | plain notWord =>
              cases token with
              | period =>
                  cases tail with
                  | nil => exact agree_unexpected .nil _
                  | @cons next _ tokens _ second rest =>
                      have shorter : tokens.length < size := by
                        rw [← sized, List.length_cons, List.length_cons]
                        omega
                      cases second with
                      | word _ words =>
                          have further := ih tokens.length shorter words rest rfl
                          exact further
                      | plain notWord =>
                          cases next with
                          | word => cases notWord
                          | _ => exact agree_unexpected (.cons (.refl _) rest) _
              | _ => exact .ok ⟨same, .cons (.refl _) tail⟩

theorem objectName_agree : ReadsAlike String.toLower objectName := by
  intro left right alike
  exact (identifier_agree left right alike).bind fun _ _ read =>
    objectNameAfter_agree read.1 read.2

/-! ## Parentheses -/

/-- Two pairs of token lists that are alike. -/
def Parted (left right : List Token × List Token) : Prop :=
  List.Forall₂ Token.Alike left.1 right.1 ∧ List.Forall₂ Token.Alike left.2 right.2

theorem enclosed?_alike (alike : List.Forall₂ Token.Alike left right) (inner : Nat) :
    Option.Rel Parted (enclosed? inner left) (enclosed? inner right) := by
  induction alike generalizing inner with
  | nil => exact .none
  | @cons token other tokens others head tail ih =>
      have further (depth : Nat) : Option.Rel Parted
          ((enclosed? depth tokens).map fun found => (token :: found.1, found.2))
          ((enclosed? depth others).map fun found => (other :: found.1, found.2)) :=
        rel_map (ih depth) fun _ _ found => ⟨.cons head found.1, found.2⟩
      cases head with
      | word => exact further inner
      | plain notWord =>
          cases token with
          | openParen => exact further (inner + 1)
          | closeParen =>
              cases inner with
              | zero => exact .some ⟨.nil, tail⟩
              | succ inner => exact further inner
          | _ => exact further inner

theorem parenthesized_agree (alike : List.Forall₂ Token.Alike left right) :
    Agree Parted (parenthesized left) (parenthesized right) := by
  cases alike with
  | nil => exact agree_unexpected .nil _
  | @cons token _ _ _ head tail =>
      cases head with
      | word quoted same => exact agree_unexpected (.cons (.word quoted same) tail) _
      | plain notWord =>
          cases token with
          | openParen =>
              rw [parenthesized, parenthesized]
              rcases rel_cases (enclosed?_alike tail 0) with
                ⟨leftNone, rightNone⟩ | ⟨found, other, leftSome, rightSome, parted⟩
              · rw [leftNone, rightNone]
                exact .error rfl
              · rw [leftSome, rightSome]
                exact .ok parted
          | _ => exact agree_unexpected (.cons (.refl _) tail) _

theorem partsFrom_alike (alike : List.Forall₂ Token.Alike left right) (depth : Nat) :
    List.Forall₂ (List.Forall₂ Token.Alike) (partsFrom depth left) (partsFrom depth right) := by
  induction alike generalizing depth with
  | nil => exact .cons .nil .nil
  | @cons token other tokens others head tail ih =>
      rw [partsFrom, partsFrom]
      simp only [head.eq_iff .comma rfl, head.eq_iff .openParen rfl, head.eq_iff .closeParen rfl]
      split
      · exact .cons .nil (ih 0)
      · generalize (if other = .openParen then depth + 1
          else if other = .closeParen then depth - 1 else depth) = inner
        have rests := ih inner
        generalize partsFrom inner tokens = rest at rests ⊢
        generalize partsFrom inner others = otherRest at rests ⊢
        cases rests with
        | nil => exact .cons (.cons head .nil) .nil
        | cons part parts => exact .cons (.cons head part) parts

theorem parts_alike (alike : List.Forall₂ Token.Alike left right) :
    List.Forall₂ (List.Forall₂ Token.Alike) (parts left) (parts right) := by
  refine List.rel_filter ?_ (partsFrom_alike alike 0)
  intro part other alike
  cases alike <;> simp

theorem listedColumn_agree (alike : List.Forall₂ Token.Alike left right) :
    Agree (fun x y => x.toLower = y.toLower) (listedColumn left) (listedColumn right) := by
  cases alike with
  | nil => exact agree_unexpected .nil _
  | @cons token _ _ _ head tail =>
      cases head with
      | word quoted same => exact .ok same
      | plain notWord =>
          cases token with
          | word => cases notWord
          | _ => exact agree_unexpected (.cons (.refl _) tail) _

theorem columnList_agree : ReadsAlike (List.map String.toLower) columnList := by
  intro left right alike
  refine (parenthesized_agree alike).bind fun inner other parted => ?_
  refine (Agree.mapM (parts_alike parted.1) fun _ _ => listedColumn_agree).bind
    fun columns others listed => ?_
  exact .ok ⟨map_eq_of_forall₂ (fun _ _ same => same) listed, parted.2⟩

/-! ## Columns -/

theorem isModifierKeyword_congr {word other : String} (same : word.toLower = other.toLower) :
    isModifierKeyword word = isModifierKeyword other := by
  simp only [isModifierKeyword, Text.same_congr same]

theorem argumentsText_toLower (alike : List.Forall₂ Token.Alike left right) :
    (argumentsText left).toLower = (argumentsText right).toLower := by
  rw [argumentsText, argumentsText, Text.toLower_intercalate, Text.toLower_intercalate,
    List.map_map, List.map_map]
  congr 1
  refine map_eq_of_forall₂ (fun part other alike => ?_) (parts_alike alike)
  rw [Function.comp_apply, Function.comp_apply, Text.toLower_intercalate,
    Text.toLower_intercalate, List.map_map, List.map_map]
  congr 1
  exact map_eq_of_forall₂ (fun _ _ alike => Token.Alike.text_toLower alike) alike

theorem afterAction?_alike (alike : List.Forall₂ Token.Alike left right) :
    Option.Rel (List.Forall₂ Token.Alike) (afterAction? left) (afterAction? right) :=
  afterAny?_alike alike _

theorem skipAction_agree (alike : List.Forall₂ Token.Alike left right) :
    Agree (List.Forall₂ Token.Alike) (skipAction left) (skipAction right) := by
  rw [skipAction, skipAction]
  rcases rel_cases (afterAny?_alike alike [["DELETE"], ["UPDATE"]]) with
    ⟨leftNone, rightNone⟩ | ⟨rest, other, leftSome, rightSome, rests⟩
  · rw [leftNone, rightNone]
    exact agree_unexpected alike _
  · rw [leftSome, rightSome]
    dsimp only
    rcases rel_cases (afterAction?_alike rests) with
      ⟨leftNone, rightNone⟩ | ⟨after, otherAfter, leftSome, rightSome, afters⟩
    · rw [leftNone, rightNone]
      exact agree_unexpected rests _
    · rw [leftSome, rightSome]
      exact .ok afters

/-- A call agrees with one whose name and arguments are the same up to letter case. -/
theorem defaultValue_word_agree
    {word name : String} (same : word.toLower = name.toLower) (quoted : Bool)
    (alike : List.Forall₂ Token.Alike left right) :
    Agree (Leaves String.toLower) (defaultValue (.word word quoted :: left))
      (defaultValue (.word name quoted :: right)) := by
  cases alike with
  | nil => exact .ok ⟨same, .nil⟩
  | @cons token _ _ _ head tail =>
      cases head with
      | word quoted words => exact .ok ⟨same, .cons (.word quoted words) tail⟩
      | plain notWord =>
          cases token with
          | openParen =>
              refine (parenthesized_agree (.cons (.refl _) tail)).bind fun inner other parted => ?_
              refine .ok ⟨?_, parted.2⟩
              simp [same, Token.render_toLower parted.1]
          | _ => exact .ok ⟨same, .cons (.refl _) tail⟩

/-- A sign agrees with itself: a number is to follow it. -/
theorem defaultValue_sign_agree
    (sign : String) (alike : List.Forall₂ Token.Alike left right) :
    Agree (Leaves String.toLower) (defaultValue (.other sign :: left))
      (defaultValue (.other sign :: right)) := by
  by_cases signs : sign = "-" ∨ sign = "+"
  · cases alike with
    | nil => simpa [defaultValue, signs] using .error rfl
    | @cons token _ _ _ head tail =>
        cases head with
        | word => simpa [defaultValue, signs] using .error rfl
        | plain notWord =>
            cases token with
            | number => simpa [defaultValue, signs] using .ok ⟨rfl, tail⟩
            | _ => simpa [defaultValue, signs] using .error rfl
  · simpa [defaultValue, signs] using .error rfl

theorem defaultValue_agree : ReadsAlike String.toLower defaultValue := by
  intro left right alike
  cases alike with
  | nil => exact .error rfl
  | @cons token _ _ _ head tail =>
      cases head with
      | word quoted same => exact defaultValue_word_agree same quoted tail
      | plain notWord =>
          cases token with
          | word => cases notWord
          | number => exact .ok ⟨rfl, tail⟩
          | literal => exact .ok ⟨rfl, tail⟩
          | openParen =>
              refine (parenthesized_agree (.cons (.refl _) tail)).bind fun inner other parted => ?_
              refine .ok ⟨?_, parted.2⟩
              simp [Token.render_toLower parted.1]
          | other sign => exact defaultValue_sign_agree sign tail
          | _ => exact .error rfl

theorem skipActions_eq (tokens : List Token) :
    skipActions tokens =
      match afterKeywords? ["ON"] tokens with
      | none => .ok tokens
      | some rest => skipAction rest >>= skipActions := by
  rw [skipActions]
  split
  · rename_i on
    rw [on]
  · rename_i rest on
    rw [on]
    dsimp only
    split
    · rename_i failed
      rw [failed]
      rfl
    · rename_i read
      rw [read]
      rfl

theorem skipActions_agree (alike : List.Forall₂ Token.Alike left right) :
    Agree (List.Forall₂ Token.Alike) (skipActions left) (skipActions right) := by
  induction sized : left.length using Nat.strongRecOn generalizing left right with
  | _ size ih =>
      rw [skipActions_eq, skipActions_eq]
      rcases rel_cases (afterKeywords?_alike alike ["ON"]) with
        ⟨leftNone, rightNone⟩ | ⟨rest, other, leftSome, rightSome, rests⟩
      · rw [leftNone, rightNone]
        exact .ok alike
      · rw [leftSome, rightSome]
        refine (skipAction_agree rests).bind_ok fun after _ read afters => ?_
        have taken := length_of_afterKeywords? leftSome
        have skipped := length_of_skipAction read
        simp only [List.length_singleton] at taken
        exact ih after.length (by omega) afters rfl

theorem optionalColumns_agree : ReadsAlike (List.map String.toLower) optionalColumns := by
  intro left right alike
  cases alike with
  | nil => exact .ok ⟨rfl, .nil⟩
  | @cons token _ _ _ head tail =>
      cases head with
      | word quoted same => exact .ok ⟨rfl, .cons (.word quoted same) tail⟩
      | plain notWord =>
          cases token with
          | openParen => exact columnList_agree _ _ (.cons (.refl _) tail)
          | _ => exact .ok ⟨rfl, .cons (.refl _) tail⟩

theorem foreignRef_agree : ReadsAlike ForeignRef.folded foreignRef := by
  intro left right alike
  refine (objectName_agree left right alike).bind fun table otherTable named => ?_
  refine (optionalColumns_agree _ _ named.2).bind fun columns otherColumns listed => ?_
  refine (skipActions_agree listed.2).bind fun rest other rests => ?_
  refine .ok ⟨?_, rests⟩
  simp [ForeignRef.folded, named.1, listed.1]

theorem dataTypeAfter_openParen (name : String) (rest : List Token) :
    dataTypeAfter name (.openParen :: rest) =
      parenthesized (.openParen :: rest) >>= fun found =>
        dataTypeAfter (name ++ "(" ++ argumentsText found.1 ++ ")") found.2 := by
  rw [dataTypeAfter]
  split
  · rename_i failed
    rw [failed]
    rfl
  · rename_i read
    rw [read]
    rfl

theorem dataTypeAfter_agree
    {name other : String} (same : name.toLower = other.toLower)
    (alike : List.Forall₂ Token.Alike left right) :
    Agree (Leaves String.toLower) (dataTypeAfter name left) (dataTypeAfter other right) := by
  induction sized : left.length using Nat.strongRecOn generalizing left right name other with
  | _ size ih =>
      have word
          {value further : String} (words : value.toLower = further.toLower) (quoted : Bool)
          {tokens others : List Token} (tail : List.Forall₂ Token.Alike tokens others)
          (shorter : tokens.length < size) :
          Agree (Leaves String.toLower) (dataTypeAfter name (.word value quoted :: tokens))
            (dataTypeAfter other (.word further quoted :: others)) := by
        have kept : List.Forall₂ Token.Alike (.word value quoted :: tokens)
            (.word further quoted :: others) := .cons (.word quoted words) tail
        cases quoted with
        | true => simpa [dataTypeAfter] using .ok ⟨same, kept⟩
        | false =>
            rw [dataTypeAfter, dataTypeAfter, isModifierKeyword_congr words]
            split
            · exact .ok ⟨same, kept⟩
            · exact ih tokens.length shorter (by simp [same, words]) tail rfl
      cases alike with
      | nil => simpa [dataTypeAfter] using .ok ⟨same, .nil⟩
      | @cons token _ tokens others head tail =>
          have shorter : tokens.length < size := sized ▸ Nat.lt_succ_self _
          cases head with
          | word quoted words => exact word words quoted tail shorter
          | plain notWord =>
              cases token with
              | word => cases notWord
              | openParen =>
                  rw [dataTypeAfter_openParen, dataTypeAfter_openParen]
                  have enclosed := parenthesized_agree (.cons (.refl .openParen) tail)
                  refine enclosed.bind_ok fun found others read parted => ?_
                  have taken := length_of_parenthesized read
                  rw [sized] at taken
                  refine ih found.2.length taken ?_ parted.2 rfl
                  simp [same, argumentsText_toLower parted.1]
              | _ => simpa [dataTypeAfter] using .ok ⟨same, .cons (.refl _) tail⟩

/-! ## Modifiers of columns -/

theorem withPart_agree
    {α β : Type} {fold : α → β} {make : α → Modifier}
    {read : List Token → Except DdlError (α × List Token)} (reads : ReadsAlike fold read)
    (makes : ∀ x y, fold x = fold y → (make x).folded = (make y).folded) :
    ReadsAlike Modifier.folded (withPart make read) := by
  intro left right alike
  exact (reads left right alike).map fun x y found => ⟨makes _ _ found.1, found.2⟩

theorem onUpdate_agree : ReadsAlike Modifier.folded onUpdate := by
  intro left right alike
  rw [onUpdate, onUpdate]
  rcases rel_cases (afterAction?_alike alike) with
    ⟨leftNone, rightNone⟩ | ⟨rest, other, leftSome, rightSome, rests⟩
  · rw [leftNone, rightNone]
    refine withPart_agree defaultValue_agree (fun x y same => ?_) left right alike
    simp [Modifier.folded, same]
  · rw [leftSome, rightSome]
    exact .ok ⟨rfl, rests⟩

theorem plain_agree (modifier : Modifier) : ReadsAlike Modifier.folded (plain modifier) :=
  fun _ _ alike => .ok ⟨rfl, alike⟩

theorem modifierReaders_agree :
    ∀ reader ∈ modifierReaders, ReadsAlike Modifier.folded reader.2 := by
  simp only [modifierReaders, List.forall_mem_cons, List.not_mem_nil, false_implies,
    implies_true, and_true]
  have skipping : ReadsAlike Modifier.folded
      fun rest => .ok (.ignored, rest.drop 1) :=
    fun _ _ alike => .ok ⟨rfl, List.forall₂_drop 1 alike⟩
  refine ⟨plain_agree _, plain_agree _, plain_agree _, ?_, ?_, plain_agree _, plain_agree _, ?_, ?_,
    ?_, skipping, skipping, skipping, onUpdate_agree, ?_⟩
  · exact fun _ _ alike => .ok ⟨rfl, skipKeyword_alike alike _⟩
  · exact withPart_agree defaultValue_agree fun _ _ same => congrArg Modifier.default same
  · exact withPart_agree foreignRef_agree fun _ _ same => congrArg Modifier.references same
  · have enclosed : ReadsAlike (fun inner => (Token.render inner).toLower) parenthesized :=
      fun _ _ alike => (parenthesized_agree alike).imp fun _ _ parted =>
        ⟨Token.render_toLower parted.1, parted.2⟩
    exact withPart_agree enclosed fun _ _ same => congrArg Modifier.check same
  · exact withPart_agree identifier_agree fun _ _ _ => rfl
  · exact fun _ _ alike => (skipAction_agree alike).map fun _ _ rests => ⟨rfl, rests⟩

theorem readModifier_agree
    {readers : List (List String × (List Token → Except DdlError (Modifier × List Token)))}
    (reads : ∀ reader ∈ readers, ReadsAlike Modifier.folded reader.2) :
    ReadsAlike Modifier.folded (readModifier readers) := by
  intro left right alike
  induction readers with
  | nil => exact agree_unexpected alike _
  | cons reader readers ih =>
      obtain ⟨first, others⟩ := List.forall_mem_cons.mp reads
      rw [readModifier, readModifier]
      rcases rel_cases (afterKeywords?_alike alike reader.1) with
        ⟨leftNone, rightNone⟩ | ⟨rest, other, leftSome, rightSome, rests⟩
      · rw [leftNone, rightNone]
        exact ih others
      · rw [leftSome, rightSome]
        exact first _ _ rests

theorem modifiers_cons (token : Token) (tokens : List Token) :
    modifiers (token :: tokens) =
      readModifier modifierReaders (token :: tokens) >>= fun found =>
        (modifiers found.2).map (found.1 :: ·) := by
  rw [modifiers]
  split
  · rename_i failed
    rw [failed]
    rfl
  · rename_i read
    rw [read]
    rfl

theorem modifiers_agree (alike : List.Forall₂ Token.Alike left right) :
    Agree (fun x y => x.map Modifier.folded = y.map Modifier.folded) (modifiers left)
      (modifiers right) := by
  -- What a modifier leaves is shorter on the left; on the right it need only be alike.
  induction sized : left.length using Nat.strongRecOn generalizing left right with
  | _ size ih =>
      cases alike with
      | nil => simpa [modifiers] using .ok rfl
      | cons head tail =>
          rw [modifiers_cons, modifiers_cons]
          have first := readModifier_agree modifierReaders_agree _ _ (.cons head tail)
          refine first.bind_ok fun found other read founds => ?_
          have taken := length_of_readModifier modifierReaders_bounded read
          refine (ih found.2.length (by omega) founds.2 rfl).map fun modifiers others rest => ?_
          simp [founds.1, rest]

theorem modify_folded (column : ColumnDef) (modifier : Modifier) :
    (column.modify modifier).folded = column.folded.modify modifier.folded := by
  cases modifier <;> rfl

theorem foldl_modify_folded (column : ColumnDef) (modifiers : List Modifier) :
    (modifiers.foldl ColumnDef.modify column).folded =
      (modifiers.map Modifier.folded).foldl ColumnDef.modify column.folded := by
  induction modifiers generalizing column with
  | nil => rfl
  | cons modifier modifiers ih => rw [List.foldl_cons, ih, modify_folded]; rfl

theorem columnDef?_agree (alike : List.Forall₂ Token.Alike left right) :
    Agree (fun x y => x.map ColumnDef.folded = y.map ColumnDef.folded) (columnDef? left)
      (columnDef? right) := by
  cases alike with
  | nil => exact .ok rfl
  | @cons token _ _ _ head tail =>
      cases head with
      | plain notWord =>
          cases token with
          | word => cases notWord
          | _ => exact .ok rfl
      | word quoted names =>
          cases tail with
          | nil => exact .ok rfl
          | @cons next _ _ _ second rest =>
              cases second with
              | plain notWord =>
                  cases next with
                  | word => cases notWord
                  | _ => exact .ok rfl
              | word typeQuoted types =>
                  refine (dataTypeAfter_agree types rest).bind fun type otherType typed => ?_
                  refine (modifiers_agree typed.2).bind fun modifiers others modified => ?_
                  refine .ok ?_
                  rw [Option.map_some, Option.map_some, foldl_modify_folded, foldl_modify_folded,
                    modified]
                  simp [ColumnDef.folded, names, typed.1]

/-! ## Constraints of tables -/

theorem getElem?_alike (alike : List.Forall₂ Token.Alike left right) (place : Nat) :
    Option.Rel Token.Alike left[place]? right[place]? := by
  induction alike generalizing place with
  | nil => exact .none
  | cons head tail ih =>
      cases place with
      | zero => exact .some head
      | succ place => simpa using ih place

theorem keywordAt_eq (alike : List.Forall₂ Token.Alike left right) (place : Nat) :
    keywordAt left place = keywordAt right place := by
  funext keyword
  rw [keywordAt, keywordAt]
  rcases rel_cases (getElem?_alike alike place) with
    ⟨leftNone, rightNone⟩ | ⟨token, other, leftSome, rightSome, tokens⟩
  · rw [leftNone, rightNone]
  · rw [leftSome, rightSome]
    exact tokens.isKeyword_eq keyword

theorem wordAt_eq (alike : List.Forall₂ Token.Alike left right) (place : Nat) :
    wordAt left place = wordAt right place := by
  rw [wordAt, wordAt]
  rcases rel_cases (getElem?_alike alike place) with
    ⟨leftNone, rightNone⟩ | ⟨token, other, leftSome, rightSome, tokens⟩
  · rw [leftNone, rightNone]
  · rw [leftSome, rightSome]
    exact tokens.isWord_eq

theorem signAt_eq
    (alike : List.Forall₂ Token.Alike left right) (place : Nat) (sign : Token)
    (plain : sign.isWord = false) :
    (left[place]? == some sign) = (right[place]? == some sign) := by
  rw [Bool.eq_iff_iff, beq_iff_eq, beq_iff_eq]
  rcases rel_cases (getElem?_alike alike place) with
    ⟨leftNone, rightNone⟩ | ⟨token, other, leftSome, rightSome, tokens⟩
  · rw [leftNone, rightNone]
  · rw [leftSome, rightSome, Option.some_inj, Option.some_inj]
    exact tokens.eq_iff sign plain

theorem columnListAt_eq (alike : List.Forall₂ Token.Alike left right) (place : Nat) :
    columnListAt left place = columnListAt right place := by
  rw [columnListAt, columnListAt, signAt_eq alike place .openParen rfl, wordAt_eq alike]

theorem isEmpty_eq (alike : List.Forall₂ Token.Alike left right) :
    left.isEmpty = right.isEmpty := by
  cases alike <;> rfl

theorem isTableConstraint_eq (alike : List.Forall₂ Token.Alike left right) :
    isTableConstraint left = isTableConstraint right := by
  simp only [isTableConstraint, keywordAt_eq alike, wordAt_eq alike, columnListAt_eq alike,
    signAt_eq alike 1 .openParen rfl]

theorem optionalName_leaves (alike : List.Forall₂ Token.Alike left right) :
    Leaves (Option.map String.toLower) (optionalName left) (optionalName right) := by
  cases alike with
  | nil => exact ⟨rfl, .nil⟩
  | @cons token _ _ _ head tail =>
      cases head with
      | word quoted same => exact ⟨congrArg some same, tail⟩
      | plain notWord =>
          cases token with
          | word => cases notWord
          | _ => exact ⟨rfl, .cons (.refl _) tail⟩

theorem constraintName_agree : ReadsAlike (Option.map String.toLower) constraintName := by
  intro left right alike
  rw [constraintName, constraintName]
  rcases rel_cases (afterKeywords?_alike alike ["CONSTRAINT"]) with
    ⟨leftNone, rightNone⟩ | ⟨rest, other, leftSome, rightSome, rests⟩
  · rw [leftNone, rightNone]
    exact .ok ⟨rfl, alike⟩
  · rw [leftSome, rightSome]
    exact (identifier_agree _ _ rests).map fun _ _ read => ⟨congrArg some read.1, read.2⟩

theorem constraintAfter_agree
    {name other : Option String} (same : name.map String.toLower = other.map String.toLower)
    (alike : List.Forall₂ Token.Alike left right) :
    Agree (Leaves TableConstraint.folded) (constraintAfter name left)
      (constraintAfter other right) := by
  rw [constraintAfter, constraintAfter]
  -- The first keywords found are the same ones in both lists, so both take the same way on.
  rcases rel_cases (afterKeywords?_alike alike ["PRIMARY", "KEY"]) with
    ⟨leftNone, rightNone⟩ | ⟨rest, otherRest, leftSome, rightSome, rests⟩
  case inr =>
    rw [leftSome, rightSome]
    exact (columnList_agree _ _ rests).bind fun _ _ listed =>
      .ok ⟨congrArg TableConstraint.primaryKey listed.1, listed.2⟩
  rw [leftNone, rightNone]
  dsimp only
  rcases rel_cases (afterKeywords?_alike alike ["UNIQUE"]) with
    ⟨leftNone, rightNone⟩ | ⟨rest, otherRest, leftSome, rightSome, rests⟩
  case inr =>
    rw [leftSome, rightSome]
    have named := optionalName_leaves
      (rel_getD (afterAny?_alike rests [["KEY"], ["INDEX"]]) rests)
    refine (columnList_agree _ _ named.2).bind fun _ _ listed => .ok ⟨?_, listed.2⟩
    simp [TableConstraint.folded, Option.map_or, same, named.1, listed.1]
  rw [leftNone, rightNone]
  dsimp only
  rcases rel_cases (afterKeywords?_alike alike ["FOREIGN", "KEY"]) with
    ⟨leftNone, rightNone⟩ | ⟨rest, otherRest, leftSome, rightSome, rests⟩
  case inr =>
    rw [leftSome, rightSome]
    refine (columnList_agree _ _ rests).bind fun columns others listed => ?_
    rcases rel_cases (afterKeywords?_alike listed.2 ["REFERENCES"]) with
      ⟨leftNone, rightNone⟩ | ⟨rest, otherRest, leftSome, rightSome, rests⟩
    · rw [leftNone, rightNone]
      exact agree_unexpected listed.2 _
    · rw [leftSome, rightSome]
      refine (foreignRef_agree _ _ rests).bind fun target otherTarget read => .ok ⟨?_, read.2⟩
      simp [TableConstraint.folded, same, listed.1, read.1]
  rw [leftNone, rightNone]
  dsimp only
  rcases rel_cases (afterKeywords?_alike alike ["CHECK"]) with
    ⟨leftNone, rightNone⟩ | ⟨rest, otherRest, leftSome, rightSome, rests⟩
  case inr =>
    rw [leftSome, rightSome]
    refine (parenthesized_agree rests).bind fun inner others parted => .ok ⟨?_, parted.2⟩
    simp [TableConstraint.folded, same, Token.render_toLower parted.1]
  rw [leftNone, rightNone]
  dsimp only
  rcases rel_cases (afterAny?_alike alike [["INDEX"], ["KEY"]]) with
    ⟨leftNone, rightNone⟩ | ⟨rest, otherRest, leftSome, rightSome, rests⟩
  case inr =>
    rw [leftSome, rightSome]
    have named := optionalName_leaves rests
    refine (columnList_agree _ _ named.2).bind fun _ _ listed => .ok ⟨?_, listed.2⟩
    simp [TableConstraint.folded, named.1, listed.1]
  rw [leftNone, rightNone]
  exact agree_unexpected alike _

theorem tableConstraint_agree (alike : List.Forall₂ Token.Alike left right) :
    Agree (fun x y => x.folded = y.folded) (tableConstraint left) (tableConstraint right) :=
  (constraintName_agree _ _ alike).bind fun _ _ named =>
    (constraintAfter_agree named.1 named.2).bind fun _ _ read => atEnd_agree read.1 read.2

/-! ## Tables that are created -/

theorem skipToken_alike
    (alike : List.Forall₂ Token.Alike left right) (sign : Token) (plain : sign.isWord = false) :
    List.Forall₂ Token.Alike (skipToken sign left) (skipToken sign right) := by
  cases alike with
  | nil => exact .nil
  | cons head tail =>
      rw [skipToken, skipToken]
      simp only [head.eq_iff sign plain]
      split
      · exact tail
      · exact .cons head tail

theorem skipOptionValue_agree (alike : List.Forall₂ Token.Alike left right) :
    Agree (List.Forall₂ Token.Alike) (skipOptionValue left) (skipOptionValue right) := by
  rw [skipOptionValue, skipOptionValue]
  have values := skipToken_alike alike (.other "=") rfl
  generalize skipToken (.other "=") left = value at values ⊢
  generalize skipToken (.other "=") right = other at values ⊢
  cases values with
  | nil => exact agree_unexpected .nil _
  | @cons token _ _ _ head tail =>
      cases head with
      | word => exact .ok (skipToken_alike tail .comma rfl)
      | plain notWord =>
          cases token with
          | word => cases notWord
          | number => exact .ok (skipToken_alike tail .comma rfl)
          | literal => exact .ok (skipToken_alike tail .comma rfl)
          | _ => exact agree_unexpected (.cons (.refl _) tail) _

theorem skipOption_agree (alike : List.Forall₂ Token.Alike left right) :
    Agree (List.Forall₂ Token.Alike) (skipOption left) (skipOption right) := by
  rw [skipOption, skipOption]
  have rest := skipKeyword_alike alike "DEFAULT"
  rcases rel_cases (afterAny?_alike rest (["CHARACTER", "SET"] :: optionKeywords.map ([·]))) with
    ⟨leftNone, rightNone⟩ | ⟨value, other, leftSome, rightSome, values⟩
  · rw [leftNone, rightNone]
    exact agree_unexpected rest _
  · rw [leftSome, rightSome]
    exact skipOptionValue_agree values

theorem skipOptions_cons (token : Token) (tokens : List Token) :
    skipOptions (token :: tokens) = skipOption (token :: tokens) >>= skipOptions := by
  rw [skipOptions]
  split
  · rename_i failed
    rw [failed]
    rfl
  · rename_i read
    rw [read]
    rfl

theorem skipOptions_agree (alike : List.Forall₂ Token.Alike left right) :
    Agree Eq (skipOptions left) (skipOptions right) := by
  induction sized : left.length using Nat.strongRecOn generalizing left right with
  | _ size ih =>
      cases alike with
      | nil => simpa [skipOptions] using .ok rfl
      | cons head tail =>
          rw [skipOptions_cons, skipOptions_cons]
          refine (skipOption_agree (.cons head tail)).bind_ok fun rest other read rests => ?_
          have taken := length_of_skipOption read
          exact ih rest.length (by omega) rests rfl

theorem element?_agree (alike : List.Forall₂ Token.Alike left right) :
    Agree (fun x y => x.map Element.folded = y.map Element.folded) (element? left)
      (element? right) := by
  rw [element?, element?, isTableConstraint_eq alike]
  split
  · exact (tableConstraint_agree alike).map fun _ _ same => by simp [Element.folded, same]
  · refine (columnDef?_agree alike).map fun column other same => ?_
    have folds (definition : Option ColumnDef) :
        (definition.map Element.column).map Element.folded =
          (definition.map ColumnDef.folded).map Element.column := by
      cases definition <;> rfl
    rw [folds, folds, same]

theorem filterMap_folded
    {α : Type} {pick : Option Element → Option α} {fold : α → α}
    (folds : ∀ element, (pick element).map fold = pick (element.map Element.folded))
    {elements others : List (Option Element)}
    (same : elements.map (Option.map Element.folded) = others.map (Option.map Element.folded)) :
    (elements.filterMap pick).map fold = (others.filterMap pick).map fold := by
  have picked (elements : List (Option Element)) : (elements.filterMap pick).map fold =
      (elements.map (Option.map Element.folded)).filterMap pick := by
    rw [List.map_filterMap, List.filterMap_map]
    exact congrArg (List.filterMap · elements) (funext folds)
  rw [picked, picked, same]

theorem createTable_agree (alike : List.Forall₂ Token.Alike left right) :
    Agree (fun x y => x.folded = y.folded) (createTable left) (createTable right) := by
  have created := afterKeywords?_alike alike ["IF", "NOT", "EXISTS"]
  refine (objectName_agree _ _ (rel_getD created alike)).bind fun name otherName named => ?_
  refine (parenthesized_agree named.2).bind fun body otherBody parted => ?_
  refine (skipOptions_agree parted.2).bind fun _ _ _ => ?_
  refine (Agree.mapM (parts_alike parted.1) fun _ _ => element?_agree).bind
    fun elements others listed => .ok ?_
  have same := map_eq_of_forall₂ (fun _ _ same => same) listed
  have head : name.1.toLower = otherName.1.toLower := named.1
  simp only [Statement.folded, CreateTable.folded]
  rw [head, rel_isSome created, filterMap_folded ?columns same, filterMap_folded ?constraints same]
  case columns => rintro (_ | _ | _) <;> rfl
  case constraints => rintro (_ | _ | _) <;> rfl

/-! ## Tables that are altered -/

theorem remainingColumn_agree (alike : List.Forall₂ Token.Alike left right) :
    Agree (fun x y => x.folded = y.folded) (remainingColumn left) (remainingColumn right) := by
  refine (columnDef?_agree alike).bind fun column other same => ?_
  cases column with
  | some column =>
      cases other with
      | none => cases same
      | some other => exact .ok (Option.some_inj.mp same)
  | none =>
      cases other with
      | some other => cases same
      | none =>
          cases alike with
          | nil => exact .error rfl
          | cons head tail =>
              cases tail with
              | nil => exact .error (by simp [DdlError.folded, head.text_toLower])
              | cons => exact .error (by simp [DdlError.folded, head.text_toLower])

theorem any_isKeyword_eq
    {token other : Token} (alike : token.Alike other) (keywords : List String) :
    keywords.any token.isKeyword = keywords.any other.isKeyword :=
  congrArg keywords.any (funext alike.isKeyword_eq)

theorem dropAction_agree (alike : List.Forall₂ Token.Alike left right) :
    Agree (fun x y => x.folded = y.folded) (dropAction left) (dropAction right) := by
  have named (x y : String × List Token) (read : Leaves String.toLower x y) :
      Agree (fun x y => AlterAction.folded x = AlterAction.folded y)
        (atEnd (.dropColumn x.1) x.2) (atEnd (.dropColumn y.1) y.2) :=
    atEnd_agree (congrArg AlterAction.dropColumn read.1) read.2
  have names := skipKeyword_alike alike "COLUMN"
  cases alike with
  | nil => exact (identifier_agree _ _ names).bind named
  | cons head tail =>
      rw [dropAction, dropAction]
      dsimp only
      rw [any_isKeyword_eq head]
      split
      · exact .error (by simp [DdlError.folded, head.text_toLower])
      · exact (identifier_agree _ _ names).bind named

theorem renameAction_agree (alike : List.Forall₂ Token.Alike left right) :
    Agree (fun x y => x.folded = y.folded) (renameAction left) (renameAction right) := by
  rw [renameAction, renameAction]
  rcases rel_cases (afterKeywords?_alike alike ["COLUMN"]) with
    ⟨leftNone, rightNone⟩ | ⟨rest, other, leftSome, rightSome, rests⟩
  · rw [leftNone, rightNone]
    have names := rel_getD (afterAny?_alike alike [["TO"], ["AS"]]) alike
    exact (objectName_agree _ _ names).bind fun _ _ read =>
      atEnd_agree (congrArg AlterAction.renameTo read.1) read.2
  · rw [leftSome, rightSome]
    refine (identifier_agree _ _ rests).bind ?_
    rintro ⟨old, afterOld⟩ ⟨otherOld, otherAfter⟩ olds
    dsimp only
    rcases rel_cases (afterKeywords?_alike olds.2 ["TO"]) with
      ⟨leftNone, rightNone⟩ | ⟨rest, other, leftSome, rightSome, rests⟩
    · rw [leftNone, rightNone]
      exact agree_unexpected olds.2 _
    · rw [leftSome, rightSome]
      refine (identifier_agree _ _ rests).bind fun new otherNew news => ?_
      refine atEnd_agree ?_ news.2
      simp [AlterAction.folded, olds.1, news.1]

theorem alterAction_agree (alike : List.Forall₂ Token.Alike left right) :
    Agree (fun x y => x.folded = y.folded) (alterAction left) (alterAction right) := by
  unfold alterAction
  rcases rel_cases (afterKeywords?_alike alike ["ADD"]) with
    ⟨leftNone, rightNone⟩ | ⟨rest, other, leftSome, rightSome, rests⟩
  case inr =>
    rw [leftSome, rightSome]
    dsimp only
    rw [isTableConstraint_eq rests]
    split
    · exact (tableConstraint_agree rests).map fun _ _ same =>
        congrArg AlterAction.addConstraint same
    · exact (remainingColumn_agree (skipKeyword_alike rests "COLUMN")).map fun _ _ same =>
        congrArg AlterAction.addColumn same
  rw [leftNone, rightNone]
  dsimp only
  rcases rel_cases (afterKeywords?_alike alike ["DROP"]) with
    ⟨leftNone, rightNone⟩ | ⟨rest, other, leftSome, rightSome, rests⟩
  case inr =>
    rw [leftSome, rightSome]
    exact dropAction_agree rests
  rw [leftNone, rightNone]
  dsimp only
  rcases rel_cases (afterKeywords?_alike alike ["MODIFY"]) with
    ⟨leftNone, rightNone⟩ | ⟨rest, other, leftSome, rightSome, rests⟩
  case inr =>
    rw [leftSome, rightSome]
    exact (remainingColumn_agree (skipKeyword_alike rests "COLUMN")).map fun _ _ same =>
      congrArg AlterAction.modifyColumn same
  rw [leftNone, rightNone]
  dsimp only
  rcases rel_cases (afterKeywords?_alike alike ["RENAME"]) with
    ⟨leftNone, rightNone⟩ | ⟨rest, other, leftSome, rightSome, rests⟩
  case inr =>
    rw [leftSome, rightSome]
    exact renameAction_agree rests
  rw [leftNone, rightNone]
  cases alike with
  | nil => exact .error rfl
  | cons head _ => exact .error (by simp [DdlError.folded, head.text_toLower])

theorem alterTable_agree (alike : List.Forall₂ Token.Alike left right) :
    Agree (fun x y => x.folded = y.folded) (alterTable left) (alterTable right) := by
  refine (objectName_agree _ _ alike).bind ?_
  rintro ⟨table, rest⟩ ⟨other, otherRest⟩ named
  have rests : List.Forall₂ Token.Alike rest otherRest := named.2
  dsimp only
  rw [isEmpty_eq rests]
  split
  · exact .error rfl
  · refine (Agree.mapM (parts_alike rests) fun _ _ => alterAction_agree).bind
      fun actions others listed => .ok ?_
    have head : table.toLower = other.toLower := named.1
    simp [Statement.folded, head, map_eq_of_forall₂ (fun _ _ same => same) listed]

/-! ## Tables that are dropped -/

theorem objectNames_eq (tokens : List Token) :
    objectNames tokens =
      objectName tokens >>= fun found =>
        match found.2 with
        | .comma :: rest => (objectNames rest).map fun names => (found.1 :: names.1, names.2)
        | rest => .ok ([found.1], rest) := by
  rw [objectNames]
  split
  · rename_i failed
    rw [failed]
    rfl
  · rename_i read
    rw [read]
    rfl
  · rename_i name rest more read
    rw [read]
    cases rest with
    | nil => rfl
    | cons token rest =>
        cases token with
        | comma => exact (more rest rfl).elim
        | _ => rfl

theorem objectNames_agree (alike : List.Forall₂ Token.Alike left right) :
    Agree (Leaves (List.map String.toLower)) (objectNames left) (objectNames right) := by
  induction sized : left.length using Nat.strongRecOn generalizing left right with
  | _ size ih =>
      rw [objectNames_eq, objectNames_eq]
      refine (objectName_agree _ _ alike).bind_ok ?_
      rintro ⟨name, rest⟩ ⟨other, otherRest⟩ read named
      have taken := length_of_objectName read
      have same : name.toLower = other.toLower := named.1
      have rests : List.Forall₂ Token.Alike rest otherRest := named.2
      cases rests with
      | nil => exact .ok ⟨by simp [same], .nil⟩
      | @cons token _ tokens others head tail =>
          cases head with
          | word quoted words => exact .ok ⟨by simp [same], .cons (.word quoted words) tail⟩
          | plain notWord =>
              cases token with
              | comma =>
                  have shorter : tokens.length < size := by
                    rw [List.length_cons] at taken
                    omega
                  refine (ih tokens.length shorter tail rfl).map fun names _ read => ⟨?_, read.2⟩
                  simp [same, read.1]
              | word => cases notWord
              | _ => exact .ok ⟨by simp [same], .cons (.refl _) tail⟩

theorem dropTable_agree (alike : List.Forall₂ Token.Alike left right) :
    Agree (fun x y => x.folded = y.folded) (dropTable left) (dropTable right) := by
  have existing := afterKeywords?_alike alike ["IF", "EXISTS"]
  refine (objectNames_agree (rel_getD existing alike)).bind fun _ _ named => ?_
  refine atEnd_agree ?_ (rel_getD (afterAny?_alike named.2 [["CASCADE"], ["RESTRICT"]]) named.2)
  rw [Statement.folded, Statement.folded, rel_isSome existing]
  exact congrArg (Statement.dropTable · _) named.1

end Parser

/-- Tokens whose words differ in letter case only are recognised as statements that differ in letter
case only, or rejected for the same reason. -/
theorem statement_folded (alike : List.Forall₂ Token.Alike left right) :
    foldResult Statement.folded (statement left) =
      foldResult Statement.folded (statement right) := by
  apply Agree.foldResult_eq
  rw [statement, statement]
  rcases rel_cases (Parser.afterKeywords?_alike alike ["CREATE", "TABLE"]) with
    ⟨leftNone, rightNone⟩ | ⟨rest, other, leftSome, rightSome, rests⟩
  case inr =>
    rw [leftSome, rightSome]
    exact Parser.createTable_agree rests
  rw [leftNone, rightNone]
  dsimp only
  rcases rel_cases (Parser.afterKeywords?_alike alike ["ALTER", "TABLE"]) with
    ⟨leftNone, rightNone⟩ | ⟨rest, other, leftSome, rightSome, rests⟩
  case inr =>
    rw [leftSome, rightSome]
    exact Parser.alterTable_agree rests
  rw [leftNone, rightNone]
  dsimp only
  rcases rel_cases (Parser.afterKeywords?_alike alike ["DROP", "TABLE"]) with
    ⟨leftNone, rightNone⟩ | ⟨rest, other, leftSome, rightSome, rests⟩
  case inr =>
    rw [leftSome, rightSome]
    exact Parser.dropTable_agree rests
  rw [leftNone, rightNone]
  exact .ok rfl

theorem statement_folded_shop :
    let left : List Token :=
      [.word "Create" false, .word "TABLE" false, .word "Users" true, .openParen,
        .word "Id" false, .word "int" false, .word "not" false, .word "Null" false, .closeParen]
    let right : List Token :=
      [.word "CREATE" false, .word "table" false, .word "Users" true, .openParen,
        .word "ID" false, .word "INT" false, .word "NOT" false, .word "null" false, .closeParen]
    let column : ColumnDef := { name := "id", dataType := "int", notNull := true }
    List.Forall₂ Token.Alike left right ∧
      foldResult Statement.folded (statement left) =
        foldResult Statement.folded (statement right) ∧
      foldResult Statement.folded (statement right) =
        .ok (.createTable
          { name := "users", ifNotExists := false, columns := [column], constraints := [] }) := by
  intro left right column
  have word {value name : String} (same : Text.same value name = true) :
      (Token.word value false).Alike (.word name false) :=
    .word false (Text.same_iff_toLower.mp same)
  have alike : List.Forall₂ Token.Alike left right :=
    .cons (word rfl) (.cons (word rfl) (.cons (.refl _) (.cons (.refl _) (.cons (word rfl)
      (.cons (word rfl) (.cons (word rfl) (.cons (word rfl) (.cons (.refl _) .nil))))))))
  exact ⟨alike, statement_folded alike, by decide +kernel⟩

end SchemaDesign.Sql
