import SchemaDesign.Sql.Parser

/-!
# Tokens with parentheses that match

What stands between parentheses is found, and a list is divided at the commas that were written
between its parts.
-/

namespace SchemaDesign.Sql

/-- Tokens whose parentheses match.  Commas may stand outside parentheses only if this is said. -/
inductive Balanced : Bool → List Token → Prop where
  | nil {commas : Bool} : Balanced commas []
  | token {commas : Bool} {token : Token} {tokens : List Token} :
      token ≠ .openParen → token ≠ .closeParen → token ≠ .comma → Balanced commas tokens →
        Balanced commas (token :: tokens)
  | comma {tokens : List Token} : Balanced true tokens → Balanced true (.comma :: tokens)
  | group {commas : Bool} {inner tokens : List Token} :
      Balanced true inner → Balanced commas tokens →
        Balanced commas (.openParen :: (inner ++ .closeParen :: tokens))

section

variable {commas : Bool} {tokens more : List Token}

theorem Balanced.append (first : Balanced commas tokens) (second : Balanced commas more) :
    Balanced commas (tokens ++ more) := by
  induction first with
  | nil => exact second
  | token noOpen noClose noComma _ ih => exact .token noOpen noClose noComma (ih second)
  | comma _ ih => exact .comma (ih second)
  | @group commas inner tokens innerBalanced _ _ ih =>
      have shape : Token.openParen :: (inner ++ .closeParen :: tokens) ++ more =
          .openParen :: (inner ++ .closeParen :: (tokens ++ more)) := by simp
      rw [shape]
      exact .group innerBalanced (ih second)

theorem Balanced.with_commas (balanced : Balanced commas tokens) : Balanced true tokens := by
  induction balanced with
  | nil => exact .nil
  | token noOpen noClose noComma _ ih => exact .token noOpen noClose noComma ih
  | comma _ ih => exact .comma ih
  | group inner _ _ ih => exact .group inner ih

/-! ## Between parentheses -/

theorem enclosed?_cons
    {token : Token} (noOpen : token ≠ .openParen) (noClose : token ≠ .closeParen) (inner : Nat)
    (rest : List Token) :
    Parser.enclosed? inner (token :: rest) =
      (Parser.enclosed? inner rest).map fun found => (token :: found.1, found.2) := by
  cases token with
  | openParen => exact absurd rfl noOpen
  | closeParen => exact absurd rfl noClose
  | _ => rfl

theorem Balanced.enclosed?
    (balanced : Balanced commas tokens) (inner : Nat) (rest : List Token) :
    Parser.enclosed? inner (tokens ++ rest) =
      (Parser.enclosed? inner rest).map fun found => (tokens ++ found.1, found.2) := by
  induction balanced generalizing inner rest with
  | nil => simp
  | token noOpen noClose _ _ ih =>
      rw [List.cons_append, enclosed?_cons noOpen noClose, ih, Option.map_map]
      rfl
  | comma _ ih =>
      rw [List.cons_append, enclosed?_cons (by decide) (by decide), ih, Option.map_map]
      rfl
  | @group commas within tokens _ _ ihWithin ih =>
      calc
        Parser.enclosed? inner (.openParen :: (within ++ .closeParen :: tokens) ++ rest)
        _ = (Parser.enclosed? (inner + 1) (within ++ .closeParen :: (tokens ++ rest))).map
              fun found => (.openParen :: found.1, found.2) := by
            rw [List.cons_append, List.append_assoc]
            rfl
        _ = (Parser.enclosed? inner rest).map fun found =>
              (.openParen :: (within ++ .closeParen :: (tokens ++ found.1)), found.2) := by
            rw [ihWithin]
            change (((Parser.enclosed? inner (tokens ++ rest)).map _).map _).map _ = _
            rw [ih, Option.map_map, Option.map_map, Option.map_map]
            rfl
        _ = _ := by simp

theorem Balanced.parenthesized (balanced : Balanced commas tokens) (rest : List Token) :
    Parser.parenthesized (.openParen :: (tokens ++ .closeParen :: rest)) = .ok (tokens, rest) := by
  have found : Parser.enclosed? 0 (tokens ++ .closeParen :: rest) = some (tokens, rest) := by
    rw [balanced.enclosed? 0]
    simp [Parser.enclosed?]
  rw [Parser.parenthesized, found]

/-! ## Between commas -/

theorem partsFrom_cons
    {token : Token} (noOpen : token ≠ .openParen) (noClose : token ≠ .closeParen) {depth : Nat}
    (noCut : ¬(token = .comma ∧ depth = 0)) {rest part : List Token} {others : List (List Token)}
    (parted : Parser.partsFrom depth rest = part :: others) :
    Parser.partsFrom depth (token :: rest) = (token :: part) :: others := by
  rw [Parser.partsFrom, if_neg noCut]
  simp [noOpen, noClose, parted]

/-- Tokens with parentheses that match are not divided, unless at a comma outside them. -/
theorem Balanced.partsFrom
    (balanced : Balanced commas tokens) {depth : Nat} (inside : commas = true → depth ≠ 0)
    {rest part : List Token} {others : List (List Token)}
    (parted : Parser.partsFrom depth rest = part :: others) :
    Parser.partsFrom depth (tokens ++ rest) = (tokens ++ part) :: others := by
  induction balanced generalizing depth rest part others with
  | nil => exact parted
  | token noOpen noClose noComma _ ih =>
      exact partsFrom_cons noOpen noClose (fun cut => noComma cut.1) (ih inside parted)
  | comma _ ih =>
      exact partsFrom_cons (by decide) (by decide) (fun cut => inside rfl cut.2) (ih inside parted)
  | @group commas within tokens _ _ ihWithin ih =>
      have closed : Parser.partsFrom (depth + 1) (.closeParen :: (tokens ++ rest)) =
          (.closeParen :: (tokens ++ part)) :: others := by
        rw [Parser.partsFrom, if_neg (fun cut => absurd cut.2 (Nat.succ_ne_zero depth))]
        simp [ih inside parted]
      have opened := ihWithin (fun _ => Nat.succ_ne_zero depth) closed
      rw [List.cons_append, List.append_assoc, Parser.partsFrom,
        if_neg (fun cut => absurd cut.1 (by decide))]
      simp [opened]

/-- Tokens of several parts with commas between the parts. -/
def joined (parts : List (List Token)) : List Token :=
  [.comma].intercalate parts

theorem joined_cons (part next : List Token) (others : List (List Token)) :
    joined (part :: next :: others) = part ++ .comma :: joined (next :: others) := by
  simp [joined, List.intercalate, List.intersperse]

theorem balanced_joined
    {parts : List (List Token)} (balanced : ∀ part ∈ parts, Balanced false part) :
    Balanced true (joined parts) := by
  induction parts with
  | nil => exact .nil
  | cons part parts ih =>
      have first := (balanced part List.mem_cons_self).with_commas
      cases parts with
      | nil => simpa [joined, List.intercalate] using first
      | cons next others =>
          rw [joined_cons]
          apply first.append
          exact .comma (ih fun other member => balanced other (List.mem_cons_of_mem _ member))

theorem partsFrom_joined
    {part : List Token} {others : List (List Token)}
    (balanced : ∀ other ∈ part :: others, Balanced false other) :
    Parser.partsFrom 0 (joined (part :: others)) = part :: others := by
  induction others generalizing part with
  | nil =>
      have whole : Parser.partsFrom 0 (part ++ []) = [part ++ []] :=
        (balanced part List.mem_cons_self).partsFrom (by simp) rfl
      simpa [joined, List.intercalate] using whole
  | cons next others ih =>
      have rest := ih fun other member => balanced other (List.mem_cons_of_mem _ member)
      have cut : Parser.partsFrom 0 (.comma :: joined (next :: others)) =
          [] :: next :: others := by
        rw [Parser.partsFrom, if_pos ⟨rfl, rfl⟩, rest]
      have whole := (balanced part List.mem_cons_self).partsFrom (by simp) cut
      rw [joined_cons, whole, List.append_nil]

/-- A list is divided into the parts that were written with commas between them. -/
theorem parts_joined
    {parts : List (List Token)} (balanced : ∀ part ∈ parts, Balanced false part)
    (nonempty : ∀ part ∈ parts, part ≠ []) : Parser.parts (joined parts) = parts := by
  cases parts with
  | nil => rfl
  | cons part others =>
      rw [Parser.parts, partsFrom_joined balanced, List.filter_eq_self]
      intro other member
      simpa using nonempty other member

end

end SchemaDesign.Sql
