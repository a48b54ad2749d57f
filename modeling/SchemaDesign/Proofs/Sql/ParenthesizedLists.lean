import SchemaDesign.Proofs.Sql.Parentheses
import SchemaDesign.Proofs.Sql.Spellings

/-!
# Lists in parentheses

A list in parentheses is read as it was written, and what is between parentheses is found wherever
they match.  It can be looked for by places among the tokens and a count of the open parentheses,
too: the count never falls below zero, and each slice is within the tokens.
-/

namespace SchemaDesign.Sql

namespace Parser

/-! ## Reading by places -/

/-- One less than a count, unless this is zero. -/
def oneLess? : Nat → Option Nat
  | 0 => none
  | count + 1 => some count

/-- The tokens from one place up to another, unless the places are out of order or behind the last
token. -/
def tokensBetween? (start finish : Nat) (tokens : List Token) : Option (List Token) :=
  if start ≤ finish ∧ finish ≤ tokens.length then some ((tokens.take finish).drop start) else none

/-- The tokens from a start up to the parenthesis that closes them and the place behind this one,
looked for from a cursor on with a count of the parentheses that are open.  There is no result where
the count would fall below zero or a slice is not within the tokens. -/
def closedFrom? (tokens : List Token) (start cursor count : Nat) :
    Option (Except DdlError (List Token × Nat)) :=
  match found : tokens[cursor]? with
  | none => some (.error (.unexpectedEnd ")"))
  | some .openParen => closedFrom? tokens start (cursor + 1) (count + 1)
  | some .closeParen => do
      let count ← oneLess? count
      if count = 0 then
        let finish ← oneLess? (cursor + 1)
        let inner ← tokensBetween? start finish tokens
        some (.ok (inner, cursor + 1))
      else closedFrom? tokens start (cursor + 1) count
  | some _ => closedFrom? tokens start (cursor + 1) count
termination_by tokens.length - cursor
decreasing_by
  all_goals
    have within := (List.getElem?_eq_some_iff.mp found).1
    omega

/-- The tokens between the parentheses that are opened at a cursor, and the place behind them. -/
def parenthesizedAt? (tokens : List Token) (cursor : Nat) :
    Option (Except DdlError (List Token × Nat)) :=
  if tokens[cursor]? = some .openParen then closedFrom? tokens (cursor + 1) (cursor + 1) 1
  else some (.error (unexpected "(" (tokens.drop cursor)))

section

variable {tokens : List Token} {start cursor count : Nat}

theorem closedFrom?_open (here : tokens[cursor]? = some .openParen) :
    closedFrom? tokens start cursor count = closedFrom? tokens start (cursor + 1) (count + 1) := by
  rw [closedFrom?]
  split <;> simp_all

theorem closedFrom?_last
    {inner : List Token} (here : tokens[cursor]? = some .closeParen)
    (slice : tokensBetween? start cursor tokens = some inner) :
    closedFrom? tokens start cursor 1 = some (.ok (inner, cursor + 1)) := by
  rw [closedFrom?]
  split <;> simp_all [oneLess?]

theorem closedFrom?_close (here : tokens[cursor]? = some .closeParen) :
    closedFrom? tokens start cursor (count + 2) =
      closedFrom? tokens start (cursor + 1) (count + 1) := by
  rw [closedFrom?]
  split <;> simp_all [oneLess?]

theorem closedFrom?_other
    {token : Token} (here : tokens[cursor]? = some token) (noOpen : token ≠ .openParen)
    (noClose : token ≠ .closeParen) :
    closedFrom? tokens start cursor count = closedFrom? tokens start (cursor + 1) count := by
  rw [closedFrom?]
  split <;> simp_all

theorem closedFrom?_end (here : tokens[cursor]? = none) :
    closedFrom? tokens start cursor count = some (.error (.unexpectedEnd ")")) := by
  rw [closedFrom?]
  split <;> simp_all

end

section

variable (before inside ahead : List Token)

theorem getElem?_ahead (token : Token) :
    (before ++ (inside ++ token :: ahead))[(before ++ inside).length]? = some token := by
  rw [← List.append_assoc, List.getElem?_append_right (Nat.le_refl _), Nat.sub_self]
  rfl

theorem tokensBetween?_inside :
    tokensBetween? before.length (before ++ inside).length (before ++ (inside ++ ahead)) =
      some inside := by
  rw [tokensBetween?, if_pos (by simp), ← List.append_assoc, List.take_left, List.drop_left]

/-- What is found behind the tokens inside a group, when its place is counted in all tokens. -/
def groupEnd : Option (List Token × List Token) → Except DdlError (List Token × Nat)
  | none => .error (.unexpectedEnd ")")
  | some (between, _) => .ok (inside ++ between, (before ++ (inside ++ between)).length + 1)

theorem groupEnd_cons (token : Token) (found : Option (List Token × List Token)) :
    groupEnd before inside (found.map fun found => (token :: found.1, found.2)) =
      groupEnd before (inside ++ [token]) found := by
  cases found with
  | none => rfl
  | some found => simp [groupEnd]

/-- While tokens are read by places, the count is one more than the number of parentheses that are
open inside the group, and so it is positive. -/
theorem closedFrom?_eq (depth : Nat) :
    closedFrom? (before ++ (inside ++ ahead)) before.length (before ++ inside).length (depth + 1) =
      some (groupEnd before inside (enclosed? depth ahead)) := by
  induction ahead generalizing inside depth with
  | nil =>
      have atEnd : (before ++ (inside ++ []))[(before ++ inside).length]? = none := by simp
      rw [closedFrom?_end atEnd]
      rfl
  | cons token ahead ih =>
      have here := getElem?_ahead before inside ahead token
      have whole : before ++ (inside ++ token :: ahead) =
          before ++ ((inside ++ [token]) ++ ahead) := by simp
      have place : (before ++ inside).length + 1 = (before ++ (inside ++ [token])).length := by
        simp only [List.length_append, List.length_singleton]
        omega
      cases token with
      | openParen =>
          rw [closedFrom?_open here, place, whole, ih, ← groupEnd_cons]
          rfl
      | closeParen =>
          cases depth with
          | zero =>
              rw [closedFrom?_last here (tokensBetween?_inside before inside _)]
              simp [groupEnd, enclosed?]
          | succ depth =>
              rw [closedFrom?_close here, place, whole, ih, ← groupEnd_cons]
              rfl
      | _ =>
          rw [closedFrom?_other here Token.noConfusion Token.noConfusion, place, whole, ih,
            ← groupEnd_cons]
          rfl

end

theorem parenthesized_of_head?_ne {tokens : List Token} (unopened : tokens.head? ≠ some .openParen) :
    parenthesized tokens = .error (unexpected "(" tokens) := by
  cases tokens with
  | nil => rfl
  | cons token rest =>
      cases token with
      | openParen => exact absurd rfl unopened
      | _ => rfl

/-- Reading by places always has a result, which is that of taking tokens away. -/
theorem parenthesizedAt?_eq (tokens : List Token) (cursor : Nat) :
    ∃ read, parenthesizedAt? tokens cursor = some read ∧
      parenthesized (tokens.drop cursor) =
        read.map fun found => (found.1, tokens.drop found.2) := by
  rw [parenthesizedAt?]
  by_cases opened : tokens[cursor]? = some .openParen
  · obtain ⟨within, first⟩ := List.getElem?_eq_some_iff.mp opened
    let before := tokens.take (cursor + 1)
    let ahead := tokens.drop (cursor + 1)
    have whole : before ++ ahead = tokens := List.take_append_drop _ _
    have length : before.length = cursor + 1 := List.length_take_of_le within
    have rest : tokens.drop cursor = .openParen :: ahead := by
      rw [List.drop_eq_getElem_cons within, first]
    have read := closedFrom?_eq before [] ahead 0
    rw [List.nil_append, List.append_nil, whole, length] at read
    refine ⟨_, (if_pos opened).trans read, ?_⟩
    rw [rest, parenthesized]
    cases found : enclosed? 0 ahead with
    | none => rfl
    | some group =>
        obtain ⟨inner, after⟩ := group
        have split := (closes_of_enclosed? found).1
        have behind : tokens.drop ((before ++ inner).length + 1) = after := by
          rw [← whole, split, ← List.append_assoc, List.drop_append,
            List.drop_of_length_le (by simp)]
          simp
        simp only [groupEnd, Except.map, List.nil_append, behind]
  · refine ⟨_, if_neg opened, ?_⟩
    rw [← List.head?_drop] at opened
    exact parenthesized_of_head?_ne opened

/-! ## When parentheses match -/

theorem exists_group_of_prefix
    {tokens front : List Token} (opened : tokens.head? = some .openParen)
    (shorter : front <+: tokens) (nonempty : front ≠ []) (balanced : Balanced true front) :
    ∃ inner rest, Balanced true inner ∧
      tokens = .openParen :: (inner ++ .closeParen :: rest) := by
  obtain ⟨more, rfl⟩ := shorter
  cases balanced with
  | nil => exact absurd rfl nonempty
  | token noOpen => exact absurd (Option.some.inj opened) noOpen
  | comma => cases opened
  | @group _ inner rest balanced => exact ⟨inner, rest ++ more, balanced, by simp⟩

/-- Parentheses are not read exactly if none is opened or what is opened is not closed. -/
theorem exists_parenthesized_eq_error_iff (tokens : List Token) :
    (∃ error, parenthesized tokens = .error error) ↔
      tokens.head? ≠ some .openParen ∨
        ∀ front, front <+: tokens → front ≠ [] → ¬ Balanced true front := by
  constructor
  · rintro ⟨error, failed⟩
    by_cases opened : tokens.head? = some .openParen
    · right
      intro front shorter nonempty balanced
      obtain ⟨inner, rest, group, rfl⟩ :=
        exists_group_of_prefix opened shorter nonempty balanced
      rw [group.parenthesized] at failed
      cases failed
    · exact .inl opened
  · intro unread
    cases read : parenthesized tokens with
    | error error => exact ⟨error, rfl⟩
    | ok found =>
        obtain ⟨taken, rfl, rfl, balanced⟩ := takes_parenthesized read
        rcases unread with unopened | unclosed
        · exact absurd rfl unopened
        · have group : Balanced true (.openParen :: (found.1 ++ [.closeParen])) :=
            .group balanced .nil
          have shorter := List.prefix_append (.openParen :: (found.1 ++ [.closeParen])) found.2
          exact absurd group (unclosed _ shorter (List.cons_ne_nil _ _))

/-- A list in parentheses is read as it was written, with the tokens after it left over, and divided
into its parts.  Reading fails exactly if no parenthesis is opened or no tokens from the start on
have matching parentheses; and by places it always has a result, which is the same. -/
theorem parenthesized_lists_read :
    (∀ (groups : List (List Token)) (rest : List Token),
      (∀ group ∈ groups, group ≠ [] ∧ Balanced false group) →
        parenthesized (.openParen :: (joined groups ++ .closeParen :: rest)) =
            .ok (joined groups, rest) ∧
          parts (joined groups) = groups) ∧
    ∀ tokens : List Token,
      ((∃ error, parenthesized tokens = .error error) ↔
        tokens.head? ≠ some .openParen ∨
          ∀ front, front <+: tokens → front ≠ [] → ¬ Balanced true front) ∧
      ∀ cursor, ∃ read, parenthesizedAt? tokens cursor = some read ∧
        parenthesized (tokens.drop cursor) =
          read.map fun found => (found.1, tokens.drop found.2) := by
  constructor
  · intro groups rest proper
    have balanced : ∀ group ∈ groups, Balanced false group := fun group member =>
      (proper group member).2
    have nonempty : ∀ group ∈ groups, group ≠ [] := fun group member => (proper group member).1
    exact ⟨(balanced_joined balanced).parenthesized rest, parts_joined balanced nonempty⟩
  · intro tokens
    exact ⟨exists_parenthesized_eq_error_iff tokens, parenthesizedAt?_eq tokens⟩

/-- A number, and a call that has a comma in its own parentheses. -/
theorem parenthesized_lists_read_call :
    let groups : List (List Token) :=
      [[.number "10"],
        [.word "f" false, .openParen, .word "a" false, .comma, .word "b" false, .closeParen]]
    (∀ group ∈ groups, group ≠ [] ∧ Balanced false group) ∧
      parenthesized (.openParen :: (joined groups ++ .closeParen :: [.word "NOT" false])) =
        .ok (joined groups, [.word "NOT" false]) ∧
      parts (joined groups) = groups := by
  intro groups
  have word (name : String) {commas : Bool} {rest : List Token} (balanced : Balanced commas rest) :
      Balanced commas (.word name false :: rest) :=
    .token Token.noConfusion Token.noConfusion Token.noConfusion balanced
  have number : Balanced false [.number "10"] :=
    .token Token.noConfusion Token.noConfusion Token.noConfusion .nil
  have call : Balanced false
      [.word "f" false, .openParen, .word "a" false, .comma, .word "b" false, .closeParen] :=
    word "f" (.group (word "a" (.comma (word "b" .nil))) .nil)
  have proper : ∀ group ∈ groups, group ≠ [] ∧ Balanced false group := by
    simp only [groups, List.forall_mem_cons]
    exact ⟨⟨List.cons_ne_nil _ _, number⟩, ⟨List.cons_ne_nil _ _, call⟩, by simp⟩
  exact ⟨proper, parenthesized_lists_read.1 groups _ proper⟩

end Parser

end SchemaDesign.Sql
