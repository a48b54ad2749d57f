import SchemaDesign.Sql.Parser

/-!
# Lists with commas

Tokens are divided at the commas outside parentheses.  A fragment is empty where a comma is stray:
at the start or the end of the tokens, or before another one.
-/

namespace SchemaDesign.Sql

/-- How many parentheses are open after some tokens, when some are open before them.  A closing one
that closes nothing does not count. -/
def depthAfter (depth : Nat) : List Token → Nat
  | [] => depth
  | .openParen :: rest => depthAfter (depth + 1) rest
  | .closeParen :: rest => depthAfter (depth - 1) rest
  | _ :: rest => depthAfter depth rest

/-- No comma of a fragment stands outside parentheses. -/
def Undivided (depth : Nat) (fragment : List Token) : Prop :=
  ∀ before after, fragment = before ++ .comma :: after → depthAfter depth before ≠ 0

/-- Fragments with single commas between them that stand outside parentheses, when some are open. -/
inductive Fragments : Nat → List (List Token) → List Token → Prop where
  | last {depth : Nat} {fragment : List Token} :
      Undivided depth fragment → Fragments depth [fragment] fragment
  | cons {depth : Nat} {fragment rest : List Token} {others : List (List Token)} :
      Undivided depth fragment → depthAfter depth fragment = 0 → Fragments 0 others rest →
        Fragments depth (fragment :: others) (fragment ++ .comma :: rest)

/-- A comma stands outside parentheses at the start or the end, or before another one. -/
def StrayComma (tokens : List Token) : Prop :=
  ∃ before after, tokens = before ++ .comma :: after ∧ depthAfter 0 before = 0 ∧
    (before = [] ∨ after = [] ∨ after.head? = some .comma)

/-! ## Division -/

theorem Undivided.cons
    {depth next : Nat} {token : Token} {fragment : List Token}
    (step : ∀ rest, depthAfter depth (token :: rest) = depthAfter next rest)
    (noCut : ¬(token = .comma ∧ depth = 0)) (undivided : Undivided next fragment) :
    Undivided depth (token :: fragment) := by
  intro before after split
  cases before with
  | nil =>
      obtain ⟨rfl, _⟩ := List.cons.inj split
      exact fun zero => noCut ⟨rfl, zero⟩
  | cons first before =>
      obtain ⟨rfl, rest⟩ := List.cons.inj split
      rw [step]
      exact undivided before after rest

theorem Fragments.prepend
    {depth next : Nat} {token : Token} {fragment rest : List Token} {others : List (List Token)}
    (step : ∀ rest, depthAfter depth (token :: rest) = depthAfter next rest)
    (noCut : ¬(token = .comma ∧ depth = 0)) (fragments : Fragments next (fragment :: others) rest) :
    Fragments depth ((token :: fragment) :: others) (token :: rest) := by
  cases fragments with
  | last undivided => exact .last (undivided.cons step noCut)
  | cons undivided closed later =>
      exact .cons (undivided.cons step noCut) ((step _).trans closed) later

/-- Tokens are divided at the commas outside parentheses. -/
theorem fragments_partsFrom (depth : Nat) (tokens : List Token) :
    Fragments depth (Parser.partsFrom depth tokens) tokens := by
  induction tokens generalizing depth with
  | nil => exact .last fun before after split => absurd split (by simp)
  | cons token tokens ih =>
      rw [Parser.partsFrom]
      split
      · rename_i cut
        obtain ⟨rfl, rfl⟩ := cut
        have empty : Undivided 0 [] := fun before after split => absurd split (by simp)
        exact Fragments.cons empty rfl (ih 0)
      · rename_i noCut
        have step (rest : List Token) : depthAfter depth (token :: rest) =
            depthAfter (if token = .openParen then depth + 1
              else if token = .closeParen then depth - 1 else depth) rest := by
          cases token with
          | _ => rfl
        have later := ih (if token = .openParen then depth + 1
          else if token = .closeParen then depth - 1 else depth)
        dsimp only
        split
        · rename_i none
          rw [none] at later
          cases later
        · rename_i fragment others parts
          rw [parts] at later
          exact later.prepend step noCut

/-! ## Stray commas -/

section

variable {fragment rest : List Token} {others : List (List Token)}

theorem depthAfter_append (depth : Nat) (first second : List Token) :
    depthAfter depth (first ++ second) = depthAfter (depthAfter depth first) second := by
  fun_induction depthAfter depth first with
  | case1 => rfl
  | case2 depth rest ih => exact ih
  | case3 depth rest ih => exact ih
  | case4 depth token rest noOpen noClose ih =>
      cases token with
      | openParen => exact absurd rfl noOpen
      | closeParen => exact absurd rfl noClose
      | _ => exact ih

theorem Fragments.ne_nil {depth : Nat} {fragments : List (List Token)}
    (divided : Fragments depth fragments rest) : fragments ≠ [] := by
  cases divided with
  | last => exact List.cons_ne_nil _ _
  | cons => exact List.cons_ne_nil _ _

theorem not_undivided (before after : List Token) (closed : depthAfter 0 before = 0) :
    ¬ Undivided 0 (before ++ .comma :: after) :=
  fun undivided => undivided before after rfl closed

theorem Fragments.eq_of_nil {fragments : List (List Token)} (divided : Fragments 0 fragments []) :
    fragments = [[]] := by
  generalize whole : ([] : List Token) = tokens at divided
  cases divided with
  | last =>
      subst whole
      rfl
  | cons => exact absurd whole (by simp)

/-- Tokens that begin with a comma have an empty fragment first. -/
theorem Fragments.nil_mem_of_comma {fragments : List (List Token)}
    (divided : Fragments 0 fragments (.comma :: rest)) : [] ∈ fragments := by
  generalize whole : Token.comma :: rest = tokens at divided
  cases divided with
  | last undivided =>
      rw [← whole] at undivided
      exact absurd undivided (not_undivided [] rest rfl)
  | @cons _ fragment _ _ undivided =>
      cases fragment with
      | nil => exact List.mem_cons_self
      | cons token fragment =>
          obtain ⟨rfl, _⟩ := List.cons.inj whole
          exact absurd undivided (not_undivided [] fragment rfl)

/-- Fragments are empty where commas are stray. -/
theorem strayComma_iff {fragments : List (List Token)} (divided : Fragments 0 fragments rest)
    (nonempty : rest ≠ []) : StrayComma rest ↔ [] ∈ fragments := by
  induction fragments generalizing rest with
  | nil => exact absurd rfl divided.ne_nil
  | cons fragment others ih =>
      cases divided with
      | last undivided =>
          refine iff_of_false ?_ fun member => nonempty (List.mem_singleton.mp member).symm
          rintro ⟨before, after, rfl, closed, _⟩
          exact not_undivided before after closed undivided
      | @cons _ _ rest _ undivided closed later =>
          constructor
          · rintro ⟨before, after, split, zero, stray⟩
            have here (same : before = fragment) (left : after = rest) :
                [] ∈ fragment :: others := by
              subst same left
              rcases stray with rfl | rfl | follows
              · exact List.mem_cons_self
              · rw [later.eq_of_nil]
                exact List.mem_cons_of_mem _ List.mem_cons_self
              · obtain ⟨more, rfl⟩ := List.head?_eq_some_iff.mp follows
                exact List.mem_cons_of_mem _ later.nil_mem_of_comma
            -- The comma ends the first fragment or is behind it, since none is inside.
            rcases List.append_eq_append_iff.mp split with
              ⟨between, isBefore, split⟩ | ⟨excess, isFragment, split⟩
            · cases between with
              | nil =>
                  rw [List.append_nil] at isBefore
                  exact here isBefore (List.cons.inj split).2.symm
              | cons token between =>
                  obtain ⟨rfl, isRest⟩ := List.cons.inj split
                  have behind : depthAfter 0 between = 0 := by
                    rw [isBefore, depthAfter_append, closed] at zero
                    exact zero
                  have nonemptyBefore : before ≠ [] := by simp [isBefore]
                  have strayRest : StrayComma rest :=
                    ⟨between, after, isRest, behind, .inr (stray.resolve_left nonemptyBefore)⟩
                  have nonemptyRest : rest ≠ [] := by simp [isRest]
                  exact List.mem_cons_of_mem _ ((ih later nonemptyRest).mp strayRest)
            · cases excess with
              | nil =>
                  rw [List.append_nil] at isFragment
                  exact here isFragment.symm (List.cons.inj split).2
              | cons token excess =>
                  obtain ⟨rfl, _⟩ := List.cons.inj split
                  rw [isFragment] at undivided
                  exact absurd undivided (not_undivided before excess zero)
          · intro member
            rcases List.mem_cons.mp member with rfl | member
            · exact ⟨[], rest, rfl, rfl, .inl rfl⟩
            · by_cases none : rest = []
              · exact ⟨fragment, rest, rfl, closed, .inr (.inl none)⟩
              · obtain ⟨before, after, rfl, zero, stray⟩ := (ih later none).mpr member
                rcases stray with rfl | stray
                · exact ⟨fragment, _, rfl, closed, .inr (.inr rfl)⟩
                · refine ⟨fragment ++ .comma :: before, after, by simp, ?_, .inr stray⟩
                  rw [depthAfter_append, closed]
                  exact zero

end

end SchemaDesign.Sql
