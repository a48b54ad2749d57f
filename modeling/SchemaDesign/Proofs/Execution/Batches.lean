import SchemaDesign.Proofs.Execution.Soundness
import SchemaDesign.Proofs.Sql.Cutting
import SchemaDesign.Proofs.Sql.Positions

/-!
# Scripts put together

Two scripts with a semicolon between them have the statements of the first and then those of the
second, if the first leaves no quotation or comment open.  To carry out both together is thus to
carry out one after the other, and nothing that fails in the first keeps the second from it.
-/

namespace SchemaDesign

namespace Sql

/-! ## Pieces -/

section

variable {left right : List Char}

/-- The mode after a text. -/
def Mode.after (mode : Mode) : List Char → Mode
  | [] => mode
  | c :: rest => (mode.next c rest.head?).after rest

/-- A semicolon after a character opens and closes nothing together with it. -/
theorem Mode.next_semicolon (mode : Mode) (c : Char) :
    mode.next c (some ';') = mode.next c none := by
  cases mode with
  | code => simp [Mode.next]
  | quoted mark => rfl
  | lineComment => rfl
  | blockOpening => rfl
  | blockComment => simp [Mode.next]
  | blockClosing => rfl

/-- A text is cut at a semicolon before which it has left nothing open. -/
theorem pieces_append_semicolon {mode : Mode} (ended : mode.after left = .code) :
    pieces mode (left ++ ';' :: right) = pieces mode left ++ pieces .code right := by
  induction left generalizing mode with
  | nil =>
      cases ended
      rfl
  | cons c left ih =>
      have next : mode.next c (left ++ ';' :: right).head? = mode.next c left.head? := by
        cases left with
        | nil => exact mode.next_semicolon c
        | cons d left => rfl
      rw [List.cons_append, pieces, pieces, next, ih ended]
      by_cases here : mode = .code ∧ c = ';'
      · obtain ⟨rfl, rfl⟩ := here
        rw [if_pos ⟨rfl, rfl⟩, if_pos ⟨rfl, rfl⟩, List.cons_append]
        exact congrArg _ (ih ended)
      · rw [if_neg here, if_neg here]
        cases later : pieces (mode.next c left.head?) left with
        | nil => exact absurd later (pieces_ne_nil _ _)
        | cons first others => rfl

/-- The number of bytes of some pieces, each with the semicolon after it. -/
def span : List (List Char) → Nat
  | [] => 0
  | piece :: pieces => byteLength piece + 1 + span pieces

theorem span_pieces (mode : Mode) (text : List Char) :
    span (pieces mode text) = byteLength text + 1 := by
  induction text generalizing mode with
  | nil => rfl
  | cons c text ih =>
      rw [pieces]
      split
      · next here =>
          have one : Char.utf8Size ';' = 1 := rfl
          rw [span, ih, here.2, byteLength, byteLength, one]
          omega
      · have rest := ih (mode.next c text.head?)
        cases later : pieces (mode.next c text.head?) text with
        | nil => exact absurd later (pieces_ne_nil _ _)
        | cons first others =>
            rw [later, span] at rest
            rw [prependToFirst, span, byteLength, byteLength]
            omega

end

/-! ## Statements -/

namespace StatementSource

/-- A statement that has a semicolon after it. -/
def closed (source : StatementSource) : StatementSource :=
  { source with terminated := true }

/-- A statement in a script that stands at a place of another. -/
def shifted (base : SourcePosition) (source : StatementSource) : StatementSource :=
  { source with
    start := base.shifted source.start
    finish := base.shifted source.finish }

end StatementSource

section

variable {left right piece : List Char} {offset : Nat}

theorem map_closed_statementOf? (source : List Char) (offset : Nat) (piece : List Char)
    (terminated : Bool) :
    (statementOf? source offset piece terminated).map StatementSource.closed =
      statementOf? source offset piece true := by
  simp only [statementOf?, Option.map_map]
  rfl

theorem statementOf?_append_of_le
    (within : offset + byteLength piece ≤ byteLength left) (terminated : Bool) :
    statementOf? (left ++ right) offset piece terminated =
      statementOf? left offset piece terminated := by
  unfold statementOf?
  congr 1
  funext text
  have start : offset + (byteLength piece - byteLength text) ≤ byteLength left := by omega
  rw [SourcePosition.ofOffset_append_of_le within, SourcePosition.ofOffset_append_of_le start]

theorem statementOf?_append (left right : List Char) (offset : Nat) (piece : List Char)
    (terminated : Bool) :
    statementOf? (left ++ right) (byteLength left + offset) piece terminated =
      (statementOf? right offset piece terminated).map
        (StatementSource.shifted (.after .origin left)) := by
  simp only [statementOf?, Option.map_map, Nat.add_assoc, SourcePosition.ofOffset_append]
  rfl

theorem map_closed_statementsFrom_cons
    (source : List Char) (offset : Nat) (piece : List Char) (pieces : List (List Char)) :
    (statementsFrom source offset (piece :: pieces)).map StatementSource.closed =
      (statementOf? source offset piece true).toList ++
        (statementsFrom source (offset + byteLength piece + 1) pieces).map
          StatementSource.closed := by
  cases pieces with
  | nil =>
      rw [statementsFrom_singleton, ← Option.toList_map, map_closed_statementOf?]
      exact (List.append_nil _).symm
  | cons next rest =>
      rw [statementsFrom_cons (List.cons_ne_nil _ _), List.map_append, ← Option.toList_map,
        map_closed_statementOf?]

/-- All statements have semicolons but perhaps the one in the last piece. -/
theorem terminated_of_mem_dropLast
    {source : List Char} {pieces : List (List Char)} {statement : StatementSource}
    (member : statement ∈ (statementsFrom source offset pieces).dropLast) :
    statement.terminated = true := by
  induction pieces generalizing offset with
  | nil => cases member
  | cons piece pieces ih =>
      cases pieces with
      | nil =>
          rw [statementsFrom_singleton] at member
          cases found : statementOf? source offset piece false with
          | none =>
              rw [found] at member
              cases member
          | some only =>
              rw [found] at member
              cases member
      | cons next rest =>
          have ended {first : StatementSource}
              (held : first ∈ (statementOf? source offset piece true).toList) :
              first.terminated = true := by
            obtain ⟨text, _, same⟩ := Option.map_eq_some_iff.mp (Option.mem_toList.mp held)
            rw [← same]
          rw [statementsFrom_cons (List.cons_ne_nil _ _), List.dropLast_append] at member
          split at member
          · exact ended (List.dropLast_subset _ member)
          · rcases List.mem_append.mp member with member | member
            · exact ended member
            · exact ih member

theorem statementsFrom_append
    {first second : List (List Char)} (nonempty : second ≠ [])
    (within : offset + span first ≤ byteLength left + 1) :
    statementsFrom (left ++ right) offset (first ++ second) =
      (statementsFrom left offset first).map StatementSource.closed ++
        statementsFrom (left ++ right) (offset + span first) second := by
  -- What follows ends each of the first pieces with a semicolon, the last of them too.
  induction first generalizing offset with
  | nil => rfl
  | cons piece first ih =>
      have more : first ++ second ≠ [] := fun empty => nonempty (List.append_eq_nil_iff.mp empty).2
      rw [span] at within
      rw [List.cons_append, statementsFrom_cons more, map_closed_statementsFrom_cons,
        statementOf?_append_of_le (by omega), ih (by omega), span, List.append_assoc]
      simp only [Nat.add_assoc]

theorem statementsFrom_shifted
    (left right : List Char) (offset : Nat) (pieces : List (List Char)) :
    statementsFrom (left ++ right) (byteLength left + offset) pieces =
      (statementsFrom right offset pieces).map
        (StatementSource.shifted (.after .origin left)) := by
  induction pieces generalizing offset with
  | nil => rfl
  | cons piece pieces ih =>
      cases pieces with
      | nil =>
          rw [statementsFrom_singleton, statementsFrom_singleton, statementOf?_append,
            Option.toList_map]
      | cons next rest =>
          rw [statementsFrom_cons (List.cons_ne_nil _ _),
            statementsFrom_cons (List.cons_ne_nil _ _), List.map_append, ← ih, statementOf?_append,
            Option.toList_map]
          simp only [Nat.add_assoc]

end

/-- The statements of two scripts with a semicolon between them. -/
theorem statements_join
    {left : String} (ended : Mode.after .code left.toList = .code) (right : String) :
    statements (left ++ ";" ++ right) =
      (statements left).map StatementSource.closed ++
        (statements right).map (StatementSource.shifted (.after .origin (left ++ ";").toList)) := by
  have whole : (left ++ ";" ++ right).toList = left.toList ++ ([';'] ++ right.toList) := by
    simp
  have length : byteLength (left ++ ";").toList = byteLength left.toList + 1 := by
    rw [String.toList_append, byteLength_append]
    rfl
  have cut : pieces .code (left.toList ++ ([';'] ++ right.toList)) =
      pieces .code left.toList ++ pieces .code right.toList :=
    pieces_append_semicolon ended
  have within : 0 + span (pieces .code left.toList) ≤ byteLength left.toList + 1 := by
    rw [span_pieces, Nat.zero_add]
  have start : 0 + span (pieces .code left.toList) = byteLength (left ++ ";").toList + 0 := by
    rw [span_pieces, length, Nat.zero_add, Nat.add_zero]
  rw [statements, whole, cut, statementsFrom_append (pieces_ne_nil _ _) within, start,
    ← List.append_assoc, ← String.toList_singleton, ← String.toList_append]
  exact congrArg _ (statementsFrom_shifted _ right.toList 0 _)

end Sql

namespace Session

/-- What statements do depends on their texts alone. -/
theorem executed_congr
    {left right : List Sql.StatementSource}
    (same : left.map (·.text) = right.map (·.text)) (session : Session) :
    session.executed left = session.executed right := by
  have byText (statements : List Sql.StatementSource) :
      session.executed statements =
        (statements.map (·.text)).foldl
          (fun session text => ((Execution.applyText text).run.run session).2) session := by
    rw [List.foldl_map]
    rfl
  rw [byText, byText, same]

/-- Two scripts with a semicolon between them, the first of which leaves no quotation or comment
open, have the statements of both, and to carry them out together is to carry out one after the
other. -/
theorem batches_compose
    {left : String} (ended : Sql.Mode.after .code left.toList = .code) (right : String) :
    Sql.statements (left ++ ";" ++ right) =
        (Sql.statements left).map Sql.StatementSource.closed ++
          (Sql.statements right).map (.shifted (.after .origin (left ++ ";").toList)) ∧
      (∀ source ∈ (Sql.statements left).dropLast, source.terminated = true) ∧
      ∀ session,
        ((SessionM.execute (left ++ ";" ++ right)).run session).2 =
          ((SessionM.execute right).run ((SessionM.execute left).run session).2).2 := by
  have joined := Sql.statements_join ended right
  refine ⟨joined, fun _ member => Sql.terminated_of_mem_dropLast member, ?_⟩
  intro session
  have texts : (Sql.statements (left ++ ";" ++ right)).map (·.text) =
      (Sql.statements left ++ Sql.statements right).map (·.text) := by
    rw [joined, List.map_append, List.map_append, List.map_map, List.map_map]
    rfl
  rw [execute_eq_executed, execute_eq_executed, execute_eq_executed, executed_congr texts,
    executed, executed, executed, List.foldl_append]

/-- A statement that is not SQL, with a semicolon in quotes, before one that creates a table. -/
theorem batches_compose_shop :
    let left := "CREATE TABLE users (id INT); CREATE ';' -- what?\n"
    let right := "CREATE TABLE orders (id INT)"
    let session : Session := .ofConfig {} 0 default
    Sql.Mode.after .code left.toList = .code ∧
      (Sql.statements (left ++ ";" ++ right)).map (·.terminated) = [true, true, false] ∧
      ((SessionM.execute (left ++ ";" ++ right)).run session).2 =
        ((SessionM.execute right).run ((SessionM.execute left).run session).2).2 := by
  intro left right session
  have ended : Sql.Mode.after .code left.toList = .code := by decide +kernel
  obtain ⟨joined, _, composed⟩ := batches_compose ended right
  refine ⟨ended, ?_, composed session⟩
  rw [joined, List.map_append, List.map_map, List.map_map]
  decide +kernel

end Session

end SchemaDesign
