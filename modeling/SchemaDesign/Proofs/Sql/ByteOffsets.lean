import SchemaDesign.Proofs.Sql.Pieces
import SchemaDesign.Proofs.Sql.Positions

/-!
# Cutting at byte offsets

The statements of a script can be looked for by byte offsets: those of its semicolons, and in each
fragment those at which comments end.  A slice at an offset that is inside a character has no
result.  No such offset is met, and what is found are the statements.
-/

namespace SchemaDesign.Sql

variable {source left right text fragment : List Char} {offset : Nat}

/-! ## Slices -/

/-- The parts of a text before and after a byte offset, unless the offset is inside a character or
beyond the end. -/
def cutAtByte? (offset : Nat) (text : List Char) : Option (List Char × List Char) :=
  let before := beforeOffset offset text
  if byteLength before = offset then some (before, text.drop before.length) else none

theorem beforeOffset_byteLength (left right : List Char) :
    beforeOffset (byteLength left) (left ++ right) = left := by
  have cut := beforeOffset_append left right 0
  rw [Nat.add_zero] at cut
  rw [cut]
  cases right with
  | nil => exact List.append_nil left
  | cons c right => exact List.append_nil left

theorem cutAtByte?_append (left right : List Char) :
    cutAtByte? (byteLength left) (left ++ right) = some (left, right) := by
  rw [cutAtByte?, beforeOffset_byteLength, if_pos rfl, List.drop_left]

theorem beforeOffset_isPrefix (offset : Nat) (text : List Char) :
    beforeOffset offset text <+: text := by
  induction text generalizing offset with
  | nil => cases offset <;> exact List.prefix_refl []
  | cons c text ih =>
      cases offset with
      | zero => exact List.nil_prefix
      | succ offset => exact (List.prefix_cons_inj c).mpr (ih _)

/-- A text is cut into what it consists of. -/
theorem cutAtByte?_eq_some_iff :
    cutAtByte? offset text = some (left, right) ↔
      text = left ++ right ∧ byteLength left = offset := by
  constructor
  · intro cut
    simp only [cutAtByte?] at cut
    split at cut
    · rename_i length
      cases cut
      exact ⟨(List.prefix_iff_eq_append.mp (beforeOffset_isPrefix offset text)).symm, length⟩
    · cases cut
  · rintro ⟨rfl, rfl⟩
    exact cutAtByte?_append left right

/-- The text between two byte offsets. -/
def slice? (start finish : Nat) (text : List Char) : Option (List Char) := do
  let (before, _) ← cutAtByte? finish text
  let (_, fragment) ← cutAtByte? start before
  some fragment

theorem slice?_append (left fragment right : List Char) :
    slice? (byteLength left) (byteLength left + byteLength fragment)
      (left ++ (fragment ++ right)) = some fragment := by
  rw [slice?, ← byteLength_append, ← List.append_assoc, cutAtByte?_append]
  simp [cutAtByte?_append]

/-! ## The start of a statement -/

theorem byteLength_pos_of_ne_nil (nonempty : text ≠ []) : 0 < byteLength text := by
  obtain ⟨c, rest, rfl⟩ := List.exists_cons_of_ne_nil nonempty
  have := c.utf8Size_pos
  rw [byteLength]
  omega

/-- The byte offset at which a part occurs first. -/
def offsetOf? (part text : List Char) : Option Nat :=
  (Text.cutAt? part text).map fun found => byteLength found.1

set_option linter.unusedVariables false in
/-- The byte offset at which the statement of a fragment begins, looked for from another on: behind
blanks and comments.  Nothing is found where a slice is not possible, and no offset where there is
no statement. -/
def statementOffset? (fragment : List Char) (offset : Nat) : Option (Option Nat) :=
  match sliced : cutAtByte? offset fragment with
  | none => none
  | some (_, rest) =>
      let trimmed := Text.trimStart rest
      let solid := offset + (byteLength rest - byteLength trimmed)
      if blank : trimmed = [] then some none
      else if Text.startsWith ['-', '-'] trimmed then
        match offsetOf? ['\n'] trimmed with
        | none => some none
        | some newline => statementOffset? fragment (solid + newline + 1)
      else if Text.startsWith ['/', '*'] trimmed then
        match offsetOf? ['*', '/'] trimmed with
        | none => some none
        | some close => statementOffset? fragment (solid + close + 2)
      else some (some solid)
termination_by byteLength fragment - offset
decreasing_by
  all_goals
    obtain ⟨whole, length⟩ := cutAtByte?_eq_some_iff.mp sliced
    have left : rest ≠ [] := by
      rintro rfl
      exact blank rfl
    have positive := byteLength_pos_of_ne_nil left
    have lengths := congrArg byteLength whole
    rw [byteLength_append] at lengths
    omega

theorem offsetOf?_newline (rest : List Char) :
    offsetOf? ['\n'] ('-' :: '-' :: rest) =
      (Text.cutAt? ['\n'] rest).map fun found => byteLength ('-' :: '-' :: found.1) := by
  have behind : Text.cutAt? ['\n'] ('-' :: '-' :: rest) =
      (Text.cutAt? ['\n'] rest).map fun found => ('-' :: '-' :: found.1, found.2) := by
    simp [Text.cutAt?, Text.afterStart?, Function.comp_def]
  rw [offsetOf?, behind, Option.map_map]
  rfl

theorem offsetOf?_close (rest : List Char) :
    offsetOf? ['*', '/'] ('/' :: '*' :: rest) =
      (Text.cutAt? ['*', '/'] ('*' :: rest)).map fun found => byteLength ('/' :: found.1) := by
  have behind : Text.cutAt? ['*', '/'] ('/' :: '*' :: rest) =
      (Text.cutAt? ['*', '/'] ('*' :: rest)).map fun found => ('/' :: found.1, found.2) := rfl
  rw [offsetOf?, behind, Option.map_map]
  rfl

theorem startsWith_line (rest : List Char) :
    Text.startsWith ['-', '-'] ('-' :: '-' :: rest) = true :=
  rfl

theorem startsWith_block (rest : List Char) :
    Text.startsWith ['-', '-'] ('/' :: '*' :: rest) = false ∧
      Text.startsWith ['/', '*'] ('/' :: '*' :: rest) = true :=
  ⟨rfl, rfl⟩

theorem exists_blanks (text : List Char) : ∃ blanks, text = blanks ++ Text.trimStart text :=
  ⟨text.takeWhile Text.isBlank, List.takeWhile_append_dropWhile.symm⟩

/-- One step of the search, behind what has been passed and the blanks that come next. -/
theorem statementOffset?_step
    (skipped : List Char) {blanks trimmed : List Char} (split : text = blanks ++ trimmed)
    (isTrimmed : Text.trimStart text = trimmed) :
    statementOffset? (skipped ++ text) (byteLength skipped) =
      if trimmed = [] then some none
      else if Text.startsWith ['-', '-'] trimmed then
        match offsetOf? ['\n'] trimmed with
        | none => some none
        | some newline =>
            statementOffset? (skipped ++ text) (byteLength (skipped ++ blanks) + newline + 1)
      else if Text.startsWith ['/', '*'] trimmed then
        match offsetOf? ['*', '/'] trimmed with
        | none => some none
        | some close =>
            statementOffset? (skipped ++ text) (byteLength (skipped ++ blanks) + close + 2)
      else some (some (byteLength (skipped ++ blanks))) := by
  have solid : byteLength skipped + (byteLength text - byteLength trimmed) =
      byteLength (skipped ++ blanks) := by
    rw [split, byteLength_append, byteLength_append]
    omega
  rw [statementOffset?]
  split
  · rename_i impossible
    rw [cutAtByte?_append] at impossible
    cases impossible
  · rename_i cut
    rw [cutAtByte?_append] at cut
    cases cut
    simp only [isTrimmed, solid, dite_eq_ite]

/-- Behind a comment the search goes on in the same fragment, of which more has been passed. -/
theorem statementOffset?_resume
    (skipped : List Char) {blanks comment after : List Char}
    (split : text = blanks ++ (comment ++ after))
    (later : ∀ skipped, statementOffset? (skipped ++ after) (byteLength skipped) =
      some ((meaningful? after).map fun rest => byteLength (skipped ++ after) - byteLength rest)) :
    statementOffset? (skipped ++ text) (byteLength (skipped ++ blanks) + byteLength comment) =
      some ((meaningful? after).map fun rest =>
        byteLength (skipped ++ text) - byteLength rest) := by
  have passed := later (skipped ++ blanks ++ comment)
  rw [byteLength_append (skipped ++ blanks)] at passed
  rw [split, ← List.append_assoc, ← List.append_assoc]
  exact passed

/-- The search by byte offsets meets no offset inside a character, and ends where the statement of
the text begins. -/
theorem statementOffset?_append (skipped text : List Char) :
    statementOffset? (skipped ++ text) (byteLength skipped) =
      some ((meaningful? text).map fun rest =>
        byteLength (skipped ++ text) - byteLength rest) := by
  fun_induction meaningful? text generalizing skipped with
  | case1 text blank =>
      obtain ⟨blanks, split⟩ := exists_blanks text
      rw [statementOffset?_step skipped split rfl, if_pos blank]
      rfl
  | case2 text rest opened endless =>
      obtain ⟨blanks, split⟩ := exists_blanks text
      rw [opened] at split
      rw [statementOffset?_step skipped split opened, if_neg (List.cons_ne_nil _ _),
        if_pos (startsWith_line rest), offsetOf?_newline, endless]
      rfl
  | case3 text rest opened line after cut ih =>
      obtain ⟨blanks, split⟩ := exists_blanks text
      rw [opened] at split
      have comment : text = blanks ++ (('-' :: '-' :: line) ++ ['\n'] ++ after) := by
        rw [split, (Text.cutAt?_eq_some cut).1]
        simp
      have found := statementOffset?_resume skipped comment ih
      rw [byteLength_append _ ['\n'], ← Nat.add_assoc] at found
      rw [statementOffset?_step skipped split opened, if_neg (List.cons_ne_nil _ _),
        if_pos (startsWith_line rest), offsetOf?_newline, cut]
      exact found
  | case4 text rest opened endless =>
      obtain ⟨blanks, split⟩ := exists_blanks text
      rw [opened] at split
      obtain ⟨noLine, block⟩ := startsWith_block rest
      rw [statementOffset?_step skipped split opened, if_neg (List.cons_ne_nil _ _),
        if_neg (ne_true_of_eq_false noLine), if_pos block, offsetOf?_close, endless]
      rfl
  | case5 text rest opened inside after cut ih =>
      obtain ⟨blanks, split⟩ := exists_blanks text
      rw [opened] at split
      obtain ⟨noLine, block⟩ := startsWith_block rest
      have comment : text = blanks ++ (('/' :: inside) ++ ['*', '/'] ++ after) := by
        rw [split, (Text.cutAt?_eq_some cut).1]
        simp
      have found := statementOffset?_resume skipped comment ih
      rw [byteLength_append _ ['*', '/'], ← Nat.add_assoc] at found
      rw [statementOffset?_step skipped split opened, if_neg (List.cons_ne_nil _ _),
        if_neg (ne_true_of_eq_false noLine), if_pos block, offsetOf?_close, cut]
      exact found
  | case6 text c rest noLine noBlock begins =>
      obtain ⟨blanks, split⟩ := exists_blanks text
      rw [begins] at split
      have line : Text.startsWith ['-', '-'] (c :: rest) ≠ true := by
        intro starts
        obtain ⟨tail, same⟩ := Text.startsWith_iff_isPrefix.mp starts
        obtain ⟨dash, whole⟩ := List.cons.inj same
        exact noLine tail dash.symm whole.symm
      have block : Text.startsWith ['/', '*'] (c :: rest) ≠ true := by
        intro starts
        obtain ⟨tail, same⟩ := Text.startsWith_iff_isPrefix.mp starts
        obtain ⟨slash, whole⟩ := List.cons.inj same
        exact noBlock tail slash.symm whole.symm
      have solid : byteLength (skipped ++ text) - byteLength (c :: rest) =
          byteLength (skipped ++ blanks) := by
        rw [split, ← List.append_assoc, byteLength_append (skipped ++ blanks)]
        omega
      rw [statementOffset?_step skipped split begins, if_neg (List.cons_ne_nil _ _), if_neg line,
        if_neg block, Option.map_some, solid]

/-! ## Statements -/

/-- The statement between two byte offsets of a script, if there is one. -/
def statementBetween? (source : List Char) (start finish : Nat) (terminated : Bool) :
    Option (List StatementSource) := do
  let fragment ← slice? start finish source
  match ← statementOffset? fragment 0 with
  | none => some []
  | some skipped =>
      let (_, text) ← cutAtByte? skipped fragment
      some
        [{ text := String.ofList (Text.trimEnd text)
           start := .ofOffset source (start + skipped)
           finish := .ofOffset source finish
           terminated }]

/-- The statements from a byte offset of a script on, between the given offsets of semicolons. -/
def statementsBetween? (source : List Char) (start : Nat) :
    List Nat → Option (List StatementSource)
  | [] => statementBetween? source start (byteLength source) false
  | semicolon :: later => do
      let first ← statementBetween? source start semicolon true
      let others ← statementsBetween? source (semicolon + 1) later
      some (first ++ others)

/-- The byte offsets of the semicolons outside quotes and comments, in a text that begins in a mode
and at an offset. -/
def semicolons (mode : Mode) (offset : Nat) : List Char → List Nat
  | [] => []
  | c :: rest =>
      if mode = .code ∧ c = ';' then offset :: semicolons .code (offset + 1) rest
      else semicolons (mode.next c rest.head?) (offset + c.utf8Size) rest

theorem exists_append_of_meaningful? {rest : List Char} (found : meaningful? text = some rest) :
    ∃ skipped, text = skipped ++ rest := by
  fun_induction meaningful? text with
  | case1 => cases found
  | case2 => cases found
  | case3 text body opened line after cut ih =>
      obtain ⟨blanks, split⟩ := exists_blanks text
      obtain ⟨passed, whole⟩ := ih found
      refine ⟨blanks ++ '-' :: '-' :: (line ++ '\n' :: passed), ?_⟩
      rw [split, opened, (Text.cutAt?_eq_some cut).1, whole]
      simp
  | case4 => cases found
  | case5 text body opened inside after cut ih =>
      obtain ⟨blanks, split⟩ := exists_blanks text
      obtain ⟨passed, whole⟩ := ih found
      refine ⟨blanks ++ '/' :: (inside ++ '*' :: '/' :: passed), ?_⟩
      rw [split, opened, (Text.cutAt?_eq_some cut).1, whole]
      simp
  | case6 text c body _ _ begins =>
      cases found
      obtain ⟨blanks, split⟩ := exists_blanks text
      exact ⟨blanks, begins ▸ split⟩

theorem statementBetween?_append
    (left fragment right : List Char) (terminated : Bool) :
    statementBetween? (left ++ (fragment ++ right)) (byteLength left)
        (byteLength left + byteLength fragment) terminated =
      some (statementOf? (left ++ (fragment ++ right)) (byteLength left) fragment
        terminated).toList := by
  have begins := statementOffset?_append [] fragment
  rw [List.nil_append, byteLength] at begins
  rw [statementBetween?, slice?_append, statementOf?]
  simp only [Option.bind_eq_bind, Option.bind_some, begins]
  cases found : meaningful? fragment with
  | none => rfl
  | some text =>
      obtain ⟨skipped, split⟩ := exists_append_of_meaningful? found
      have length : byteLength fragment - byteLength text = byteLength skipped := by
        rw [split, byteLength_append]
        omega
      have cut : cutAtByte? (byteLength skipped) fragment = some (skipped, text) := by
        rw [split, cutAtByte?_append]
      simp only [Option.map_some, length, Option.bind_some, cut, Option.toList_some]

/-- What of the first piece has been read when the scan goes on. -/
theorem statementsBetween?_append (left begun text : List Char) (mode : Mode) :
    statementsBetween? (left ++ (begun ++ text)) (byteLength left)
        (semicolons mode (byteLength left + byteLength begun) text) =
      some (statementsFrom (left ++ (begun ++ text)) (byteLength left)
        (prependText begun (pieces mode text))) := by
  induction text generalizing left begun mode with
  | nil =>
      have whole := statementBetween?_append left begun [] false
      rw [← byteLength_append, ← List.append_assoc, List.append_nil] at whole
      rw [semicolons, statementsBetween?, pieces, prependText_cons, List.append_nil, whole,
        statementsFrom]
  | cons c rest ih =>
      by_cases here : mode = .code ∧ c = ';'
      · obtain ⟨rfl, rfl⟩ := here
        have later := ih (left ++ (begun ++ [';'])) [] .code
        have source :
            left ++ (begun ++ [';']) ++ ([] ++ rest) = left ++ (begun ++ ';' :: rest) := by
          simp
        have offset : byteLength (left ++ (begun ++ [';'])) =
            byteLength left + byteLength begun + 1 := by
          simp [byteLength_append, byteLength, Nat.add_assoc]
          rfl
        rw [source, offset] at later
        rw [semicolons, if_pos ⟨rfl, rfl⟩, statementsBetween?, statementBetween?_append, pieces,
          if_pos ⟨rfl, rfl⟩, prependText_cons, List.append_nil,
          statementsFrom_cons (pieces_ne_nil _ _)]
        simp only [byteLength, Nat.add_zero] at later
        simp only [Option.bind_eq_bind, Option.bind_some, later]
        rfl
      · have later := ih left (begun ++ [c]) (mode.next c rest.head?)
        have source : left ++ (begun ++ [c] ++ rest) = left ++ (begun ++ c :: rest) := by
          simp
        have offset : byteLength left + byteLength (begun ++ [c]) =
            byteLength left + byteLength begun + c.utf8Size := by
          simp [byteLength_append, byteLength, Nat.add_assoc]
        rw [source, offset, prependText_append] at later
        rw [semicolons, if_neg here, pieces_cons here, later]
        rfl

/-- The statements of a script are those that are found by byte offsets, and no such offset is
inside a character. -/
theorem statementsBetween?_eq (script : String) :
    statementsBetween? script.toList 0 (semicolons .code 0 script.toList) =
      some (statements script) :=
  statementsBetween?_append [] [] script.toList .code

end SchemaDesign.Sql
