import SchemaDesign.Proofs.Sql.Cutting

/-!
# The pieces of a script as scripts

A piece that a script is cut into is not cut again, and neither is the statement in it, as long as
the removal of the comments before the statement ends where cutting has left the last of them.  The
two take leave of each other at a comment that opens with `/*/`: its star is used up for cutting,
while the search for the closing mark finds it once more.
-/

namespace SchemaDesign

/-! ## Parts that are found -/

namespace Text

variable {part text before after : List Char}

theorem afterStart?_self (part rest : List Char) : afterStart? part (part ++ rest) = some rest := by
  induction part with
  | nil => exact afterStart?.eq_1 rest
  | cons c part ih => simpa [afterStart?] using ih

theorem eq_append_of_afterStart? (found : afterStart? part text = some after) :
    text = part ++ after := by
  induction part generalizing text with
  | nil => simpa [afterStart?] using found
  | cons p part ih =>
      cases text with
      | nil => cases found
      | cons c text =>
          simp only [afterStart?] at found
          split at found
          · next same => rw [same, ih found, List.cons_append]
          · cases found

theorem startsWith_iff_isPrefix : startsWith part text = true ↔ part <+: text := by
  rw [startsWith, Option.isSome_iff_exists]
  constructor
  · rintro ⟨rest, found⟩
    exact ⟨rest, (eq_append_of_afterStart? found).symm⟩
  · rintro ⟨rest, rfl⟩
    exact ⟨rest, afterStart?_self part rest⟩

/-- Whether a text begins with a part shows in as many characters as the part has. -/
theorem afterStart?_append (enough : part.length ≤ text.length) (rest : List Char) :
    afterStart? part (text ++ rest) = (afterStart? part text).map (· ++ rest) := by
  induction part generalizing text with
  | nil => simp [afterStart?]
  | cons p part ih =>
      cases text with
      | nil => cases enough
      | cons c text =>
          simp only [List.cons_append, afterStart?]
          split
          · exact ih (Nat.le_of_succ_le_succ enough)
          · rfl

/-- A part is found at its first occurrence, whatever follows it. -/
theorem cutAt?_eq_some (found : cutAt? part text = some (before, after)) :
    text = before ++ (part ++ after) ∧
      ∀ rest, cutAt? part (before ++ (part ++ rest)) = some (before, rest) := by
  have first (rest : List Char) : cutAt? part (part ++ rest) = some ([], rest) := by
    cases whole : part ++ rest with
    | nil =>
        obtain ⟨rfl, rfl⟩ := List.append_eq_nil_iff.mp whole
        rfl
    | cons c others => rw [cutAt?, ← whole, afterStart?_self]
  induction text generalizing before with
  | nil =>
      rw [cutAt?] at found
      split at found
      · next empty =>
          cases found
          cases List.isEmpty_iff.mp empty
          exact ⟨rfl, first⟩
      · cases found
  | cons c text ih =>
      rw [cutAt?] at found
      split at found
      · next started =>
          cases found
          have split := eq_append_of_afterStart? started
          exact ⟨split, first⟩
      · next notStarted =>
          obtain ⟨⟨before, after⟩, foundLater, equality⟩ := Option.map_eq_some_iff.mp found
          cases equality
          obtain ⟨split, again⟩ := ih foundLater
          refine ⟨congrArg (c :: ·) split, ?_⟩
          intro rest
          have enough : part.length ≤ (c :: (before ++ part)).length := by simp; omega
          have absent : afterStart? part (c :: (before ++ part)) = none := by
            have whole := afterStart?_append enough after
            rw [List.cons_append, List.append_assoc, ← split, notStarted] at whole
            exact Option.map_eq_none_iff.mp whole.symm
          have absentAgain : afterStart? part (c :: (before ++ (part ++ rest))) = none := by
            have whole := afterStart?_append enough rest
            rwa [List.cons_append, List.append_assoc, absent] at whole
          rw [List.cons_append, cutAt?, absentAgain, again rest]
          rfl

theorem cutAt?_tail
    {c : Char} (found : cutAt? part (c :: text) = some (c :: before, after)) :
    afterStart? part (c :: text) = none ∧ cutAt? part text = some (before, after) := by
  rw [cutAt?] at found
  split at found
  · cases found
  · next notStarted =>
      obtain ⟨⟨before, later⟩, foundLater, equality⟩ := Option.map_eq_some_iff.mp found
      cases equality
      exact ⟨notStarted, foundLater⟩

theorem notMem_of_cutAt?_newline (found : cutAt? ['\n'] text = some (before, after)) :
    '\n' ∉ before := by
  induction before generalizing text with
  | nil => exact List.not_mem_nil
  | cons c before ih =>
      have split := (cutAt?_eq_some found).1
      subst split
      obtain ⟨notStarted, foundLater⟩ := cutAt?_tail found
      have different : '\n' ≠ c := by
        rintro rfl
        cases notStarted
      exact List.not_mem_cons_of_ne_of_not_mem different (ih foundLater)

end Text

namespace Sql

variable {left right text piece : List Char} {c : Char}

/-! ## Pieces are not cut again -/

theorem pieces_cons {mode : Mode} (uncut : ¬(mode = .code ∧ c = ';')) (rest : List Char) :
    pieces mode (c :: rest) = prependToFirst c (pieces (mode.next c rest.head?) rest) := by
  rw [pieces, if_neg uncut]

theorem first_piece_isPrefix
    {mode : Mode} {first : List Char} {others : List (List Char)}
    (cut : pieces mode text = first :: others) : first <+: text := by
  induction text generalizing mode first others with
  | nil =>
      cases cut
      exact List.prefix_refl []
  | cons c rest ih =>
      by_cases here : mode = .code ∧ c = ';'
      · rw [pieces, if_pos here] at cut
        cases cut
        exact List.nil_prefix
      · rw [pieces_cons here] at cut
        cases later : pieces (mode.next c rest.head?) rest with
        | nil => exact absurd later (pieces_ne_nil _ _)
        | cons tail others =>
            rw [later] at cut
            cases cut
            exact List.prefix_cons_inj c |>.mpr (ih later)

/-- The first piece of a script is not cut when it is a script of its own, and neither are the
others, which begin outside quotes and comments. -/
theorem pieces_of_pieces
    {mode : Mode} {first : List Char} {others : List (List Char)}
    (cut : pieces mode text = first :: others) :
    pieces mode first = [first] ∧ ∀ piece ∈ others, pieces .code piece = [piece] := by
  induction text generalizing mode first others with
  | nil =>
      cases cut
      exact ⟨rfl, fun _ none => nomatch none⟩
  | cons c rest ih =>
      by_cases here : mode = .code ∧ c = ';'
      · rw [pieces, if_pos here] at cut
        cases cut
        refine ⟨rfl, ?_⟩
        cases later : pieces .code rest with
        | nil => exact absurd later (pieces_ne_nil _ _)
        | cons second others => exact List.forall_mem_cons.mpr (ih later)
      · rw [pieces_cons here] at cut
        cases later : pieces (mode.next c rest.head?) rest with
        | nil => exact absurd later (pieces_ne_nil _ _)
        | cons tail others =>
            rw [later] at cut
            cases cut
            obtain ⟨own, each⟩ := ih later
            refine ⟨?_, each⟩
            rw [pieces_cons here]
            -- Cutting looks one character ahead, and finds the same one unless the piece is over.
            cases tail with
            | nil => rfl
            | cons d tail =>
                obtain ⟨suffix, rfl⟩ := first_piece_isPrefix later
                rw [List.cons_append, List.head?_cons] at own
                rw [List.head?_cons, own]
                rfl

theorem pieces_of_mem (member : piece ∈ pieces .code text) : pieces .code piece = [piece] := by
  cases cut : pieces .code text with
  | nil => exact absurd cut (pieces_ne_nil _ _)
  | cons first others =>
      obtain ⟨own, each⟩ := pieces_of_pieces cut
      rw [cut] at member
      rcases List.mem_cons.mp member with rfl | member
      · exact own
      · exact each piece member

/-- The start of a text that is not cut is not cut either. -/
theorem pieces_of_append
    {mode : Mode} (uncut : pieces mode (left ++ right) = [left ++ right]) :
    pieces mode left = [left] := by
  induction left generalizing mode with
  | nil => rfl
  | cons c left ih =>
      rw [List.cons_append] at uncut
      by_cases here : mode = .code ∧ c = ';'
      · rw [pieces, if_pos here] at uncut
        cases uncut
      · rw [pieces_cons here] at uncut ⊢
        cases left with
        | nil => rfl
        | cons d left =>
            cases later : pieces (mode.next c (some d)) (d :: left ++ right) with
            | nil => exact absurd later (pieces_ne_nil _ _)
            | cons first others =>
                rw [List.cons_append, List.head?_cons, ← List.cons_append, later] at uncut
                cases uncut
                rw [List.head?_cons, ih later]
                rfl

/-- What follows a text that is not cut is cut as it is by itself. -/
theorem Closed.pieces_eq
    (closed : Closed left) (uncut : pieces .code (left ++ right) = [left ++ right]) :
    pieces .code right = [right] := by
  rw [closed] at uncut
  cases cut : pieces .code right with
  | nil => exact absurd cut (pieces_ne_nil _ _)
  | cons first others =>
      rw [cut, prependText_cons] at uncut
      obtain ⟨same, none⟩ := List.cons.inj uncut
      rw [List.append_cancel_left same, none]

/-! ## What stands before a statement -/

/-- A comment between its opening and its closing mark. -/
def commentBlock (text : List Char) : List Char :=
  '/' :: '*' :: (text ++ ['*', '/'])

/-- The closing mark of a comment is the first that comes after its opening slash. -/
def ClosesLast (text : List Char) : Prop :=
  ∀ rest, Text.cutAt? ['*', '/'] ('*' :: (text ++ '*' :: '/' :: rest)) = some ('*' :: text, rest)

/-- Whether a comment that opens with `/*/` stands before the first character outside blanks and
comments. -/
def opensOnStar : Mode → List Char → Bool
  | _, [] => false
  | mode, c :: rest =>
      let next := mode.next c rest.head?
      (next = .blockOpening && rest.tail.head? == some '/') ||
        ((mode ≠ .code || Text.isBlank c || next = .lineComment || next = .blockOpening) &&
          opensOnStar next rest)

theorem trimStart_cons_of_blank (blank : Text.isBlank c = true) (text : List Char) :
    Text.trimStart (c :: text) = Text.trimStart text :=
  List.dropWhile_cons_of_pos blank

theorem trimStart_cons_of_solid (solid : Text.isBlank c = false) (text : List Char) :
    Text.trimStart (c :: text) = c :: text := by
  rw [Text.trimStart, List.dropWhile_cons, solid]
  rfl

theorem Invisible.blank (blank : Text.isBlank c = true) : Invisible [c] := by
  constructor
  · exact .inert (isInert_of_class blank rfl)
  · intro rest
    rw [meaningful?_trimStart, meaningful?_trimStart rest, List.singleton_append,
      trimStart_cons_of_blank blank]

theorem Invisible.trimmed (text : List Char) :
    ∃ blanks, Invisible blanks ∧ text = blanks ++ Text.trimStart text := by
  induction text with
  | nil => exact ⟨[], .nil, rfl⟩
  | cons c text ih =>
      cases blank : Text.isBlank c with
      | true =>
          obtain ⟨blanks, invisible, split⟩ := ih
          refine ⟨[c] ++ blanks, (Invisible.blank blank).append invisible, ?_⟩
          rw [trimStart_cons_of_blank blank]
          exact congrArg (c :: ·) split
      | false => exact ⟨[], .nil, (trimStart_cons_of_solid blank text).symm⟩

theorem Mode.next_blockComment
    {rest : List Char} (unclosed : Text.afterStart? ['*', '/'] (c :: rest) = none) :
    Mode.next .blockComment c rest.head? = .blockComment := by
  rw [Mode.next, if_neg]
  rintro ⟨rfl, follows⟩
  obtain ⟨tail, rfl⟩ := List.head?_eq_some_iff.mp follows
  cases unclosed

/-- A comment is closed where cutting finds its end. -/
theorem pieces_blockComment
    {rest : List Char}
    (found : Text.cutAt? ['*', '/'] (text ++ '*' :: '/' :: rest) = some (text, rest)) :
    pieces .blockComment (text ++ '*' :: '/' :: rest) =
      prependText (text ++ ['*', '/']) (pieces .code rest) := by
  induction text with
  | nil => rfl
  | cons c text ih =>
      rw [List.cons_append] at found
      obtain ⟨notClosing, foundLater⟩ := Text.cutAt?_tail found
      rw [List.cons_append, pieces_cons (fun both => Mode.noConfusion both.1),
        Mode.next_blockComment notClosing, ih foundLater]
      rfl

theorem Invisible.commentBlock (closes : ClosesLast text) : Invisible (commentBlock text) := by
  have whole (rest : List Char) :
      Sql.commentBlock text ++ rest = '/' :: '*' :: (text ++ '*' :: '/' :: rest) := by
    simp [Sql.commentBlock]
  constructor
  · intro rest
    have later := (Text.cutAt?_tail (closes rest)).2
    have inside := pieces_blockComment later
    rw [whole]
    change prependToFirst '/' (prependToFirst '*' (pieces .blockComment _)) = _
    rw [inside]
    rfl
  · intro rest
    have trimmed : Text.trimStart ('/' :: '*' :: (text ++ '*' :: '/' :: rest)) =
        '/' :: '*' :: (text ++ '*' :: '/' :: rest) := rfl
    rw [whole, meaningful?]
    split
    · next empty => cases trimmed.symm.trans empty
    · next opened => cases trimmed.symm.trans opened
    · next opened =>
        cases trimmed.symm.trans opened
        rw [closes rest]
    · next noComment opened =>
        cases trimmed.symm.trans opened
        exact absurd rfl (noComment _ rfl)

theorem opensOnStar_trimStart (text : List Char) :
    opensOnStar .code (Text.trimStart text) = opensOnStar .code text := by
  induction text with
  | nil => rfl
  | cons c text ih =>
      cases blank : Text.isBlank c with
      | true =>
          have stays := Mode.next_of_inert (isInert_of_class blank rfl) text.head?
          rw [trimStart_cons_of_blank blank, opensOnStar, stays]
          simpa [blank] using ih
      | false => rw [trimStart_cons_of_solid blank]

theorem opensOnStar_commentLine (oneLine : '\n' ∉ text) (rest : List Char) :
    opensOnStar .code (commentLine text ++ rest) = opensOnStar .code rest := by
  have inside : opensOnStar .lineComment (text ++ '\n' :: rest) = opensOnStar .code rest := by
    induction text with
    | nil => simp [opensOnStar, Mode.next]
    | cons c text ih =>
        have different : c ≠ '\n' := by
          rintro rfl
          exact oneLine List.mem_cons_self
        rw [List.cons_append, opensOnStar, Mode.next, if_neg different,
          ih fun member => oneLine (List.mem_cons_of_mem _ member)]
        simp
  have whole : commentLine text ++ rest = '-' :: '-' :: (text ++ '\n' :: rest) := by
    simp [commentLine]
  rw [whole, ← inside]
  simp [opensOnStar, Mode.next, isQuote]

theorem opensOnStar_opening (rest : List Char) :
    opensOnStar .code ('/' :: '*' :: rest) =
      (rest.head? == some '/' || opensOnStar .blockComment rest) := by
  simp [opensOnStar, Mode.next, isQuote]

example : opensOnStar .code "-- a\n/*/ b; */ c".toList = true := by decide

example : opensOnStar .code "/* /*/ '/*/'".toList = false := by decide

theorem opensOnStar_commentBlock
    (closes : ClosesLast text) (apart : text.head? ≠ some '/') (rest : List Char) :
    opensOnStar .code (commentBlock text ++ rest) = opensOnStar .code rest := by
  have inside (text : List Char)
      (found : Text.cutAt? ['*', '/'] (text ++ '*' :: '/' :: rest) = some (text, rest)) :
      opensOnStar .blockComment (text ++ '*' :: '/' :: rest) = opensOnStar .code rest := by
    induction text with
    | nil => simp [opensOnStar, Mode.next]
    | cons c text ih =>
        rw [List.cons_append] at found
        have stays := Mode.next_blockComment (Text.cutAt?_tail found).1
        rw [List.cons_append, opensOnStar, stays, ih (Text.cutAt?_tail found).2]
        simp
  have whole : commentBlock text ++ rest = '/' :: '*' :: (text ++ '*' :: '/' :: rest) := by
    simp [commentBlock]
  have notStar : (text ++ '*' :: '/' :: rest).head? ≠ some '/' := by
    cases text with
    | nil => simp
    | cons c text => simpa using apart
  rw [whole, opensOnStar_opening, inside text (Text.cutAt?_tail (closes rest)).2,
    beq_false_of_ne notStar, Bool.false_or]

/-- The comment that is removed either opens with `/*/` or ends where it ends for cutting. -/
theorem commentBlock_of_cutAt?
    {rest before after : List Char}
    (found : Text.cutAt? ['*', '/'] ('*' :: rest) = some (before, after))
    (apart : rest.head? ≠ some '/') :
    ∃ text, ClosesLast text ∧ text.head? ≠ some '/' ∧
      '/' :: '*' :: rest = commentBlock text ++ after := by
  obtain ⟨split, again⟩ := Text.cutAt?_eq_some found
  cases before with
  | nil =>
      cases split
      exact absurd rfl apart
  | cons star text =>
      obtain ⟨rfl, rfl⟩ := List.cons.inj split
      refine ⟨text, again, ?_, by simp [commentBlock]⟩
      cases text with
      | nil => simp
      | cons c text => simpa using apart

/-- What is removed before a statement is closed for cutting, unless a comment in it opens with
`/*/`. -/
theorem exists_invisible
    (found : meaningful? piece = some text) (apart : opensOnStar .code piece = false) :
    ∃ before, Invisible before ∧ piece = before ++ text := by
  -- Blanks and one comment are followed by what is shorter.
  have prolongs {piece comment after : List Char} (invisible : Invisible comment)
      (split : Text.trimStart piece = comment ++ after)
      (later : ∃ before, Invisible before ∧ after = before ++ text) :
      ∃ before, Invisible before ∧ piece = before ++ text := by
    obtain ⟨blanks, blank, trimmed⟩ := Invisible.trimmed piece
    obtain ⟨before, passed, rfl⟩ := later
    refine ⟨blanks ++ (comment ++ before), blank.append (invisible.append passed), ?_⟩
    rw [trimmed, split]
    simp only [List.append_assoc]
  rw [← opensOnStar_trimStart] at apart
  fun_induction meaningful? piece with
  | case1 piece blank => cases found
  | case2 piece rest opened endless => cases found
  | case3 piece rest opened line after cut ih =>
      have oneLine := Text.notMem_of_cutAt?_newline cut
      have split : Text.trimStart piece = commentLine line ++ after := by
        rw [opened, (Text.cutAt?_eq_some cut).1]
        simp [commentLine]
      rw [split, opensOnStar_commentLine oneLine, ← opensOnStar_trimStart] at apart
      exact prolongs (.commentLine oneLine) split (ih found apart)
  | case4 piece rest opened endless => cases found
  | case5 piece rest opened _ after cut ih =>
      have notStar : rest.head? ≠ some '/' := by
        intro star
        rw [opened, opensOnStar_opening, star] at apart
        cases apart
      obtain ⟨block, closes, blockApart, split⟩ := commentBlock_of_cutAt? cut notStar
      rw [← opened] at split
      rw [split, opensOnStar_commentBlock closes blockApart, ← opensOnStar_trimStart] at apart
      exact prolongs (.commentBlock closes) split (ih found apart)
  | case6 piece c rest _ _ begins =>
      cases found
      exact prolongs .nil begins ⟨[], .nil, rfl⟩

theorem begins_of_meaningful? (found : meaningful? piece = some text) :
    ∃ c rest, text = c :: rest ∧ Text.isBlank c = false ∧ (c = '-' → rest.head? ≠ some '-') ∧
      (c = '/' → rest.head? ≠ some '*') := by
  fun_induction meaningful? piece with
  | case1 => cases found
  | case2 => cases found
  | case3 _ _ _ _ _ _ ih => exact ih found
  | case4 => cases found
  | case5 _ _ _ _ _ _ ih => exact ih found
  | case6 piece c rest noLine noBlock begins =>
      cases found
      have solid := List.head?_dropWhile_not Text.isBlank piece
      rw [← Text.trimStart, begins, List.head?_cons] at solid
      refine ⟨c, rest, rfl, solid, ?_, ?_⟩
      · intro dash follows
        obtain ⟨tail, whole⟩ := List.head?_eq_some_iff.mp follows
        exact noLine tail dash whole
      · intro slash follows
        obtain ⟨tail, whole⟩ := List.head?_eq_some_iff.mp follows
        exact noBlock tail slash whole

theorem trimEnd_cons_of_solid (solid : Text.isBlank c = false) (text : List Char) :
    Text.trimEnd (c :: text) = c :: Text.trimEnd text := by
  rw [Text.trimEnd, Text.trimEnd, List.reverse_cons, List.dropWhile_append]
  split
  · next blank =>
      rw [List.isEmpty_iff.mp blank]
      simp [solid]
  · simp

/-- The text of a statement begins with it. -/
theorem meaningful?_trimEnd (found : meaningful? piece = some text) :
    meaningful? (Text.trimEnd text) = some (Text.trimEnd text) := by
  obtain ⟨c, rest, rfl, solid, noLine, noBlock⟩ := begins_of_meaningful? found
  obtain ⟨blanks, whole⟩ : Text.trimEnd rest <+: rest := List.rdropWhile_prefix _ rest
  have follows {other : Char} (same : (Text.trimEnd rest).head? = some other) :
      rest.head? = some other := by
    obtain ⟨tail, split⟩ := List.head?_eq_some_iff.mp same
    rw [← whole, split]
    rfl
  rw [trimEnd_cons_of_solid solid]
  apply meaningful?_of_begins solid
  · exact fun dash same => noLine dash (follows same)
  · exact fun slash same => noBlock slash (follows same)

/-! ## Statements as scripts -/

/-- A text as the only statement of the script that it is. -/
def StatementSource.alone (text : String) : StatementSource where
  text := text
  start := { line := 1, column := 1, offset := 0 }
  finish := .ofOffset text.toList (byteLength text.toList)
  terminated := false

/-- The statement in a piece of a script is a script of one statement. -/
theorem statements_trimEnd
    (uncut : pieces .code piece = [piece]) (found : meaningful? piece = some text)
    (apart : opensOnStar .code piece = false) :
    statements (String.ofList (Text.trimEnd text)) =
      [.alone (String.ofList (Text.trimEnd text))] := by
  obtain ⟨before, invisible, rfl⟩ := exists_invisible found apart
  obtain ⟨blanks, whole⟩ : Text.trimEnd text <+: text := List.rdropWhile_prefix _ text
  have uncutText : pieces .code (Text.trimEnd text ++ blanks) = [Text.trimEnd text ++ blanks] := by
    rw [whole]
    exact invisible.closed.pieces_eq uncut
  have cut : pieces .code (Text.trimEnd text) = [Text.trimEnd text] := pieces_of_append uncutText
  have trimmed : Text.trimEnd (Text.trimEnd text) = Text.trimEnd text :=
    List.rdropWhile_idempotent _ text
  have start : SourcePosition.ofOffset (Text.trimEnd text) 0 =
      { line := 1, column := 1, offset := 0 } := by
    cases Text.trimEnd text with
    | nil => rfl
    | cons c rest => rfl
  rw [statements, String.toList_ofList, cut, statementsFrom, statementOf?,
    meaningful?_trimEnd found, Option.map_some, trimmed, Nat.sub_self, start]
  simp [StatementSource.alone]

theorem exists_piece_of_mem_statements
    {script : String} {source : StatementSource} (member : source ∈ statements script) :
    ∃ piece ∈ pieces .code script.toList, ∃ text, meaningful? piece = some text ∧
      source.text = String.ofList (Text.trimEnd text) := by
  have held : source.text ∈ scriptTexts script.toList := by
    rw [← statements_texts]
    exact List.mem_map_of_mem member
  obtain ⟨piece, pieceMember, found⟩ := List.mem_filterMap.mp held
  obtain ⟨text, found, same⟩ := Option.map_eq_some_iff.mp found
  exact ⟨piece, pieceMember, text, found, same.symm⟩

/-- The text of a statement begins with a character that is not blank, and with no comment. -/
theorem begins_of_mem_statements
    {script : String} {source : StatementSource} (member : source ∈ statements script) :
    ∃ c rest, source.text.toList = c :: rest ∧ Text.isBlank c = false ∧
      (c = '-' → rest.head? ≠ some '-') := by
  obtain ⟨piece, _, text, found, same⟩ := exists_piece_of_mem_statements member
  obtain ⟨c, rest, begins, solid, noComment, _⟩ := begins_of_meaningful? (meaningful?_trimEnd found)
  exact ⟨c, rest, by rw [same, String.toList_ofList, begins], solid, noComment⟩

/-- Every statement of a script is made of a piece of it and, unless a comment before it there opens
with `/*/`, its text is a script of one statement with the same text. -/
theorem statement_self_contained
    {script : String} {source : StatementSource} (member : source ∈ statements script) :
    ∃ piece ∈ pieces .code script.toList, pieceTexts [piece] = [source.text] ∧
      (opensOnStar .code piece = false → statements source.text = [.alone source.text]) := by
  obtain ⟨piece, pieceMember, text, found, same⟩ := exists_piece_of_mem_statements member
  refine ⟨piece, pieceMember, ?_, ?_⟩
  · simp [pieceTexts, found, same]
  · intro apart
    rw [same]
    exact statements_trimEnd (pieces_of_mem pieceMember) found apart

/-- A semicolon in a comment before a query and one in its quotes stay in one piece with it. -/
theorem statement_self_contained_query :
    ∃ source ∈ statements "/* a; */ SELECT ';' -- b", source.text = "SELECT ';' -- b" ∧
      statements source.text = [.alone source.text] := by
  have one : pieces .code "/* a; */ SELECT ';' -- b".toList =
      ["/* a; */ SELECT ';' -- b".toList] := by
    decide +kernel
  obtain ⟨source, member, same⟩ :
      ∃ source ∈ statements "/* a; */ SELECT ';' -- b", source.text = "SELECT ';' -- b" := by
    decide +kernel
  obtain ⟨piece, pieceMember, _, alone⟩ := statement_self_contained member
  rw [one, List.mem_singleton] at pieceMember
  subst pieceMember
  exact ⟨source, member, same, alone (by decide +kernel)⟩

/-- The only statement of a script after a comment that opens with `/*/` begins in that comment, and
its text is a script of two. -/
theorem comment_opening_on_star_hides_statement :
    (statements "/*/ a; */ b").map (·.text) = ["a; */ b"] ∧
      (statements "a; */ b").map (·.text) = ["a", "*/ b"] := by
  decide +kernel

end Sql

end SchemaDesign
