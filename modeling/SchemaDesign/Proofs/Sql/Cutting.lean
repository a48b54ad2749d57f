import Mathlib.Data.List.DropRight
import SchemaDesign.Sql.Script

/-!
# Cutting a script where its statements end

A text that closes what it opens is never cut, a text of blanks and comments adds nothing, and so
the statements of a script are those that were written into it.
-/

namespace SchemaDesign.Sql

/-- The pieces with more text at the start of the first. -/
def prependText (text : List Char) (pieces : List (List Char)) : List (List Char) :=
  text.foldr prependToFirst pieces

/-- A text that is not cut, and after which nothing is open. -/
def Closed (text : List Char) : Prop :=
  ∀ rest, pieces .code (text ++ rest) = prependText text (pieces .code rest)

/-- A text that is not cut and in which no statement begins. -/
structure Invisible (text : List Char) : Prop where
  closed : Closed text
  passedOver : ∀ rest, meaningful? (text ++ rest) = meaningful? rest

/-- A text that is cut from what surrounds it as it stands. -/
structure Solid (text : List Char) : Prop where
  closed : Closed text
  begins : ∃ c rest, text = c :: rest ∧ Text.isBlank c = false ∧ c ≠ '-' ∧ c ≠ '/'
  ends : ∃ start c, text = start ++ [c] ∧ Text.isBlank c = false

theorem statementsFrom_singleton (source : List Char) (offset : Nat) (piece : List Char) :
    statementsFrom source offset [piece] = (statementOf? source offset piece false).toList :=
  rfl

theorem statementsFrom_cons {pieces : List (List Char)} (nonempty : pieces ≠ [])
    (source : List Char) (offset : Nat) (piece : List Char) :
    statementsFrom source offset (piece :: pieces) =
      (statementOf? source offset piece true).toList ++
        statementsFrom source (offset + byteLength piece + 1) pieces := by
  cases pieces with
  | nil => exact absurd rfl nonempty
  | cons next rest => rfl

/-- The texts of the statements in some pieces. -/
def pieceTexts (pieces : List (List Char)) : List String :=
  pieces.filterMap fun piece =>
    (meaningful? piece).map fun text => String.ofList (Text.trimEnd text)

theorem statementsFrom_texts (source : List Char) (offset : Nat) (pieces : List (List Char)) :
    (statementsFrom source offset pieces).map (fun statement => statement.text) =
      pieceTexts pieces := by
  have single (offset : Nat) (piece : List Char) (terminated : Bool) :
      (statementOf? source offset piece terminated).toList.map (fun statement => statement.text) =
        pieceTexts [piece] := by
    cases found : meaningful? piece with
    | none => simp [statementOf?, pieceTexts, found]
    | some text => simp [statementOf?, pieceTexts, found]
  induction pieces generalizing offset with
  | nil => rfl
  | cons piece pieces ih =>
      have split : pieceTexts (piece :: pieces) = pieceTexts [piece] ++ pieceTexts pieces :=
        List.filterMap_append (l := [piece])
      cases pieces with
      | nil => exact single offset piece false
      | cons next rest =>
          rw [statementsFrom, List.map_append, single, ih, split]

/-- The texts of the statements of a script. -/
def scriptTexts (script : List Char) : List String :=
  pieceTexts (pieces .code script)

theorem statements_texts (script : String) :
    (statements script).map (fun statement => statement.text) = scriptTexts script.toList :=
  statementsFrom_texts script.toList 0 _

/-! ## Texts that are not cut -/

section

variable {left right text : List Char} {c : Char}

theorem prependText_append (left right : List Char) (pieces : List (List Char)) :
    prependText (left ++ right) pieces = prependText left (prependText right pieces) :=
  List.foldr_append

theorem prependText_cons (text piece : List Char) (pieces : List (List Char)) :
    prependText text (piece :: pieces) = (text ++ piece) :: pieces := by
  induction text with
  | nil => rfl
  | cons c text ih =>
      change prependToFirst c (prependText text (piece :: pieces)) = _
      rw [ih]
      rfl

theorem pieces_ne_nil (mode : Mode) (text : List Char) : pieces mode text ≠ [] := by
  cases text with
  | nil => exact List.cons_ne_nil _ _
  | cons c rest =>
      rw [pieces]
      split
      · exact List.cons_ne_nil _ _
      · cases pieces (mode.next c rest.head?) rest with
        | nil => exact List.cons_ne_nil _ _
        | cons piece pieces => exact List.cons_ne_nil _ _

theorem Closed.nil : Closed [] :=
  fun _ => rfl

theorem Closed.append (first : Closed left) (second : Closed right) : Closed (left ++ right) := by
  intro rest
  rw [List.append_assoc, first, second, prependText_append]

/-- A character that opens nothing and ends nothing. -/
def isInert (c : Char) : Bool :=
  !isQuote c && c != ';' && c != '-' && c != '/'

theorem ne_of_class {isMember : Char → Bool} {other : Char} (member : isMember c = true)
    (outside : isMember other = false) : c ≠ other := by
  rintro rfl
  cases member.symm.trans outside

theorem ne_of_class_all
    {isMember : Char → Bool} {others : List Char} (member : isMember c = true)
    (outside : others.any isMember = false) : ∀ other ∈ others, c ≠ other := by
  intro other listed
  exact ne_of_class member (by simpa using List.any_eq_false.mp outside other listed)

theorem isInert_of_class
    {isMember : Char → Bool} (member : isMember c = true)
    (outside : ['\'', '"', Char.ofNat 0x60, ';', '-', '/'].any isMember = false) :
    isInert c = true := by
  have different := ne_of_class_all member outside
  simp only [List.forall_mem_cons] at different
  obtain ⟨single, double, back, semicolon, dash, slash, _⟩ := different
  simp [isInert, isQuote, single, double, back, semicolon, dash, slash]

theorem Mode.next_of_inert (inert : isInert c = true) (following : Option Char) :
    Mode.next .code c following = .code := by
  simp only [isInert, Bool.and_eq_true, Bool.not_eq_true', bne_iff_ne, ne_eq] at inert
  obtain ⟨⟨⟨noQuote, _⟩, noDash⟩, noSlash⟩ := inert
  rw [Mode.next, noQuote]
  simp [noDash, noSlash]

theorem Closed.inert (inert : isInert c = true) : Closed [c] := by
  intro rest
  have noSemicolon : c ≠ ';' := by
    rintro rfl
    cases inert
  change pieces .code (c :: rest) = prependToFirst c (pieces .code rest)
  rw [pieces, if_neg (fun both => noSemicolon both.2), Mode.next_of_inert inert]

theorem Closed.all_inert (inert : ∀ c ∈ text, isInert c = true) : Closed text := by
  induction text with
  | nil => exact .nil
  | cons c text ih =>
      have here : Closed [c] := .inert (inert c List.mem_cons_self)
      exact here.append (ih fun other member => inert other (List.mem_cons_of_mem _ member))

/-- A dash that is not followed by another opens no comment. -/
theorem Closed.dash (closed : Closed (c :: text)) (different : c ≠ '-') :
    Closed ('-' :: c :: text) := by
  intro rest
  change pieces .code ('-' :: (c :: text ++ rest)) =
    prependToFirst '-' (prependText (c :: text) (pieces .code rest))
  rw [← closed rest, pieces, if_neg (fun both => absurd both.2 (by decide))]
  simp [Mode.next, isQuote, different]

/-! ## Quotations and comments -/

/-- A text between marks with each mark inside it written twice. -/
def quotedText (mark : Char) (text : List Char) : List Char :=
  mark :: (text.flatMap (fun c => if c = mark then [mark, mark] else [c]) ++ [mark])

theorem Closed.quotedText {mark : Char} (quote : isQuote mark = true) (text : List Char) :
    Closed (quotedText mark text) := by
  have notSemicolon : mark ≠ ';' := by
    rintro rfl
    cases quote
  -- A doubled mark closes the quotation and opens it again.
  have opens (rest : List Char) :
      pieces .code (mark :: rest) = prependToFirst mark (pieces (.quoted mark) rest) := by
    rw [pieces, if_neg (fun both => notSemicolon both.2), Mode.next, if_pos quote]
  have closes (rest : List Char) :
      pieces (.quoted mark) (mark :: rest) = prependToFirst mark (pieces .code rest) := by
    rw [pieces, if_neg (fun both => Mode.noConfusion both.1), Mode.next, if_pos rfl]
  intro rest
  change pieces .code (mark :: (_ ++ [mark] ++ rest)) =
    prependToFirst mark (prependText (_ ++ [mark]) (pieces .code rest))
  rw [opens]
  congr 1
  induction text with
  | nil => exact closes rest
  | cons c text ih =>
      by_cases same : c = mark
      · subst same
        simp only [List.flatMap_cons, if_true, List.cons_append, List.nil_append]
        rw [closes, opens, ih]
        rfl
      · simp only [List.flatMap_cons, if_neg same, List.cons_append, List.nil_append]
        rw [pieces, if_neg (fun both => Mode.noConfusion both.1), Mode.next, if_neg same, ih]
        rfl

/-- A comment up to the end of its line. -/
def commentLine (text : List Char) : List Char :=
  '-' :: '-' :: (text ++ ['\n'])

theorem Closed.commentLine (oneLine : '\n' ∉ text) : Closed (commentLine text) := by
  intro rest
  have inside : pieces .lineComment (text ++ ['\n'] ++ rest) =
      prependText (text ++ ['\n']) (pieces .code rest) := by
    induction text with
    | nil => rfl
    | cons c text ih =>
        have different : c ≠ '\n' := by
          rintro rfl
          exact oneLine List.mem_cons_self
        simp only [List.cons_append]
        rw [pieces, if_neg (fun both => Mode.noConfusion both.1), Mode.next, if_neg different,
          ih fun member => oneLine (List.mem_cons_of_mem _ member)]
        rfl
  change pieces .code ('-' :: '-' :: (text ++ ['\n'] ++ rest)) =
    prependToFirst '-' (prependToFirst '-' (prependText (text ++ ['\n']) (pieces .code rest)))
  rw [← inside]
  rfl

/-! ## Texts in which no statement begins -/

theorem Invisible.nil : Invisible [] :=
  ⟨.nil, fun _ => rfl⟩

theorem Invisible.append (first : Invisible left) (second : Invisible right) :
    Invisible (left ++ right) := by
  refine ⟨first.closed.append second.closed, ?_⟩
  intro rest
  rw [List.append_assoc, first.passedOver, second.passedOver]

theorem meaningful?_trimStart (text : List Char) :
    meaningful? text = meaningful? (Text.trimStart text) := by
  have trimmed : Text.trimStart (Text.trimStart text) = Text.trimStart text :=
    List.dropWhile_idempotent _ _
  rw [meaningful?, meaningful?, trimmed]

theorem Invisible.newline : Invisible ['\n'] := by
  refine ⟨.inert rfl, ?_⟩
  intro rest
  rw [meaningful?_trimStart, meaningful?_trimStart rest]
  rfl

theorem cutAt?_newline (oneLine : '\n' ∉ text) (rest : List Char) :
    Text.cutAt? ['\n'] (text ++ '\n' :: rest) = some (text, rest) := by
  induction text with
  | nil => rfl
  | cons c text ih =>
      have different : '\n' ≠ c := by
        rintro rfl
        exact oneLine List.mem_cons_self
      rw [List.cons_append, Text.cutAt?]
      simp only [Text.afterStart?, if_neg different]
      rw [ih fun member => oneLine (List.mem_cons_of_mem _ member)]
      rfl

theorem Invisible.commentLine (oneLine : '\n' ∉ text) : Invisible (commentLine text) := by
  refine ⟨.commentLine oneLine, ?_⟩
  intro rest
  have shape : Sql.commentLine text ++ rest = '-' :: '-' :: (text ++ '\n' :: rest) := by
    simp [Sql.commentLine]
  have trimmed : Text.trimStart ('-' :: '-' :: (text ++ '\n' :: rest)) =
      '-' :: '-' :: (text ++ '\n' :: rest) := rfl
  rw [shape, meaningful?]
  split
  · next empty => cases trimmed.symm.trans empty
  · next opened =>
      cases trimmed.symm.trans opened
      rw [cutAt?_newline oneLine]
  · next opened => cases trimmed.symm.trans opened
  · next noComment _ opened =>
      cases trimmed.symm.trans opened
      exact absurd rfl (noComment _ rfl)

/-! ## Statements -/

theorem meaningful?_of_begins
    {rest : List Char} (solid : Text.isBlank c = false) (noLine : c = '-' → rest.head? ≠ some '-')
    (noBlock : c = '/' → rest.head? ≠ some '*') :
    meaningful? (c :: rest) = some (c :: rest) := by
  have trimmed : Text.trimStart (c :: rest) = c :: rest := by
    rw [Text.trimStart, List.dropWhile_cons, solid]
    rfl
  rw [meaningful?]
  split
  · next empty => cases trimmed.symm.trans empty
  · next opened =>
      cases trimmed.symm.trans opened
      exact absurd rfl (noLine rfl)
  · next opened =>
      cases trimmed.symm.trans opened
      exact absurd rfl (noBlock rfl)
  · next same => rw [← same, trimmed]

theorem scriptTexts_invisible (invisible : Invisible text) (rest : List Char) :
    scriptTexts (text ++ rest) = scriptTexts rest := by
  rw [scriptTexts, scriptTexts, invisible.closed]
  cases cut : pieces .code rest with
  | nil => exact absurd cut (pieces_ne_nil _ _)
  | cons piece pieces =>
      rw [prependText_cons, pieceTexts, pieceTexts, List.filterMap_cons, List.filterMap_cons,
        invisible.passedOver]

theorem scriptTexts_solid (solid : Solid text) (rest : List Char) :
    scriptTexts (text ++ ';' :: rest) = String.ofList text :: scriptTexts rest := by
  obtain ⟨c, body, rfl, notBlank, noDash, noSlash⟩ := solid.begins
  obtain ⟨start, last, equality, lastNotBlank⟩ := solid.ends
  have cut : pieces .code (';' :: rest) = [] :: pieces .code rest := rfl
  have trimmed : Text.trimEnd (c :: body) = c :: body := by
    rw [equality, Text.trimEnd, List.reverse_append]
    simp [lastNotBlank]
  rw [scriptTexts, solid.closed, cut, prependText_cons, List.append_nil, pieceTexts,
    List.filterMap_cons, meaningful?_of_begins notBlank (absurd · noDash) (absurd · noSlash),
    Option.map_some, trimmed]
  rfl

theorem scriptTexts_nil : scriptTexts [] = [] := by
  have nothing : meaningful? [] = none := by
    rw [meaningful?]
    rfl
  simp [scriptTexts, pieces, pieceTexts, nothing]

/-- Statements on lines of their own, with the same before each. -/
theorem scriptTexts_lines
    {α : Type} {items : List α} {lead : String} (invisible : Invisible lead.toList)
    {lines texts : α → String}
    (solid : ∀ item ∈ items, lines item = texts item ++ ";" ∧ Solid (texts item).toList)
    (rest : List Char) :
    scriptTexts ((String.join (items.map fun item => lead ++ lines item ++ "\n")).toList ++ rest) =
      items.map texts ++ scriptTexts rest := by
  induction items with
  | nil =>
      rw [List.map_nil, String.join_nil]
      rfl
  | cons item items ih =>
      obtain ⟨line, itemSolid⟩ := solid item List.mem_cons_self
      have others := ih fun other member => solid other (List.mem_cons_of_mem _ member)
      have shape : (lead ++ lines item ++ "\n").toList =
          lead.toList ++ ((texts item).toList ++ ';' :: ['\n']) := by
        simp [line]
      rw [List.map_cons, String.join_cons, String.toList_append, shape, List.append_assoc,
        List.append_assoc, List.append_assoc, scriptTexts_invisible invisible, List.cons_append,
        scriptTexts_solid itemSolid, scriptTexts_invisible .newline, others, String.ofList_toList]
      rfl

end

end SchemaDesign.Sql
