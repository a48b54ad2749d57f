import SchemaDesign.Proofs.Sql.Spelling
import SchemaDesign.Sql.Lint

/-!
# Lines and their words

A text is cut at its separators, so what is between two of its pieces is a separator.  A keyword
with which a text begins, between blanks, is the first token that is read of it.
-/

namespace SchemaDesign

namespace Text

variable {isSeparator : Char → Bool} {c : Char}

/-! ## Pieces -/

theorem split_ne_nil (isSeparator : Char → Bool) (text : List Char) :
    split isSeparator text ≠ [] := by
  cases text with
  | nil => exact List.cons_ne_nil _ _
  | cons c rest =>
      rw [split]
      split
      · exact List.cons_ne_nil _ _
      · split
        · exact List.cons_ne_nil _ _
        · exact List.cons_ne_nil _ _

theorem split_append_cons
    (isSeparator : Char → Bool) (separates : isSeparator c = true) (left right : List Char) :
    split isSeparator (left ++ c :: right) = split isSeparator left ++ split isSeparator right := by
  induction left with
  | nil => simp [split, separates]
  | cons d left ih =>
      rw [List.cons_append, split, split, ih]
      split
      · rfl
      · cases pieces : split isSeparator left with
        | nil => exact absurd pieces (split_ne_nil _ _)
        | cons piece others => rfl

/-- Between any two of its pieces a text has a separator. -/
theorem exists_of_split_eq_append
    {text : List Char} {first second : List (List Char)}
    (pieces : split isSeparator text = first ++ second) (firstLeft : first ≠ [])
    (secondLeft : second ≠ []) :
    ∃ before c after, text = before ++ c :: after ∧ isSeparator c = true ∧
      split isSeparator before = first ∧ split isSeparator after = second := by
  induction text generalizing first with
  | nil =>
      obtain ⟨piece, first, rfl⟩ := List.exists_cons_of_ne_nil firstLeft
      obtain ⟨_, rest⟩ := List.cons.inj pieces
      exact absurd (List.append_eq_nil_iff.mp rest.symm).2 secondLeft
  | cons c rest ih =>
      obtain ⟨piece, first, rfl⟩ := List.exists_cons_of_ne_nil firstLeft
      rw [split] at pieces
      split at pieces
      · rename_i separates
        obtain ⟨rfl, others⟩ := List.cons.inj pieces
        by_cases last : first = []
        · subst last
          exact ⟨[], c, rest, rfl, separates, rfl, others⟩
        · obtain ⟨before, d, after, rfl, separator, isFirst, isSecond⟩ := ih others last
          refine ⟨c :: before, d, after, rfl, separator, ?_, isSecond⟩
          rw [split, if_pos separates, isFirst]
      · rename_i solid
        cases found : split isSeparator rest with
        | nil => exact absurd found (split_ne_nil _ _)
        | cons start later =>
            simp only [found] at pieces
            obtain ⟨rfl, others⟩ := List.cons.inj pieces
            have later_eq : split isSeparator rest = (start :: first) ++ second := by
              rw [found, others]
              rfl
            obtain ⟨before, d, after, rfl, separator, isFirst, isSecond⟩ :=
              ih later_eq (List.cons_ne_nil _ _)
            refine ⟨c :: before, d, after, rfl, separator, ?_, isSecond⟩
            simp only [split, if_neg solid, isFirst]

/-- The first piece ends before the first separator. -/
theorem exists_split_eq_cons (isSeparator : Char → Bool) (text : List Char) :
    ∃ others, split isSeparator text = text.takeWhile (fun c => !isSeparator c) :: others := by
  induction text with
  | nil => exact ⟨[], rfl⟩
  | cons c rest ih =>
      obtain ⟨others, pieces⟩ := ih
      rw [split]
      split
      · rename_i separates
        rw [List.takeWhile_cons_of_neg (by simp [separates])]
        exact ⟨_, rfl⟩
      · rename_i solid
        rw [pieces, List.takeWhile_cons_of_pos (by simp [solid])]
        exact ⟨others, rfl⟩

theorem split_append_of_solid
    {start rest piece : List Char} {others : List (List Char)}
    (solid : ∀ c ∈ start, isSeparator c = false)
    (pieces : split isSeparator rest = piece :: others) :
    split isSeparator (start ++ rest) = (start ++ piece) :: others := by
  induction start with
  | nil => exact pieces
  | cons c start ih =>
      have solidHere := solid c List.mem_cons_self
      have later := ih fun d member => solid d (List.mem_cons_of_mem _ member)
      rw [List.cons_append, split, if_neg (ne_true_of_eq_false solidHere), later]
      rfl

theorem eq_of_split_eq_singleton {text piece : List Char}
    (pieces : split isSeparator text = [piece]) : text = piece := by
  induction text generalizing piece with
  | nil => exact (List.cons.inj pieces).1
  | cons c rest ih =>
      rw [split] at pieces
      split at pieces
      · exact absurd (List.cons.inj pieces).2 (split_ne_nil _ _)
      · obtain ⟨others, found⟩ := exists_split_eq_cons isSeparator rest
        rw [found] at pieces
        obtain ⟨rfl, rfl⟩ := List.cons.inj pieces
        rw [← ih found]

/-- The last piece ends as the text does. -/
theorem exists_split_concat_eq (solid : isSeparator c = false) (text : List Char) :
    ∃ others piece, split isSeparator (text ++ [c]) = others ++ [piece ++ [c]] := by
  induction text with
  | nil => exact ⟨[], [], by simp [split, solid]⟩
  | cons d rest ih =>
      obtain ⟨others, piece, pieces⟩ := ih
      rw [List.cons_append, split, pieces]
      split
      · exact ⟨[] :: others, piece, rfl⟩
      · cases others with
        | nil => exact ⟨[], d :: piece, rfl⟩
        | cons first others => exact ⟨(d :: first) :: others, piece, rfl⟩

theorem flatten_split (isSeparator : Char → Bool) (text : List Char) :
    (split isSeparator text).flatten = text.filter fun c => !isSeparator c := by
  induction text with
  | nil => rfl
  | cons c rest ih =>
      rw [split]
      split
      · rename_i separates
        rw [List.flatten_cons, ih, List.filter_cons_of_neg (by simp [separates])]
        rfl
      · rename_i solid
        obtain ⟨others, pieces⟩ := exists_split_eq_cons isSeparator rest
        rw [pieces, List.flatten_cons] at ih
        rw [pieces, List.flatten_cons, List.cons_append, ih,
          List.filter_cons_of_pos (by simp [solid])]

/-! ## Words -/

theorem words_append_cons (blank : isBlank c = true) (left right : List Char) :
    words (left ++ c :: right) = words left ++ words right := by
  rw [words, split_append_cons isBlank blank, List.filter_append]
  rfl

theorem words_of_blank {text : List Char} (blank : ∀ c ∈ text, isBlank c = true) :
    words text = [] := by
  induction text with
  | nil => rfl
  | cons c rest ih =>
      have words_rest := ih fun d member => blank d (List.mem_cons_of_mem _ member)
      exact (words_append_cons (blank c List.mem_cons_self) [] rest).trans words_rest

theorem words_trimStart (text : List Char) : words (trimStart text) = words text := by
  induction text with
  | nil => rfl
  | cons c rest ih =>
      rw [trimStart, List.dropWhile_cons]
      split
      · rename_i blank
        exact ih.trans (words_append_cons blank [] rest).symm
      · rfl

theorem exists_trimEnd_append (text : List Char) :
    ∃ blanks, text = trimEnd text ++ blanks ∧ ∀ c ∈ blanks, isBlank c = true := by
  refine ⟨(text.reverse.takeWhile isBlank).reverse, ?_, ?_⟩
  · rw [trimEnd, ← List.reverse_append, List.takeWhile_append_dropWhile, List.reverse_reverse]
  · intro c member
    exact List.mem_takeWhile_imp (List.mem_reverse.mp member)

theorem trimEnd_eq_nil_iff {text : List Char} :
    trimEnd text = [] ↔ ∀ c ∈ text, isBlank c = true := by
  rw [trimEnd, List.reverse_eq_nil_iff, List.dropWhile_eq_nil_iff]
  simp only [List.mem_reverse]

theorem trim_eq_nil_iff {text : List Char} : trim text = [] ↔ ∀ c ∈ text, isBlank c = true := by
  rw [trim, trimEnd_eq_nil_iff, trimStart]
  constructor
  · intro rest
    rw [← List.takeWhile_append_dropWhile (p := isBlank) (l := text)]
    exact List.forall_mem_append.mpr ⟨fun c member => List.mem_takeWhile_imp member, rest⟩
  · intro blank c member
    exact blank c ((List.dropWhile_suffix _).subset member)

theorem trimEnd_append {text : List Char} (solid : trimEnd text ≠ []) (start : List Char) :
    trimEnd (start ++ text) = start ++ trimEnd text := by
  have kept : (text.reverse.dropWhile isBlank).isEmpty = false := by
    rw [List.isEmpty_eq_false_iff]
    exact fun none => solid (List.reverse_eq_nil_iff.mpr none)
  rw [trimEnd, List.reverse_append, List.dropWhile_append, kept, trimEnd]
  simp

theorem words_trimEnd (text : List Char) : words (trimEnd text) = words text := by
  obtain ⟨blanks, whole, blank⟩ := exists_trimEnd_append text
  conv_rhs => rw [whole]
  cases blanks with
  | nil => rw [List.append_nil]
  | cons c blanks =>
      have none := words_of_blank fun d member => blank d (List.mem_cons_of_mem c member)
      rw [words_append_cons (blank c List.mem_cons_self), none, List.append_nil]

/-- Words do not go over the end of a line. -/
theorem flatMap_words_split (text : List Char) :
    (split (· == '\n') text).flatMap words = words text := by
  obtain ⟨line, lines, pieces⟩ := List.exists_cons_of_ne_nil (split_ne_nil (· == '\n') text)
  rw [pieces]
  induction lines generalizing text line with
  | nil => rw [eq_of_split_eq_singleton pieces, List.flatMap_singleton]
  | cons next lines ih =>
      have apart : split (· == '\n') text = [line] ++ (next :: lines) := pieces
      obtain ⟨before, c, after, rfl, newline, isFirst, isRest⟩ :=
        exists_of_split_eq_append apart (List.cons_ne_nil _ _) (List.cons_ne_nil _ _)
      obtain rfl := eq_of_beq newline
      rw [List.flatMap_cons, ih after next isRest, words_append_cons rfl,
        eq_of_split_eq_singleton isFirst]

theorem flatten_words (text : List Char) :
    (words text).flatten = text.filter fun c => !isBlank c := by
  rw [words, List.flatten_filter_not_isEmpty, flatten_split]

/-- The last word ends as the text does when blanks are not counted. -/
theorem getLast?_trimEnd (text : List Char) :
    (trimEnd text).getLast? = (words text).getLast?.bind List.getLast? := by
  induction text using List.reverseRecOn with
  | nil => rfl
  | append_singleton text c ih =>
      cases blank : isBlank c with
      | true =>
          have trimmed : trimEnd (text ++ [c]) = trimEnd text := by
            rw [trimEnd, List.reverse_append, List.reverse_singleton, List.singleton_append,
              List.dropWhile_cons_of_pos blank, trimEnd]
          have same : words (text ++ [c]) = words text :=
            (words_append_cons blank text []).trans (List.append_nil _)
          rw [trimmed, ih, same]
      | false =>
          have trimmed : trimEnd (text ++ [c]) = text ++ [c] := by
            simp [trimEnd, blank]
          obtain ⟨others, piece, pieces⟩ := exists_split_concat_eq blank text
          have last : words (text ++ [c]) =
              (others.filter fun word => !word.isEmpty) ++ [piece ++ [c]] := by
            rw [words, pieces, List.filter_append]
            simp
          rw [trimmed, last, List.getLast?_concat, List.getLast?_concat]
          exact List.getLast?_concat.symm

/-- A text that has words begins with the first one, which a blank follows. -/
theorem exists_of_words_eq_cons
    {text word : List Char} {others : List (List Char)} (found : words text = word :: others) :
    ∃ rest, trimStart text = word ++ rest ∧ ∀ c ∈ rest.head?, isBlank c = true := by
  rw [← words_trimStart] at found
  obtain ⟨later, pieces⟩ := exists_split_eq_cons isBlank (trimStart text)
  cases start : trimStart text with
  | nil =>
      rw [start] at found
      cases found
  | cons c rest =>
      have solid : isBlank c = false := by
        have ended := List.head?_dropWhile_not isBlank text
        rwa [← trimStart, start] at ended
      rw [start] at pieces found
      rw [words, pieces, List.filter_cons_of_pos (by simp [solid])] at found
      obtain ⟨rfl, _⟩ := List.cons.inj found
      refine ⟨(c :: rest).dropWhile fun c => !isBlank c, ?_, ?_⟩
      · rw [List.takeWhile_append_dropWhile]
      · intro d next
        have ended := List.head?_dropWhile_not (fun c => !isBlank c) (c :: rest)
        rw [Option.mem_def.mp next] at ended
        simpa using ended

end Text

namespace Sql

/-! ## Open parentheses -/

namespace Lint

theorem depthOf_append (left right : List Char) :
    depthOf (left ++ right) = depthOf left + depthOf right := by
  simp only [depthOf, List.count_append]
  omega

theorem depthOf_of_blank {text : List Char} (blank : ∀ c ∈ text, Text.isBlank c = true) :
    depthOf text = 0 := by
  have absent (c : Char) (solid : Text.isBlank c = false) : text.count c = 0 := by
    rw [List.count_eq_zero]
    intro member
    rw [blank c member] at solid
    cases solid
  rw [depthOf, absent '(' rfl, absent ')' rfl]
  rfl

theorem depthOf_trimEnd (text : List Char) : depthOf (Text.trimEnd text) = depthOf text := by
  obtain ⟨blanks, whole, blank⟩ := Text.exists_trimEnd_append text
  conv_rhs => rw [whole]
  rw [depthOf_append, depthOf_of_blank blank, Int.add_zero]

theorem depthOf_words (text : List Char) : depthOf (Text.words text).flatten = depthOf text := by
  rw [Text.flatten_words, depthOf, depthOf, List.count_filter rfl, List.count_filter rfl]

end Lint

/-! ## Keywords -/

section

variable {c : Char} {keywords : List String} {word text : List Char}

theorem isAlpha_of_isAlpha_toLower (letter : c.toLower.isAlpha = true) : c.isAlpha = true := by
  by_cases upper : c.isUpper = true
  · exact Bool.or_eq_true_iff.mpr (.inl upper)
  · have same : c.toLower = c := dif_neg fun capital => upper (decide_eq_true capital)
    rwa [same] at letter

/-- What is a keyword in any letter case is made of letters, as the keywords are. -/
theorem isAlpha_of_isOneOf
    (letters : keywords.all (fun keyword => keyword.toList.all (·.toLower.isAlpha)) = true)
    (found : Lint.isOneOf keywords word = true) : ∀ c ∈ word, c.isAlpha = true := by
  intro c member
  obtain ⟨keyword, listed, same⟩ := List.any_eq_true.mp found
  have folded : word.map Char.toLower = keyword.toList.map Char.toLower := by
    rw [Text.same_iff, Text.foldCase, Text.foldCase, String.toList_ofList] at same
    exact same
  have among : c.toLower ∈ keyword.toList.map Char.toLower := by
    rw [← folded]
    exact List.mem_map_of_mem member
  obtain ⟨d, dMember, small⟩ := List.mem_map.mp among
  have letter := List.all_eq_true.mp (List.all_eq_true.mp letters keyword listed) d dMember
  apply isAlpha_of_isAlpha_toLower
  rwa [← small]

/-- The blanks by their codes. -/
def blankCodes : List Nat :=
  [0x9, 0xA, 0xB, 0xC, 0xD, 0x20, 0x85, 0xA0, 0x1680, 0x2000, 0x2001, 0x2002, 0x2003, 0x2004,
    0x2005, 0x2006, 0x2007, 0x2008, 0x2009, 0x200A, 0x2028, 0x2029, 0x202F, 0x205F, 0x3000]

theorem toNat_mem_blankCodes (blank : Text.isBlank c = true) : c.toNat ∈ blankCodes := by
  simp only [Text.isBlank, Bool.or_eq_true, Bool.and_eq_true, decide_eq_true_eq, beq_iff_eq]
    at blank
  simp only [blankCodes, List.mem_cons, List.not_mem_nil, or_false]
  omega

/-- No blank is part of a word, or a mark that makes a literal of the letter before it. -/
theorem ends_word_of_isBlank (blank : Text.isBlank c = true) :
    Lexer.isWordPart c = false ∧ c ≠ '\'' ∧ c ≠ '"' ∧ c ≠ '&' := by
  have checked : ∀ n ∈ blankCodes, Lexer.isWordPart (Char.ofNat n) = false ∧
      Char.ofNat n ≠ '\'' ∧ Char.ofNat n ≠ '"' ∧ Char.ofNat n ≠ '&' := by
    decide +kernel
  have atCode := checked c.toNat (toNat_mem_blankCodes blank)
  rwa [Char.ofNat_toNat] at atCode

theorem ne_nil_of_mem_words (member : word ∈ Text.words text) : word ≠ [] := by
  have solid := (List.mem_filter.mp member).2
  rintro rfl
  cases solid

/-- A keyword that stands first between blanks is the first token. -/
theorem exists_keyword
    (letters : keywords.all (fun keyword => keyword.toList.all (·.toLower.isAlpha)) = true)
    (begins : Lint.beginsWithOneOf keywords text = true) :
    ∃ c more rest, Text.trimStart text = c :: (more ++ rest) ∧
      Lint.isOneOf keywords (c :: more) = true ∧ Lexer.skip? c (more ++ rest) = none ∧
      ∀ afterWord, Lexer.readToken afterWord c (more ++ rest) =
        .ok (.word (String.ofList (c :: more)) false, rest) := by
  rw [Lint.beginsWithOneOf] at begins
  split at begins
  · rename_i word others found
    obtain ⟨rest, start, ended⟩ := Text.exists_of_words_eq_cons found
    obtain ⟨c, more, rfl⟩ :=
      List.exists_cons_of_ne_nil (ne_nil_of_mem_words (found ▸ List.mem_cons_self))
    have alpha := isAlpha_of_isOneOf letters begins
    have alphabetic (d : Char) (member : d ∈ c :: more) : Text.isAlphabetic d = true :=
      Text.isAlphabetic_of_isAlpha d (alpha d member)
    refine ⟨c, more, rest, start, begins, ?_, fun afterWord => ?_⟩
    · have range := Text.isAlpha_range (alpha c List.mem_cons_self)
      apply Lexer.skip?_eq_none (isBlank_eq_false (by omega) (by omega))
      · rintro rfl
        cases alpha '-' List.mem_cons_self
      · rintro rfl
        cases alpha '/' List.mem_cons_self
    · apply Lexer.readToken_wordStart
      · rw [alphabetic c List.mem_cons_self, Bool.true_or]
      · intro d member
        simp [Lexer.isWordPart, alphabetic d (List.mem_cons_of_mem _ member)]
      · exact fun d next => (ends_word_of_isBlank (ended d next)).1
      · exact fun d next => (ends_word_of_isBlank (ended d next)).2
  · cases begins

end

/-! ## Advice on semicolons -/

/-- The advice on missing semicolons is what is said about each statement. -/
theorem filter_lint (script : String) :
    (lint script).filter (·.code == "missing-semicolon") =
      (statements script).flatMap (Lint.missingSemicolons script.toList) := by
  have noColumns (statement : StatementSource) :
      (Lint.missingColumns statement).filter (·.code == "missing-semicolon") = [] := by
    rw [Lint.missingColumns]
    split
    · rfl
    · rfl
  have all (statement : StatementSource) :
      (Lint.missingSemicolons script.toList statement).filter (·.code == "missing-semicolon") =
        Lint.missingSemicolons script.toList statement := by
    rw [List.filter_eq_self]
    intro diagnostic member
    obtain ⟨_, _, rfl⟩ := List.mem_map.mp member
    rfl
  rw [lint, List.filter_flatMap]
  simp only [List.filter_append, noColumns, all, List.nil_append]

theorem mem_lint_missingSemicolon {script : String} {diagnostic : LintDiagnostic} :
    diagnostic ∈ lint script ∧ diagnostic.code = "missing-semicolon" ↔
      ∃ statement ∈ statements script,
        diagnostic ∈ Lint.missingSemicolons script.toList statement := by
  rw [← List.mem_flatMap, ← filter_lint, List.mem_filter, beq_iff_eq]

end Sql

end SchemaDesign
