import SchemaDesign.Proofs.Sql.StatementPlaces

/-!
# Where missing semicolons are reported

A semicolon that is missing from a statement is reported at the end of one of its lines, behind the
last character there that is not blank.  No line has two such reports, and the last line with code
of a statement that is not terminated has one.
-/

namespace SchemaDesign.Sql

/-! ## Lines -/

section

variable {text before line after : List Char}

/-- A line of a text, between what is before it and behind it. -/
structure IsLine (text before line after : List Char) : Prop where
  whole : text = before ++ (line ++ after)
  oneLine : '\n' ∉ line
  starts : ∀ c ∈ before.getLast?, c = '\n'
  ends : ∀ c ∈ after.head?, c = '\n'

/-- A line is neither blank nor a comment, which two dashes begin. -/
structure HoldsCode (line : List Char) : Prop where
  notBlank : ∃ c ∈ line, Text.isBlank c = false
  noComment : ¬ ['-', '-'] <+: Text.trimStart line

theorem hasCode_iff : Lint.hasCode line = true ↔ HoldsCode line := by
  have blank : (Text.trim line).isEmpty = false ↔ ∃ c ∈ line, Text.isBlank c = false := by
    rw [Bool.eq_false_iff, ne_eq, List.isEmpty_iff, Text.trim_eq_nil_iff]
    simp
  rw [Lint.hasCode, Bool.and_eq_true, Bool.not_eq_true', Bool.not_eq_true', blank,
    Bool.eq_false_iff, ne_eq, Text.startsWith_iff_isPrefix]
  exact ⟨fun ⟨notBlank, noComment⟩ => ⟨notBlank, noComment⟩, fun code => ⟨code.1, code.2⟩⟩

/-- A line with code ends, but for blanks, with a character that is not one. -/
theorem HoldsCode.exists_trimEnd (code : HoldsCode line) :
    ∃ start c, Text.trimEnd line = start ++ [c] ∧ Text.isBlank c = false := by
  have nonempty : Text.trimEnd line ≠ [] := by
    intro empty
    obtain ⟨c, member, solid⟩ := code.notBlank
    exact ne_true_of_eq_false solid (Text.trimEnd_eq_nil_iff.mp empty c member)
  have kept := List.head?_dropWhile_not Text.isBlank line.reverse
  rw [← List.getLast?_reverse, ← Text.trimEnd] at kept
  obtain ⟨start, c, whole⟩ := (List.eq_nil_or_concat' _).resolve_left nonempty
  rw [whole, List.getLast?_concat] at kept
  exact ⟨start, c, whole, kept⟩

end

/-! ## Lines and what is before them -/

/-- A line and what is before it. -/
structure PlacedLine where
  before : List Char
  text : List Char

/-- The byte offset behind the last character of a line that is not blank. -/
def PlacedLine.finish (line : PlacedLine) : Nat :=
  byteLength line.before + byteLength (Text.trimEnd line.text)

/-- Lines that follow on a text, each with what is before it. -/
def placedLines (before : List Char) : List (List Char) → List PlacedLine
  | [] => []
  | line :: lines => ⟨before, line⟩ :: placedLines (before ++ (line ++ ['\n'])) lines

/-- The lines of a text that hold code, each with what is before it. -/
def placedCode (text : List Char) : List PlacedLine :=
  (placedLines [] (Text.split (· == '\n') text)).filter fun line => Lint.hasCode line.text

section

variable {text before after : List Char} {lines : List (List Char)} {line : PlacedLine}

theorem placedLines_append (before : List Char) (first second : List (List Char)) :
    placedLines before (first ++ second) =
      placedLines before first ++ placedLines (before ++ first.flatMap (· ++ ['\n'])) second := by
  induction first generalizing before with
  | nil => rw [List.flatMap_nil, List.append_nil]; rfl
  | cons line first ih =>
      rw [List.cons_append, placedLines, placedLines, ih, List.flatMap_cons, List.cons_append,
        List.append_assoc before]

theorem exists_of_mem_placedLines (member : line ∈ placedLines before lines) :
    ∃ first second, lines = first ++ line.text :: second ∧
      line.before = before ++ first.flatMap (· ++ ['\n']) := by
  induction lines generalizing before with
  | nil => cases member
  | cons head lines ih =>
      rcases List.mem_cons.mp member with rfl | later
      · exact ⟨[], lines, rfl, (List.append_nil before).symm⟩
      · obtain ⟨first, second, rfl, isBefore⟩ := ih later
        refine ⟨head :: first, second, rfl, ?_⟩
        rw [isBefore, List.flatMap_cons, List.append_assoc]

theorem flatMap_split_newline (text : List Char) :
    (Text.split (· == '\n') text).flatMap (· ++ ['\n']) = text ++ ['\n'] := by
  induction text with
  | nil => rfl
  | cons c rest ih =>
      rw [Text.split]
      split
      · rename_i newline
        rw [List.flatMap_cons, ih, eq_of_beq newline]
        rfl
      · obtain ⟨others, pieces⟩ := Text.exists_split_eq_cons (· == '\n') rest
        rw [pieces, List.flatMap_cons] at ih
        rw [pieces, List.flatMap_cons, List.cons_append, List.cons_append, ih]
        rfl

/-- The first line of a text. -/
theorem isLine_of_split
    (before : List Char) {rest piece : List Char} {others : List (List Char)}
    (starts : ∀ c ∈ before.getLast?, c = '\n')
    (pieces : Text.split (· == '\n') rest = piece :: others) :
    ∃ after, IsLine (before ++ rest) before piece after := by
  obtain ⟨_, found⟩ := Text.exists_split_eq_cons (· == '\n') rest
  rw [found] at pieces
  obtain ⟨rfl, _⟩ := List.cons.inj pieces
  refine ⟨rest.dropWhile fun c => !(c == '\n'), ?_, ?_, starts, ?_⟩
  · rw [List.takeWhile_append_dropWhile]
  · intro member
    have kept := List.mem_takeWhile_imp member
    simp at kept
  · intro c isFirst
    have kept := List.head?_dropWhile_not (fun c => !(c == '\n')) rest
    rw [Option.mem_def.mp isFirst] at kept
    simpa using kept

theorem split_eq_cons_of_line {piece : List Char}
    (oneLine : '\n' ∉ piece) (ends : ∀ c ∈ after.head?, c = '\n') :
    ∃ others, Text.split (· == '\n') (piece ++ after) = piece :: others := by
  have solid : ∀ c ∈ piece, (c == '\n') = false := by
    intro c member
    refine beq_false_of_ne ?_
    rintro rfl
    exact oneLine member
  obtain ⟨others, pieces⟩ : ∃ others, Text.split (· == '\n') after = [] :: others := by
    cases after with
    | nil => exact ⟨[], rfl⟩
    | cons c rest =>
        obtain rfl := ends c rfl
        exact ⟨_, rfl⟩
  have whole := Text.split_append_of_solid solid pieces
  rw [List.append_nil] at whole
  exact ⟨others, whole⟩

theorem mem_placedLines_iff :
    line ∈ placedLines [] (Text.split (· == '\n') text) ↔
      ∃ after, IsLine text line.before line.text after := by
  constructor
  · intro member
    obtain ⟨first, second, pieces, isBefore⟩ := exists_of_mem_placedLines member
    by_cases none : first = []
    · subst none
      rw [isBefore]
      exact isLine_of_split [] (fun c none => nomatch none) pieces
    · obtain ⟨left, c, rest, rfl, newline, isFirst, isSecond⟩ :=
        Text.exists_of_split_eq_append pieces none (List.cons_ne_nil _ _)
      obtain rfl := eq_of_beq newline
      have found := isLine_of_split (left ++ ['\n']) (by simp) isSecond
      rw [← isFirst, flatMap_split_newline] at isBefore
      rw [List.nil_append] at isBefore
      rw [isBefore, ← List.singleton_append (x := '\n'), ← List.append_assoc]
      exact found
  · rintro ⟨after, rfl, oneLine, starts, ends⟩
    obtain ⟨others, pieces⟩ := split_eq_cons_of_line oneLine ends
    have here (before : List Char) : line.before = before →
        line ∈ placedLines before (Text.split (· == '\n') (line.text ++ after)) := by
      rintro rfl
      rw [pieces]
      exact List.mem_cons_self
    rcases List.eq_nil_or_concat' line.before with first | ⟨left, c, isBefore⟩
    · rw [first, List.nil_append]
      exact here [] first
    · rw [isBefore, List.getLast?_concat] at starts
      obtain rfl := starts c rfl
      rw [isBefore, List.append_assoc, List.singleton_append,
        Text.split_append_cons (· == '\n') rfl, placedLines_append, List.nil_append,
        flatMap_split_newline]
      exact List.mem_append_right _ (here _ isBefore)

theorem pairwise_placedLines (before : List Char) (lines : List (List Char)) :
    (placedLines before lines).Pairwise fun first second =>
      first.before ++ (first.text ++ ['\n']) <+: second.before := by
  induction lines generalizing before with
  | nil => exact .nil
  | cons line lines ih =>
      refine .cons ?_ (ih _)
      intro later member
      obtain ⟨_, _, _, isBefore⟩ := exists_of_mem_placedLines member
      rw [isBefore]
      exact List.prefix_append _ _

/-- The last line with code of a text. -/
structure IsLastCode (text before line after : List Char) : Prop where
  isLine : IsLine text before line after
  code : HoldsCode line
  last : ∀ laterBefore laterLine laterAfter, IsLine text laterBefore laterLine laterAfter →
    HoldsCode laterLine → laterBefore.length ≤ before.length

theorem isLastCode_of_getLast?
    {text : List Char} (isLast : (placedCode text).getLast? = some line) :
    ∃ after, IsLastCode text line.before line.text after := by
  have member := List.mem_of_getLast? isLast
  obtain ⟨after, isLine⟩ := mem_placedLines_iff.mp (List.mem_of_mem_filter member)
  refine ⟨after, isLine, hasCode_iff.mp (List.mem_filter.mp member).2, ?_⟩
  intro laterBefore laterLine laterAfter later code
  have listed : ⟨laterBefore, laterLine⟩ ∈ placedCode text :=
    List.mem_filter.mpr ⟨mem_placedLines_iff.mpr ⟨laterAfter, later⟩, hasCode_iff.mpr code⟩
  obtain ⟨others, whole⟩ := List.getLast?_eq_some_iff.mp isLast
  have ordered : (placedCode text).Pairwise fun first second =>
      first.before ++ (first.text ++ ['\n']) <+: second.before :=
    (pairwise_placedLines [] _).sublist List.filter_sublist
  rw [whole] at listed ordered
  rcases List.mem_append.mp listed with earlier | same
  · have shorter := (List.pairwise_append.mp ordered).2.2 _ earlier line List.mem_cons_self
    have lengths := shorter.length_le
    rw [List.length_append] at lengths
    exact (Nat.le_add_right _ _).trans lengths
  · rw [← List.mem_singleton.mp same]

/-- The lines of a statement that are looked at are those with code. -/
theorem linesFrom_eq (before : List Char) (lines : List (List Char)) :
    Lint.linesFrom (byteLength before) lines =
      ((placedLines before lines).filter fun line => Lint.hasCode line.text).map fun line =>
        { offset := byteLength line.before, text := Text.trimEnd line.text } := by
  induction lines generalizing before with
  | nil => rfl
  | cons line lines ih =>
      have offset : byteLength before + byteLength line + 1 =
          byteLength (before ++ (line ++ ['\n'])) := by
        rw [byteLength_append, byteLength_append, Nat.add_assoc]
        rfl
      rw [Lint.linesFrom, placedLines, List.filter_cons, offset, ih]
      split
      · rfl
      · rfl

end

/-! ## Ends of statements -/

theorem missingEnds_sublist
    (terminated hostsQuery : Bool) (depth : Int) (lines : List Lint.Line) :
    (Lint.missingEnds terminated hostsQuery depth lines).Sublist
      (lines.map fun line => line.offset + byteLength line.text) := by
  induction lines generalizing depth with
  | nil => exact .slnil
  | cons line lines ih =>
      cases lines with
      | nil =>
          rw [Lint.missingEnds]
          split
          · exact List.nil_sublist _
          · exact List.Sublist.refl _
      | cons next lines =>
          rw [Lint.missingEnds]
          split
          · exact (ih _).cons_cons _
          · exact (ih _).cons _

/-- Where a statement is not terminated, a semicolon is missing at the end of its last line. -/
theorem last_mem_missingEnds
    (hostsQuery : Bool) (depth : Int) {lines : List Lint.Line} {last : Lint.Line}
    (isLast : lines.getLast? = some last) :
    last.offset + byteLength last.text ∈ Lint.missingEnds false hostsQuery depth lines := by
  induction lines generalizing depth with
  | nil => cases isLast
  | cons line lines ih =>
      cases lines with
      | nil =>
          cases isLast
          exact List.mem_singleton_self _
      | cons next lines =>
          rw [List.getLast?_cons_cons] at isLast
          have later := ih (depth + Lint.depthOf line.text) isLast
          rw [Lint.missingEnds]
          split
          · exact List.mem_cons_of_mem _ later
          · exact later

namespace StatementSource

variable {script : String} {statement : StatementSource} {line : PlacedLine}

/-- The place of the end of a line of a statement. -/
def lineEnd (script : String) (statement : StatementSource) (line : PlacedLine) : SourcePosition :=
  .ofOffset script.toList (statement.start.offset + line.finish)

/-- The advice on a statement is about ends of lines with code. -/
theorem missingSemicolons_sublist (script : String) (statement : StatementSource) :
    (Lint.missingSemicolons script.toList statement).Sublist
      ((placedCode statement.text.toList).map fun line =>
        Lint.missingSemicolon (statement.lineEnd script line)) := by
  have lines := linesFrom_eq [] (Text.split (· == '\n') statement.text.toList)
  rw [byteLength, ← placedCode] at lines
  have ends := (missingEnds_sublist statement.terminated
    (Lint.beginsWithOneOf Lint.queryHosts statement.text.toList) 0
    (Lint.linesFrom 0 (Text.split (· == '\n') statement.text.toList))).map fun offset =>
      Lint.missingSemicolon (.ofOffset script.toList (statement.start.offset + offset))
  rw [lines, List.map_map, List.map_map, ← lines] at ends
  exact ends

/-- The end of the last line with code is among those that the advice on a statement is about, if it
is not terminated. -/
theorem mem_missingSemicolons_of_last
    (script : String) (unterminated : statement.terminated = false)
    (isLast : (placedCode statement.text.toList).getLast? = some line) :
    Lint.missingSemicolon (statement.lineEnd script line) ∈
      Lint.missingSemicolons script.toList statement := by
  have lines := linesFrom_eq [] (Text.split (· == '\n') statement.text.toList)
  rw [byteLength, ← placedCode] at lines
  have last : (Lint.linesFrom 0 (Text.split (· == '\n') statement.text.toList)).getLast? =
      some { offset := byteLength line.before, text := Text.trimEnd line.text } := by
    rw [lines, List.getLast?_map, isLast]
    rfl
  have found := last_mem_missingEnds
    (Lint.beginsWithOneOf Lint.queryHosts statement.text.toList) 0 last
  rw [Lint.missingSemicolons, unterminated]
  exact List.mem_map_of_mem found

/-! ## Places -/

theorem lines_advance (line column : Nat) (text : List Char) :
    (advance line column text).1 = line + text.count '\n' := by
  induction text generalizing line column with
  | nil => rfl
  | cons c text ih =>
      rw [advance, List.count_cons]
      split
      · rename_i newline
        rw [ih, newline, beq_self_eq_true, if_pos rfl]
        omega
      · rename_i other
        rw [ih, beq_false_of_ne other, if_neg Bool.false_ne_true]
        rfl

/-- What of a script is before the end of a line of a statement. -/
theorem StandsBetween.lineEnd_eq
    {before gap after : String} (stands : statement.StandsBetween script before gap after)
    {rest : List Char} (isLine : IsLine statement.text.toList line.before line.text rest) :
    statement.lineEnd script line =
      SourcePosition.origin.after (before.toList ++ (line.before ++ Text.trimEnd line.text)) := by
  obtain ⟨blanks, trimmed, _⟩ := Text.exists_trimEnd_append line.text
  have whole : script.toList = before.toList ++ (line.before ++ Text.trimEnd line.text) ++
      (blanks ++ rest ++ (gap ++ after).toList) := by
    have text := isLine.whole
    rw [trimmed] at text
    rw [stands.whole, String.toList_append, String.toList_append, text]
    simp only [List.append_assoc]
  have offset : statement.start.offset + line.finish =
      byteLength (before.toList ++ (line.before ++ Text.trimEnd line.text)) := by
    rw [stands.start, byteLength_append, byteLength_append, byteLength_toList]
    rfl
  rw [lineEnd, offset, whole, SourcePosition.ofOffset_eq, beforeOffset_byteLength]
  simp [SourcePosition.after, SourcePosition.origin]

/-- The end of a line is on the line of the script on which it begins. -/
theorem StandsBetween.line_lineEnd
    {before gap after : String} (stands : statement.StandsBetween script before gap after)
    {rest : List Char} (isLine : IsLine statement.text.toList line.before line.text rest) :
    (statement.lineEnd script line).line =
      1 + before.toList.count '\n' + line.before.count '\n' := by
  obtain ⟨blanks, trimmed, _⟩ := Text.exists_trimEnd_append line.text
  have oneLine : '\n' ∉ Text.trimEnd line.text := by
    intro member
    rw [trimmed] at isLine
    exact isLine.oneLine (List.mem_append_left _ member)
  rw [stands.lineEnd_eq isLine, SourcePosition.after, lines_advance, List.count_append,
    List.count_append, List.count_eq_zero_of_not_mem oneLine, Nat.add_zero, ← Nat.add_assoc]
  rfl

theorem pairwise_line_lineEnd (member : statement ∈ statements script) :
    ((placedCode statement.text.toList).map fun line =>
        Lint.missingSemicolon (statement.lineEnd script line)).Pairwise
      fun first second => first.position.line < second.position.line := by
  obtain ⟨before, gap, after, stands⟩ := exists_standsBetween member
  rw [List.pairwise_map]
  refine ((pairwise_placedLines [] _).sublist List.filter_sublist).imp_of_mem ?_
  intro first second isFirst isSecond apart
  obtain ⟨_, firstLine⟩ := mem_placedLines_iff.mp (List.mem_of_mem_filter isFirst)
  obtain ⟨_, secondLine⟩ := mem_placedLines_iff.mp (List.mem_of_mem_filter isSecond)
  have newlines := apart.sublist.count_le '\n'
  rw [List.count_append, List.count_append, List.count_singleton_self] at newlines
  change (statement.lineEnd script first).line < (statement.lineEnd script second).line
  rw [stands.line_lineEnd firstLine, stands.line_lineEnd secondLine]
  omega

/-- A place in a statement directly behind a character that is not blank, and before one that is or
the end of the text. -/
structure EndsWord (script : String) (statement : StatementSource) (place : SourcePosition) :
    Prop where
  between : ∃ before c after, statement.text.toList = before ++ c :: after ∧
    Text.isBlank c = false ∧ (∀ next ∈ after.head?, Text.isBlank next = true) ∧
    place = .ofOffset script.toList (statement.start.offset + byteLength before + c.utf8Size)
  begun : statement.start.offset < place.offset
  within : place.offset ≤ statement.finish.offset

theorem endsWord_lineEnd
    (member : statement ∈ statements script) (code : HoldsCode line.text)
    {rest : List Char} (isLine : IsLine statement.text.toList line.before line.text rest) :
    statement.EndsWord script (statement.lineEnd script line) := by
  obtain ⟨start, c, ends, solid⟩ := code.exists_trimEnd
  obtain ⟨blanks, trimmed, blank⟩ := Text.exists_trimEnd_append line.text
  have text : statement.text.toList = (line.before ++ start) ++ c :: (blanks ++ rest) := by
    rw [isLine.whole, trimmed, ends]
    simp
  have finish : line.finish = byteLength (line.before ++ start) + c.utf8Size := by
    rw [PlacedLine.finish, ends, byteLength_append, byteLength_append, byteLength, byteLength]
    omega
  have length := congrArg byteLength text
  rw [byteLength_append, byteLength, byteLength_toList] at length
  have size := c.utf8Size_pos
  have within := (isPlaced member).within
  constructor
  case between =>
    refine ⟨line.before ++ start, c, blanks ++ rest, text, solid, ?_, ?_⟩
    · intro next follows
      cases blanks with
      | nil =>
          obtain rfl := isLine.ends next follows
          rfl
      | cons d blanks =>
          cases follows
          exact blank _ List.mem_cons_self
    · rw [lineEnd, finish, ← Nat.add_assoc]
  case begun =>
    change statement.start.offset < statement.start.offset + line.finish
    omega
  case within =>
    change statement.start.offset + line.finish ≤ statement.finish.offset
    omega

/-- The first line of a statement holds code. -/
theorem placedCode_ne_nil (member : statement ∈ statements script) :
    placedCode statement.text.toList ≠ [] := by
  obtain ⟨c, rest, whole, solid, noComment⟩ := begins_of_mem_statements member
  obtain ⟨others, pieces⟩ := Text.exists_split_eq_cons (· == '\n') rest
  have notNewline : (c == '\n') = false := by
    refine beq_false_of_ne ?_
    rintro rfl
    cases solid
  have split : Text.split (· == '\n') statement.text.toList =
      (c :: rest.takeWhile fun c => !(c == '\n')) :: others := by
    rw [whole, Text.split, if_neg (ne_true_of_eq_false notNewline), pieces]
  have code : HoldsCode (c :: rest.takeWhile fun c => !(c == '\n')) := by
    refine ⟨⟨c, List.mem_cons_self, solid⟩, ?_⟩
    rw [trimStart_cons_of_solid solid]
    intro starts
    obtain ⟨dash, second⟩ := List.cons_prefix_cons.mp starts
    obtain ⟨tail, follows⟩ := second.trans (List.takeWhile_prefix _)
    refine noComment dash.symm ?_
    rw [← follows]
    rfl
  have first : ⟨[], c :: rest.takeWhile fun c => !(c == '\n')⟩ ∈
      placedCode statement.text.toList := by
    refine List.mem_filter.mpr ⟨?_, hasCode_iff.mpr code⟩
    rw [split]
    exact List.mem_cons_self
  exact List.ne_nil_of_mem first

end StatementSource

/-! ## Advice on scripts -/

/-- Each report of a missing semicolon is at a place in a statement directly behind a character that
is not blank, and before one that is or the end of the text.  There is at most one for a line of a
statement, and there is one at the end of the last line with code of a statement that is not
terminated. -/
theorem missing_semicolons_placed (script : String) :
    (∀ diagnostic ∈ lint script, diagnostic.code = "missing-semicolon" →
      ∃ statement ∈ statements script, statement.EndsWord script diagnostic.position) ∧
    ((lint script).filter (·.code == "missing-semicolon") =
        (statements script).flatMap (Lint.missingSemicolons script.toList) ∧
      ∀ statement ∈ statements script,
        (Lint.missingSemicolons script.toList statement).Pairwise
          fun first second => first.position.line < second.position.line) ∧
    ∀ statement ∈ statements script, statement.terminated = false →
      ∃ before line after, IsLastCode statement.text.toList before line after ∧
        ∃ diagnostic ∈ lint script, diagnostic.code = "missing-semicolon" ∧
          diagnostic.position = .ofOffset script.toList
            (statement.start.offset + (byteLength before + byteLength (Text.trimEnd line))) := by
  refine ⟨?_, ⟨filter_lint script, ?_⟩, ?_⟩
  · intro diagnostic member code
    obtain ⟨statement, listed, found⟩ := mem_lint_missingSemicolon.mp ⟨member, code⟩
    obtain ⟨line, held, rfl⟩ :=
      List.mem_map.mp ((statement.missingSemicolons_sublist script).subset found)
    obtain ⟨placed, code⟩ := List.mem_filter.mp held
    obtain ⟨_, isLine⟩ := mem_placedLines_iff.mp placed
    exact ⟨statement, listed, StatementSource.endsWord_lineEnd listed (hasCode_iff.mp code) isLine⟩
  · intro statement listed
    exact (StatementSource.pairwise_line_lineEnd listed).sublist
      (statement.missingSemicolons_sublist script)
  · intro statement listed unterminated
    obtain ⟨others, line, whole⟩ := (List.eq_nil_or_concat' _).resolve_left
      (StatementSource.placedCode_ne_nil listed)
    have isLast : (placedCode statement.text.toList).getLast? = some line := by
      rw [whole, List.getLast?_concat]
    obtain ⟨after, last⟩ := isLastCode_of_getLast? isLast
    have reported := StatementSource.mem_missingSemicolons_of_last script unterminated isLast
    obtain ⟨member, code⟩ := mem_lint_missingSemicolon.mpr ⟨statement, listed, reported⟩
    exact ⟨line.before, line.text, after, last, _, member, code, rfl⟩

end SchemaDesign.Sql
