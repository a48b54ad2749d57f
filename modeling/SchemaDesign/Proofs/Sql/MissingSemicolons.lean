import SchemaDesign.Proofs.Sql.ExposedTokens
import SchemaDesign.Proofs.Sql.Pieces
import SchemaDesign.Sql.Parser

/-!
# Where semicolons are missed

The advice on semicolons goes by lines: a line after which no parenthesis is open is taken for the
end of a statement if the next one begins with a word that may begin a statement.  Lines do not
matter for what a statement means, so a statement that goes on with such a word at the start of a
line is taken for two.  Which statements are safe wherever they are broken is said of their tokens.
-/

namespace SchemaDesign.Sql

namespace Lint

/-- The lines of a text that hold code. -/
def codeLines (text : List Char) : List (List Char) :=
  (Text.split (· == '\n') text).filter hasCode

/-- The words of a text that stand on lines that hold code. -/
def codeWords (text : List Char) : List (List Char) :=
  (codeLines text).flatMap Text.words

/-- A word looks like the end of a statement, and the next one like the start of another. -/
structure LooksEnded (last next : List Char) : Prop where
  noComma : last.getLast? ≠ some ','
  noParen : last.getLast? ≠ some '('
  opens : isOneOf statementKeywords next = true ∨
    isOneOf queryKeywords next = true ∧ isOneOf queryJoiners last = false

/-- A statement seems to end at a line break, judging by the words of code before the break and
after it: those before leave no parenthesis open, and those next to the break look ended. -/
def SeemsEnded (before after : List Char) : Prop :=
  depthOf (codeWords before).flatten ≤ 0 ∧
    ∃ last ∈ (codeWords before).getLast?, ∃ next ∈ (codeWords after).head?, LooksEnded last next

/-! ## Open parentheses -/

theorem depthOf_flatten_map_trimEnd (lines : List (List Char)) :
    depthOf (lines.map Text.trimEnd).flatten = depthOf lines.flatten := by
  induction lines with
  | nil => rfl
  | cons line lines ih =>
      rw [List.map_cons, List.flatten_cons, List.flatten_cons, depthOf_append, depthOf_append,
        depthOf_trimEnd, ih]

theorem depthOf_flatten_concat_trimEnd (lines : List (List Char)) (last : List Char) :
    depthOf (lines.map Text.trimEnd ++ [Text.trimEnd last]).flatten =
      depthOf (lines ++ [last]).flatten := by
  rw [← depthOf_flatten_map_trimEnd (lines ++ [last]), List.map_append]
  rfl

theorem depthOf_codeWords (text : List Char) :
    depthOf (codeWords text).flatten = depthOf (codeLines text).flatten := by
  rw [codeWords]
  induction codeLines text with
  | nil => rfl
  | cons line lines ih =>
      rw [List.flatMap_cons, List.flatten_append, List.flatten_cons, depthOf_append,
        depthOf_append, depthOf_words, ih]

/-! ## Lines that look ended -/

theorem endsWith_singleton (c : Char) (text : List Char) :
    Text.endsWith [c] text = (text.getLast? == some c) := by
  rw [Text.endsWith, Text.startsWith, List.reverse_singleton, List.getLast?_eq_head?_reverse]
  cases text.reverse with
  | nil => rfl
  | cons d rest =>
      by_cases same : c = d
      · simp [Text.afterStart?, same]
      · simp [Text.afterStart?, same, Ne.symm same]

theorem words_ne_nil_of_hasCode {line : List Char} (code : hasCode line = true) :
    Text.words line ≠ [] := by
  intro none
  have last := Text.getLast?_trimEnd (Text.trimStart line)
  rw [Text.words_trimStart, none] at last
  have blank : Text.trim line = [] := List.getLast?_eq_none_iff.mp last
  rw [hasCode, blank] at code
  cases code

/-- A line that begins with a keyword begins with no parenthesis. -/
theorem startsWith_paren_eq_false
    {keywords : List String} {text : List Char}
    (letters : keywords.all (fun keyword => keyword.toList.all (·.toLower.isAlpha)) = true)
    (begins : beginsWithOneOf keywords text = true) :
    Text.startsWith ['('] (Text.trimStart text) = false := by
  obtain ⟨c, more, rest, start, keyword, _⟩ := exists_keyword letters begins
  have different : '(' ≠ c := by
    rintro rfl
    cases isAlpha_of_isOneOf letters keyword '(' List.mem_cons_self
  rw [start, Text.startsWith, Text.afterStart?, if_neg different]
  rfl

theorem beginsWithOneOf_of_words
    {keywords : List String} {text word : List Char} {others : List (List Char)}
    (found : Text.words text = word :: others) :
    beginsWithOneOf keywords text = isOneOf keywords word := by
  rw [beginsWithOneOf, found]

theorem endsWithOneOf_of_words
    {keywords : List String} {text word : List Char} {others : List (List Char)}
    (found : Text.words text = others ++ [word]) :
    endsWithOneOf keywords text = isOneOf keywords word := by
  rw [endsWithOneOf, found, List.getLast?_concat]

/-- Whether a statement ends between two lines shows in the words next to the break. -/
theorem endsStatement_iff
    {line next last first : List Char} {before after : List (List Char)}
    (lineWords : Text.words line = before ++ [last])
    (nextWords : Text.words next = first :: after) :
    endsStatement false (Text.trimEnd line) (Text.trimEnd next) = true ↔ LooksEnded last first := by
  have ends : (Text.trimEnd line).getLast? = last.getLast? := by
    rw [Text.getLast?_trimEnd, lineWords, List.getLast?_concat]
    rfl
  have trimmedNext : Text.words (Text.trimEnd next) = first :: after := by
    rw [Text.words_trimEnd, nextWords]
  have startWords : Text.words (Text.trimStart (Text.trimEnd next)) = first :: after := by
    rw [Text.words_trimStart, trimmedNext]
  have trimmedLine : Text.words (Text.trimEnd line) = before ++ [last] := by
    rw [Text.words_trimEnd, lineWords]
  have noParen (opens : isOneOf statementKeywords first = true ∨
      isOneOf queryKeywords first = true ∧ isOneOf queryJoiners last = false) :
      Text.startsWith ['('] (Text.trimStart (Text.trimEnd next)) = false := by
    rcases opens with keyword | ⟨keyword, _⟩
    · rw [← beginsWithOneOf_of_words trimmedNext] at keyword
      exact startsWith_paren_eq_false rfl keyword
    · rw [← beginsWithOneOf_of_words trimmedNext] at keyword
      exact startsWith_paren_eq_false rfl keyword
  simp only [endsStatement, beginsWithOneOf_of_words startWords,
    endsWithOneOf_of_words trimmedLine, endsWith_singleton, ends, Bool.not_false, Bool.and_true,
    Bool.and_eq_true, Bool.not_eq_true', Bool.or_eq_false_iff, Bool.or_eq_true,
    beq_eq_false_iff_ne]
  constructor
  · rintro ⟨⟨⟨noComma, noOpening⟩, _⟩, opens⟩
    exact ⟨noComma, noOpening, opens⟩
  · rintro ⟨noComma, noOpening, opens⟩
    exact ⟨⟨⟨noComma, noOpening⟩, noParen opens⟩, opens⟩

/-! ## Lines one after another -/

theorem linesFrom_texts (offset : Nat) (lines : List (List Char)) :
    (linesFrom offset lines).map (fun line => line.text) =
      (lines.filter hasCode).map Text.trimEnd := by
  induction lines generalizing offset with
  | nil => rfl
  | cons line lines ih =>
      rw [linesFrom, List.filter_cons]
      split
      · rw [List.map_cons, List.map_cons, ih]
      · exact ih _

/-- In a terminated statement a semicolon is missed where a line, with those before it, ends outside
parentheses and the next one looks like another statement. -/
theorem missingEnds_ne_nil_iff (hostsQuery : Bool) (depth : Int) (lines : List Line) :
    missingEnds true hostsQuery depth lines ≠ [] ↔
      ∃ before line next after,
        lines.map (fun line => line.text) = before ++ line :: next :: after ∧
        depth + depthOf (before ++ [line]).flatten ≤ 0 ∧
        endsStatement hostsQuery line next = true := by
  induction lines generalizing depth with
  | nil => simp [missingEnds]
  | cons line lines ih =>
      cases lines with
      | nil =>
          refine iff_of_false (fun missed => missed rfl) ?_
          rintro ⟨before, _, _, _, same, _⟩
          have lengths := congrArg List.length same
          simp only [List.map_cons, List.map_nil, List.length_append, List.length_cons,
            List.length_nil] at lengths
          omega
      | cons next lines =>
          have later := ih (depth + depthOf line.text)
          rw [missingEnds]
          constructor
          · intro missed
            split at missed
            · rename_i here
              obtain ⟨outside, ends⟩ := Bool.and_eq_true_iff.mp here
              refine ⟨[], line.text, next.text, lines.map fun line => line.text, rfl, ?_, ends⟩
              rw [List.nil_append, List.flatten_singleton]
              exact of_decide_eq_true outside
            · obtain ⟨before, last, first, after, same, outside, ends⟩ := later.mp missed
              refine ⟨line.text :: before, last, first, after, ?_, ?_, ends⟩
              · rw [List.map_cons, same, List.cons_append]
              · rw [List.cons_append, List.flatten_cons, depthOf_append, ← Int.add_assoc]
                exact outside
          · rintro ⟨before, last, first, after, same, outside, ends⟩
            cases before with
            | nil =>
                obtain ⟨rfl, others⟩ := List.cons.inj same
                obtain ⟨rfl, _⟩ := List.cons.inj others
                rw [List.nil_append, List.flatten_singleton] at outside
                rw [if_pos (Bool.and_eq_true_iff.mpr ⟨decide_eq_true outside, ends⟩)]
                exact List.cons_ne_nil _ _
            | cons start before =>
                obtain ⟨rfl, others⟩ := List.cons.inj same
                rw [List.cons_append, List.flatten_cons, depthOf_append, ← Int.add_assoc]
                  at outside
                have missed := later.mpr ⟨before, last, first, after, others, outside, ends⟩
                split
                · exact List.cons_ne_nil _ _
                · exact missed

/-- The lines with code on both sides of a line break. -/
theorem exists_break
    {text : List Char} {first second : List (List Char)} (lines : codeLines text = first ++ second)
    (firstLeft : first ≠ []) (secondLeft : second ≠ []) :
    ∃ before after, text = before ++ '\n' :: after ∧ codeLines before = first ∧
      codeLines after = second := by
  obtain ⟨left, right, pieces, isFirst, isSecond⟩ := List.filter_eq_append_iff.mp lines
  have leftLeft : left ≠ [] := by
    rintro rfl
    exact firstLeft isFirst.symm
  have rightLeft : right ≠ [] := by
    rintro rfl
    exact secondLeft isSecond.symm
  obtain ⟨before, c, after, rfl, newline, isLeft, isRight⟩ :=
    Text.exists_of_split_eq_append pieces leftLeft rightLeft
  obtain rfl := eq_of_beq newline
  refine ⟨before, after, rfl, ?_, ?_⟩
  · rw [codeLines, isLeft, isFirst]
  · rw [codeLines, isRight, isSecond]

theorem codeLines_append_newline (before after : List Char) :
    codeLines (before ++ '\n' :: after) = codeLines before ++ codeLines after := by
  rw [codeLines, Text.split_append_cons (· == '\n') rfl, List.filter_append]
  rfl

theorem words_ne_nil_of_mem_codeLines {text line : List Char} (member : line ∈ codeLines text) :
    Text.words line ≠ [] :=
  words_ne_nil_of_hasCode (List.mem_filter.mp member).2

/-- The last word of code is the last word of the last line with code. -/
theorem getLast?_codeWords_eq_some_iff {text last : List Char} :
    (codeWords text).getLast? = some last ↔
      ∃ start line before, codeLines text = start ++ [line] ∧
        Text.words line = before ++ [last] := by
  constructor
  · intro found
    have left : codeLines text ≠ [] := by
      intro none
      rw [codeWords, none] at found
      cases found
    obtain ⟨start, line, lines⟩ := (List.eq_nil_or_concat' _).resolve_left left
    have member : line ∈ codeLines text := by simp [lines]
    obtain ⟨before, word, words⟩ :=
      (List.eq_nil_or_concat' _).resolve_left (words_ne_nil_of_mem_codeLines member)
    rw [codeWords, lines, List.flatMap_append, List.flatMap_singleton, words,
      ← List.append_assoc, List.getLast?_concat] at found
    cases found
    exact ⟨start, line, before, lines, words⟩
  · rintro ⟨start, line, before, lines, words⟩
    rw [codeWords, lines, List.flatMap_append, List.flatMap_singleton, words,
      ← List.append_assoc, List.getLast?_concat]

/-- The first word of code is the first word of the first line with code. -/
theorem head?_codeWords_eq_some_iff {text first : List Char} :
    (codeWords text).head? = some first ↔
      ∃ line finish after, codeLines text = line :: finish ∧ Text.words line = first :: after := by
  constructor
  · intro found
    cases lines : codeLines text with
    | nil =>
        rw [codeWords, lines] at found
        cases found
    | cons line finish =>
        cases words : Text.words line with
        | nil => exact absurd words (words_ne_nil_of_mem_codeLines (lines ▸ List.mem_cons_self))
        | cons word after =>
            rw [codeWords, lines, List.flatMap_cons, words] at found
            cases found
            exact ⟨line, finish, after, rfl, words⟩
  · rintro ⟨line, finish, after, lines, words⟩
    rw [codeWords, lines, List.flatMap_cons, words]
    rfl

/-- In a terminated statement that hosts no query a semicolon is missed where it seems to end. -/
theorem missingSemicolons_ne_nil_iff
    {source : List Char} {statement : StatementSource} (terminated : statement.terminated = true)
    (hostsNoQuery : beginsWithOneOf queryHosts statement.text.toList = false) :
    missingSemicolons source statement ≠ [] ↔
      ∃ before after, statement.text.toList = before ++ '\n' :: after ∧
        SeemsEnded before after := by
  have listed : missingSemicolons source statement ≠ [] ↔
      ∃ before line next after,
        (codeLines statement.text.toList).map Text.trimEnd = before ++ line :: next :: after ∧
        0 + depthOf (before ++ [line]).flatten ≤ 0 ∧ endsStatement false line next = true := by
    rw [missingSemicolons, terminated, hostsNoQuery, Ne, List.map_eq_nil_iff, ← Ne,
      missingEnds_ne_nil_iff, linesFrom_texts]
    rfl
  rw [listed]
  constructor
  · rintro ⟨_, _, _, _, lines, outside, ends⟩
    obtain ⟨start, later, whole, rfl, laterTrimmed⟩ := List.map_eq_append_iff.mp lines
    obtain ⟨line, others, rfl, rfl, othersTrimmed⟩ := List.map_eq_cons_iff.mp laterTrimmed
    obtain ⟨next, finish, rfl, rfl, rfl⟩ := List.map_eq_cons_iff.mp othersTrimmed
    have apart : codeLines statement.text.toList = (start ++ [line]) ++ (next :: finish) := by
      rw [whole, List.append_assoc]
      rfl
    have lineMember : line ∈ codeLines statement.text.toList := by simp [apart]
    have nextMember : next ∈ codeLines statement.text.toList := by simp [apart]
    obtain ⟨before, last, lineWords⟩ :=
      (List.eq_nil_or_concat' _).resolve_left (words_ne_nil_of_mem_codeLines lineMember)
    obtain ⟨first, after, nextWords⟩ :=
      List.exists_cons_of_ne_nil (words_ne_nil_of_mem_codeLines nextMember)
    obtain ⟨left, right, text, isLeft, isRight⟩ :=
      exists_break apart (by simp) (List.cons_ne_nil _ _)
    refine ⟨left, right, text, ?_, last, ?_, first, ?_,
      (endsStatement_iff lineWords nextWords).mp ends⟩
    · rwa [depthOf_codeWords, isLeft, ← depthOf_flatten_concat_trimEnd,
        ← Int.zero_add (depthOf _)]
    · exact getLast?_codeWords_eq_some_iff.mpr ⟨start, line, before, isLeft, lineWords⟩
    · exact head?_codeWords_eq_some_iff.mpr ⟨next, finish, after, isRight, nextWords⟩
  · rintro ⟨left, right, text, outside, last, isLast, first, isFirst, ends⟩
    obtain ⟨start, line, before, isLeft, lineWords⟩ := getLast?_codeWords_eq_some_iff.mp isLast
    obtain ⟨next, finish, after, isRight, nextWords⟩ := head?_codeWords_eq_some_iff.mp isFirst
    refine ⟨start.map Text.trimEnd, Text.trimEnd line, Text.trimEnd next,
      finish.map Text.trimEnd, ?_, ?_, (endsStatement_iff lineWords nextWords).mpr ends⟩
    · rw [text, codeLines_append_newline, isLeft, isRight, List.append_assoc, List.map_append]
      rfl
    · rwa [Int.zero_add, depthOf_flatten_concat_trimEnd, ← isLeft, ← depthOf_codeWords]

end Lint

/-! ## Statements that define tables -/

/-- A statement has its semicolon, and is read as one that creates, alters or drops tables. -/
structure StatementSource.IsDefinition (statement : StatementSource) : Prop where
  terminated : statement.terminated = true
  reads : ∃ definition, Statement.ofText statement.text = .ok definition ∧
    definition ≠ .passthrough

instance (statement : StatementSource) : Decidable statement.IsDefinition :=
  decidable_of_iff (statement.terminated = true ∧
    ∃ definition ∈ (Statement.ofText statement.text).toOption, definition ≠ .passthrough) <| by
    constructor
    · rintro ⟨terminated, definition, read, other⟩
      refine ⟨terminated, definition, ?_, other⟩
      cases found : Statement.ofText statement.text with
      | error error =>
          rw [found] at read
          cases read
      | ok value =>
          rw [found] at read
          cases read
          rfl
    · rintro ⟨terminated, definition, read, other⟩
      exact ⟨terminated, definition, by rw [read]; rfl, other⟩

/-- Statements that begin with another word pass through. -/
theorem statement_eq_passthrough
    {token : Token}
    (otherWord : ["CREATE", "ALTER", "DROP"].any token.isKeyword = false) (tokens : List Token) :
    statement (token :: tokens) = .ok .passthrough := by
  simp only [List.any_cons, List.any_nil, Bool.or_eq_false_iff] at otherWord
  obtain ⟨noCreate, noAlter, noDrop, _⟩ := otherWord
  simp [statement, Parser.afterKeywords?, noCreate, noAlter, noDrop]

/-- A word that is one of some keywords is none of others. -/
theorem any_isKeyword_eq_false
    {keywords others : List String} {word : List Char}
    (apart : ∀ keyword ∈ keywords, ∀ other ∈ others, Text.same keyword other = false)
    (found : Lint.isOneOf keywords word = true) :
    others.any (Token.word (String.ofList word) false).isKeyword = false := by
  obtain ⟨keyword, listed, same⟩ := List.any_eq_true.mp found
  refine List.any_eq_false.mpr fun other otherListed isOther => ?_
  rw [Text.same_comm] at same
  have both := Text.same_trans same isOther
  rw [apart keyword listed other otherListed] at both
  cases both

theorem trimStart_of_mem_statements
    {script : String} {source : StatementSource} (member : source ∈ statements script) :
    Text.trimStart source.text.toList = source.text.toList := by
  obtain ⟨c, rest, begins, solid, _⟩ := begins_of_mem_statements member
  rw [begins, trimStart_cons_of_solid solid]

/-- A statement that creates, alters or drops tables hosts no query. -/
theorem StatementSource.IsDefinition.hostsNoQuery
    {script : String} {source : StatementSource} (definition : source.IsDefinition)
    (member : source ∈ statements script) :
    Lint.beginsWithOneOf Lint.queryHosts source.text.toList = false := by
  rw [Bool.eq_false_iff]
  intro begins
  obtain ⟨c, more, rest, start, keyword, solid, reads⟩ := exists_keyword rfl begins
  rw [trimStart_of_mem_statements member] at start
  obtain ⟨_, ofText, noPassthrough⟩ := definition.reads
  have otherWord : ["CREATE", "ALTER", "DROP"].any
      (Token.word (String.ofList (c :: more)) false).isKeyword = false :=
    any_isKeyword_eq_false (by decide) keyword
  have split := Lexer.tokensFrom_read solid (reads false)
  rw [Statement.ofText, tokens, start, split] at ofText
  cases later : Lexer.tokensFrom (Token.word (String.ofList (c :: more)) false).isWord rest with
  | error error =>
      rw [later] at ofText
      cases ofText
  | ok tokens =>
      rw [later] at ofText
      have passed := (statement_eq_passthrough otherWord tokens).symm.trans ofText
      exact noPassthrough (Except.ok.inj passed).symm

/-! ## Tokens that go on -/

/-- Tokens go on with a word that may begin a statement, outside parentheses and after something
else than a comma or an opening parenthesis. -/
def Token.GoesOn (tokens : List Token) : Prop :=
  ∃ left word right, tokens = left ++ .word (String.ofList word) false :: right ∧ left ≠ [] ∧
    Token.depthOf left ≤ 0 ∧ left.getLast? ≠ some .comma ∧ left.getLast? ≠ some .openParen ∧
    Lint.isOneOf (Lint.statementKeywords ++ Lint.queryKeywords) word = true

theorem Token.GoesOn.exists_mem {first : Token} {tokens : List Token}
    (goes : Token.GoesOn (first :: tokens)) :
    ∃ word, .word (String.ofList word) false ∈ tokens ∧
      Lint.isOneOf (Lint.statementKeywords ++ Lint.queryKeywords) word = true := by
  obtain ⟨left, word, right, same, inside, _, _, _, found⟩ := goes
  obtain ⟨_, left, rfl⟩ := List.exists_cons_of_ne_nil inside
  obtain ⟨_, rfl⟩ := List.cons.inj same
  exact ⟨word, by simp, found⟩

namespace Lint

variable {afterWord : Bool} {text before after word : List Char} {tokens : List Token}

theorem isOneOf_append (first second : List String) (word : List Char) :
    isOneOf (first ++ second) word = (isOneOf first word || isOneOf second word) :=
  List.any_append

/-- Where no line begins with a comment, all words are words of code. -/
theorem codeWords_eq_words
    (noComment : ∀ line ∈ Text.split (· == '\n') text,
      Text.startsWith ['-', '-'] (Text.trimStart line) = false) :
    codeWords text = Text.words text := by
  rw [codeWords, codeLines, ← Text.flatMap_words_split text]
  generalize Text.split (· == '\n') text = lines at noComment
  induction lines with
  | nil => rfl
  | cons line lines ih =>
      have later := ih fun other member => noComment other (List.mem_cons_of_mem _ member)
      rw [List.filter_cons, List.flatMap_cons, ← later]
      split
      · rw [List.flatMap_cons]
      · rename_i noCode
        have blank : (Text.trim line).isEmpty = true := by
          simpa [hasCode, noComment line List.mem_cons_self] using noCode
        have none : Text.words line = [] := by
          rw [← Text.words_trimStart, ← Text.words_trimEnd, ← Text.trim,
            List.isEmpty_iff.mp blank]
          rfl
        rw [none, List.nil_append]

/-- Where a statement seems to end its tokens go on, when they hide nothing. -/
theorem goesOn_of_seemsEnded
    (exposes : Lexer.Exposes afterWord text tokens) (split : text = before ++ '\n' :: after)
    (ended : SeemsEnded before after) : Token.GoesOn tokens := by
  have noComment (line : List Char) (member : line ∈ Text.split (· == '\n') before ∨
      line ∈ Text.split (· == '\n') after) :
      Text.startsWith ['-', '-'] (Text.trimStart line) = false := by
    apply exposes.noComment
    rw [split, Text.split_append_cons (· == '\n') rfl]
    exact List.mem_append.mpr member
  obtain ⟨outside, last, isLast, next, isNext, looks⟩ := ended
  rw [codeWords_eq_words fun line member => noComment line (.inl member)] at outside isLast
  rw [codeWords_eq_words fun line member => noComment line (.inr member)] at isNext
  rw [depthOf_words] at outside
  obtain ⟨left, right, rfl, ends, exposesAfter⟩ := exposes.exists_ends split
  have keyword : isOneOf (statementKeywords ++ queryKeywords) next = true := by
    rw [isOneOf_append, Bool.or_eq_true]
    exact looks.opens.imp_right And.left
  have begins : beginsWithOneOf (statementKeywords ++ queryKeywords) after = true := by
    obtain ⟨others, words⟩ := List.head?_eq_some_iff.mp isNext
    rwa [beginsWithOneOf_of_words words]
  obtain ⟨word, others, rfl, found⟩ := exposesAfter.exists_keyword rfl begins
  -- A parenthesis or comma at the end of the tokens would end the last word as well.
  have differs (token : Token) (c : Char) (delimiter : token.isDelimiter = true)
      (written : token.text.toList = [c]) (other : last.getLast? ≠ some c) :
      left.getLast? ≠ some token := by
    intro same
    obtain ⟨d, atEnd, isToken⟩ := ends.last token same delimiter
    rw [Text.getLast?_trimEnd, Option.mem_def.mp isLast] at atEnd
    rw [written] at isToken
    obtain ⟨rfl, _⟩ := List.cons.inj isToken
    exact other atEnd
  refine ⟨left, word, others, rfl, ?_, ?_, ?_, ?_, found⟩
  · intro none
    rw [Text.words_of_blank (ends.blank none)] at isLast
    cases isLast
  · rwa [← ends.depth]
  · exact differs .comma ',' rfl rfl looks.noComma
  · exact differs .openParen '(' rfl rfl looks.noParen

end Lint

/-! ## Scripts -/

theorem exists_lint_missingSemicolon_iff {script : String} :
    (∃ diagnostic ∈ lint script, diagnostic.code = "missing-semicolon") ↔
      ∃ statement ∈ statements script, Lint.missingSemicolons script.toList statement ≠ [] := by
  constructor
  · rintro ⟨diagnostic, found⟩
    obtain ⟨statement, listed, member⟩ := mem_lint_missingSemicolon.mp found
    exact ⟨statement, listed, List.ne_nil_of_mem member⟩
  · rintro ⟨statement, listed, missed⟩
    obtain ⟨diagnostic, member⟩ := List.exists_mem_of_ne_nil _ missed
    exact ⟨diagnostic, mem_lint_missingSemicolon.mpr ⟨statement, listed, member⟩⟩

/-- In a script of terminated statements that create, alter or drop tables a semicolon is reported
missing exactly if some statement seems to end at one of its line breaks, judging by the words next
to it and the parentheses before it.  How the statements are broken over lines does not matter if
their tokens hide nothing and do not go on with a word that may begin a statement: then none is
reported. -/
theorem missing_semicolons_in_definitions {script : String}
    (definitions : ∀ statement ∈ statements script, statement.IsDefinition) :
    ((∃ diagnostic ∈ lint script, diagnostic.code = "missing-semicolon") ↔
      ∃ statement ∈ statements script, ∃ before after,
        statement.text.toList = before ++ '\n' :: after ∧ Lint.SeemsEnded before after) ∧
    ((∀ statement ∈ statements script, ∃ tokens,
        Lexer.Exposes false statement.text.toList tokens ∧ ¬ Token.GoesOn tokens) →
      ∀ diagnostic ∈ lint script, diagnostic.code ≠ "missing-semicolon") := by
  have exact : (∃ diagnostic ∈ lint script, diagnostic.code = "missing-semicolon") ↔
      ∃ statement ∈ statements script, ∃ before after,
        statement.text.toList = before ++ '\n' :: after ∧ Lint.SeemsEnded before after := by
    rw [exists_lint_missingSemicolon_iff]
    refine exists_congr fun statement => and_congr_right fun listed => ?_
    have definition := definitions statement listed
    exact Lint.missingSemicolons_ne_nil_iff definition.terminated
      (definition.hostsNoQuery listed)
  refine ⟨exact, fun exposed diagnostic member code => ?_⟩
  obtain ⟨statement, listed, before, after, split, ended⟩ := exact.mp ⟨diagnostic, member, code⟩
  obtain ⟨tokens, exposes, stops⟩ := exposed statement listed
  exact stops (Lint.goesOn_of_seemsEnded exposes split ended)

/-- A name on a line of its own is none of the words that begin a statement. -/
theorem missing_semicolons_in_definitions_drop :
    (∀ statement ∈ statements "DROP TABLE\na;", statement.IsDefinition) ∧
      ∀ diagnostic ∈ lint "DROP TABLE\na;", diagnostic.code ≠ "missing-semicolon" := by
  have definitions : ∀ statement ∈ statements "DROP TABLE\na;", statement.IsDefinition := by
    decide +kernel
  have texts : (statements "DROP TABLE\na;").map (·.text) = ["DROP TABLE\na"] := by
    decide +kernel
  have exposes : Lexer.Exposes false "DROP TABLE\na".toList
      [.word "DROP" false, .word "TABLE" false, .word "a" false] :=
    @Lexer.Exposes.token false 'D' ['R', 'O', 'P'] _ _ _ rfl rfl (by decide) rfl <|
      .blank rfl <|
      @Lexer.Exposes.token false 'T' ['A', 'B', 'L', 'E'] _ _ _ rfl rfl (by decide) rfl <|
      .blank rfl <|
      @Lexer.Exposes.token false 'a' [] _ _ _ rfl rfl (by decide) rfl .nil
  have stops : ¬ Token.GoesOn [.word "DROP" false, .word "TABLE" false, .word "a" false] := by
    intro goes
    obtain ⟨word, member, found⟩ := goes.exists_mem
    have same : String.ofList word = "TABLE" ∨ String.ofList word = "a" := by
      simpa using member
    rw [Lint.isOneOf] at found
    rcases same with same | same
    · rw [same] at found
      revert found
      decide
    · rw [same] at found
      revert found
      decide
  refine ⟨definitions, (missing_semicolons_in_definitions definitions).2 fun statement listed => ?_⟩
  have isText : statement.text ∈ ["DROP TABLE\na"] := texts ▸ List.mem_map_of_mem listed
  rw [List.mem_singleton.mp isText]
  exact ⟨_, exposes, stops⟩

/-- The line on which a change of a table drops a column looks like another statement. -/
theorem missing_semicolon_before_dropped_column :
    (∀ statement ∈ statements "ALTER TABLE users\nDROP COLUMN age;", statement.IsDefinition) ∧
      ∃ diagnostic ∈ lint "ALTER TABLE users\nDROP COLUMN age;",
        diagnostic.code = "missing-semicolon" := by
  decide +kernel

end SchemaDesign.Sql
