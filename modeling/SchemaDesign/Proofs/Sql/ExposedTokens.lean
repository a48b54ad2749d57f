import SchemaDesign.Proofs.Sql.Lines
import SchemaDesign.Proofs.Sql.VerbatimTokens

/-!
# Tokens that hide nothing

What goes by the lines and words of a text can be told from its tokens if none of them hides a line
break or a parenthesis, and there are no comments.  Then the text up to the end of a line is read as
some of the tokens, with the same open parentheses and the same comma or parenthesis at its end, and
a line begins with the keyword with which the tokens go on.
-/

namespace SchemaDesign.Sql

namespace Token

/-- How many more parentheses tokens open than they close. -/
def depthOf (tokens : List Token) : Int :=
  (tokens.count .openParen : Int) - tokens.count .closeParen

theorem depthOf_cons (token : Token) (tokens : List Token) :
    depthOf (token :: tokens) = depthOf [token] + depthOf tokens := by
  simp only [depthOf, List.count_cons, List.count_nil]
  omega

/-- Whether a token is a parenthesis or a comma. -/
def isDelimiter : Token → Bool
  | .openParen => true
  | .closeParen => true
  | .comma => true
  | _ => false

end Token

namespace Lexer

/-- A text is read as tokens that hide nothing: there are no comments, no token goes over the end of
a line, and no token but a parenthesis brings parentheses in. -/
inductive Exposes : Bool → List Char → List Token → Prop where
  | nil {afterWord : Bool} : Exposes afterWord [] []
  | blank {afterWord : Bool} {c : Char} {rest : List Char} {tokens : List Token} :
      Text.isBlank c = true → Exposes false rest tokens → Exposes afterWord (c :: rest) tokens
  | token {afterWord : Bool} {c : Char} {inner rest : List Char} {token : Token}
      {tokens : List Token} :
      skip? c (inner ++ rest) = none → readToken afterWord c (inner ++ rest) = .ok (token, rest) →
        '\n' ∉ c :: inner → Lint.depthOf (c :: inner) = Token.depthOf [token] →
        Exposes token.isWord rest tokens →
        Exposes afterWord (c :: (inner ++ rest)) (token :: tokens)

variable {afterWord : Bool} {c : Char} {text before after inner rest : List Char} {token : Token}
variable {tokens : List Token}

/-- What hides nothing is read as its tokens. -/
theorem Exposes.tokensFrom (exposes : Exposes afterWord text tokens) :
    tokensFrom afterWord text = .ok tokens := by
  induction exposes with
  | nil => rw [Lexer.tokensFrom]
  | blank blank _ ih =>
      rw [tokensFrom_skip (if_pos blank), ih]
  | token solid read _ _ _ ih =>
      rw [tokensFrom_read solid read, ih]
      rfl

/-! ## Parentheses and commas -/

theorem isDelimiter_of_readPeriodOrNumber
    (read : readPeriodOrNumber afterWord c rest = .ok (token, after)) :
    token.isDelimiter = false := by
  have number (text : List Char) : (readNumber text).1.isDelimiter = false := by
    simp only [readNumber]
    split_ifs <;> rfl
  rw [readPeriodOrNumber] at read
  split_ifs at read
  · cases read
    rfl
  · rw [← number (c :: rest), Except.ok.inj read]

theorem isDelimiter_of_readDollar (read : readDollar rest = .ok (token, after)) :
    token.isDelimiter = false := by
  have between {mark text : List Char} {fault : LexFault}
      (read : readBetween mark fault text = .ok (token, after)) : token.isDelimiter = false := by
    rw [readBetween] at read
    split at read
    · cases read
      rfl
    · cases read
  rw [readDollar] at read
  split_ifs at read
  · exact between read
  · exact between read
  · cases read
    rfl

theorem isDelimiter_readNumberSign (text : List Char) :
    (readNumberSign text).1.isDelimiter = false := by
  cases text with
  | nil => rfl
  | cons c rest =>
      rw [readNumberSign]
      split_ifs <;> rfl

theorem isDelimiter_readAtSign (text : List Char) : (readAtSign text).1.isDelimiter = false := by
  have second (text : List Char) : (readTwoAtSigns text).1.isDelimiter = false := by
    cases text with
    | nil => rfl
    | cons c rest =>
        rw [readTwoAtSigns]
        split_ifs <;> rfl
  cases text with
  | nil => rfl
  | cons c rest =>
      rw [readAtSign]
      split_ifs
      · rfl
      · rfl
      · exact second rest
      · rfl
      · rfl

theorem isDelimiter_readOperator (c : Char) (rest : List Char) :
    (readOperator c rest).1.isDelimiter = false := by
  rw [readOperator]
  split
  · rename_i found
    obtain ⟨operator, _, same⟩ := exists_of_findOperator? found
    rw [same]
    rfl
  · rfl

/-- Parentheses and commas are read from themselves. -/
theorem eq_of_isDelimiter
    (delimiter : token.isDelimiter = true)
    (read : readToken afterWord c rest = .ok (token, after)) :
    token.text.toList = [c] ∧ after = rest := by
  have absurd (other : token.isDelimiter = false) : token.text.toList = [c] ∧ after = rest := by
    rw [delimiter] at other
    cases other
  cases readsToken_of_readToken read with
  | prefixed found =>
      apply absurd
      cases readsPrefixed_of_prefixed? found <;> rfl
  | literal _ _ => cases delimiter
  | quotedWord _ _ => cases delimiter
  | number read => exact absurd (isDelimiter_of_readPeriodOrNumber read)
  | openParen same => exact ⟨by rw [same]; rfl, rfl⟩
  | closeParen same => exact ⟨by rw [same]; rfl, rfl⟩
  | comma same => exact ⟨by rw [same]; rfl, rfl⟩
  | dollar _ read => exact absurd (isDelimiter_of_readDollar read)
  | question _ => cases delimiter
  | numberSign _ read => exact absurd (by rw [← isDelimiter_readNumberSign rest, read])
  | atSign _ read => exact absurd (by rw [← isDelimiter_readAtSign rest, read])
  | word _ => cases delimiter
  | operator _ read => exact absurd (by rw [← isDelimiter_readOperator c rest, read])

/-! ## At the end of a line -/

/-- A text up to a place is read as some tokens: they open as many parentheses as the text, there
are none only if the text is blank, and a parenthesis or comma at their end is at its end, too. -/
structure Ends (before : List Char) (left : List Token) : Prop where
  depth : Lint.depthOf before = Token.depthOf left
  blank : left = [] → ∀ c ∈ before, Text.isBlank c = true
  last : ∀ token ∈ left.getLast?, token.isDelimiter = true →
    ∃ c, (Text.trimEnd before).getLast? = some c ∧ token.text.toList = [c]

theorem Ends.nil : Ends [] [] where
  depth := rfl
  blank _ _ member := absurd member List.not_mem_nil
  last _ member := by cases member

theorem getLast?_trimEnd_append
    {d : Char} (ends : (Text.trimEnd text).getLast? = some d) (start : List Char) :
    (Text.trimEnd (start ++ text)).getLast? = some d := by
  have solid : Text.trimEnd text ≠ [] := by
    intro none
    rw [none] at ends
    cases ends
  rw [Text.trimEnd_append solid, List.getLast?_append, ends]
  rfl

theorem Ends.blank_cons {left : List Token} (ends : Ends before left)
    (blank : Text.isBlank c = true) : Ends (c :: before) left where
  depth := by
    have none : Lint.depthOf [c] = 0 := Lint.depthOf_of_blank (by simpa using blank)
    have split := Lint.depthOf_append [c] before
    rwa [none, Int.zero_add, ends.depth] at split
  blank noTokens := List.forall_mem_cons.mpr ⟨blank, ends.blank noTokens⟩
  last token member delimiter := by
    obtain ⟨d, last, same⟩ := ends.last token member delimiter
    exact ⟨d, getLast?_trimEnd_append last [c], same⟩

theorem Ends.token_append
    {left : List Token} (ends : Ends before left) (solid : Text.isBlank c = false)
    (depth : Lint.depthOf (c :: inner) = Token.depthOf [token])
    (delimiter : token.isDelimiter = true → token.text.toList = [c] ∧ inner = []) :
    Ends (c :: (inner ++ before)) (token :: left) where
  depth := by
    have split := Lint.depthOf_append (c :: inner) before
    rwa [depth, ends.depth, ← Token.depthOf_cons] at split
  blank noTokens := by cases noTokens
  last other member isDelimiter := by
    cases left with
    | nil =>
        cases member
        obtain ⟨same, rfl⟩ := delimiter isDelimiter
        refine ⟨c, ?_, same⟩
        rw [List.nil_append, trimEnd_cons_of_solid solid,
          Text.trimEnd_eq_nil_iff.mpr (ends.blank rfl)]
        rfl
    | cons next left =>
        obtain ⟨d, last, same⟩ := ends.last other member isDelimiter
        exact ⟨d, getLast?_trimEnd_append last (c :: inner), same⟩

/-- What is read up to the end of a line, and what is read from there on. -/
theorem Exposes.exists_ends
    (exposes : Exposes afterWord text tokens) (split : text = before ++ '\n' :: after) :
    ∃ left right, tokens = left ++ right ∧ Ends before left ∧ Exposes false after right := by
  induction exposes generalizing before with
  | nil => cases before <;> cases split
  | @blank _ c rest tokens blank exposes ih =>
      cases before with
      | nil =>
          cases split
          exact ⟨[], tokens, rfl, .nil, exposes⟩
      | cons d before =>
          obtain ⟨rfl, later⟩ := List.cons.inj split
          obtain ⟨left, right, rfl, ends, rest⟩ := ih later
          exact ⟨left, right, rfl, ends.blank_cons blank, rest⟩
  | @token _ c inner rest token tokens solid read oneLine depth exposes ih =>
      obtain ⟨between, rfl, later⟩ :
          ∃ between, before = c :: (inner ++ between) ∧ rest = between ++ '\n' :: after := by
        rw [← List.cons_append] at split
        rcases List.append_eq_append_iff.mp split with ⟨between, rfl, rest⟩ | ⟨excess, whole, rest⟩
        · exact ⟨between, rfl, rest⟩
        · cases excess with
          | nil => exact ⟨[], by rw [List.append_nil] at whole; simp [whole], rest.symm⟩
          | cons d excess =>
              obtain ⟨rfl, _⟩ := List.cons.inj rest
              exact absurd (by rw [whole]; simp) oneLine
      obtain ⟨left, right, rfl, ends, exposesRight⟩ := ih later
      obtain ⟨notBlank, _⟩ := skip?_eq_none_iff.mp solid
      refine ⟨token :: left, right, rfl, ends.token_append notBlank depth fun delimiter => ?_,
        exposesRight⟩
      obtain ⟨same, whole⟩ := eq_of_isDelimiter delimiter read
      exact ⟨same, List.self_eq_append_left.mp whole⟩

/-! ## At the start of a line -/

/-- No line begins with a comment. -/
theorem Exposes.noComment
    (exposes : Exposes afterWord text tokens) {line : List Char}
    (member : line ∈ Text.split (· == '\n') text) :
    Text.startsWith ['-', '-'] (Text.trimStart line) = false := by
  induction exposes generalizing line with
  | nil =>
      rw [List.mem_singleton.mp member]
      rfl
  | @blank _ c rest _ blank _ ih =>
      obtain ⟨others, pieces⟩ := Text.exists_split_eq_cons (· == '\n') rest
      rw [Text.split] at member
      split at member
      · rcases List.mem_cons.mp member with rfl | member
        · rfl
        · exact ih member
      · simp only [pieces, List.mem_cons] at member ih
        rcases member with rfl | member
        · rw [trimStart_cons_of_blank blank]
          exact ih (.inl rfl)
        · exact ih (.inr member)
  | @token _ c inner rest _ _ solid _ oneLine _ _ ih =>
      obtain ⟨others, pieces⟩ := Text.exists_split_eq_cons (· == '\n') rest
      have noNewline : ∀ d ∈ c :: inner, (d == '\n') = false := by
        intro d inside
        refine beq_false_of_ne fun same => oneLine (same ▸ inside)
      have whole := Text.split_append_of_solid noNewline pieces
      rw [List.cons_append] at whole
      rw [whole] at member
      rcases List.mem_cons.mp member with rfl | member
      · obtain ⟨notBlank, noComment, _⟩ := skip?_eq_none_iff.mp solid
        rw [List.cons_append, trimStart_cons_of_solid notBlank, Bool.eq_false_iff]
        intro starts
        obtain ⟨more, same⟩ := Text.startsWith_iff_isPrefix.mp starts
        obtain ⟨dash, second⟩ := List.cons.inj same.symm
        refine noComment ⟨dash, ?_⟩
        have begins : inner ++ rest.takeWhile (fun c => !(c == '\n')) <+: inner ++ rest :=
          List.prefix_append_right_inj inner |>.mpr (List.takeWhile_prefix _)
        obtain ⟨after, same⟩ := begins
        rw [← same, second]
        rfl
      · rw [pieces] at ih
        exact ih (List.mem_cons_of_mem _ member)

theorem Exposes.trimStart (exposes : Exposes afterWord text tokens) :
    ∃ afterWord, Exposes afterWord (Text.trimStart text) tokens := by
  induction exposes with
  | nil => exact ⟨false, .nil⟩
  | blank blank _ ih =>
      rw [trimStart_cons_of_blank blank]
      exact ih
  | @token afterWord _ _ _ _ _ solid read oneLine depth exposes _ =>
      rw [trimStart_cons_of_solid (skip?_eq_none_iff.mp solid).1]
      exact ⟨afterWord, .token solid read oneLine depth exposes⟩

/-- A keyword with which a text begins, between blanks, is its first token. -/
theorem Exposes.exists_keyword
    (exposes : Exposes afterWord text tokens) {keywords : List String}
    (letters : keywords.all (fun keyword => keyword.toList.all (·.toLower.isAlpha)) = true)
    (begins : Lint.beginsWithOneOf keywords text = true) :
    ∃ word others, tokens = .word (String.ofList word) false :: others ∧
      Lint.isOneOf keywords word = true := by
  obtain ⟨c, more, rest, start, keyword, solid, reads⟩ := Sql.exists_keyword letters begins
  obtain ⟨afterWord, trimmed⟩ := exposes.trimStart
  generalize same : Text.trimStart text = trimmedText at trimmed
  rw [start] at same
  cases trimmed with
  | nil => cases same
  | blank blank _ =>
      obtain ⟨rfl, _⟩ := List.cons.inj same
      rw [(skip?_eq_none_iff.mp solid).1] at blank
      cases blank
  | @token _ _ inner left token others _ read _ _ _ =>
      obtain ⟨rfl, whole⟩ := List.cons.inj same
      rw [← whole, reads afterWord] at read
      cases read
      exact ⟨c :: more, others, rfl, keyword⟩

end Lexer

end SchemaDesign.Sql
