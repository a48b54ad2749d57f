import SchemaDesign.Proofs.Sql.VerbatimTokens

/-!
# The readable text of tokens, read again

The tokens of a statement are the tokens of their readable text as long as each of them is verbatim
and no two neighbours run together.  Neighbours do where digits are followed by a period, where a
period is followed by a digit or an underscore, and where a lone mark is followed by a closing
parenthesis, a comma or a period, before all of which no blank is written.
-/

namespace SchemaDesign.Sql

namespace Lexer

open Token

section

variable {afterWord : Bool} {c : Char} {more rest after : List Char} {token : Token}
  {others : List Token}

/-! ## Every token that is read -/

theorem rereads_of_readNumber
    {text : List Char} (read : readNumber text = (token, after)) : Rereads token := by
  have whole := read
  rw [readNumber] at read
  split at read
  · cases read
    apply rereads_hexadecimal
    exact forall_mem_takeWhile _
  · simp only at read
    split at read
    · cases read
      exact rereads_period
    · cases read
      obtain ⟨_, _, _, _, numeral, same⟩ := readNumber_parts whole
      rw [same]
      exact rereads_number numeral

theorem rereads_of_readPeriodOrNumber
    (read : readPeriodOrNumber afterWord c rest = .ok (token, after)) : Rereads token := by
  rw [readPeriodOrNumber] at read
  split at read
  · split at read
    · cases read
      exact rereads_period
    · cases read
  · exact rereads_of_readNumber (Except.ok.inj read)

/-- A token is read again from its text, if that stands for the same in a statement. -/
theorem rereads_of_readsToken
    (notBlank : Text.isBlank c = false) (reads : ReadsToken afterWord c rest token after)
    (verbatim : token.IsVerbatim) : Rereads token := by
  cases reads with
  | prefixed found => exact rereads_of_readsPrefixed (readsPrefixed_of_prefixed? found) verbatim
  | literal _ _ => exact rereads_literal _
  | quotedWord _ _ => cases verbatim
  | number read => exact rereads_of_readPeriodOrNumber read
  | openParen _ => exact rereads_openParen
  | closeParen _ => exact rereads_closeParen
  | comma _ => exact rereads_comma
  | dollar _ read => exact rereads_of_readDollar read
  | question _ => exact rereads_question (forall_mem_takeWhile rest)
  | numberSign _ read => exact rereads_of_readNumberSign read
  | atSign _ read => exact rereads_of_readAtSign read
  | word starts => exact rereads_word starts notBlank (forall_mem_takeWhile rest)
  | operator starts read => exact rereads_of_readOperator starts notBlank read

/-! ## What may not be written after a token -/

theorem tokensFrom_eq_cons
    (notSkipped : skip? c rest = none)
    (whole : tokensFrom afterWord (c :: rest) = .ok (token :: others)) :
    ∃ after, readToken afterWord c rest = .ok (token, after) := by
  rw [tokensFrom] at whole
  split at whole
  · next found => cases notSkipped.symm.trans found
  · next found => cases notSkipped.symm.trans found
  · split at whole
    · next first after found =>
        obtain ⟨later, -, same⟩ := map_eq_ok_iff.mp whole
        cases same
        exact ⟨after, found⟩
    · cases whole

theorem readNumber_point
    {digits : List Char} (nonempty : digits ≠ []) (isDigits : ∀ d ∈ digits, d.isDigit = true)
    (rest : List Char) :
    (readNumber (digits ++ '.' :: rest)).1 ≠ .number (String.ofList digits) := by
  have stops : ∀ d ∈ ('.' :: rest).head?, d.isDigit = false := by
    rintro d ⟨⟩
    rfl
  obtain ⟨run, ended⟩ := takeWhile_ended isDigits stops
  have point : readMark '.' ('.' :: rest) = (['.'], rest) := rfl
  simp only [readNumber, run, ended]
  rw [if_neg (by simp)]
  simp only [point]
  rw [if_neg (by simp [nonempty])]
  intro same
  have sameLists := congrArg String.toList (Token.number.inj same)
  simp at sameLists

theorem readNumber_places (digit : c.isDigit = true) (rest : List Char) :
    (readNumber ('.' :: c :: rest)).1 ≠ .period := by
  have whole : ('.' :: c :: rest).takeWhile Char.isDigit = [] ∧
      ('.' :: c :: rest).dropWhile Char.isDigit = '.' :: c :: rest := ⟨rfl, rfl⟩
  have point : readMark '.' ('.' :: c :: rest) = (['.'], c :: rest) := rfl
  simp only [readNumber, whole]
  rw [if_neg (by simp)]
  simp only [point]
  rw [if_neg (by simp [digit])]
  exact Token.noConfusion

/-- Before anything else that is written after a token, a lone mark begins a word. -/
theorem blank_of_loneMark
    {mark : String} (lone : mark ∈ ["#", "@", "@@"]) (limited : Limited rest)
    (whole : tokensFrom afterWord (mark.toList ++ rest) = .ok (.other mark :: others)) :
    ∀ d ∈ rest.head?, d = ' ' := by
  intro d next
  obtain ⟨rest, rfl⟩ := List.head?_eq_some_iff.mp next
  have limit := limited d rfl
  simp only [isLimit, Bool.or_eq_true, beq_iff_eq, or_assoc] at limit
  simp only [List.mem_cons, List.not_mem_nil, or_false] at lone
  refine limit.resolve_right fun stuck => ?_
  rcases lone with rfl | rfl | rfl
  · have opened : tokensFrom afterWord ('#' :: d :: rest) = .ok (.other "#" :: others) := whole
    obtain ⟨after, read⟩ := tokensFrom_eq_cons rfl opened
    rw [readToken_numberSign] at read
    rcases stuck with rfl | rfl | rfl | rfl
    all_goals cases read
  · have opened : tokensFrom afterWord ('@' :: d :: rest) = .ok (.other "@" :: others) := whole
    obtain ⟨after, read⟩ := tokensFrom_eq_cons rfl opened
    rw [readToken_atSign] at read
    rcases stuck with rfl | rfl | rfl | rfl
    all_goals cases read
  · have opened : tokensFrom afterWord ('@' :: '@' :: d :: rest) =
        .ok (.other "@@" :: others) := whole
    obtain ⟨after, read⟩ := tokensFrom_eq_cons rfl opened
    rw [readToken_atSign] at read
    rcases stuck with rfl | rfl | rfl | rfl
    all_goals cases read

/-- A number of digits only takes a point after it. -/
theorem noPoint_of_tokensFrom
    {digits : String} (nonempty : digits.toList ≠ []) (allDigits : digits.toList.all Char.isDigit)
    (whole : tokensFrom afterWord (digits.toList ++ rest) = .ok (.number digits :: others)) :
    rest.head? ≠ some '.' := by
  intro point
  obtain ⟨rest, rfl⟩ := List.head?_eq_some_iff.mp point
  have isDigits : ∀ d ∈ digits.toList, d.isDigit = true := List.all_eq_true.mp allDigits
  have different := readNumber_point nonempty isDigits rest
  rw [String.ofList_toList] at different
  cases shape : digits.toList with
  | nil => exact nonempty shape
  | cons d more =>
      rw [shape] at whole different isDigits
      have digit : d.isDigit = true := isDigits d List.mem_cons_self
      obtain ⟨after, read⟩ := tokensFrom_eq_cons (skip?_numeralStart (.inl digit)) whole
      have notPoint : d ≠ '.' := ne_of_class digit rfl
      rw [readToken_numeralStart (.inl digit), readPeriodOrNumber, if_neg (notPoint ·.1)] at read
      exact different (congrArg Prod.fst (Except.ok.inj read))

/-- A period takes digits after it, and before an underscore it needs a word. -/
theorem admits_of_tokensFrom_period
    (whole : tokensFrom afterWord ('.' :: rest) = .ok (.period :: others)) :
    Token.period.Admits afterWord rest := by
  obtain ⟨after, read⟩ := tokensFrom_eq_cons rfl whole
  rw [readToken_point, readPeriodOrNumber] at read
  constructor
  · intro d next
    obtain ⟨rest, rfl⟩ := List.head?_eq_some_iff.mp next
    rw [Bool.eq_false_iff]
    intro digit
    have notUnderscore : d ≠ '_' := ne_of_class digit rfl
    rw [if_neg (by simp [notUnderscore])] at read
    exact readNumber_places digit rest (congrArg Prod.fst (Except.ok.inj read))
  · intro underscore
    rw [if_pos ⟨rfl, underscore⟩] at read
    cases afterWord with
    | true => rfl
    | false => cases read

/-- A token that is read from its text admits what is written after it. -/
theorem admits_of_tokensFrom
    (nonempty : token.text.toList ≠ [])
    (limited : token ≠ .openParen → token ≠ .period → Limited rest)
    (whole : tokensFrom afterWord (token.text.toList ++ rest) = .ok (token :: others)) :
    token.Admits afterWord rest := by
  cases token with
  | openParen => trivial
  | closeParen => trivial
  | comma => trivial
  | word value quoted => exact limited Token.noConfusion Token.noConfusion
  | literal value => exact limited Token.noConfusion Token.noConfusion
  | number digits =>
      refine ⟨limited Token.noConfusion Token.noConfusion, fun allDigits => ?_⟩
      exact noPoint_of_tokensFrom nonempty allDigits whole
  | period => exact admits_of_tokensFrom_period whole
  | other text =>
      have limited := limited Token.noConfusion Token.noConfusion
      exact ⟨limited, fun lone => blank_of_loneMark lone limited whole⟩

/-- Every token of a text is read at some place of it. -/
theorem exists_readToken_of_mem
    {afterWord : Bool} {text : List Char} {ts : List Token} {token : Token}
    (read : tokensFrom afterWord text = .ok ts) (member : token ∈ ts) :
    ∃ afterWord c rest after, rest.length < text.length ∧ skip? c rest = none ∧
      readToken afterWord c rest = .ok (token, after) := by
  fun_induction tokensFrom afterWord text generalizing ts with
  | case1 =>
      cases read
      cases member
  | case2 afterWord c rest after skipped ih =>
      obtain ⟨afterWord, d, later, left, shorter, found⟩ := ih read member
      have := length_of_skip? skipped
      refine ⟨afterWord, d, later, left, ?_, found⟩
      rw [List.length_cons]
      omega
  | case3 => cases read
  | case4 afterWord c rest notSkipped first after found ih =>
      obtain ⟨others, readLater, rfl⟩ := map_eq_ok_iff.mp read
      rcases List.mem_cons.mp member with rfl | later
      · exact ⟨afterWord, c, rest, after, Nat.lt_succ_self _, notSkipped, found⟩
      · obtain ⟨afterWord, d, later, left, shorter, foundLater⟩ := ih readLater later
        have := length_of_readToken found
        refine ⟨afterWord, d, later, left, ?_, foundLater⟩
        rw [List.length_cons]
        omega
  | case5 => cases read

end

end Lexer

/-! ## Neighbours -/

namespace Token

/-- Whether a token that is written before another is read apart from it, when it is known whether
a word ends directly before the first. -/
def Apart (afterWord : Bool) : Token → Token → Prop
  | .number digits, next => digits.toList.all Char.isDigit = true → next ≠ .period
  | .period, next =>
      ∀ c ∈ next.text.toList.head?, c.isDigit = false ∧ (c = '_' → afterWord = true)
  | .other text, next => text ∈ ["#", "@", "@@"] → next ∉ [.closeParen, .comma, .period]
  | _, _ => True

/-- Whether each two neighbours of some tokens are read apart, when it is known whether a word ends
directly before them. -/
def KeptApart (afterWord : Bool) : List Token → Prop
  | [] => True
  | [_] => True
  | token :: next :: rest => token.Apart afterWord next ∧ KeptApart token.isWord (next :: rest)

instance (afterWord : Bool) (token next : Token) : Decidable (token.Apart afterWord next) :=
  match token with
  | .number digits =>
      inferInstanceAs (Decidable (digits.toList.all Char.isDigit = true → next ≠ .period))
  | .period => next.text.toList.head?.decidableForallMem
  | .other text => inferInstanceAs (Decidable
      (text ∈ ["#", "@", "@@"] → next ∉ [.closeParen, .comma, .period]))
  | .word _ _ | .literal _ | .openParen | .closeParen | .comma => isTrue trivial

instance decidableKeptApart (afterWord : Bool) :
    (tokens : List Token) → Decidable (KeptApart afterWord tokens)
  | [] => isTrue trivial
  | [_] => isTrue trivial
  | token :: next :: rest =>
      have : Decidable (KeptApart token.isWord (next :: rest)) :=
        decidableKeptApart token.isWord (next :: rest)
      inferInstanceAs (Decidable (token.Apart afterWord next ∧
        KeptApart token.isWord (next :: rest)))

section

variable {afterWord : Bool} {token next : Token} {rest : List Token}

theorem toList_renderAfter_stuck (sticks : token.sticks next = true) :
    (renderAfter token true (next :: rest)).toList =
      next.text.toList ++ (renderAfter next true rest).toList := by
  simp [renderAfter, sticks]

theorem toList_renderAfter_blank (apart : token.sticks next = false) :
    (renderAfter token true (next :: rest)).toList =
      ' ' :: (next.text.toList ++ (renderAfter next true rest).toList) := by
  simp [renderAfter, apart]

/-- What is written after a token that does not stick to what follows it. -/
theorem limited_renderAfter (notOpening : token ≠ .openParen) (notPeriod : token ≠ .period)
    (tokens : List Token) : Limited (renderAfter token true tokens).toList := by
  cases tokens with
  | nil =>
      intro c next
      cases next
  | cons next rest =>
      cases sticks : token.sticks next with
      | false =>
          rw [toList_renderAfter_blank sticks]
          rintro c ⟨⟩
          rfl
      | true =>
          rw [toList_renderAfter_stuck sticks]
          have closing :
              next = .closeParen ∨ next = .comma ∨ next = .period ∨ next = .openParen := by
            cases token <;> cases next <;> simp_all [Token.sticks]
          rcases closing with rfl | rfl | rfl | rfl
          all_goals
            rintro c ⟨⟩
            rfl

/-- What is written after a token may be written there exactly if the next token is apart. -/
theorem admits_renderAfter_iff (nonempty : next.text.toList ≠ []) :
    token.Admits afterWord (renderAfter token true (next :: rest)).toList ↔
      token.Apart afterWord next := by
  cases token with
  | openParen => exact Iff.rfl
  | closeParen => exact Iff.rfl
  | comma => exact Iff.rfl
  | word value quoted =>
      exact iff_of_true (limited_renderAfter Token.noConfusion Token.noConfusion _) trivial
  | literal value =>
      exact iff_of_true (limited_renderAfter Token.noConfusion Token.noConfusion _) trivial
  | number digits =>
      have limited : Limited (renderAfter (.number digits) true (next :: rest)).toList :=
        limited_renderAfter Token.noConfusion Token.noConfusion _
      have point : (renderAfter (.number digits) true (next :: rest)).toList.head? = some '.' ↔
          next = .period := by
        cases next <;> simp [renderAfter, sticks, Token.text]
      simp only [Admits, Apart, limited, true_and, ne_eq, point]
  | period =>
      cases shape : next.text.toList with
      | nil => exact absurd shape nonempty
      | cons c more =>
          have stuck : (renderAfter .period true (next :: rest)).toList =
              next.text.toList ++ (renderAfter next true rest).toList :=
            toList_renderAfter_stuck rfl
          simp [Admits, Apart, stuck, shape]
  | other text =>
      have limited : Limited (renderAfter (.other text) true (next :: rest)).toList :=
        limited_renderAfter Token.noConfusion Token.noConfusion _
      have blank : (∀ c ∈ (renderAfter (.other text) true (next :: rest)).toList.head?, c = ' ') ↔
          next ∉ [.closeParen, .comma, .period] := by
        cases next <;> simp [renderAfter, sticks, Token.text]
      simp only [Admits, Apart, limited, true_and, blank]

end

/-! ## The readable text -/

section

variable {afterWord : Bool} {token next : Token} {rest : List Char} {others : List Token}

theorem admits_nil (afterWord : Bool) (token : Token) : token.Admits afterWord [] := by
  cases token <;> simp [Admits, Limited]

theorem Rereads.nonempty (rereads : token.Rereads) : token.text.toList ≠ [] := by
  intro empty
  have read := rereads false [] (admits_nil false token)
  rw [empty, List.nil_append, Lexer.tokensFrom, Lexer.tokensFrom] at read
  cases read

theorem tokensFrom_text_iff
    (rereads : token.Rereads) (limited : token ≠ .openParen → token ≠ .period → Limited rest) :
    Lexer.tokensFrom afterWord (token.text.toList ++ rest) = .ok (token :: others) ↔
      token.Admits afterWord rest ∧ Lexer.tokensFrom token.isWord rest = .ok others := by
  constructor
  · intro whole
    have admits := Lexer.admits_of_tokensFrom rereads.nonempty limited whole
    rw [rereads afterWord rest admits] at whole
    obtain ⟨later, read, same⟩ := map_eq_ok_iff.mp whole
    cases same
    exact ⟨admits, read⟩
  · rintro ⟨admits, read⟩
    rw [rereads afterWord rest admits, read]
    rfl

/-- Only for a period it matters whether a word ends directly before it. -/
theorem keptApart_congr
    (notPeriod : next ≠ .period) (left right : Bool) :
    KeptApart left (next :: others) ↔ KeptApart right (next :: others) := by
  cases others with
  | nil => exact Iff.rfl
  | cons second others => cases next <;> simp_all [KeptApart, Apart]

/-- By induction on the tokens after the first one: what is written next decides whether the first
is read as it was, and what is read after it are then the others. -/
theorem tokensFrom_renderAfter
    {tokens : List Token} (rereads : ∀ other ∈ token :: tokens, other.Rereads) :
    Lexer.tokensFrom afterWord (token.text.toList ++ (renderAfter token true tokens).toList) =
      .ok (token :: tokens) ↔ KeptApart afterWord (token :: tokens) := by
  induction tokens generalizing token afterWord with
  | nil =>
      obtain ⟨first, -⟩ := List.forall_mem_cons.mp rereads
      have read := first afterWord [] (admits_nil afterWord token)
      rw [Lexer.tokensFrom.eq_1] at read
      exact iff_of_true read trivial
  | cons next rest ih =>
      obtain ⟨first, later⟩ := List.forall_mem_cons.mp rereads
      rw [tokensFrom_text_iff first fun notOpening notPeriod =>
        limited_renderAfter notOpening notPeriod _, KeptApart]
      apply and_congr (admits_renderAfter_iff (later next List.mem_cons_self).nonempty)
      cases sticks : token.sticks next with
      | true => rw [toList_renderAfter_stuck sticks, ih later]
      | false =>
          have notPeriod : next ≠ .period := by
            rintro rfl
            cases token <;> cases sticks
          rw [toList_renderAfter_blank sticks, Lexer.tokensFrom_skip rfl, ih later,
            keptApart_congr notPeriod]

theorem tokens_render_iff
    {tokens : List Token} (rereads : ∀ token ∈ tokens, token.Rereads) :
    Sql.tokens (render tokens) = .ok tokens ↔ KeptApart false tokens := by
  cases tokens with
  | nil => exact iff_of_true (Lexer.tokensFrom.eq_1 false) trivial
  | cons token rest =>
      have written : (!token.text.isEmpty) = true := by
        simpa [String.isEmpty_iff, ← String.toList_eq_nil_iff] using
          (rereads token List.mem_cons_self).nonempty
      rw [Sql.tokens, render, written, String.toList_append, tokensFrom_renderAfter rereads]

end

end Token

/-! ## Statements, rendered and read again -/

theorem rereads_of_tokens
    {sql : String} {ts : List Token} {token : Token} (read : tokens sql = .ok ts)
    (member : token ∈ ts) (verbatim : token.IsVerbatim) : token.Rereads := by
  obtain ⟨_, c, rest, after, -, notSkipped, found⟩ := Lexer.exists_readToken_of_mem read member
  have notBlank : Text.isBlank c = false := (Lexer.skip?_eq_none_iff.mp notSkipped).1
  exact Lexer.rereads_of_readsToken notBlank (Lexer.readsToken_of_readToken found) verbatim

theorem Token.Rereads.alone {token : Token} (rereads : token.Rereads) :
    tokens token.text = .ok [token] := by
  have read := rereads false [] (admits_nil false token)
  rwa [List.append_nil, Lexer.tokensFrom.eq_1 token.isWord] at read

theorem isVerbatim_of_alone {token : Token} (alone : tokens token.text = .ok [token]) :
    token.IsVerbatim := by
  obtain ⟨_, c, rest, after, shorter, -, found⟩ :=
    Lexer.exists_readToken_of_mem alone List.mem_cons_self
  by_contra escaped
  have longer := Lexer.length_le_of_readsToken (Lexer.readsToken_of_readToken found) escaped
  omega

/-- The tokens that are read again from their own texts are those that were neither words in quotes
nor literals after a letter with a mark or a backslash to be escaped; and where all are of that
kind, they are read again from their readable text exactly if its blanks keep them apart. -/
theorem rendered_tokens_read_again
    {sql : String} {ts : List Token} (read : tokens sql = .ok ts) :
    (∀ token ∈ ts, tokens token.text = .ok [token] ↔ token.IsVerbatim) ∧
      ((∀ token ∈ ts, token.IsVerbatim) →
        (tokens (Token.render ts) = .ok ts ↔ Token.KeptApart false ts)) := by
  constructor
  · intro token member
    exact ⟨isVerbatim_of_alone, fun verbatim => (rereads_of_tokens read member verbatim).alone⟩
  · intro verbatim
    exact Token.tokens_render_iff fun token member =>
      rereads_of_tokens read member (verbatim token member)

/-- A condition with a call, an operator and a literal is read again from its readable text. -/
theorem rendered_tokens_read_again_condition :
    ∃ ts, tokens "price > 0 AND lower(name) <> 'x'" = .ok ts ∧
      tokens (Token.render ts) = .ok ts := by
  have read : tokens "price > 0 AND lower(name) <> 'x'" =
      .ok [.word "price" false, .other ">", .number "0", .word "AND" false, .word "lower" false,
        .openParen, .word "name" false, .closeParen, .other "<>", .literal "x"] := by
    decide +kernel
  refine ⟨_, read, ?_⟩
  apply ((rendered_tokens_read_again read).2 _).mpr
  · decide +kernel
  · decide +kernel

/-- The name of a column that was in quotes is rendered without them, and read as two words. -/
theorem quoted_name_rendered_bare :
    ∃ ts, tokens "\"a b\" > 0" = .ok ts ∧ Token.render ts = "a b > 0" ∧
      tokens (Token.render ts) ≠ .ok ts := by
  refine ⟨[.word "a b" true, .other ">", .number "0"], ?_⟩
  decide +kernel

end SchemaDesign.Sql
