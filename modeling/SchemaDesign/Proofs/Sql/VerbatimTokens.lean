import SchemaDesign.Proofs.Sql.PrefixedLiterals

/-!
# Tokens that are not verbatim

What a token can be read from.  If it is not verbatim, then it is shorter than what it was read
from: the marks around a word have gone, or a mark or a backslash inside a literal was written with
another character before it.
-/

namespace SchemaDesign.Sql

namespace Lexer

open Token

section

variable {afterWord : Bool} {c mark : Char} {text inner rest after : List Char} {token : Token}

/-! ## What is read as a token -/

/-- A token is read, which leaves a text after it: what the first character is, and what is read. -/
inductive ReadsToken (afterWord : Bool) (c : Char) (rest : List Char) :
    Token → List Char → Prop where
  | prefixed {token : Token} {after : List Char} :
      prefixed? c rest = some (.ok (token, after)) → ReadsToken afterWord c rest token after
  | literal {value after : List Char} :
      c = '\'' → readQuoted? c rest = some (value, after) →
        ReadsToken afterWord c rest (.literal (String.ofList value)) after
  | quotedWord {value after : List Char} :
      opensWord c = true → readQuoted? c rest = some (value, after) →
        ReadsToken afterWord c rest (.word (String.ofList value) true) after
  | number {token : Token} {after : List Char} :
      readPeriodOrNumber afterWord c rest = .ok (token, after) →
        ReadsToken afterWord c rest token after
  | openParen : c = '(' → ReadsToken afterWord c rest .openParen rest
  | closeParen : c = ')' → ReadsToken afterWord c rest .closeParen rest
  | comma : c = ',' → ReadsToken afterWord c rest .comma rest
  | dollar {token : Token} {after : List Char} :
      c = '$' → readDollar rest = .ok (token, after) → ReadsToken afterWord c rest token after
  | question : c = '?' → ReadsToken afterWord c rest
      (otherToken [['?'], rest.takeWhile Text.isNumeral]) (rest.dropWhile Text.isNumeral)
  | numberSign {token : Token} {after : List Char} :
      c = '#' → readNumberSign rest = (token, after) → ReadsToken afterWord c rest token after
  | atSign {token : Token} {after : List Char} :
      c = '@' → readAtSign rest = (token, after) → ReadsToken afterWord c rest token after
  | word : (Text.isAlphabetic c || c == '_') = true → ReadsToken afterWord c rest
      (.word (String.ofList (c :: rest.takeWhile isWordPart)) false) (rest.dropWhile isWordPart)
  | operator {token : Token} {after : List Char} :
      startsOperator c = true → readOperator c rest = (token, after) →
        ReadsToken afterWord c rest token after

theorem readsToken_of_readToken (read : readToken afterWord c rest = .ok (token, after)) :
    ReadsToken afterWord c rest token after := by
  unfold readToken at read
  cases found : prefixed? c rest with
  | some reading =>
      rw [found] at read
      exact .prefixed (found.trans (congrArg some read))
  | none =>
      simp only [found] at read
      by_cases single : c = '\''
      · rw [if_pos single] at read
        obtain ⟨⟨value, left⟩, closed, same⟩ := map_eq_ok_iff.mp read
        cases same
        subst single
        exact .literal rfl (closedOr_eq_ok closed)
      rw [if_neg single] at read
      by_cases opens : opensWord c = true
      · rw [if_pos opens] at read
        obtain ⟨⟨value, left⟩, closed, same⟩ := map_eq_ok_iff.mp read
        cases same
        exact .quotedWord opens (closedOr_eq_ok closed)
      rw [if_neg opens] at read
      by_cases number : (c.isDigit || c == '.') = true
      · rw [if_pos number] at read
        exact .number read
      rw [if_neg number] at read
      by_cases opening : c = '('
      · rw [if_pos opening] at read
        cases read
        exact .openParen opening
      rw [if_neg opening] at read
      by_cases closing : c = ')'
      · rw [if_pos closing] at read
        cases read
        exact .closeParen closing
      rw [if_neg closing] at read
      by_cases comma : c = ','
      · rw [if_pos comma] at read
        cases read
        exact .comma comma
      rw [if_neg comma] at read
      by_cases dollar : c = '$'
      · rw [if_pos dollar] at read
        exact .dollar dollar read
      rw [if_neg dollar] at read
      by_cases question : c = '?'
      · rw [if_pos question] at read
        cases read
        exact .question question
      rw [if_neg question] at read
      by_cases numberSign : c = '#'
      · rw [if_pos numberSign] at read
        exact .numberSign numberSign (Except.ok.inj read)
      rw [if_neg numberSign] at read
      by_cases atSign : c = '@'
      · rw [if_pos atSign] at read
        exact .atSign atSign (Except.ok.inj read)
      rw [if_neg atSign] at read
      by_cases word : isWordStart c = true
      · rw [if_pos word] at read
        cases read
        exact .word (by simpa [isWordStart, numberSign, atSign] using word)
      rw [if_neg word] at read
      simp only [Bool.or_eq_true, beq_iff_eq, not_or] at number
      have starts : startsOperator c = true := by
        simp [startsOperator, single, opens, number, opening, closing, comma, dollar, question,
          word]
      exact .operator starts (Except.ok.inj read)

/-! ## What is written otherwise takes more room -/

/-- Each mark inside a quotation was written twice. -/
theorem length_add_count_of_readQuoted? (read : readQuoted? mark text = some (inner, after)) :
    inner.length + inner.count mark + 1 + after.length = text.length := by
  fun_induction readQuoted? mark text generalizing inner with
  | case1 => cases read
  | case2 =>
      cases read
      rfl
  | case3 text ih =>
      obtain ⟨⟨later, left⟩, found, same⟩ := Option.map_eq_some_iff.mp read
      cases same
      have := ih found
      simp only [List.length_cons, List.count_cons_self]
      omega
  | case4 =>
      cases read
      simp only [List.length_nil, List.count_nil, List.length_cons]
      omega
  | case5 d text different ih =>
      obtain ⟨⟨later, left⟩, found, same⟩ := Option.map_eq_some_iff.mp read
      cases same
      have := ih found
      simp only [List.length_cons, List.count_cons_of_ne different]
      omega

/-- Whether a character is written with another one before it in a literal with escapes. -/
def isEscaped (c : Char) : Bool :=
  c == '\'' || c == '\\'

/-- The room that a text takes up to its closing mark and with what follows it, when there is one
more character before each that is escaped. -/
def room (inner after : List Char) : Nat :=
  inner.length + inner.countP isEscaped + 1 + after.length

theorem room_nil (after : List Char) : room [] after = after.length + 1 := by
  simp [room, Nat.add_comm]

theorem room_cons_le (c : Char) (inner after : List Char) :
    room (c :: inner) after ≤ room inner after + 2 := by
  simp only [room, List.length_cons, List.countP_cons]
  split
  all_goals omega

theorem room_cons_plain
    (noMark : c ≠ '\'') (noBackslash : c ≠ '\\') (inner after : List Char) :
    room (c :: inner) after = room inner after + 1 := by
  have plain : ¬isEscaped c = true := by simp [isEscaped, noMark, noBackslash]
  simp only [room, List.length_cons, List.countP_cons_of_neg plain]
  omega

theorem length_of_readCode_add
    {value count : Nat} (found : readCode value count text = .ok (c, after)) :
    after.length + count ≤ text.length := by
  induction count generalizing value text with
  | zero => exact length_of_readCode found
  | succ count ih =>
      cases text with
      | nil => cases found
      | cons d text =>
          rw [readCode] at found
          split at found
          · have := ih found
            rw [List.length_cons]
            omega
          · cases found

theorem room_of_readBackslashed? (read : readBackslashed? text = some (inner, after)) :
    room inner after ≤ text.length := by
  fun_induction readBackslashed? text generalizing inner with
  | case1 => cases read
  | case2 text ih =>
      obtain ⟨⟨later, left⟩, found, same⟩ := Option.map_eq_some_iff.mp read
      cases same
      have := ih found
      have := room_cons_le '\'' later after
      simp only [List.length_cons]
      omega
  | case3 =>
      cases read
      rw [room_nil, List.length_cons]
  | case4 => cases read
  | case5 d text ih =>
      obtain ⟨⟨later, left⟩, found, same⟩ := Option.map_eq_some_iff.mp read
      cases same
      have := ih found
      have := room_cons_le (controlFor d) later after
      simp only [List.length_cons]
      omega
  | case6 d text _ noMark atEnd beforeEnd ih =>
      obtain ⟨⟨later, left⟩, found, same⟩ := Option.map_eq_some_iff.mp read
      cases same
      have := ih found
      have noBackslash : d ≠ '\\' := by
        intro same
        cases text with
        | nil => exact atEnd same rfl
        | cons e text => exact beforeEnd e text same rfl
      have := room_cons_plain noMark noBackslash later after
      simp only [List.length_cons]
      omega

theorem room_of_readEscaped? (read : readEscaped? text = some (inner, after)) :
    room inner after ≤ text.length := by
  fun_induction readEscaped? text generalizing inner with
  | case1 => cases read
  | case2 text ih =>
      obtain ⟨⟨later, left⟩, found, same⟩ := Option.map_eq_some_iff.mp read
      cases same
      have := ih found
      have := room_cons_le '\'' later after
      simp only [List.length_cons]
      omega
  | case3 =>
      cases read
      rw [room_nil, List.length_cons]
  | case4 => cases read
  | case5 => cases read
  | case6 text d escaped escape _ ih =>
      obtain ⟨⟨later, left⟩, found, same⟩ := Option.map_eq_some_iff.mp read
      cases same
      have := ih found
      have := length_of_readEscape? escape
      have := room_cons_le d later after
      simp only [List.length_cons]
      omega
  | case7 d text _ noMark noBackslash ih =>
      obtain ⟨⟨later, left⟩, found, same⟩ := Option.map_eq_some_iff.mp read
      cases same
      have := ih found
      have := room_cons_plain noMark noBackslash later after
      simp only [List.length_cons]
      omega

theorem room_of_readUnicode (read : readUnicode text = .ok (inner, after)) :
    room inner after ≤ text.length := by
  fun_induction readUnicode text generalizing inner with
  | case1 => cases read
  | case2 text ih =>
      obtain ⟨⟨later, left⟩, found, same⟩ := map_eq_ok_iff.mp read
      cases same
      have := ih found
      have := room_cons_le '\'' later after
      simp only [List.length_cons]
      omega
  | case3 =>
      cases read
      rw [room_nil, List.length_cons]
  | case4 text ih =>
      obtain ⟨⟨later, left⟩, found, same⟩ := map_eq_ok_iff.mp read
      cases same
      have := ih found
      have := room_cons_le '\\' later after
      simp only [List.length_cons]
      omega
  | case5 => cases read
  | case6 digits d coded code ih =>
      obtain ⟨⟨later, left⟩, found, same⟩ := map_eq_ok_iff.mp read
      cases same
      have := ih found
      have := length_of_readCode_add code
      have := room_cons_le d later after
      simp only [List.length_cons]
      omega
  | case7 => cases read
  | case8 digits _ _ d coded code ih =>
      obtain ⟨⟨later, left⟩, found, same⟩ := map_eq_ok_iff.mp read
      cases same
      have := ih found
      have := length_of_readCode_add code
      have := room_cons_le d later after
      simp only [List.length_cons]
      omega
  | case9 d text _ noMark _ _ noBackslash ih =>
      obtain ⟨⟨later, left⟩, found, same⟩ := map_eq_ok_iff.mp read
      cases same
      have := ih found
      have := room_cons_plain noMark noBackslash later after
      simp only [List.length_cons]
      omega

theorem countP_isEscaped_pos
    {inner : List Char} (escaped : ¬∀ d ∈ inner, d ≠ '\'' ∧ d ≠ '\\') :
    0 < inner.countP isEscaped := by
  rw [List.countP_pos_iff]
  simpa [isEscaped, or_iff_not_imp_left] using escaped

theorem length_text_shown (letter mark : Char) (before inner : List Char) :
    (otherToken [letter :: before, [mark], inner, [mark]]).text.toList.length =
      before.length + inner.length + 3 := by
  rw [otherToken, Token.text, String.toList_ofList]
  simp only [List.flatten_cons, List.flatten_nil, List.length_append, List.length_cons,
    List.length_nil]
  omega

/-- A literal that would be read otherwise than it stands is shorter than what it was read from. -/
theorem length_le_of_readsPrefixed
    (reads : ReadsPrefixed rest token after) (escaped : ¬token.IsVerbatim) :
    token.text.toList.length ≤ rest.length := by
  cases reads with
  | @quotation letter mark text inner _ letters quote read =>
      have length := length_add_count_of_readQuoted? read
      rw [isVerbatim_quotation_iff letters (quote.imp_right And.right), not_not] at escaped
      have := List.count_pos_iff.mpr escaped
      rw [length_text_shown, List.length_nil, List.length_cons]
      omega
  | @raw mark text marks inner _ quote read =>
      rcases readRaw_eq_ok read with ⟨rfl, -⟩ | ⟨rfl, single⟩
      · exact absurd isVerbatim_tripled escaped
      · rw [isVerbatim_raw_iff quote single, not_not] at escaped
        have := List.count_pos_iff.mpr escaped
        rcases single with rfl | ⟨-, read⟩
        · cases escaped
        · have length := length_add_count_of_readQuoted? read
          rw [length_text_shown, List.length_nil, List.length_cons]
          omega
  | bytes read =>
      have roomLe := room_of_readBackslashed? read
      rw [isVerbatim_escaped_iff (by decide) (by decide) (by decide)] at escaped
      have := countP_isEscaped_pos escaped
      rw [length_text_shown, List.length_nil, List.length_cons]
      rw [room] at roomLe
      omega
  | escaped read =>
      have roomLe := room_of_readEscaped? read
      rw [isVerbatim_escaped_iff (by decide) (by decide) (by decide)] at escaped
      have := countP_isEscaped_pos escaped
      rw [length_text_shown, List.length_nil, List.length_cons]
      rw [room] at roomLe
      omega
  | unicode read =>
      have roomLe := room_of_readUnicode read
      rw [isVerbatim_escaped_iff (by decide) (by decide) (by decide)] at escaped
      have := countP_isEscaped_pos escaped
      rw [length_text_shown, List.length_singleton, List.length_cons, List.length_cons]
      rw [room] at roomLe
      omega

/-! ## Which tokens are verbatim -/

theorem isVerbatim_other
    {text : String} (noLetter : text.toList.head?.any Char.isAlpha = false) :
    (Token.other text).IsVerbatim := by
  intro letter first isLetter
  rw [Option.mem_def.mp first] at noLetter
  cases isLetter.symm.trans noLetter

theorem isVerbatim_otherToken
    {parts : List (List Char)} (noLetter : parts.flatten.head?.any Char.isAlpha = false) :
    (otherToken parts).IsVerbatim :=
  isVerbatim_other (by rwa [String.toList_ofList])

theorem isVerbatim_of_readDollar (read : readDollar rest = .ok (token, after)) :
    token.IsVerbatim := by
  have between {mark text : List Char} {fault : LexFault}
      (read : readBetween ('$' :: mark) fault text = .ok (token, after)) : token.IsVerbatim := by
    rw [readBetween] at read
    split at read
    · cases read
      exact isVerbatim_otherToken rfl
    · cases read
  rw [readDollar] at read
  split at read
  · split at read
    · exact between read
    · exact between read
  · cases read
    exact isVerbatim_otherToken rfl

theorem isVerbatim_readNumberSign (text : List Char) : (readNumberSign text).1.IsVerbatim := by
  cases text with
  | nil => exact isVerbatim_other rfl
  | cons c rest =>
      rw [readNumberSign]
      split_ifs
      · exact isVerbatim_other rfl
      · exact isVerbatim_other rfl
      · exact isVerbatim_other rfl
      · exact isVerbatim_other rfl
      · rfl

theorem isVerbatim_readTwoAtSigns (text : List Char) : (readTwoAtSigns text).1.IsVerbatim := by
  cases text with
  | nil => exact isVerbatim_other rfl
  | cons c rest =>
      rw [readTwoAtSigns]
      split_ifs
      · exact isVerbatim_other rfl
      · rfl

theorem isVerbatim_readAtSign (text : List Char) : (readAtSign text).1.IsVerbatim := by
  cases text with
  | nil => exact isVerbatim_other rfl
  | cons c rest =>
      rw [readAtSign]
      split_ifs
      · exact isVerbatim_other rfl
      · exact isVerbatim_other rfl
      · exact isVerbatim_readTwoAtSigns rest
      · exact isVerbatim_other rfl
      · rfl

theorem isVerbatim_readOperator
    (starts : startsOperator c = true) (rest : List Char) : (readOperator c rest).1.IsVerbatim := by
  have noLetter {d : Char} (starts : startsOperator d = true) : d.isAlpha = false := by
    simp only [startsOperator, isWordStart, Bool.not_eq_true', Bool.or_eq_false_iff] at starts
    rw [Bool.eq_false_iff]
    intro letter
    have alphabetic := Text.isAlphabetic_of_isAlpha d letter
    cases alphabetic.symm.trans starts.1.2.1.1.1
  rw [readOperator]
  split
  · next found =>
      obtain ⟨operator, listed, same⟩ := exists_of_findOperator? found
      rw [same]
      intro letter first isLetter
      have facts := operators_start _ (operatorText_listed operator listed).1 letter first
      cases isLetter.symm.trans (noLetter facts.1)
  · apply isVerbatim_other
    rw [String.toList_singleton]
    exact noLetter starts

theorem isVerbatim_readNumber (text : List Char) : (readNumber text).1.IsVerbatim := by
  rw [readNumber]
  simp only
  split_ifs
  · apply (isVerbatim_escaped_iff (by decide) List.not_mem_nil List.not_mem_nil).mpr
    exact plain_of_isHexDigit (forall_mem_takeWhile _)
  · trivial
  · trivial

theorem isVerbatim_of_readPeriodOrNumber
    (read : readPeriodOrNumber afterWord c rest = .ok (token, after)) : token.IsVerbatim := by
  rw [readPeriodOrNumber] at read
  split at read
  · split at read
    · cases read
      trivial
    · cases read
  · have verbatim := isVerbatim_readNumber (c :: rest)
    rwa [Except.ok.inj read] at verbatim

/-- A token that would be read otherwise than it stands is shorter than what it was read from. -/
theorem length_le_of_readsToken
    (reads : ReadsToken afterWord c rest token after) (escaped : ¬token.IsVerbatim) :
    token.text.toList.length ≤ rest.length := by
  cases reads with
  | prefixed found =>
      exact length_le_of_readsPrefixed (readsPrefixed_of_prefixed? found) escaped
  | literal _ _ => exact absurd trivial escaped
  | quotedWord _ read =>
      have length := length_add_count_of_readQuoted? read
      rw [Token.text, String.toList_ofList]
      omega
  | number read => exact absurd (isVerbatim_of_readPeriodOrNumber read) escaped
  | openParen _ => exact absurd trivial escaped
  | closeParen _ => exact absurd trivial escaped
  | comma _ => exact absurd trivial escaped
  | dollar _ read => exact absurd (isVerbatim_of_readDollar read) escaped
  | question _ => exact absurd (isVerbatim_otherToken rfl) escaped
  | numberSign _ read =>
      have verbatim := isVerbatim_readNumberSign rest
      rw [read] at verbatim
      exact absurd verbatim escaped
  | atSign _ read =>
      have verbatim := isVerbatim_readAtSign rest
      rw [read] at verbatim
      exact absurd verbatim escaped
  | word _ => exact absurd rfl escaped
  | operator starts read =>
      have verbatim := isVerbatim_readOperator starts rest
      rw [read] at verbatim
      exact absurd verbatim escaped

end

end Lexer

end SchemaDesign.Sql
