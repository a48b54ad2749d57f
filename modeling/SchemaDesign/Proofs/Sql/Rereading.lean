import SchemaDesign.Proofs.Sql.Pieces
import SchemaDesign.Proofs.Sql.Writing

/-!
# Tokens read again from their texts

The text of a token is read as that token again, and no further, if what is written after it does
not continue it.  That is so for every token of a text except words that were in quotes, which lose
them, and literals after a letter whose marks or backslashes would have to be written twice.
-/

namespace SchemaDesign.Sql

/-! ## What stands after a token -/

/-- Whether a character is written after a token. -/
def isLimit (c : Char) : Bool :=
  c == ' ' || c == '(' || c == ')' || c == ',' || c == '.'

/-- A text that is empty or begins with a character that is written after a token. -/
def Limited (rest : List Char) : Prop :=
  ∀ c ∈ rest.head?, isLimit c = true

section

variable {rest : List Char}

theorem Limited.outside
    (limited : Limited rest) {isMember : Char → Bool}
    (outside : [' ', '(', ')', ',', '.'].any isMember = false) :
    ∀ c ∈ rest.head?, isMember c = false := by
  intro c next
  have limit : c ∈ [' ', '(', ')', ',', '.'] := by
    simpa [isLimit, or_assoc] using limited c next
  simpa using List.any_eq_false.mp outside c limit

theorem Limited.head?_ne
    (limited : Limited rest) {mark : Char} (outside : isLimit mark = false) :
    rest.head? ≠ some mark := by
  intro next
  cases outside.symm.trans (limited mark next)

theorem Limited.ne_mark
    (limited : Limited rest) : ∀ mark ∈ rest.head?, mark ≠ '\'' ∧ mark ≠ '"' ∧ mark ≠ '&' := by
  intro mark next
  have different (other : Char) (outside : isLimit other = false) : mark ≠ other :=
    fun same => limited.head?_ne outside (same ▸ next)
  exact ⟨different _ rfl, different _ rfl, different _ rfl⟩

theorem Limited.afterStart?_eq_none
    (limited : Limited rest) {part text : List Char} (solid : ∀ d ∈ part, isLimit d = false)
    (apart : ¬part <+: text) : Text.afterStart? part (text ++ rest) = none := by
  cases found : Text.afterStart? part (text ++ rest) with
  | none => rfl
  | some after =>
      rcases List.append_eq_append_iff.mp (Text.eq_append_of_afterStart? found) with
        ⟨more, rfl, split⟩ | ⟨more, rfl, -⟩
      · cases more with
        | nil => exact absurd (by simp) apart
        | cons d more =>
            have limit : isLimit d = true := limited d (by rw [split]; rfl)
            cases limit.symm.trans (solid d (by simp))
      · exact absurd (List.prefix_append _ _) apart

end

namespace Token

/-- Whether a text may be written after a token, when it is known whether a word ends directly
before the token. -/
def Admits (afterWord : Bool) : Token → List Char → Prop
  | .word _ _, rest => Limited rest
  | .literal _, rest => Limited rest
  | .number digits, rest =>
      Limited rest ∧ (digits.toList.all Char.isDigit = true → rest.head? ≠ some '.')
  | .period, rest =>
      (∀ c ∈ rest.head?, c.isDigit = false) ∧ (rest.head? = some '_' → afterWord = true)
  | .other text, rest =>
      Limited rest ∧ (text ∈ ["#", "@", "@@"] → ∀ c ∈ rest.head?, c = ' ')
  | _, _ => True

/-- A token is read from its text, whatever may be written after it. -/
def Rereads (token : Token) : Prop :=
  ∀ (afterWord : Bool) (rest : List Char), token.Admits afterWord rest →
    Lexer.tokensFrom afterWord (token.text.toList ++ rest) =
      (Lexer.tokensFrom token.isWord rest).map (token :: ·)

end Token

namespace Lexer

open Token

section

variable {afterWord : Bool} {c : Char} {more rest after : List Char} {token : Token}

theorem skip?_eq_none_iff :
    skip? c rest = none ↔ Text.isBlank c = false ∧ ¬(c = '-' ∧ rest.head? = some '-') ∧
      ¬(c = '/' ∧ rest.head? = some '*') := by
  rw [skip?]
  split
  · next blank => simp [blank]
  split
  · next line => simp [line]
  split
  · next block => split <;> simp [block]
  · next solid noLine noBlock => simp [solid, noLine, noBlock]

theorem tokensFrom_text
    (text : token.text.toList = c :: more) (notSkipped : skip? c (more ++ rest) = none)
    (read : readToken afterWord c (more ++ rest) = .ok (token, rest)) :
    tokensFrom afterWord (token.text.toList ++ rest) =
      (tokensFrom token.isWord rest).map (token :: ·) := by
  rw [text, List.cons_append, tokensFrom_read notSkipped read]

/-! ## Parentheses, commas and periods -/

theorem rereads_openParen : Rereads .openParen := by
  intro afterWord rest _
  have text : Token.openParen.text.toList = ['('] := rfl
  exact tokensFrom_text text rfl readToken_openParen

theorem rereads_closeParen : Rereads .closeParen := by
  intro afterWord rest _
  have text : Token.closeParen.text.toList = [')'] := rfl
  exact tokensFrom_text text rfl readToken_closeParen

theorem rereads_comma : Rereads .comma := by
  intro afterWord rest _
  have text : Token.comma.text.toList = [','] := rfl
  exact tokensFrom_text text rfl readToken_comma

theorem readToken_point :
    readToken afterWord '.' rest = readPeriodOrNumber afterWord '.' rest := by
  unfold readToken
  rw [prefixed?_eq_none_of_toUpper (by decide)]
  rfl

theorem readPeriodOrNumber_period
    (noDigit : ∀ d ∈ rest.head?, d.isDigit = false)
    (word : rest.head? = some '_' → afterWord = true) :
    readPeriodOrNumber afterWord '.' rest = .ok (.period, rest) := by
  rw [readPeriodOrNumber]
  split
  · next underscore => rw [if_pos (word underscore.2)]
  · obtain ⟨noPlaces, after⟩ : rest.takeWhile Char.isDigit = [] ∧ rest.dropWhile Char.isDigit =
        rest := takeWhile_ended (fun _ member => absurd member List.not_mem_nil) noDigit
    have noWhole : ('.' :: rest).takeWhile Char.isDigit = [] ∧
        ('.' :: rest).dropWhile Char.isDigit = '.' :: rest := ⟨rfl, rfl⟩
    simp [readNumber, readMark, noPlaces, after, noWhole]

theorem rereads_period : Rereads .period := by
  rintro afterWord rest ⟨noDigit, word⟩
  have text : Token.period.text.toList = ['.'] := rfl
  apply tokensFrom_text text rfl
  rw [List.nil_append, readToken_point, readPeriodOrNumber_period noDigit word]

/-! ## Words and literals -/

theorem rereads_word
    (starts : (Text.isAlphabetic c || c == '_') = true) (notBlank : Text.isBlank c = false)
    (parts : ∀ d ∈ more, isWordPart d = true) :
    Rereads (.word (String.ofList (c :: more)) false) := by
  intro afterWord rest limited
  have text : (Token.word (String.ofList (c :: more)) false).text.toList = c :: more :=
    String.toList_ofList
  have outside : ['-', '/'].any (fun c => Text.isAlphabetic c || c == '_') = false := rfl
  have different := ne_of_class_all starts outside
  simp only [List.forall_mem_cons] at different
  apply tokensFrom_text text
  · exact skip?_eq_none notBlank different.1 different.2.1
  · exact readToken_wordStart starts parts (limited.outside rfl) limited.ne_mark

theorem rereads_literal (value : String) : Rereads (.literal value) := by
  intro afterWord rest limited
  have text : (Token.literal value).text.toList = quotedText '\'' value.toList :=
    Writes.toList_quotedLiteral value
  apply tokensFrom_text text rfl
  rw [← String.ofList_toList (s := value)]
  simpa using readToken_literal value.toList (limited.head?_ne rfl)

/-! ## Words and operators after a mark -/

theorem readWord_ended
    (start : List Char) (parts : ∀ d ∈ more, isWordPart d = true) (limited : Limited rest) :
    readWord start (more ++ rest) = (.word (String.ofList (start ++ more)) false, rest) := by
  obtain ⟨run, ended⟩ := takeWhile_ended parts (limited.outside rfl)
  rw [readWord, run, ended]

theorem readToken_numberSign : readToken afterWord '#' rest = .ok (readNumberSign rest) := by
  unfold readToken
  rw [prefixed?_eq_none_of_toUpper (by decide)]
  rfl

theorem readToken_atSign : readToken afterWord '@' rest = .ok (readAtSign rest) := by
  unfold readToken
  rw [prefixed?_eq_none_of_toUpper (by decide)]
  rfl

/-- A word that begins with a mark is read again if the mark is followed by what makes it one. -/
theorem rereads_markedWord
    {start : List Char} (notSkipped : ∀ text, skip? c (start ++ text) = none)
    (reads : ∀ afterWord text,
      readToken afterWord c (start ++ text) = .ok (readWord (c :: start) text)) (text : List Char) :
    Rereads (readWord (c :: start) text).1 := by
  intro afterWord rest limited
  have shape : (readWord (c :: start) text).1.text.toList =
      c :: (start ++ text.takeWhile isWordPart) := by
    simp [readWord, Token.text]
  apply tokensFrom_text shape
  · rw [List.append_assoc]
    exact notSkipped _
  · rw [List.append_assoc, reads, readWord_ended _ (forall_mem_takeWhile text) limited]
    rfl

/-- A mark that stands alone is read again before a blank and at the end. -/
theorem rereads_loneMark
    {mark : String} (c : Char) (more : List Char) (shape : mark.toList = c :: more)
    (listed : mark ∈ ["#", "@", "@@"])
    (notSkipped : ∀ text, skip? c (more ++ text) = none)
    (atEnd : ∀ afterWord, readToken afterWord c more = .ok (.other mark, []))
    (beforeBlank : ∀ afterWord text,
      readToken afterWord c (more ++ ' ' :: text) = .ok (.other mark, ' ' :: text)) :
    Rereads (.other mark) := by
  rintro afterWord rest ⟨-, blank⟩
  have text : (Token.other mark).text.toList = c :: more := shape
  apply tokensFrom_text text (notSkipped rest)
  cases rest with
  | nil =>
      rw [List.append_nil]
      exact atEnd afterWord
  | cons d rest =>
      cases blank listed d rfl
      exact beforeBlank afterWord rest

/-- An operator is read again where nothing that is written after it changes what is read. -/
theorem rereads_operator
    {operator : String} (c : Char) (more : List Char) (shape : operator.toList = c :: more)
    (notSkipped : ∀ rest, Limited rest → skip? c (more ++ rest) = none)
    (reads : ∀ afterWord rest, Limited rest →
      readToken afterWord c (more ++ rest) = .ok (.other operator, rest)) :
    Rereads (.other operator) := by
  rintro afterWord rest ⟨limited, -⟩
  have text : (Token.other operator).text.toList = c :: more := shape
  exact tokensFrom_text text (notSkipped rest limited) (reads afterWord rest limited)

theorem rereads_of_readNumberSign (read : readNumberSign rest = (token, after)) :
    Rereads token := by
  have alone : Rereads (.other "#") := by
    apply rereads_loneMark '#' [] rfl (by decide) (fun _ => rfl)
    · exact fun _ => readToken_numberSign
    · exact fun _ _ => readToken_numberSign
  cases rest with
  | nil =>
      cases read
      exact alone
  | cons c rest =>
      rw [readNumberSign] at read
      split at read
      · cases read
        apply rereads_operator '#' ['-'] rfl (fun _ _ => rfl)
        exact fun _ _ _ => readToken_numberSign
      split at read
      · split at read
        · cases read
          apply rereads_operator '#' ['>', '>'] rfl (fun _ _ => rfl)
          exact fun _ _ _ => readToken_numberSign
        · cases read
          apply rereads_operator '#' ['>'] rfl (fun _ _ => rfl)
          intro afterWord rest limited
          have notSecond : rest.head? ≠ some '>' := limited.head?_ne rfl
          rw [List.cons_append, List.nil_append, readToken_numberSign]
          simp [readNumberSign, notSecond]
      split at read
      · cases read
        exact alone
      · next noDash noAngle noBlank =>
          have whole : token = (readWord ['#', c] rest).1 := (congrArg Prod.fst read).symm
          rw [whole]
          apply rereads_markedWord (fun _ => rfl)
          intro afterWord text
          rw [List.cons_append, List.nil_append, readToken_numberSign, readNumberSign,
            if_neg noDash, if_neg noAngle, if_neg noBlank]

theorem rereads_of_readTwoAtSigns (read : readTwoAtSigns rest = (token, after)) :
    Rereads token := by
  have alone : Rereads (.other "@@") := by
    apply rereads_loneMark '@' ['@'] rfl (by decide) (fun _ => rfl)
    · exact fun _ => readToken_atSign
    · exact fun _ _ => readToken_atSign
  cases rest with
  | nil =>
      cases read
      exact alone
  | cons c rest =>
      rw [readTwoAtSigns] at read
      split at read
      · cases read
        exact alone
      · next noBlank =>
          have whole : token = (readWord ['@', '@', c] rest).1 := (congrArg Prod.fst read).symm
          rw [whole]
          apply rereads_markedWord (fun _ => rfl)
          intro afterWord text
          rw [List.cons_append, List.cons_append, List.nil_append, readToken_atSign]
          exact congrArg Except.ok (if_neg noBlank)

theorem rereads_of_readAtSign (read : readAtSign rest = (token, after)) : Rereads token := by
  have alone : Rereads (.other "@") := by
    apply rereads_loneMark '@' [] rfl (by decide) (fun _ => rfl)
    · exact fun _ => readToken_atSign
    · exact fun _ _ => readToken_atSign
  cases rest with
  | nil =>
      cases read
      exact alone
  | cons c rest =>
      rw [readAtSign] at read
      split at read
      · cases read
        apply rereads_operator '@' ['>'] rfl (fun _ _ => rfl)
        exact fun _ _ _ => readToken_atSign
      split at read
      · cases read
        apply rereads_operator '@' ['?'] rfl (fun _ _ => rfl)
        exact fun _ _ _ => readToken_atSign
      split at read
      · exact rereads_of_readTwoAtSigns read
      split at read
      · cases read
        exact alone
      · next noAngle noQuestion noSign noQuote =>
          have whole : token = (readWord ['@', c] rest).1 := (congrArg Prod.fst read).symm
          rw [whole]
          apply rereads_markedWord (fun _ => rfl)
          intro afterWord text
          rw [List.cons_append, List.nil_append, readToken_atSign, readAtSign, if_neg noAngle,
            if_neg noQuestion, if_neg noSign, if_neg noQuote]

/-! ## Operators -/

/-- Whether a character begins an operator or stands for itself. -/
def startsOperator (c : Char) : Bool :=
  !(opensWord c || c.isDigit || isWordStart c || ['\'', '.', '(', ')', ',', '$', '?'].contains c)

theorem readToken_operator
    (starts : startsOperator c = true) (noPrefix : prefixed? c rest = none) :
    readToken afterWord c rest = .ok (readOperator c rest) := by
  have different : ['#', '@'].any startsOperator = false := rfl
  have noMark := ne_of_class_all starts different
  simp only [List.forall_mem_cons] at noMark
  simp only [startsOperator, Bool.not_eq_true', Bool.or_eq_false_iff, List.contains_cons,
    beq_eq_false_iff_ne, List.contains_nil] at starts
  obtain ⟨⟨⟨noQuote, noDigit⟩, noWord⟩, single, period, opening, closing, comma, dollar, question,
    -⟩ := starts
  unfold readToken
  rw [noPrefix]
  simp [noQuote, noDigit, noWord, single, period, opening, closing, comma, dollar, question,
    noMark.1, noMark.2.1]

theorem findOperator?_eq_none
    {text : List Char} {candidates : List String}
    (absent : ∀ operator ∈ candidates, Text.afterStart? operator.toList text = none) :
    findOperator? text candidates = none := by
  induction candidates with
  | nil => rfl
  | cons operator candidates ih =>
      rw [findOperator?, absent operator List.mem_cons_self]
      exact ih fun other member => absent other (List.mem_cons_of_mem _ member)

/-- An operator is found where it stands if none before it in the list is a beginning of it. -/
theorem findOperator?_self
    {operator : String} {candidates : List String} (listed : operator ∈ candidates)
    (ordered : candidates.Pairwise fun earlier later => ¬earlier.toList <+: later.toList)
    (solid : ∀ candidate ∈ candidates, ∀ d ∈ candidate.toList, isLimit d = false)
    (limited : Limited rest) :
    findOperator? (operator.toList ++ rest) candidates =
      some (.other (operatorText operator), rest) := by
  induction candidates with
  | nil => exact absurd listed List.not_mem_nil
  | cons candidate candidates ih =>
      obtain ⟨first, ordered⟩ := List.pairwise_cons.mp ordered
      obtain ⟨solidFirst, solid⟩ := List.forall_mem_cons.mp solid
      rw [findOperator?]
      rcases List.mem_cons.mp listed with rfl | later
      · rw [Text.afterStart?_self]
      · rw [limited.afterStart?_eq_none solidFirst (first operator later)]
        exact ih later ordered solid

theorem operators_pairwise :
    operators.Pairwise fun earlier later => ¬earlier.toList <+: later.toList := by
  decide +kernel

theorem operators_solid :
    ∀ operator ∈ operators, ∀ d ∈ operator.toList, isLimit d = false := by
  have solid : operators.all (fun operator => operator.toList.all fun d => !isLimit d) = true := by
    decide +kernel
  simpa using solid

theorem operators_long : ∀ operator ∈ operators, 2 ≤ operator.toList.length := by
  decide +kernel

theorem operators_start : ∀ operator ∈ operators, ∀ first ∈ operator.toList.head?,
    startsOperator first = true ∧ first.toUpper ∉ ['B', 'R', 'N', 'X', 'E', 'U'] ∧
      skip? first operator.toList.tail = none := by
  have starts : operators.all (fun operator => operator.toList.head?.all fun first =>
      startsOperator first && !(['B', 'R', 'N', 'X', 'E', 'U'].contains first.toUpper) &&
        (skip? first operator.toList.tail).isNone) = true := by
    decide +kernel
  intro operator listed first begins
  have all := List.all_eq_true.mp starts operator listed
  simp only [Option.all_eq_true, Bool.and_eq_true, Bool.not_eq_true', Option.isNone_iff_eq_none,
    and_assoc] at all
  have facts := all first begins
  refine ⟨facts.1, ?_, facts.2.2⟩
  simpa using facts.2.1

theorem operatorText_listed : ∀ operator ∈ operators,
    operatorText operator ∈ operators ∧
      operatorText (operatorText operator) = operatorText operator := by
  decide +kernel

theorem exists_two_of_mem_operators {operator : String} (listed : operator ∈ operators) :
    ∃ c d more, operator.toList = c :: d :: more := by
  have long := operators_long operator listed
  match shape : operator.toList with
  | [] => simp [shape] at long
  | [_] => simp [shape] at long
  | c :: d :: more => exact ⟨c, d, more, rfl⟩

theorem rereads_operatorText {operator : String} (listed : operator ∈ operators) :
    Rereads (.other (operatorText operator)) := by
  obtain ⟨shownListed, same⟩ := operatorText_listed operator listed
  obtain ⟨c, d, more, shape⟩ := exists_two_of_mem_operators shownListed
  obtain ⟨starts, noLetter, notSkipped⟩ := operators_start _ shownListed c (by rw [shape]; rfl)
  rw [shape, List.tail_cons] at notSkipped
  apply rereads_operator c (d :: more) shape
  · intro rest _
    rw [skip?_eq_none_iff] at notSkipped ⊢
    exact notSkipped
  · intro afterWord rest limited
    have found := findOperator?_self shownListed operators_pairwise operators_solid limited
    rw [readToken_operator starts (prefixed?_eq_none_of_toUpper noLetter), readOperator,
      ← List.cons_append, ← shape, found, same]

/-- A character that no operator is made of is read again as it is. -/
theorem rereads_singleton
    (starts : startsOperator c = true) (notBlank : Text.isBlank c = false) :
    Rereads (.other (String.singleton c)) := by
  apply rereads_operator c [] (String.toList_singleton c)
  · intro rest limited
    apply skip?_eq_none_iff.mpr
    refine ⟨notBlank, fun line => ?_, fun block => ?_⟩
    · exact limited.head?_ne rfl line.2
    · exact limited.head?_ne rfl block.2
  · intro afterWord rest limited
    have absent : findOperator? ([c] ++ rest) operators = none := by
      apply findOperator?_eq_none
      intro operator listed
      apply limited.afterStart?_eq_none (operators_solid operator listed)
      intro short
      have long := operators_long operator listed
      have := short.length_le
      simp only [List.length_singleton] at this
      omega
    rw [List.nil_append, readToken_operator starts (prefixed?_eq_none limited.ne_mark),
      readOperator]
    rw [List.singleton_append] at absent
    rw [absent]

theorem exists_of_findOperator?
    {text : List Char} {candidates : List String}
    (found : findOperator? text candidates = some (token, after)) :
    ∃ operator ∈ candidates, token = .other (operatorText operator) := by
  induction candidates with
  | nil => cases found
  | cons operator candidates ih =>
      rw [findOperator?] at found
      split at found
      · cases found
        exact ⟨operator, List.mem_cons_self, rfl⟩
      · obtain ⟨other, member, same⟩ := ih found
        exact ⟨other, List.mem_cons_of_mem _ member, same⟩

theorem rereads_of_readOperator
    (starts : startsOperator c = true) (notBlank : Text.isBlank c = false)
    (read : readOperator c rest = (token, after)) : Rereads token := by
  rw [readOperator] at read
  split at read
  · next found =>
      subst read
      obtain ⟨operator, listed, rfl⟩ := exists_of_findOperator? found
      exact rereads_operatorText listed
  · cases read
    exact rereads_singleton starts notBlank

/-! ## Placeholders and literals between dollar signs -/

theorem readToken_dollar : readToken afterWord '$' rest = readDollar rest := by
  unfold readToken
  rw [prefixed?_eq_none_of_toUpper (by decide)]
  rfl

theorem readToken_question :
    readToken afterWord '?' rest =
      .ok (otherToken [['?'], rest.takeWhile Text.isNumeral], rest.dropWhile Text.isNumeral) := by
  unfold readToken
  rw [prefixed?_eq_none_of_toUpper (by decide)]
  rfl

theorem rereads_question
    {numerals : List Char} (members : ∀ d ∈ numerals, Text.isNumeral d = true) :
    Rereads (otherToken [['?'], numerals]) := by
  apply rereads_operator '?' numerals (by simp) (fun _ _ => rfl)
  intro afterWord rest limited
  obtain ⟨run, ended⟩ := takeWhile_ended members (limited.outside rfl)
  rw [readToken_question, run, ended]
  rfl

theorem readDollar_tagged
    {tag : List Char} (parts : ∀ d ∈ tag, isTagPart d = true) (text : List Char) :
    ∃ fault, readDollar (tag ++ '$' :: text) = readBetween ('$' :: (tag ++ ['$'])) fault text := by
  have ended : ∀ d ∈ ('$' :: text).head?, isTagPart d = false := by
    rintro d ⟨⟩
    rfl
  obtain ⟨run, after⟩ := takeWhile_ended parts ended
  rw [readDollar, run, after]
  cases tag with
  | nil => exact ⟨_, rfl⟩
  | cons d tag => exact ⟨_, rfl⟩

theorem rereads_between
    {tag text : List Char} {fault : LexFault} (parts : ∀ d ∈ tag, isTagPart d = true)
    (read : readBetween ('$' :: (tag ++ ['$'])) fault text = .ok (token, after)) :
    Rereads token := by
  rw [readBetween] at read
  split at read
  · next inner _ cut =>
      cases read
      apply rereads_operator '$' (tag ++ '$' :: (inner ++ '$' :: (tag ++ ['$']))) (by simp)
        (fun _ _ => rfl)
      intro afterWord rest _
      have again := (Text.cutAt?_eq_some cut).2 rest
      have whole : tag ++ '$' :: (inner ++ '$' :: (tag ++ ['$'])) ++ rest =
          tag ++ '$' :: (inner ++ ('$' :: (tag ++ ['$']) ++ rest)) := by simp
      obtain ⟨fault, tagged⟩ :=
        readDollar_tagged parts (inner ++ ('$' :: (tag ++ ['$']) ++ rest))
      rw [readToken_dollar, whole, tagged, readBetween, again]
      rfl
  · cases read

theorem rereads_of_readDollar (read : readDollar rest = .ok (token, after)) :
    Rereads token := by
  have parts : ∀ d ∈ rest.takeWhile isTagPart, isTagPart d = true :=
    forall_mem_takeWhile rest
  rw [readDollar] at read
  split at read
  · split at read
    · next empty =>
        exact rereads_between (fun _ member => absurd member List.not_mem_nil) read
    · exact rereads_between parts read
  · cases read
    apply rereads_operator '$' (rest.takeWhile isTagPart) (by simp) (fun _ _ => rfl)
    intro afterWord rest' limited
    obtain ⟨run, ended⟩ := takeWhile_ended parts (limited.outside rfl)
    rw [readToken_dollar, readDollar, run, ended, if_neg (limited.head?_ne rfl)]
    rfl

/-! ## Numbers -/

theorem rereads_number
    {whole point places exponent : List Char} (numeral : IsNumeral whole point places exponent) :
    Rereads (.number (String.ofList (whole ++ point ++ places ++ exponent))) := by
  rintro afterWord rest ⟨limited, noPoint⟩
  obtain ⟨c, more, shape, starts⟩ := numeral.start
  have start : c.isDigit = true ∨ c = '.' := starts.imp_right And.left
  have noPoint : point = [] → exponent = [] → rest.head? ≠ some '.' := by
    intro none noExponent
    apply noPoint
    rcases numeral.isPoint with rfl | ⟨-, rfl⟩
    · cases none
    · simpa [none, noExponent] using numeral.isWhole
  have read : readNumber (c :: more ++ rest) =
      (.number (String.ofList (whole ++ point ++ places ++ exponent)), rest) := by
    rw [← shape, ← readNumber_again numeral (limited.outside rfl) noPoint]
    simp only [List.append_assoc]
  have notPeriod : ¬(c = '.' ∧ (more ++ rest).head? = some '_') := by
    rintro ⟨rfl, underscore⟩
    rcases starts with digit | ⟨-, digit⟩
    · cases digit
    · cases more with
      | nil => cases digit
      | cons d more =>
          cases underscore
          cases digit
  have text : (Token.number (String.ofList (whole ++ point ++ places ++ exponent))).text.toList =
      c :: more := by
    rw [Token.text, String.toList_ofList, shape]
  apply tokensFrom_text text (skip?_numeralStart start)
  rw [readToken_numeralStart start, readPeriodOrNumber, if_neg notPeriod]
  exact congrArg Except.ok read

end

end Lexer

end SchemaDesign.Sql
