import SchemaDesign.Proofs.Sql.Numerals

/-!
# Texts that spell tokens

A way of writing tokens down from which they are read again: words and numbers are followed by a
blank, a parenthesis or a comma, and marks inside quotations are doubled.  A script is not cut
inside such a text.
-/

namespace SchemaDesign.Sql

/-- Whether a character stands after words, numbers and quotations. -/
def isBoundary (c : Char) : Bool :=
  c == ' ' || c == '\n' || c == '(' || c == ')' || c == ','

/-- A text that does not continue the word, the number or the quotation before it. -/
def Parted : List Char → Prop
  | [] => True
  | c :: _ => isBoundary c = true

/-- A text of digits, which may have places after a point and an exponent. -/
def IsUnsigned (text : List Char) : Prop :=
  ∃ whole point places exponent, whole ≠ [] ∧ Lexer.IsNumeral whole point places exponent ∧
    text = whole ++ point ++ places ++ exponent

/-- A text spells tokens. -/
inductive Spells : List Char → List Token → Prop where
  | nil : Spells [] []
  | blank {c : Char} {rest : List Char} {tokens : List Token} :
      c = ' ' ∨ c = '\n' → Spells rest tokens → Spells (c :: rest) tokens
  | openParen {rest : List Char} {tokens : List Token} :
      Spells rest tokens → Spells ('(' :: rest) (.openParen :: tokens)
  | closeParen {rest : List Char} {tokens : List Token} :
      Spells rest tokens → Spells (')' :: rest) (.closeParen :: tokens)
  | comma {rest : List Char} {tokens : List Token} :
      Spells rest tokens → Spells (',' :: rest) (.comma :: tokens)
  | word {letters rest : List Char} {tokens : List Token} :
      letters ≠ [] → (∀ c ∈ letters, c.isAlpha = true) → Parted rest → Spells rest tokens →
        Spells (letters ++ rest) (.word (String.ofList letters) false :: tokens)
  | number {digits rest : List Char} {tokens : List Token} :
      IsUnsigned digits → Parted rest → Spells rest tokens →
        Spells (digits ++ rest) (.number (String.ofList digits) :: tokens)
  | sign {c digit : Char} {rest : List Char} {tokens : List Token} :
      c = '+' ∨ c = '-' → digit.isDigit = true → Spells (digit :: rest) tokens →
        Spells (c :: digit :: rest) (.other (String.singleton c) :: tokens)
  | quotedWord {mark : Char} {name rest : List Char} {tokens : List Token} :
      Lexer.opensWord mark = true → Parted rest → Spells rest tokens →
        Spells (quotedText mark name ++ rest) (.word (String.ofList name) true :: tokens)
  | literal {value rest : List Char} {tokens : List Token} :
      Parted rest → Spells rest tokens →
        Spells (quotedText '\'' value ++ rest) (.literal (String.ofList value) :: tokens)

section

variable {c : Char}

theorem isBoundary_cases (boundary : isBoundary c = true) :
    c = ' ' ∨ c = '\n' ∨ c = '(' ∨ c = ')' ∨ c = ',' := by
  simpa [isBoundary, or_assoc] using boundary

theorem isDigit_range (digit : c.isDigit = true) : 48 ≤ c.toNat ∧ c.toNat ≤ 57 := by
  simp only [Char.isDigit, decide_eq_true_eq, Bool.and_eq_true, UInt32.le_iff_toNat_le,
    ge_iff_le] at digit
  exact digit

theorem isBlank_eq_false (low : 33 ≤ c.toNat) (high : c.toNat ≤ 126) :
    Text.isBlank c = false := by
  simp only [Text.isBlank, Bool.or_eq_false_iff, Bool.and_eq_false_iff, decide_eq_false_iff_not,
    beq_eq_false_iff_ne]
  omega

theorem Parted.head?
    {rest : List Char} (parted : Parted rest) {mark : Char} (outside : isBoundary mark = false) :
    rest.head? ≠ some mark := by
  cases rest with
  | nil =>
      intro same
      cases same
  | cons c rest =>
      intro same
      cases same
      cases parted.symm.trans outside

theorem Parted.outside
    {rest : List Char} (parted : Parted rest) {isMember : Char → Bool}
    (outside : [' ', '\n', '(', ')', ','].any isMember = false) :
    ∀ c ∈ rest.head?, isMember c = false := by
  intro c next
  cases rest with
  | nil => cases next
  | cons first rest =>
      cases next
      have boundary : c ∈ [' ', '\n', '(', ')', ','] := by
        simpa using isBoundary_cases parted
      simpa using List.any_eq_false.mp outside c boundary

theorem Parted.ne_mark
    {rest : List Char} (parted : Parted rest) :
    ∀ mark ∈ rest.head?, mark ≠ '\'' ∧ mark ≠ '"' ∧ mark ≠ '&' := by
  intro mark next
  have different (other : Char) (outside : isBoundary other = false) : mark ≠ other :=
    fun same => parted.head? outside (same ▸ next)
  exact ⟨different _ rfl, different _ rfl, different _ rfl⟩

end

/-! ## Numbers -/

theorem IsUnsigned.of_digits
    {digits : List Char} (nonempty : digits ≠ []) (isDigit : ∀ c ∈ digits, c.isDigit = true) :
    IsUnsigned digits := by
  refine ⟨digits, [], [], [], nonempty, ?_, by simp⟩
  exact {
    isWhole := isDigit
    isPoint := .inr ⟨rfl, rfl⟩
    isPlaces := fun _ member => absurd member List.not_mem_nil
    isExponent := .none
    nonempty := .inl nonempty }

theorem IsUnsigned.exists_cons {text : List Char} (unsigned : IsUnsigned text) :
    ∃ digit more, text = digit :: more ∧ digit.isDigit = true := by
  obtain ⟨whole, point, places, exponent, nonempty, numeral, rfl⟩ := unsigned
  obtain ⟨digit, whole, rfl⟩ := List.exists_cons_of_ne_nil nonempty
  exact ⟨digit, _, rfl, numeral.isWhole digit List.mem_cons_self⟩

/-! ## Texts that spell tokens are not cut -/

theorem Closed.all_digits {text : List Char} (digits : ∀ c ∈ text, c.isDigit = true) :
    Closed text :=
  .all_inert fun c member => isInert_of_class (digits c member) rfl

theorem IsUnsigned.closed {text : List Char} (unsigned : IsUnsigned text) : Closed text := by
  obtain ⟨whole, point, places, exponent, _, numeral, rfl⟩ := unsigned
  have pointClosed : Closed point := by
    rcases numeral.isPoint with rfl | ⟨rfl, -⟩
    · exact .inert rfl
    · exact .nil
  have exponentClosed : Closed exponent := by
    cases numeral.isExponent with
    | none => exact .nil
    | @some mark sign digits isMark isSign nonempty isDigits =>
        have markClosed : Closed [mark] := by
          rcases isMark with rfl | rfl
          · exact .inert rfl
          · exact .inert rfl
        have digitsClosed : Closed digits := .all_digits isDigits
        refine markClosed.append ?_
        simp only [List.mem_cons, List.not_mem_nil, or_false] at isSign
        rcases isSign with rfl | rfl | rfl
        · exact digitsClosed
        · exact (Closed.inert rfl).append digitsClosed
        · obtain ⟨digit, digits, rfl⟩ := List.exists_cons_of_ne_nil nonempty
          exact digitsClosed.dash (ne_of_class (isDigits digit List.mem_cons_self) rfl)
  exact (((Closed.all_digits numeral.isWhole).append pointClosed).append
    (.all_digits numeral.isPlaces)).append exponentClosed

theorem Spells.closed {text : List Char} {tokens : List Token} (spells : Spells text tokens) :
    Closed text := by
  induction spells with
  | nil => exact .nil
  | blank blank _ ih =>
      rcases blank with rfl | rfl
      · exact (Closed.inert rfl).append ih
      · exact (Closed.inert rfl).append ih
  | openParen _ ih => exact (Closed.inert rfl).append ih
  | closeParen _ ih => exact (Closed.inert rfl).append ih
  | comma _ ih => exact (Closed.inert rfl).append ih
  | word _ letters _ _ ih =>
      apply Closed.append _ ih
      exact .all_inert fun c member => isInert_of_class (letters c member) rfl
  | number unsigned _ _ ih => exact unsigned.closed.append ih
  | sign sign digit _ ih =>
      rcases sign with rfl | rfl
      · exact (Closed.inert rfl).append ih
      · exact ih.dash (ne_of_class digit rfl)
  | quotedWord opens _ _ ih =>
      apply Closed.append _ ih
      apply Closed.quotedText
      simp only [Lexer.opensWord, Bool.or_eq_true] at opens
      simp only [isQuote, Bool.or_eq_true]
      rcases opens with double | back
      · exact .inl (.inr double)
      · exact .inr back
  | literal _ _ ih => exact (Closed.quotedText rfl _).append ih

/-! ## The tokens are read again -/

namespace Lexer

section

variable {afterWord : Bool} {c : Char} {rest after : List Char} {token : Token}

theorem tokensFrom_skip (skipped : skip? c rest = some (.ok after)) :
    tokensFrom afterWord (c :: rest) = tokensFrom false after := by
  rw [tokensFrom]
  split
  · next found =>
      cases skipped.symm.trans found
      rfl
  · next found => cases skipped.symm.trans found
  · next found => cases skipped.symm.trans found

theorem tokensFrom_read
    (notSkipped : skip? c rest = none) (read : readToken afterWord c rest = .ok (token, after)) :
    tokensFrom afterWord (c :: rest) = (tokensFrom token.isWord after).map (token :: ·) := by
  rw [tokensFrom]
  split
  · next found => cases notSkipped.symm.trans found
  · next found => cases notSkipped.symm.trans found
  · split
    · next found =>
        cases read.symm.trans found
        rfl
    · next found => cases read.symm.trans found

theorem skip?_eq_none (notBlank : Text.isBlank c = false) (noDash : c ≠ '-') (noSlash : c ≠ '/') :
    skip? c rest = none := by
  simp [skip?, notBlank, noDash, noSlash]

/-- Only a quotation makes a prefix of a letter. -/
theorem prefixed?_eq_none
    (next : ∀ mark ∈ rest.head?, mark ≠ '\'' ∧ mark ≠ '"' ∧ mark ≠ '&') :
    prefixed? c rest = none := by
  cases rest with
  | nil => rfl
  | cons mark text =>
      obtain ⟨noSingle, noDouble, noAmpersand⟩ := next mark rfl
      simp [prefixed?, noSingle, noDouble, noAmpersand]

theorem prefixed?_eq_none_of_class
    {isMember : Char → Bool} (outside : ['\'', '"', '&'].any isMember = false) {text : List Char}
    (members : ∀ d ∈ text, isMember d = true)
    (next : ∀ mark ∈ rest.head?, mark ≠ '\'' ∧ mark ≠ '"' ∧ mark ≠ '&') :
    prefixed? c (text ++ rest) = none := by
  apply prefixed?_eq_none
  cases text with
  | nil => exact next
  | cons first text =>
      intro mark same
      cases same
      have different := ne_of_class_all (members _ List.mem_cons_self) outside
      simp only [List.forall_mem_cons] at different
      exact ⟨different.1, different.2.1, different.2.2.1⟩

/-- Only some letters are prefixes. -/
theorem prefixed?_eq_none_of_toUpper
    (noLetter : c.toUpper ∉ ['B', 'R', 'N', 'X', 'E', 'U']) : prefixed? c rest = none := by
  cases rest with
  | nil => rfl
  | cons mark text =>
      simp only [List.mem_cons, not_or] at noLetter
      obtain ⟨noB, noR, noN, noX, noE, noU, _⟩ := noLetter
      simp [prefixed?, noB, noR, noN, noX, noE, noU]

theorem readQuoted?_doubled (mark : Char) (text : List Char) :
    readQuoted? mark (mark :: mark :: text) =
      (readQuoted? mark text).map fun found => (mark :: found.1, found.2) := by
  rw [readQuoted?.eq_def]
  simp only [if_true]

theorem readQuoted?_other {mark : Char} (different : c ≠ mark) (text : List Char) :
    readQuoted? mark (c :: text) =
      (readQuoted? mark text).map fun found => (c :: found.1, found.2) := by
  rw [readQuoted?.eq_def]
  simp only [if_neg different]

theorem readQuoted?_quotedText (mark : Char) (text : List Char) (next : rest.head? ≠ some mark) :
    readQuoted? mark (text.flatMap (fun c => if c = mark then [mark, mark] else [c]) ++
      [mark] ++ rest) = some (text, rest) := by
  induction text with
  | nil =>
      cases rest with
      | nil => simp [readQuoted?]
      | cons d rest =>
          have different : d ≠ mark := fun same => next (congrArg some same)
          simp [readQuoted?, different]
  | cons c text ih =>
      by_cases same : c = mark
      · subst same
        simp only [List.flatMap_cons, if_true, List.cons_append, List.nil_append]
        rw [readQuoted?_doubled, ih]
        rfl
      · simp only [List.flatMap_cons, if_neg same, List.cons_append, List.nil_append]
        rw [readQuoted?_other same, ih]
        rfl

theorem readToken_openParen : readToken afterWord '(' rest = .ok (.openParen, rest) := by
  unfold readToken
  rw [prefixed?_eq_none_of_toUpper (by decide)]
  rfl

theorem readToken_closeParen : readToken afterWord ')' rest = .ok (.closeParen, rest) := by
  unfold readToken
  rw [prefixed?_eq_none_of_toUpper (by decide)]
  rfl

theorem readToken_comma : readToken afterWord ',' rest = .ok (.comma, rest) := by
  unfold readToken
  rw [prefixed?_eq_none_of_toUpper (by decide)]
  rfl

theorem isDigit_of_isAlphabetic (letter : Text.isAlphabetic c = true) : c.isDigit = false := by
  rw [Bool.eq_false_iff]
  intro digit
  have digitRange := isDigit_range digit
  rw [Text.isAlphabetic, if_pos (by omega)] at letter
  rcases Text.isAlpha_range letter with upper | lower
  · omega
  · omega

/-- A word that begins with a letter or an underscore ends where none of its characters is next. -/
theorem readToken_wordStart
    (starts : (Text.isAlphabetic c || c == '_') = true) {more : List Char}
    (parts : ∀ d ∈ more, isWordPart d = true) (ended : ∀ d ∈ rest.head?, isWordPart d = false)
    (next : ∀ mark ∈ rest.head?, mark ≠ '\'' ∧ mark ≠ '"' ∧ mark ≠ '&') :
    readToken afterWord c (more ++ rest) =
      .ok (.word (String.ofList (c :: more)) false, rest) := by
  have noPrefix : prefixed? c (more ++ rest) = none := prefixed?_eq_none_of_class rfl parts next
  have noDigit : c.isDigit = false := by
    rcases Bool.or_eq_true _ _ ▸ starts with letter | underscore
    · exact isDigit_of_isAlphabetic letter
    · rw [eq_of_beq underscore]
      rfl
  have outside : ['\'', '"', Char.ofNat 0x60, '.', '(', ')', ',', '$', '?', '#', '@'].any
      (fun c => Text.isAlphabetic c || c == '_') = false := rfl
  have different := ne_of_class_all starts outside
  simp only [List.forall_mem_cons] at different
  obtain ⟨single, double, back, period, opening, closing, comma, dollar, question, number, sign,
    _⟩ := different
  have wordStart : isWordStart c = true := by
    simp only [isWordStart, starts, Bool.true_or]
  obtain ⟨run, after⟩ := takeWhile_ended parts ended
  unfold readToken
  rw [noPrefix]
  simp [opensWord, noDigit, wordStart, readWord, run, after, single, double, back, period, opening,
    closing, comma, dollar, question, number, sign]

theorem readToken_word
    {letters : List Char} (isLetter : ∀ d ∈ c :: letters, d.isAlpha = true) (parted : Parted rest) :
    readToken afterWord c (letters ++ rest) =
      .ok (.word (String.ofList (c :: letters)) false, rest) := by
  have alphabetic (d : Char) (member : d ∈ c :: letters) : Text.isAlphabetic d = true :=
    Text.isAlphabetic_of_isAlpha d (isLetter d member)
  apply readToken_wordStart _ _ _ parted.ne_mark
  · rw [alphabetic c List.mem_cons_self, Bool.true_or]
  · intro d member
    simp [isWordPart, alphabetic d (List.mem_cons_of_mem _ member)]
  · exact parted.outside rfl

/-- Marks and digits are not letters. -/
theorem prefixed?_eq_none_of_le (small : c.toNat ≤ 64) : prefixed? c rest = none := by
  apply prefixed?_eq_none_of_toUpper
  have sameUpper : c.toUpper = c := by
    delta Char.toUpper
    rw [dif_neg]
    rintro ⟨lower, -⟩
    have : 97 ≤ c.toNat := UInt32.le_iff_toNat_le.mp lower
    omega
  rw [sameUpper]
  intro listed
  have large : ∀ d ∈ ['B', 'R', 'N', 'X', 'E', 'U'], 64 < d.toNat := by simp
  have := large c listed
  omega

theorem readToken_numeralStart (starts : c.isDigit = true ∨ c = '.') :
    readToken afterWord c rest = readPeriodOrNumber afterWord c rest := by
  have noPrefix : prefixed? c rest = none := by
    apply prefixed?_eq_none_of_le
    rcases starts with digit | rfl
    · exact Nat.le_trans (isDigit_range digit).2 (by decide)
    · decide
  have member : (c.isDigit || c == '.') = true := by simpa using starts
  have outside : ['\'', '"', Char.ofNat 0x60].any (fun c => c.isDigit || c == '.') = false := rfl
  have different := ne_of_class_all member outside
  simp only [List.forall_mem_cons] at different
  obtain ⟨single, double, back, -⟩ := different
  unfold readToken
  rw [noPrefix]
  simp [opensWord, single, double, back, member]

theorem skip?_numeralStart (starts : c.isDigit = true ∨ c = '.') : skip? c rest = none := by
  rcases starts with digit | rfl
  · have range := isDigit_range digit
    have notBlank : Text.isBlank c = false := isBlank_eq_false (by omega) (by omega)
    exact skip?_eq_none notBlank (ne_of_class digit rfl) (ne_of_class digit rfl)
  · rfl

theorem readNumber_unsigned
    {text : List Char} (unsigned : IsUnsigned text) (parted : Parted rest) :
    readNumber (text ++ rest) = (.number (String.ofList text), rest) := by
  obtain ⟨whole, point, places, exponent, _, numeral, rfl⟩ := unsigned
  simpa using readNumber_again numeral (parted.outside rfl) fun _ _ => parted.head? rfl

theorem readToken_number
    {text : List Char} (unsigned : IsUnsigned (c :: text)) (parted : Parted rest) :
    readToken afterWord c (text ++ rest) = .ok (.number (String.ofList (c :: text)), rest) := by
  obtain ⟨_, _, same, digit⟩ := unsigned.exists_cons
  cases same
  have period : c ≠ '.' := ne_of_class digit rfl
  rw [readToken_numeralStart (.inl digit), readPeriodOrNumber, if_neg fun both => period both.1]
  exact congrArg Except.ok (readNumber_unsigned unsigned parted)

theorem readToken_sign
    (sign : c = '+' ∨ c = '-') {digit : Char} (isDigit : digit.isDigit = true) :
    readToken afterWord c (digit :: rest) = .ok (.other (String.singleton c), digit :: rest) := by
  have noOperator : findOperator? (c :: digit :: rest) operators = none := by
    have different : '>' ≠ digit := (ne_of_class isDigit rfl).symm
    rcases sign with rfl | rfl
    · rfl
    · simp [findOperator?, operators, Text.afterStart?, different]
  rcases sign with rfl | rfl
  · unfold readToken
    rw [prefixed?_eq_none_of_toUpper (by decide)]
    change Except.ok (readOperator _ _) = _
    rw [readOperator, noOperator]
  · unfold readToken
    rw [prefixed?_eq_none_of_toUpper (by decide)]
    change Except.ok (readOperator _ _) = _
    rw [readOperator, noOperator]

theorem readToken_quotedWord
    (opens : opensWord c = true) (name : List Char) (parted : Parted rest) :
    readToken afterWord c (name.flatMap (fun d => if d = c then [c, c] else [d]) ++ [c] ++ rest) =
      .ok (.word (String.ofList name) true, rest) := by
  have same : c = '"' ∨ c = Char.ofNat 0x60 := by
    simpa [opensWord] using opens
  rcases same with rfl | rfl
  · unfold readToken
    rw [prefixed?_eq_none_of_toUpper (by decide)]
    change readQuotedWord _ _ = _
    rw [readQuotedWord, readQuoted?_quotedText _ _ (parted.head? rfl)]
    rfl
  · unfold readToken
    rw [prefixed?_eq_none_of_toUpper (by decide)]
    change readQuotedWord _ _ = _
    rw [readQuotedWord, readQuoted?_quotedText _ _ (parted.head? rfl)]
    rfl

theorem readToken_literal (value : List Char) (next : rest.head? ≠ some '\'') :
    readToken afterWord '\''
        (value.flatMap (fun d => if d = '\'' then ['\'', '\''] else [d]) ++ ['\''] ++ rest) =
      .ok (.literal (String.ofList value), rest) := by
  unfold readToken
  rw [prefixed?_eq_none_of_toUpper (by decide)]
  simp only [if_true]
  rw [readQuoted?_quotedText _ _ next]
  rfl

end

end Lexer

/-- The tokens that a text spells are read from it. -/
theorem Spells.tokensFrom
    {text : List Char} {tokens : List Token} (spells : Spells text tokens) (afterWord : Bool) :
    Lexer.tokensFrom afterWord text = .ok tokens := by
  induction spells generalizing afterWord with
  | nil => rw [Lexer.tokensFrom]
  | blank blank _ ih =>
      rcases blank with rfl | rfl
      · rw [Lexer.tokensFrom_skip rfl, ih]
      · rw [Lexer.tokensFrom_skip rfl, ih]
  | openParen _ ih =>
      rw [Lexer.tokensFrom_read rfl Lexer.readToken_openParen, ih]
      rfl
  | closeParen _ ih =>
      rw [Lexer.tokensFrom_read rfl Lexer.readToken_closeParen, ih]
      rfl
  | comma _ ih =>
      rw [Lexer.tokensFrom_read rfl Lexer.readToken_comma, ih]
      rfl
  | @word letters rest tokens nonempty isLetter parted _ ih =>
      cases letters with
      | nil => exact absurd rfl nonempty
      | cons c letters =>
          have range := Text.isAlpha_range (isLetter c List.mem_cons_self)
          have notBlank : Text.isBlank c = false := isBlank_eq_false (by omega) (by omega)
          have noDash : c ≠ '-' := ne_of_class (isLetter c List.mem_cons_self) rfl
          have noSlash : c ≠ '/' := ne_of_class (isLetter c List.mem_cons_self) rfl
          have skipped : Lexer.skip? c (letters ++ rest) = none :=
            Lexer.skip?_eq_none notBlank noDash noSlash
          rw [List.cons_append,
            Lexer.tokensFrom_read skipped (Lexer.readToken_word isLetter parted), ih]
          rfl
  | @number digits rest tokens unsigned parted _ ih =>
      obtain ⟨c, digits, rfl, isDigit⟩ := unsigned.exists_cons
      have skipped : Lexer.skip? c (digits ++ rest) = none :=
        Lexer.skip?_numeralStart (.inl isDigit)
      rw [List.cons_append,
        Lexer.tokensFrom_read skipped (Lexer.readToken_number unsigned parted), ih]
      rfl
  | @sign c digit rest tokens sign isDigit _ ih =>
      have skipped : Lexer.skip? c (digit :: rest) = none := by
        have noDash : digit ≠ '-' := ne_of_class isDigit rfl
        rcases sign with rfl | rfl
        · exact Lexer.skip?_eq_none rfl (by decide) (by decide)
        · simp [Lexer.skip?, show Text.isBlank '-' = false from rfl, noDash]
      rw [Lexer.tokensFrom_read skipped (Lexer.readToken_sign sign isDigit), ih]
      rfl
  | @quotedWord mark name rest tokens opens parted _ ih =>
      have skipped (text : List Char) : Lexer.skip? mark text = none := by
        have same : mark = '"' ∨ mark = Char.ofNat 0x60 := by
          simpa [Lexer.opensWord] using opens
        rcases same with rfl | rfl
        · exact Lexer.skip?_eq_none rfl (by decide) (by decide)
        · exact Lexer.skip?_eq_none rfl (by decide) (by decide)
      rw [quotedText, List.cons_append, Lexer.tokensFrom_read (skipped _)
        (Lexer.readToken_quotedWord opens name parted), ih]
      rfl
  | @literal value rest tokens parted _ ih =>
      have skipped (text : List Char) : Lexer.skip? '\'' text = none :=
        Lexer.skip?_eq_none rfl (by decide) (by decide)
      rw [quotedText, List.cons_append, Lexer.tokensFrom_read (skipped _)
        (Lexer.readToken_literal value (parted.head? rfl)), ih]
      rfl

theorem Spells.tokens
    {text : List Char} {tokens : List Token} (spells : Spells text tokens) :
    Sql.tokens (String.ofList text) = .ok tokens := by
  rw [Sql.tokens, String.toList_ofList]
  exact spells.tokensFrom false

end SchemaDesign.Sql
