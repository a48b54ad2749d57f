import SchemaDesign.Ddl.Alteration
import SchemaDesign.Export.Prisma
import SchemaDesign.Export.TypeScript
import SchemaDesign.Proofs.Json.Spelling
import SchemaDesign.Proofs.Sql.VerbatimTokens
import SchemaDesign.Proofs.Sql.Writing

/-!
# Which literals read back

The exports write texts as literals of other languages.  A literal is read back by the rules of its
language, and which texts come back is told exactly.
-/

namespace SchemaDesign.Export

open Json (Piece joinPieces? hexValue? hexWord?)

/-! ## Texts in double quotes -/

/-- The length of a text in halves, where a double quote and a backslash are one half each. -/
def halves (text : List Char) : Nat :=
  (text.map fun c => if c = '"' ∨ c = '\\' then 1 else 2).sum

theorem halves_append (left right : List Char) :
    halves (left ++ right) = halves left + halves right := by
  rw [halves, List.map_append, List.sum_append]
  rfl

theorem halves_cons (c : Char) (text : List Char) :
    halves (c :: text) = (if c = '"' ∨ c = '\\' then 1 else 2) + halves text := by
  rw [halves, List.map_cons, List.sum_cons]
  rfl

theorem halves_le_cons (c : Char) (text : List Char) : halves text + 1 ≤ halves (c :: text) := by
  rw [halves_cons]
  split <;> omega

/-- The rules by which a language reads texts in double quotes: which characters stand for
themselves, and what the text after a backslash begins with.  An escape takes at least one
character and stands for at most one piece. -/
structure QuotationRules where
  isPlain : Char → Bool
  escape? : List Char → Option (List Piece × List Char)
  quote_not_plain : isPlain '"' = false
  backslash_not_plain : isPlain '\\' = false
  escape_quote : ∀ rest, escape? ('"' :: rest) = some ([.char '"'], rest)
  escape_takes : ∀ {text pieces rest}, escape? text = some (pieces, rest) →
    pieces.length ≤ 1 ∧ ∃ taken ≠ [], text = taken ++ rest

namespace QuotationRules

variable {rules : QuotationRules} {name text rest : List Char} {pieces : List Piece}

/-- The text after an opening quote is read as some pieces up to the closing quote. -/
inductive Reads (rules : QuotationRules) : List Char → List Piece → List Char → Prop where
  | closed (rest : List Char) : Reads rules ('"' :: rest) [] rest
  | plain {c : Char} {text rest : List Char} {pieces : List Piece}
      (isPlain : rules.isPlain c = true) (others : Reads rules text pieces rest) :
      Reads rules (c :: text) (.char c :: pieces) rest
  | escape {text after rest : List Char} {first pieces : List Piece}
      (escape : rules.escape? text = some (first, after)) (others : Reads rules after pieces rest) :
      Reads rules ('\\' :: text) (first ++ pieces) rest

/-- The text after an opening quote is read as a value. -/
def ReadsAs (rules : QuotationRules) (text value rest : List Char) : Prop :=
  ∃ pieces, rules.Reads text pieces rest ∧ joinPieces? pieces = some value

theorem Reads.unique
    {other : List Piece} {left : List Char} (reads : rules.Reads text pieces rest)
    (readsOther : rules.Reads text other left) : pieces = other ∧ rest = left := by
  induction reads generalizing other with
  | closed rest =>
      cases readsOther with
      | closed => exact ⟨rfl, rfl⟩
      | plain isPlain => exact absurd rules.quote_not_plain (by simp [isPlain])
  | plain isPlain _ ih =>
      cases readsOther with
      | closed => exact absurd rules.quote_not_plain (by simp [isPlain])
      | plain _ others =>
          obtain ⟨same, sameRest⟩ := ih others
          exact ⟨congrArg _ same, sameRest⟩
      | escape => exact absurd rules.backslash_not_plain (by simp [isPlain])
  | escape escape _ ih =>
      cases readsOther with
      | plain isPlain => exact absurd rules.backslash_not_plain (by simp [isPlain])
      | escape escapeOther others =>
          rw [escape] at escapeOther
          cases escapeOther
          obtain ⟨same, sameRest⟩ := ih others
          exact ⟨congrArg _ same, sameRest⟩

/-- A text in double quotes has one value. -/
theorem ReadsAs.unique
    {value other left : List Char} (reads : rules.ReadsAs text value rest)
    (readsOther : rules.ReadsAs text other left) : value = other ∧ rest = left := by
  obtain ⟨pieces, read, joined⟩ := reads
  obtain ⟨_, readOther, joinedOther⟩ := readsOther
  obtain ⟨rfl, sameRest⟩ := read.unique readOther
  rw [joined] at joinedOther
  exact ⟨Option.some.inj joinedOther, sameRest⟩

/-- Each piece takes two halves, and the closing quote takes one. -/
theorem Reads.halves_le (reads : rules.Reads text pieces rest) :
    2 * pieces.length + 1 + halves rest ≤ halves text := by
  induction reads with
  | closed rest => simp [halves_cons]
  | @plain c text rest pieces isPlain _ ih =>
      have ordinary : ¬ (c = '"' ∨ c = '\\') := by
        rintro (rfl | rfl)
        · exact absurd rules.quote_not_plain (by simp [isPlain])
        · exact absurd rules.backslash_not_plain (by simp [isPlain])
      rw [halves_cons, if_neg ordinary, List.length_cons]
      omega
  | @escape text after rest first pieces escape _ ih =>
      obtain ⟨single, taken, nonempty, rfl⟩ := rules.escape_takes escape
      obtain ⟨c, others, rfl⟩ := List.exists_cons_of_ne_nil nonempty
      have room := halves_le_cons c others
      rw [halves_cons, if_pos (.inr rfl), halves_append, List.length_append]
      omega

theorem length_le_of_map_cons
    {found : Option (List Char)} {first : Char} {value : List Char} {bound : Nat}
    (bounded : ∀ {value}, found = some value → value.length ≤ bound)
    (joined : found.map (first :: ·) = some value) : value.length ≤ bound + 1 := by
  obtain ⟨later, same, rfl⟩ := Option.map_eq_some_iff.mp joined
  exact Nat.succ_le_succ (bounded same)

/-- No piece becomes more than one character. -/
theorem length_of_joinPieces? {value : List Char} (joined : joinPieces? pieces = some value) :
    value.length ≤ pieces.length := by
  fun_induction joinPieces? pieces generalizing value with
  | case1 =>
      cases joined
      exact Nat.le_refl 0
  | case2 c others ih => exact length_le_of_map_cons ih joined
  | case3 high low others _ _ ih => exact Nat.le_succ_of_le (length_le_of_map_cons ih joined)
  | case4 => cases joined
  | case5 => cases joined
  | case6 high low others _ _ ih => exact length_le_of_map_cons ih joined
  | case7 => cases joined
  | case8 unit others _ _ ih => exact length_le_of_map_cons ih joined

/-- What stands between the quotes is at least as long as the value, in halves. -/
theorem ReadsAs.length_le (readsAs : rules.ReadsAs (text ++ '"' :: rest) name rest) :
    2 * name.length ≤ halves text := by
  obtain ⟨pieces, reads, joined⟩ := readsAs
  have room := reads.halves_le
  have made := length_of_joinPieces? joined
  rw [halves_append, halves_cons, if_pos (.inl rfl)] at room
  omega

/-- A text with a backslash before each double quote. -/
def quotesEscaped (text : List Char) : List Char :=
  text.flatMap fun c => if c = '"' then ['\\', '"'] else [c]

theorem toList_escaped (s : String) :
    ("\"" ++ Text.replaceChar '"' ['\\', '"'] s ++ "\"").toList =
      '"' :: (quotesEscaped s.toList ++ ['"']) := by
  simp [Text.replaceChar, quotesEscaped]

theorem quotesEscaped_quote (name : List Char) :
    quotesEscaped ('"' :: name) = '\\' :: '"' :: quotesEscaped name :=
  rfl

theorem quotesEscaped_other {c : Char} (notQuote : c ≠ '"') (name : List Char) :
    quotesEscaped (c :: name) = c :: quotesEscaped name := by
  rw [quotesEscaped, List.flatMap_cons, if_neg notQuote]
  rfl

theorem quotesEscaped_of_not_mem (noQuote : '"' ∉ name) : quotesEscaped name = name := by
  induction name with
  | nil => rfl
  | cons c name ih =>
      rw [List.mem_cons, not_or] at noQuote
      rw [quotesEscaped_other (Ne.symm noQuote.1), ih noQuote.2]

theorem halves_quotesEscaped (name : List Char) :
    halves (quotesEscaped name) + name.count '\\' = 2 * name.length := by
  induction name with
  | nil => rfl
  | cons c name ih =>
      by_cases quote : c = '"'
      · subst quote
        rw [quotesEscaped_quote, halves_cons, halves_cons, if_pos (.inr rfl), if_pos (.inl rfl),
          List.count_cons_of_ne (by decide), List.length_cons]
        omega
      · rw [quotesEscaped_other quote, halves_cons, List.length_cons]
        by_cases mark : c = '\\'
        · subst mark
          rw [if_pos (.inr rfl), List.count_cons_self]
          omega
        · rw [if_neg (not_or.mpr ⟨quote, mark⟩), List.count_cons_of_ne mark]
          omega

theorem halves_eq (name : List Char) :
    halves name + name.count '\\' + name.count '"' = 2 * name.length := by
  induction name with
  | nil => rfl
  | cons c name ih =>
      rw [halves_cons, List.length_cons, List.count_cons, List.count_cons]
      split
      · rename_i special
        rcases special with rfl | rfl
        · rw [if_neg (by decide), if_pos (by decide)]
          omega
        · rw [if_pos (by decide), if_neg (by decide)]
          omega
      · rename_i ordinary
        rw [not_or] at ordinary
        rw [if_neg (by simp [ordinary.2]), if_neg (by simp [ordinary.1])]
        omega

theorem joinPieces?_map_char (name : List Char) : joinPieces? (name.map .char) = some name := by
  induction name with
  | nil => rfl
  | cons c name ih =>
      rw [List.map_cons, joinPieces?, ih]
      rfl

theorem reads_quotesEscaped
    (plain : ∀ c ∈ name, c = '"' ∨ rules.isPlain c = true) (rest : List Char) :
    rules.Reads (quotesEscaped name ++ '"' :: rest) (name.map .char) rest := by
  induction name with
  | nil => exact .closed rest
  | cons c name ih =>
      obtain ⟨first, others⟩ := List.forall_mem_cons.mp plain
      by_cases quote : c = '"'
      · subst quote
        exact .escape (rules.escape_quote _) (ih others)
      · rw [quotesEscaped_other quote]
        exact .plain (first.resolve_left quote) (ih others)

theorem Reads.of_other
    {c : Char} (notQuote : c ≠ '"') (notMark : c ≠ '\\')
    (reads : rules.Reads (c :: text) pieces rest) :
    rules.isPlain c = true ∧ ∃ others, rules.Reads text others rest := by
  cases reads with
  | closed => exact absurd rfl notQuote
  | plain isPlain others => exact ⟨isPlain, _, others⟩
  | escape => exact absurd rfl notMark

theorem Reads.of_escapedQuote (reads : rules.Reads ('\\' :: '"' :: text) pieces rest) :
    ∃ others, rules.Reads text others rest := by
  cases reads with
  | plain isPlain => exact absurd rules.backslash_not_plain (by simp [isPlain])
  | escape escape others =>
      rw [rules.escape_quote] at escape
      cases escape
      exact ⟨_, others⟩

theorem plain_of_reads
    (noMark : '\\' ∉ name) (reads : rules.Reads (quotesEscaped name ++ '"' :: rest) pieces rest) :
    ∀ c ∈ name, c = '"' ∨ rules.isPlain c = true := by
  induction name generalizing pieces with
  | nil =>
      intro c member
      exact absurd member List.not_mem_nil
  | cons c name ih =>
      rw [List.mem_cons, not_or] at noMark
      by_cases quote : c = '"'
      · subst quote
        obtain ⟨_, others⟩ := Reads.of_escapedQuote reads
        exact List.forall_mem_cons.mpr ⟨.inl rfl, ih noMark.2 others⟩
      · rw [quotesEscaped_other quote] at reads
        obtain ⟨isPlain, _, others⟩ := Reads.of_other quote (Ne.symm noMark.1) reads
        exact List.forall_mem_cons.mpr ⟨.inr isPlain, ih noMark.2 others⟩

/-- A text whose double quotes are escaped is read back exactly if it has no backslash and nothing
else that does not stand for itself. -/
theorem readsAs_quotesEscaped_iff :
    rules.ReadsAs (quotesEscaped name ++ '"' :: rest) name rest ↔
      ∀ c ∈ name, c = '"' ∨ rules.isPlain c = true := by
  constructor
  · intro readsAs
    -- A backslash of the text takes a half, and what it stands for would need a whole.
    have noMark : '\\' ∉ name := by
      have room := readsAs.length_le
      have given := halves_quotesEscaped name
      rw [← List.count_eq_zero]
      omega
    obtain ⟨_, reads, _⟩ := readsAs
    exact plain_of_reads noMark reads
  · intro plain
    exact ⟨_, reads_quotesEscaped plain rest, joinPieces?_map_char name⟩

/-- A text that is written as it is reads back exactly if all its characters stand for
themselves. -/
theorem readsAs_verbatim_iff :
    rules.ReadsAs (name ++ '"' :: rest) name rest ↔ ∀ c ∈ name, rules.isPlain c = true := by
  constructor
  · intro readsAs c member
    have noQuote : '"' ∉ name := by
      have room := readsAs.length_le
      have given := halves_eq name
      rw [← List.count_eq_zero]
      omega
    have escaped : rules.ReadsAs (quotesEscaped name ++ '"' :: rest) name rest := by
      rwa [quotesEscaped_of_not_mem noQuote]
    rcases readsAs_quotesEscaped_iff.mp escaped c member with rfl | isPlain
    · exact absurd member noQuote
    · exact isPlain
  · intro plain
    have noQuote : '"' ∉ name := by
      intro member
      have isPlain := plain _ member
      rw [rules.quote_not_plain] at isPlain
      exact Bool.false_ne_true isPlain
    have escaped : rules.ReadsAs (quotesEscaped name ++ '"' :: rest) name rest :=
      readsAs_quotesEscaped_iff.mpr fun c member => .inr (plain c member)
    rwa [quotesEscaped_of_not_mem noQuote] at escaped

end QuotationRules

/-! ## Texts in Prisma -/

namespace Prisma

/-- What a backslash and the text after it stand for in JSON. -/
def escape? : List Char → Option (List Piece × List Char)
  | 'u' :: a :: b :: c :: d :: rest =>
      (hexWord? a b c d).map fun unit => ([.codeUnit unit], rest)
  | c :: rest => (Json.unescaped? c).map fun meant => ([.char meant], rest)
  | [] => none

theorem escape_takes
    {text rest : List Char} {pieces : List Piece} (escape : escape? text = some (pieces, rest)) :
    pieces.length ≤ 1 ∧ ∃ taken ≠ [], text = taken ++ rest := by
  unfold escape? at escape
  split at escape
  · obtain ⟨unit, _, same⟩ := Option.map_eq_some_iff.mp escape
    cases same
    exact ⟨Nat.le_refl 1, ['u', _, _, _, _], List.cons_ne_nil _ _, rfl⟩
  · obtain ⟨meant, _, same⟩ := Option.map_eq_some_iff.mp escape
    cases same
    exact ⟨Nat.le_refl 1, [_], List.cons_ne_nil _ _, rfl⟩
  · cases escape

/-- Texts in Prisma are those of JSON. -/
def rules : QuotationRules where
  isPlain c := 32 ≤ c.toNat && c != '"' && c != '\\'
  escape? := escape?
  quote_not_plain := rfl
  backslash_not_plain := rfl
  escape_quote _ := rfl
  escape_takes := escape_takes

theorem isPlain_iff {c : Char} :
    rules.isPlain c = true ↔ 32 ≤ c.toNat ∧ c ≠ '"' ∧ c ≠ '\\' := by
  simp only [rules, Bool.and_eq_true, decide_eq_true_eq, bne_iff_ne, and_assoc]

section

variable {text rest : List Char} {pieces : List Piece}

theorem readPieces?_of_reads (reads : rules.Reads text pieces rest) :
    Json.readPieces? text = some (pieces, rest) := by
  induction reads with
  | closed => rw [Json.readPieces?]
  | plain isPlain _ ih =>
      obtain ⟨printed, notQuote, notMark⟩ := isPlain_iff.mp isPlain
      rw [Json.readPieces?_plain notQuote notMark (Nat.not_lt.mpr printed), ih]
      rfl
  | @escape text after rest first pieces escape _ ih =>
      have escape : escape? text = some (first, after) := escape
      unfold escape? at escape
      split at escape
      · obtain ⟨unit, word, same⟩ := Option.map_eq_some_iff.mp escape
        cases same
        rw [Json.readPieces?, word, Option.bind_eq_bind, Option.bind_some, ih]
        rfl
      · obtain ⟨meant, found, same⟩ := Option.map_eq_some_iff.mp escape
        cases same
        rw [Json.readPieces?_short _ found, ih]
        · rfl
        · rintro rfl
          cases found
      · cases escape

theorem reads_of_readPieces? (read : Json.readPieces? text = some (pieces, rest)) :
    rules.Reads text pieces rest := by
  fun_induction Json.readPieces? text generalizing pieces with
  | case1 => cases read
  | case2 =>
      cases read
      exact .closed _
  | case3 a b c d after ih =>
      simp only [Option.bind_eq_bind, Option.bind_eq_some_iff, Option.some.injEq] at read
      obtain ⟨unit, word, ⟨others, left⟩, found, same⟩ := read
      cases same
      have escape : rules.escape? ('u' :: a :: b :: c :: d :: after) =
          some ([.codeUnit unit], after) :=
        congrArg (Option.map fun unit => ([Piece.codeUnit unit], after)) word
      exact .escape escape (ih found)
  | case4 e after notCode ih =>
      simp only [Option.bind_eq_bind, Option.bind_eq_some_iff, Option.some.injEq] at read
      obtain ⟨meant, known, ⟨others, left⟩, found, same⟩ := read
      cases same
      have escape : rules.escape? (e :: after) = some ([.char meant], after) := by
        change escape? (e :: after) = _
        rw [escape?, known]
        · rfl
        · exact notCode
      exact .escape escape (ih found)
  | case5 => cases read
  | case6 c after notQuote _ _ printed ih =>
      simp only [Option.bind_eq_bind, Option.bind_eq_some_iff, Option.some.injEq] at read
      obtain ⟨⟨others, left⟩, found, same⟩ := read
      cases same
      rw [not_or] at printed
      exact .plain (isPlain_iff.mpr ⟨Nat.not_lt.mp printed.1, notQuote, printed.2⟩) (ih found)

/-- The reader of JSON reads texts by these rules. -/
theorem readText?_eq_some_iff {value : String} :
    Json.readText? text = some (some value, rest) ↔ rules.ReadsAs text value.toList rest := by
  rw [Json.readText?, Option.map_eq_some_iff]
  constructor
  · rintro ⟨⟨pieces, left⟩, read, same⟩
    obtain ⟨joined, rfl⟩ := Prod.mk.inj same
    obtain ⟨chars, whole, rfl⟩ := Option.map_eq_some_iff.mp joined
    exact ⟨pieces, reads_of_readPieces? read, by rw [whole, String.toList_ofList]⟩
  · rintro ⟨pieces, reads, joined⟩
    refine ⟨(pieces, rest), readPieces?_of_reads reads, ?_⟩
    dsimp only
    rw [joined, Option.map_some, String.ofList_toList]

end

theorem undoubled_doubled (mark : Char) (text : List Char) :
    Text.undoubled mark (text.flatMap fun c => if c = mark then [mark, mark] else [c]) = text := by
  induction text with
  | nil => rfl
  | cons c text ih =>
      rw [List.flatMap_cons]
      by_cases same : c = mark
      · rw [if_pos same, List.cons_append, List.cons_append, List.nil_append, Text.undoubled,
          if_pos ⟨rfl, rfl⟩, ih, same]
      · rw [if_neg same, List.singleton_append]
        cases shape : text.flatMap fun c => if c = mark then [mark, mark] else [c] with
        | nil =>
            rw [shape] at ih
            rw [Text.undoubled, ← ih]
            rfl
        | cons d others => rw [Text.undoubled, if_neg (fun both => same both.1), ← shape, ih]

theorem trim_quoted (inner : List Char) : Text.trim ('\'' :: (inner ++ ['\''])) =
    '\'' :: (inner ++ ['\'']) := by
  have solid : Text.isBlank '\'' = false := rfl
  rw [Text.trim, Text.trimStart, List.dropWhile_cons_of_neg (by simp [solid]), Text.trimEnd,
    List.reverse_cons, List.reverse_append, List.reverse_singleton, List.singleton_append,
    List.cons_append, List.dropWhile_cons_of_neg (by simp [solid]), ← List.cons_append]
  simp

theorem upperCase_quoted_ne
    (text : List Char) {word : String} (unquoted : word.toList.head? ≠ some '\'') :
    Text.upperCase (String.ofList ('\'' :: text)) ≠ word := by
  rintro rfl
  apply unquoted
  rw [Text.upperCase, String.toList_ofList, String.toList_ofList, List.flatMap_cons]
  rfl

theorem isNumeral_quoted (text : List Char) : isNumeral ('\'' :: text) = false := by
  have notWord (word : String) (unquoted : word.toList.head? ≠ some '\'') :
      (String.ofList (('\'' :: text).map Char.toLower) == word) = false := by
    apply beq_false_of_ne
    rintro rfl
    apply unquoted
    rw [String.toList_ofList]
    rfl
  have unsigned : afterSign ('\'' :: text) = '\'' :: text := rfl
  have noDigits : ('\'' :: text).takeWhile Char.isDigit = [] := rfl
  have noPoint : ('\'' :: text).dropWhile Char.isDigit = '\'' :: text := rfl
  rw [isNumeral]
  simp only [unsigned, noDigits, noPoint, notWord "inf" (by decide),
    notWord "infinity" (by decide), notWord "nan" (by decide)]
  rfl

/-- The default of a column that is a literal in SQL is a text in Prisma. -/
theorem defaultExpression_quotedLiteral (s : String) :
    defaultExpression (quotedLiteral s) = quotedText s.toList := by
  have literal := Sql.Writes.toList_quotedLiteral s
  rw [Sql.quotedText] at literal
  have inner := undoubled_doubled '\'' s.toList
  generalize (s.toList.flatMap fun c => if c = '\'' then ['\'', '\''] else [c]) = doubled
    at literal inner
  have unquoted : unquoted? ('\'' :: (doubled ++ ['\''])) = some doubled := by
    rw [unquoted?, List.getLast?_concat, if_pos rfl, List.dropLast_concat]
  have notWord (word : String) (unquoted : word.toList.head? ≠ some '\'') :
      Text.upperCase (String.ofList ('\'' :: (doubled ++ ['\'']))) ≠ word :=
    upperCase_quoted_ne _ unquoted
  rw [defaultExpression, literal, trim_quoted, isNumeral_quoted, unquoted]
  simp only [notWord "CURRENT_TIMESTAMP" (by decide), notWord "NOW()" (by decide),
    notWord "CURRENT_TIMESTAMP()" (by decide), notWord "TRUE" (by decide),
    notWord "FALSE" (by decide), inner, or_false, if_false, Bool.false_eq_true]

/-- The text in double quotes at the start of a text, and what follows it. -/
def readString? : List Char → Option (Option String × List Char)
  | '"' :: text => Json.readText? text
  | _ => none

theorem readString?_quotedText_iff {s : String} {rest : List Char} :
    readString? ((quotedText s.toList).toList ++ rest) = some (some s, rest) ↔
      ∀ c ∈ s.toList, 32 ≤ c.toNat ∧ c ≠ '\\' := by
  have shape : (quotedText s.toList).toList ++ rest =
      '"' :: (QuotationRules.quotesEscaped s.toList ++ '"' :: rest) := by
    rw [quotedText, String.ofList_toList, QuotationRules.toList_escaped, List.cons_append,
      List.append_assoc]
    rfl
  rw [shape, readString?, readText?_eq_some_iff, QuotationRules.readsAs_quotesEscaped_iff]
  refine forall₂_congr fun c _ => ?_
  rw [isPlain_iff]
  constructor
  · rintro (rfl | ⟨printed, _, notMark⟩)
    · decide
    · exact ⟨printed, notMark⟩
  · rintro ⟨printed, notMark⟩
    by_cases quote : c = '"'
    · exact .inl quote
    · exact .inr ⟨printed, quote, notMark⟩

theorem readString?_verbatim_iff {s : String} {rest : List Char} :
    readString? (("\"" ++ s ++ "\"").toList ++ rest) = some (some s, rest) ↔
      ∀ c ∈ s.toList, 32 ≤ c.toNat ∧ c ≠ '"' ∧ c ≠ '\\' := by
  have shape : ("\"" ++ s ++ "\"").toList ++ rest = '"' :: (s.toList ++ '"' :: rest) := by
    simp
  rw [shape, readString?, readText?_eq_some_iff, QuotationRules.readsAs_verbatim_iff]
  exact forall₂_congr fun c _ => isPlain_iff

/-- The model of a table whose name is another one ends with the name in double quotes. -/
theorem exists_model_eq
    {table : Table} (different : Identifier.pascalCase table.name ≠ table.name) :
    ∃ before, model table =
      before ++ "\n  @@map(" ++ ("\"" ++ table.name ++ "\"") ++ ")\n\x7d\n" := by
  have opened : "\n  @@map(\"" = "\n  @@map(" ++ "\"" := by decide
  have closed : "\")\n" = "\"" ++ ")\n" := by decide
  have ended : ")\n\x7d\n" = ")\n" ++ "\x7d\n" := by decide
  let name := Identifier.pascalCase table.name
  let nameWidth := widest (table.columns.map fun column => column.name)
  let typeWidth := widest (table.columns.map fieldType)
  refine ⟨"\nmodel " ++ name ++ " \x7b\n" ++
    String.join (table.columns.map (field nameWidth typeWidth)), ?_⟩
  unfold model
  dsimp only
  rw [if_neg different, opened, closed, ended]
  simp only [String.append_assoc]
  rfl

end Prisma

/-! ## Property names in TypeScript -/

namespace TypeScript

/-- The characters that end a line. -/
def isLineBreak (c : Char) : Bool :=
  c == '\n' || c == '\r' || c.toNat == 0x2028 || c.toNat == 0x2029

/-- The character that a backslash and one other character stand for. -/
def unescaped? (c : Char) : Option Char :=
  if c = 'b' then some (Char.ofNat 8)
  else if c = 't' then some '\t'
  else if c = 'n' then some '\n'
  else if c = 'v' then some (Char.ofNat 11)
  else if c = 'f' then some (Char.ofNat 12)
  else if c = 'r' then some '\r'
  else if c.isDigit ∨ c = 'x' ∨ c = 'u' then none
  else some c

/-- The piece that a code point is written as. -/
def codePoint? (code : Nat) : Option Piece :=
  if code < 0x10000 then some (.codeUnit code)
  else if code ≤ 0x10FFFF then some (.char (Char.ofNat code))
  else none

/-- What a backslash and the text after it stand for.  A backslash at the end of a line joins the
line to the next one. -/
def escape? : List Char → Option (List Piece × List Char)
  | 'x' :: a :: b :: rest => do
      let high ← hexValue? a
      let low ← hexValue? b
      some ([.codeUnit (high * 16 + low)], rest)
  | 'u' :: '\x7b' :: text =>
      let digits := text.takeWhile fun c => (hexValue? c).isSome
      match text.dropWhile fun c => (hexValue? c).isSome with
      | '\x7d' :: rest =>
          if digits.isEmpty then none
          else
            (codePoint? (digits.foldl (fun code c => code * 16 + (hexValue? c).getD 0) 0)).map
              fun piece => ([piece], rest)
      | _ => none
  | 'u' :: a :: b :: c :: d :: rest =>
      (hexWord? a b c d).map fun unit => ([.codeUnit unit], rest)
  | '0' :: rest =>
      if (rest.head?.any Char.isDigit) then none else some ([.char (Char.ofNat 0)], rest)
  | '\r' :: '\n' :: rest => some ([], rest)
  | c :: rest =>
      if isLineBreak c then some ([], rest)
      else (unescaped? c).map fun meant => ([.char meant], rest)
  | [] => none

theorem escape_takes
    {text rest : List Char} {pieces : List Piece} (escape : escape? text = some (pieces, rest)) :
    pieces.length ≤ 1 ∧ ∃ taken ≠ [], text = taken ++ rest := by
  unfold escape? at escape
  split at escape
  · simp only [Option.bind_eq_bind, Option.bind_eq_some_iff, Option.some.injEq] at escape
    obtain ⟨high, _, low, _, same⟩ := escape
    cases same
    exact ⟨Nat.le_refl 1, ['x', _, _], List.cons_ne_nil _ _, rfl⟩
  · rename_i text
    dsimp only at escape
    split at escape
    · rename_i left ends
      have whole := List.takeWhile_append_dropWhile (p := fun c => (hexValue? c).isSome) (l := text)
      rw [ends] at whole
      split at escape
      · cases escape
      · obtain ⟨piece, _, same⟩ := Option.map_eq_some_iff.mp escape
        cases same
        refine ⟨Nat.le_refl 1,
          'u' :: '\x7b' :: (text.takeWhile (fun c => (hexValue? c).isSome) ++ ['\x7d']),
          List.cons_ne_nil _ _, ?_⟩
        rw [List.cons_append, List.cons_append, List.append_assoc, List.singleton_append, whole]
    · cases escape
  · obtain ⟨unit, _, same⟩ := Option.map_eq_some_iff.mp escape
    cases same
    exact ⟨Nat.le_refl 1, ['u', _, _, _, _], List.cons_ne_nil _ _, rfl⟩
  · split at escape
    · cases escape
    · cases escape
      exact ⟨Nat.le_refl 1, ['0'], List.cons_ne_nil _ _, rfl⟩
  · cases escape
    exact ⟨Nat.zero_le 1, ['\r', '\n'], List.cons_ne_nil _ _, rfl⟩
  · split at escape
    · cases escape
      exact ⟨Nat.zero_le 1, [_], List.cons_ne_nil _ _, rfl⟩
    · obtain ⟨meant, _, same⟩ := Option.map_eq_some_iff.mp escape
      cases same
      exact ⟨Nat.le_refl 1, [_], List.cons_ne_nil _ _, rfl⟩
  · cases escape

/-- Texts in TypeScript are those of strict scripts. -/
def rules : QuotationRules where
  isPlain c := c != '"' && c != '\\' && c != '\n' && c != '\r'
  escape? := escape?
  quote_not_plain := rfl
  backslash_not_plain := rfl
  escape_quote _ := rfl
  escape_takes := escape_takes

theorem isPlain_iff {c : Char} :
    rules.isPlain c = true ↔ c ≠ '"' ∧ c ≠ '\\' ∧ c ≠ '\n' ∧ c ≠ '\r' := by
  simp only [rules, Bool.and_eq_true, bne_iff_ne, and_assoc]

/-- A property name at the start of a text is read as a value: a name that is an identifier, up to
the first character that cannot belong to it, or a text in double quotes. -/
inductive ReadsName : List Char → String → List Char → Prop where
  | bare {first : Char} {parts rest : List Char} (start : isNameStart first = true)
      (isParts : parts.all isNamePart = true)
      (ended : ∀ c ∈ rest.head?, isNamePart c = false) :
      ReadsName (first :: (parts ++ rest)) (String.ofList (first :: parts)) rest
  | quoted {text rest : List Char} {name : String}
      (readsAs : rules.ReadsAs text name.toList rest) : ReadsName ('"' :: text) name rest

theorem readsName_quoted_iff {text rest : List Char} {name : String} :
    ReadsName ('"' :: text) name rest ↔ rules.ReadsAs text name.toList rest := by
  constructor
  · intro reads
    cases reads with
    | bare start => exact absurd start (by decide)
    | quoted readsAs => exact readsAs
  · exact .quoted

theorem ne_of_isNamePart {c : Char} (isPart : isNamePart c = true) :
    c ≠ '\\' ∧ c ≠ '\n' ∧ c ≠ '\r' := by
  refine ⟨?_, ?_, ?_⟩ <;>
    · rintro rfl
      exact absurd isPart (by decide)

theorem isNamePart_of_isNameStart {c : Char} (start : isNameStart c = true) :
    isNamePart c = true := by
  simp only [isNameStart, isNamePart, Char.isAlphanum, Bool.or_eq_true] at start ⊢
  tauto

theorem propertyName_cases (name : String) :
    (∃ first parts, name.toList = first :: parts ∧ isNameStart first = true ∧
        parts.all isNamePart = true ∧ propertyName name = name) ∨
      (propertyName name).toList = '"' :: (QuotationRules.quotesEscaped name.toList ++ ['"']) := by
  unfold propertyName
  split
  · rename_i first parts shape
    split
    · rename_i identifier
      rw [Bool.and_eq_true] at identifier
      exact .inl ⟨first, parts, shape, identifier.1, identifier.2, rfl⟩
    · exact .inr (QuotationRules.toList_escaped name)
  · rename_i empty
    right
    rw [empty]
    rfl

/-- A property name reads back exactly if it has no backslash and no end of a line. -/
theorem readsName_propertyName_iff
    {name : String} {rest : List Char} (ended : ∀ c ∈ rest.head?, isNamePart c = false) :
    ReadsName ((propertyName name).toList ++ rest) name rest ↔
      ∀ c ∈ name.toList, c ≠ '\\' ∧ c ≠ '\n' ∧ c ≠ '\r' := by
  rcases propertyName_cases name with ⟨first, parts, shape, start, isParts, same⟩ | quoted
  · have allParts : ∀ c ∈ name.toList, isNamePart c = true := by
      rw [shape]
      exact List.forall_mem_cons.mpr
        ⟨isNamePart_of_isNameStart start, List.all_eq_true.mp isParts⟩
    have reads : ReadsName (name.toList ++ rest) name rest := by
      have bare := ReadsName.bare start isParts ended
      rwa [← shape, String.ofList_toList, ← List.cons_append, ← shape] at bare
    rw [same]
    exact ⟨fun _ c member => ne_of_isNamePart (allParts c member), fun _ => reads⟩
  · rw [quoted, List.cons_append, List.append_assoc, List.singleton_append, readsName_quoted_iff,
      QuotationRules.readsAs_quotesEscaped_iff]
    refine forall₂_congr fun c _ => ?_
    rw [isPlain_iff]
    constructor
    · rintro (rfl | ⟨_, ordinary⟩)
      · decide
      · exact ordinary
    · intro ordinary
      by_cases quote : c = '"'
      · exact .inl quote
      · exact .inr ⟨quote, ordinary⟩

/-- In the line of a column the property name stands between two blanks and a mark. -/
theorem toList_property (column : Column) :
    ∃ mark ∈ ['?', ':'], ∃ after, (property column).toList =
      ' ' :: ' ' :: ((propertyName column.name).toList ++ mark :: after) := by
  cases nullable : column.nullable with
  | true =>
      refine ⟨'?', by decide,
        (": " ++ TypeTable.typeScript.lookup column.dataType "string" ++ ";\n").toList, ?_⟩
      simp [property, nullable]
  | false =>
      refine ⟨':', by decide,
        (" " ++ TypeTable.typeScript.lookup column.dataType "string" ++ ";\n").toList, ?_⟩
      simp [property, nullable]

end TypeScript

/-! ## Arguments in SQL Server -/

namespace SqlServer

/-- The arguments of a call are texts in single quotes with commas between them, up to the end of
the statement. -/
inductive ReadsArguments : List Char → List String → Prop where
  | last {text : List Char} {value : String}
      (read : Sql.readQuoted? '\'' text = some (value.toList, [';'])) :
      ReadsArguments ('\'' :: text) [value]
  | more {text rest : List Char} {value : String} {values : List String}
      (read : Sql.readQuoted? '\'' text = some (value.toList, ',' :: ' ' :: rest))
      (others : ReadsArguments rest values) :
      ReadsArguments ('\'' :: text) (value :: values)

/-- Texts in single quotes that are written as they are, as the arguments of a call. -/
def argumentsText : List String → List Char
  | [] => [';']
  | [value] => '\'' :: (value.toList ++ '\'' :: [';'])
  | value :: values => '\'' :: (value.toList ++ '\'' :: ',' :: ' ' :: argumentsText values)

theorem ReadsArguments.length_eq {text : List Char} {values : List String}
    (reads : ReadsArguments text values) :
    text.length + 1 = (values.map fun value => value.toList.length + 4).sum +
      (values.map fun value => value.toList.count '\'').sum := by
  induction reads with
  | last read =>
      have room := Sql.Lexer.length_add_count_of_readQuoted? read
      simp only [List.length_cons, List.length_nil, List.map_cons, List.map_nil, List.sum_cons,
        List.sum_nil] at room ⊢
      omega
  | more read _ ih =>
      have room := Sql.Lexer.length_add_count_of_readQuoted? read
      simp only [List.length_cons, List.map_cons, List.sum_cons] at room ih ⊢
      omega

theorem length_argumentsText {values : List String} (nonempty : values ≠ []) :
    (argumentsText values).length + 1 = (values.map fun value => value.toList.length + 4).sum := by
  fun_induction argumentsText values with
  | case1 => exact absurd rfl nonempty
  | case2 value => simp
  | case3 value values several ih =>
      have length := ih several
      simp only [List.length_cons, List.length_append, List.map_cons, List.sum_cons]
      omega

theorem readsArguments_of_unquoted
    {values : List String} (nonempty : values ≠ [])
    (unquoted : ∀ value ∈ values, '\'' ∉ value.toList) :
    ReadsArguments (argumentsText values) values := by
  fun_induction argumentsText values with
  | case1 => exact absurd rfl nonempty
  | case2 value =>
      have noQuote := unquoted value List.mem_cons_self
      exact .last (Sql.Lexer.readQuoted?_inner noQuote (by decide))
  | case3 value values several ih =>
      obtain ⟨noQuote, others⟩ := List.forall_mem_cons.mp unquoted
      have separated : (',' :: ' ' :: argumentsText values).head? ≠ some '\'' := by simp
      exact .more (Sql.Lexer.readQuoted?_inner noQuote separated) (ih several others)

/-- Arguments read back exactly if no single quote stands in any of them. -/
theorem readsArguments_iff {values : List String} (nonempty : values ≠ []) :
    ReadsArguments (argumentsText values) values ↔ ∀ value ∈ values, '\'' ∉ value.toList := by
  constructor
  · -- A quote that is read was written twice, for which the text has no room.
    intro reads value member
    have noQuotes : (values.map fun value => value.toList.count '\'').sum = 0 := by
      have taken := reads.length_eq
      have given := length_argumentsText nonempty
      omega
    rw [List.sum_eq_zero_iff_forall_eq_nat] at noQuotes
    exact List.count_eq_zero.mp (noQuotes _ (List.mem_map_of_mem member))
  · exact readsArguments_of_unquoted nonempty

theorem toList_renameTable (old new : String) :
    (Ddl.renameTable .sqlServer old new).toList =
      "EXEC sp_rename ".toList ++ argumentsText [old, new] := by
  have opened : "EXEC sp_rename '".toList = "EXEC sp_rename ".toList ++ ['\''] := by decide
  have between : "', '".toList = ['\'', ',', ' ', '\''] := by decide
  have closed : "';".toList = ['\'', ';'] := by decide
  unfold Ddl.renameTable
  simp only [String.toList_append, opened, between, closed, argumentsText, List.append_assoc,
    List.cons_append, List.nil_append]

theorem toList_renameColumn (table old new : String) :
    (Ddl.renameColumn .sqlServer table old new).toList =
      "EXEC sp_rename ".toList ++ argumentsText [table ++ "." ++ old, new, "COLUMN"] := by
  have opened : "EXEC sp_rename '".toList = "EXEC sp_rename ".toList ++ ['\''] := by decide
  have between : "', '".toList = ['\'', ',', ' ', '\''] := by decide
  have closed : "', 'COLUMN';".toList =
      ['\'', ',', ' ', '\''] ++ ("COLUMN".toList ++ ['\'', ';']) := by
    decide
  unfold Ddl.renameColumn
  simp only [String.toList_append, opened, between, closed, argumentsText, List.append_assoc,
    List.cons_append, List.nil_append]

end SqlServer

/-! ## All literals -/

/-- The literals that the exports write read back exactly if the texts have none of some characters:
backslashes and ends of lines in a property name, backslashes and control characters in a default,
these and double quotes in the name that a model is mapped to, and single quotes in what is
renamed. -/
theorem literals_read_back_iff
    (column : Column) (s : String) {table : Table}
    (mapped : Identifier.pascalCase table.name ≠ table.name) (owner old new : String)
    (after : List Char) :
    (∃ mark ∈ ['?', ':'], ∃ rest,
      (TypeScript.property column).toList =
        ' ' :: ' ' :: ((TypeScript.propertyName column.name).toList ++ mark :: rest) ∧
      (TypeScript.ReadsName ((TypeScript.propertyName column.name).toList ++ mark :: rest)
          column.name (mark :: rest) ↔
        ∀ c ∈ column.name.toList, c ≠ '\\' ∧ c ≠ '\n' ∧ c ≠ '\r')) ∧
    (Prisma.readString? ((Prisma.defaultExpression (quotedLiteral s)).toList ++ after) =
        some (some s, after) ↔
      ∀ c ∈ s.toList, 32 ≤ c.toNat ∧ c ≠ '\\') ∧
    (∃ before, Prisma.model table =
        before ++ "\n  @@map(" ++ ("\"" ++ table.name ++ "\"") ++ ")\n\x7d\n" ∧
      (Prisma.readString? (("\"" ++ table.name ++ "\"").toList ++ after) =
          some (some table.name, after) ↔
        ∀ c ∈ table.name.toList, 32 ≤ c.toNat ∧ c ≠ '"' ∧ c ≠ '\\')) ∧
    (∃ arguments,
      (Ddl.renameTable .sqlServer old new).toList = "EXEC sp_rename ".toList ++ arguments ∧
      (SqlServer.ReadsArguments arguments [old, new] ↔
        '\'' ∉ old.toList ∧ '\'' ∉ new.toList)) ∧
    ∃ arguments,
      (Ddl.renameColumn .sqlServer owner old new).toList = "EXEC sp_rename ".toList ++ arguments ∧
      (SqlServer.ReadsArguments arguments [owner ++ "." ++ old, new, "COLUMN"] ↔
        '\'' ∉ owner.toList ∧ '\'' ∉ old.toList ∧ '\'' ∉ new.toList) := by
  refine ⟨?_, ?_, ?_, ?_, ?_⟩
  · obtain ⟨mark, isMark, rest, shape⟩ := TypeScript.toList_property column
    refine ⟨mark, isMark, rest, shape, TypeScript.readsName_propertyName_iff ?_⟩
    intro c next
    cases next
    simp only [List.mem_cons, List.not_mem_nil, or_false] at isMark
    rcases isMark with rfl | rfl
    · rfl
    · rfl
  · rw [Prisma.defaultExpression_quotedLiteral, Prisma.readString?_quotedText_iff]
  · obtain ⟨before, shape⟩ := Prisma.exists_model_eq mapped
    exact ⟨before, shape, Prisma.readString?_verbatim_iff⟩
  · refine ⟨_, SqlServer.toList_renameTable old new, ?_⟩
    rw [SqlServer.readsArguments_iff (List.cons_ne_nil _ _)]
    simp
  · refine ⟨_, SqlServer.toList_renameColumn owner old new, ?_⟩
    rw [SqlServer.readsArguments_iff (List.cons_ne_nil _ _)]
    simp [and_assoc]

theorem literals_read_back_shop :
    let items : Table :=
      { id := ⟨0⟩
        name := "order_items"
        columns := []
        position := default
        rowCount := 0
        rows := [] }
    Identifier.pascalCase items.name ≠ items.name ∧
      Prisma.readString? (("\"" ++ items.name ++ "\"").toList ++ [')']) =
        some (some "order_items", [')']) ∧
      Prisma.readString?
          ((Prisma.defaultExpression (quotedLiteral "it's \"new\"")).toList ++ [')']) =
        some (some "it's \"new\"", [')']) := by
  intro items
  have different : Identifier.pascalCase items.name ≠ items.name := by decide
  obtain ⟨_, default, ⟨_, _, mapped⟩, _⟩ :=
    literals_read_back_iff { name := "id", dataType := "INT", id := ⟨1⟩ } "it's \"new\"" different
      "shop" "items" "order_items" [')']
  exact ⟨different, mapped.mpr (by simp [items]), default.mpr (by simp)⟩

/-- A backslash is not escaped in a property name and in a default, nothing is in the name that a
model is mapped to, and a single quote is not doubled in what is renamed. -/
theorem unescaped_marks :
    TypeScript.propertyName "a\\b" = "\"a\\b\"" ∧
      TypeScript.ReadsName "\"a\\b\"".toList "a\x08" [] ∧
      ¬ TypeScript.ReadsName "\"a\\b\"".toList "a\\b" [] ∧
      Prisma.readString? (Prisma.defaultExpression (quotedLiteral "a\\b")).toList =
        some (some "a\x08", []) ∧
      Prisma.readString? "\"a\"b\"".toList = some (some "a", ['b', '"']) ∧
      Ddl.renameTable .sqlServer "o'brien" "people" = "EXEC sp_rename 'o'brien', 'people';" ∧
      ¬ SqlServer.ReadsArguments "'o'brien', 'people';".toList ["o'brien", "people"] := by
  have escaped : TypeScript.rules.ReadsAs ['a', '\\', 'b', '"'] "a\x08".toList [] := by
    have letter : TypeScript.rules.Reads ['\\', 'b', '"'] ([.char (Char.ofNat 8)] ++ []) [] :=
      .escape rfl (.closed [])
    exact ⟨[.char 'a', .char (Char.ofNat 8)], .plain rfl letter, rfl⟩
  refine ⟨by decide, .quoted escaped, ?_, by decide, by decide, by decide, ?_⟩
  · intro reads
    have other := (TypeScript.readsName_quoted_iff.mp reads).unique escaped
    exact absurd other.1 (by decide)
  · intro reads
    have text : "'o'brien', 'people';".toList = SqlServer.argumentsText ["o'brien", "people"] := by
      decide
    rw [text, SqlServer.readsArguments_iff (List.cons_ne_nil _ _)] at reads
    exact absurd (reads "o'brien" List.mem_cons_self) (by decide)

end SchemaDesign.Export
