import SchemaDesign.Proofs.Ddl.LeadingColumns

/-!
# Quoted names that are read again

A name in quotes, and a list of such names, is read from a text exactly if the text begins with what
is written for it and does not go on with it afterwards.
-/

namespace SchemaDesign

theorem Text.afterStart?_eq_none_iff {start text : List Char} :
    afterStart? start text = none ↔ ¬ start <+: text := by
  rw [← startsWith_iff_isPrefix, startsWith]
  simp

namespace Sql.Lexer

/-- A quotation that is read is the one that is written for what it stands for, and ends at a mark
behind which there is no other. -/
theorem eq_append_of_readQuoted?
    {mark : Char} {text inner after : List Char}
    (read : readQuoted? mark text = some (inner, after)) :
    text = inner.flatMap (fun c => if c = mark then [mark, mark] else [c]) ++ [mark] ++ after ∧
      after.head? ≠ some mark := by
  fun_induction readQuoted? mark text generalizing inner with
  | case1 => cases read
  | case2 =>
      cases read
      exact ⟨rfl, by simp⟩
  | case3 text ih =>
      obtain ⟨⟨later, left⟩, found, same⟩ := Option.map_eq_some_iff.mp read
      cases same
      obtain ⟨split, next⟩ := ih found
      refine ⟨?_, next⟩
      rw [split, List.flatMap_cons, if_pos rfl]
      rfl
  | case4 c text different =>
      cases read
      refine ⟨rfl, ?_⟩
      simpa using different
  | case5 c text different ih =>
      obtain ⟨⟨later, left⟩, found, same⟩ := Option.map_eq_some_iff.mp read
      cases same
      obtain ⟨split, next⟩ := ih found
      refine ⟨?_, next⟩
      rw [split, List.flatMap_cons, if_neg different]
      rfl

end Sql.Lexer

namespace Dialect

variable {dialect : Dialect} {text rest : List Char} {name : String} {names : List String}

/-! ## One name -/

theorem quoted?_eq_some_iff :
    dialect.quoted? text = some (name, rest) ↔
      text = (dialect.quote name).toList ++ rest ∧ rest.head? ≠ some dialect.quotes.2 := by
  constructor
  · intro read
    obtain ⟨inner, opened, read⟩ := Option.bind_eq_some_iff.mp read
    obtain ⟨⟨chars, left⟩, read, same⟩ := Option.bind_eq_some_iff.mp read
    cases same
    obtain ⟨split, next⟩ := Sql.Lexer.eq_append_of_readQuoted? read
    refine ⟨?_, next⟩
    rw [Text.eq_append_of_afterStart? opened, split]
    simp [quote, Sql.Writes.toList_doubled]
  · rintro ⟨rfl, next⟩
    exact dialect.quoted?_quote name next

theorem length_of_quoted? (read : dialect.quoted? text = some (name, rest)) :
    rest.length < text.length := by
  rw [(quoted?_eq_some_iff.mp read).1, quote]
  simp only [String.toList_append, String.toList_singleton, List.length_append,
    List.length_singleton]
  omega

/-! ## Names with commas between them -/

set_option linter.unusedVariables false in
/-- The names in quotes at the start of a text, of which there is at least one, with commas between
them, and what follows them. -/
def quotedNamesFrom? (dialect : Dialect) (text : List Char) :
    Option (List String × List Char) :=
  match read : dialect.quoted? text with
  | none => none
  | some (name, rest) =>
      match comma : Text.afterStart? [',', ' '] rest with
      | none => some ([name], rest)
      | some more =>
          (dialect.quotedNamesFrom? more).map fun found => (name :: found.1, found.2)
termination_by text.length
decreasing_by
  have := length_of_quoted? read
  have := Text.length_of_afterStart? comma
  omega

/-- The names in quotes at the start of a text, with commas between them, and what follows them.
There are none where no quote is opened. -/
def quotedNames? (dialect : Dialect) (text : List Char) : Option (List String × List Char) :=
  if text.head? = some dialect.quotes.1 then dialect.quotedNamesFrom? text else some ([], text)

/-- A list of names does not go on with what follows it. -/
def Ends (dialect : Dialect) : List String → List Char → Prop
  | [], rest => rest.head? ≠ some dialect.quotes.1
  | _ :: _, rest => rest.head? ≠ some dialect.quotes.2 ∧ ¬ [',', ' '] <+: rest

theorem toList_quoteList_singleton :
    (dialect.quoteList [name]).toList = (dialect.quote name).toList := by
  simp [quoteList]

theorem toList_quoteList_cons {next : String} :
    (dialect.quoteList (name :: next :: names)).toList =
      (dialect.quote name).toList ++
        ([',', ' '] ++ (dialect.quoteList (next :: names)).toList) := by
  simp [quoteList]

theorem quotes_ne_comma (dialect : Dialect) : ',' ≠ dialect.quotes.2 := by
  cases dialect with
  | _ => decide

theorem of_quotedNamesFrom? (read : dialect.quotedNamesFrom? text = some (names, rest)) :
    names ≠ [] ∧ text = (dialect.quoteList names).toList ++ rest ∧ dialect.Ends names rest := by
  fun_induction quotedNamesFrom? dialect text generalizing names with
  | case1 => cases read
  | case2 text name after found noComma =>
      cases read
      obtain ⟨split, next⟩ := quoted?_eq_some_iff.mp found
      refine ⟨List.cons_ne_nil _ _, ?_, next, Text.afterStart?_eq_none_iff.mp noComma⟩
      rw [toList_quoteList_singleton]
      exact split
  | case3 text name after found more comma ih =>
      obtain ⟨⟨others, left⟩, later, same⟩ := Option.map_eq_some_iff.mp read
      cases same
      obtain ⟨nonempty, whole, ends⟩ := ih later
      obtain ⟨split, _⟩ := quoted?_eq_some_iff.mp found
      cases others with
      | nil => exact absurd rfl nonempty
      | cons next others =>
          refine ⟨List.cons_ne_nil _ _, ?_, ends⟩
          rw [split, Text.eq_append_of_afterStart? comma, whole, toList_quoteList_cons]
          simp only [List.append_assoc]

theorem quotedNamesFrom?_last
    (read : dialect.quoted? text = some (name, rest))
    (noComma : Text.afterStart? [',', ' '] rest = none) :
    dialect.quotedNamesFrom? text = some ([name], rest) := by
  rw [quotedNamesFrom?]
  split
  · simp_all
  · split <;> simp_all

theorem quotedNamesFrom?_comma {more : List Char}
    (read : dialect.quoted? text = some (name, [',', ' '] ++ more)) :
    dialect.quotedNamesFrom? text =
      (dialect.quotedNamesFrom? more).map fun found => (name :: found.1, found.2) := by
  have comma := Text.afterStart?_self [',', ' '] more
  rw [quotedNamesFrom?]
  split
  · simp_all
  · split <;> simp_all

theorem quotedNamesFrom?_quoteList (nonempty : names ≠ []) (ends : dialect.Ends names rest) :
    dialect.quotedNamesFrom? ((dialect.quoteList names).toList ++ rest) = some (names, rest) := by
  induction names with
  | nil => exact absurd rfl nonempty
  | cons name names ih =>
      cases names with
      | nil =>
          rw [toList_quoteList_singleton]
          exact quotedNamesFrom?_last (dialect.quoted?_quote name ends.1)
            (Text.afterStart?_eq_none_iff.mpr ends.2)
      | cons next others =>
          let more := (dialect.quoteList (next :: others)).toList ++ rest
          have read : dialect.quoted? ((dialect.quote name).toList ++ ([',', ' '] ++ more)) =
              some (name, [',', ' '] ++ more) :=
            dialect.quoted?_quote name fun same => dialect.quotes_ne_comma (Option.some.inj same)
          rw [toList_quoteList_cons, List.append_assoc, List.append_assoc,
            quotedNamesFrom?_comma read, ih (List.cons_ne_nil _ _) ends]
          rfl

theorem head?_quoteList_cons :
    (dialect.quoteList (name :: names)).toList.head? = some dialect.quotes.1 := by
  cases names with
  | nil => simp [toList_quoteList_singleton, quote]
  | cons next others => simp [toList_quoteList_cons, quote]

theorem quotedNames?_eq_some_iff :
    dialect.quotedNames? text = some (names, rest) ↔
      text = (dialect.quoteList names).toList ++ rest ∧ dialect.Ends names rest := by
  rw [quotedNames?]
  constructor
  · intro read
    split at read
    · obtain ⟨_, whole, ends⟩ := of_quotedNamesFrom? read
      exact ⟨whole, ends⟩
    · rename_i unopened
      cases read
      exact ⟨rfl, unopened⟩
  · rintro ⟨rfl, ends⟩
    cases names with
    | nil =>
        have unopened : ¬ rest.head? = some dialect.quotes.1 := ends
        exact if_neg unopened
    | cons name names =>
        rw [List.head?_append, head?_quoteList_cons]
        exact (if_pos rfl).trans (quotedNamesFrom?_quoteList (List.cons_ne_nil _ _) ends)

/-- Names in quotes are read as they were written, where the text does not go on with the last of
them or with another one; and nothing else is read as names in quotes. -/
theorem quoted_names_read (dialect : Dialect) (text rest : List Char) :
    (∀ name, dialect.quoted? text = some (name, rest) ↔
      text = (dialect.quote name).toList ++ rest ∧ rest.head? ≠ some dialect.quotes.2) ∧
    ∀ names, dialect.quotedNames? text = some (names, rest) ↔
      text = (dialect.quoteList names).toList ++ rest ∧ dialect.Ends names rest := by
  constructor
  · intro name
    exact quoted?_eq_some_iff
  · intro names
    exact quotedNames?_eq_some_iff

end Dialect

end SchemaDesign
