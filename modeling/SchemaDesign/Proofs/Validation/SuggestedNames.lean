import Mathlib.Data.List.DropRight
import SchemaDesign.Proofs.Schema.Places
import SchemaDesign.Proofs.Validation.ByRule

/-!
# Names that are suggested

Validation suggests other names for tables whose name is not conventional and for tables and columns
that are named like a reserved word.  A suggested name is never a reserved word.  It is conventional
unless the name hides a digit: digits at the start are taken away before underscores are, so a digit
behind an underscore comes to stand first.
-/

namespace SchemaDesign

namespace Text

/-- A text of which the first character is kept still begins with it when its ends are trimmed. -/
theorem exists_trimMatching_cons
    (drop : Char → Bool) {first : Char} (kept : drop first = false) (rest : List Char) :
    ∃ left, left <+: rest ∧ trimMatching drop (first :: rest) = first :: left := by
  have start : (first :: rest).dropWhile drop = first :: rest :=
    List.dropWhile_cons_of_neg (ne_true_of_eq_false kept)
  have trimmed : trimMatching drop (first :: rest) = (first :: rest).rdropWhile drop := by
    rw [trimMatching, start]
    rfl
  rw [trimmed]
  cases ended : (first :: rest).rdropWhile drop with
  | nil =>
      have dropped := List.rdropWhile_eq_nil_iff.mp ended first List.mem_cons_self
      rw [kept] at dropped
      cases dropped
  | cons head left =>
      obtain ⟨rfl, shorter⟩ := List.cons_prefix_cons.mp (ended ▸ List.rdropWhile_prefix drop _)
      exact ⟨left, shorter, rfl⟩

theorem mem_trimMatching
    (drop : Char → Bool) {c : Char} (kept : drop c = false) (text : List Char) :
    c ∈ trimMatching drop text ↔ c ∈ text := by
  have dropWhile {text : List Char} : c ∈ text.dropWhile drop ↔ c ∈ text := by
    induction text with
    | nil => rfl
    | cons first rest ih =>
        rw [List.dropWhile_cons]
        split
        · rename_i dropped
          have different : c ≠ first := by
            rintro rfl
            rw [kept] at dropped
            cases dropped
          rw [ih, List.mem_cons, or_iff_right different]
        · rfl
  rw [trimMatching, List.mem_reverse, dropWhile, List.mem_reverse, dropWhile]

theorem upperCase_append (left right : String) :
    upperCase (left ++ right) = upperCase left ++ upperCase right := by
  rw [upperCase, String.toList_append, List.flatMap_append, String.ofList_append]
  rfl

end Text

namespace Identifier

/-! ## Plain characters -/

section

variable {c : Char}

theorem toNat_lt_of_isAlphanum (plain : c.isAlphanum = true) : c.toNat < 128 := by
  delta Char.isAlphanum Char.isAlpha Char.isUpper Char.isLower Char.isDigit at plain
  simp only [Bool.or_eq_true, Bool.and_eq_true, decide_eq_true_eq, UInt32.le_iff_toNat_le,
    ge_iff_le] at plain
  have code : c.toNat = c.val.toNat := rfl
  have lastCapital : 'Z'.val.toNat = 90 := rfl
  have lastSmall : 'z'.val.toNat = 122 := rfl
  have lastDigit : '9'.val.toNat = 57 := rfl
  omega

/-- What is checked for the letters and digits among the first 128 characters holds of all. -/
theorem alphanum_induction
    {motive : Char → Prop}
    (checked : ∀ n < 128, (Char.ofNat n).isAlphanum = true → motive (Char.ofNat n))
    (plain : c.isAlphanum = true) : motive c := by
  have atCode := checked c.toNat (toNat_lt_of_isAlphanum plain)
  rw [Char.ofNat_toNat] at atCode
  exact atCode plain

theorem toLower_eq_self (notUpper : ¬ c.isUpper = true) : c.toLower = c :=
  dif_neg fun capital => notUpper (decide_eq_true capital)

variable (plain : c.isAlphanum = true)

include plain

theorem isBlank_eq_false : Text.isBlank c = false :=
  alphanum_induction (motive := fun c => Text.isBlank c = false) (by decide +kernel) plain

theorem isPlain_toLower : isPlain c.toLower = true :=
  alphanum_induction (motive := fun c => isPlain c.toLower = true) (by decide +kernel) plain

theorem toLower_beq_underscore : (c.toLower == '_') = false :=
  alphanum_induction (motive := fun c => (c.toLower == '_') = false) (by decide +kernel) plain

theorem isLower_toLower : c.toLower.isLower = !c.isDigit :=
  alphanum_induction (motive := fun c => c.toLower.isLower = !c.isDigit) (by decide +kernel) plain

theorem isDigit_toLower : c.toLower.isDigit = c.isDigit :=
  alphanum_induction (motive := fun c => c.toLower.isDigit = c.isDigit) (by decide +kernel) plain

end

/-! ## Words in small letters -/

section

variable {first : Char}

theorem isPlain_of_mem_snakeFrom
    {progress : Progress} {text : List Char} {c : Char} (member : c ∈ snakeFrom progress text) :
    isPlain c = true := by
  induction text generalizing progress with
  | nil => cases member
  | cons first rest ih =>
      rw [snakeFrom] at member
      split at member
      · rename_i upper
        have letter : first.isAlpha = true := Bool.or_eq_true_iff.mpr (.inl upper)
        have plain : first.isAlphanum = true := Bool.or_eq_true_iff.mpr (.inl letter)
        split at member
        · rcases List.mem_cons.mp member with rfl | member
          · rfl
          · rcases List.mem_cons.mp member with rfl | member
            · exact isPlain_toLower plain
            · exact ih member
        · rcases List.mem_cons.mp member with rfl | member
          · exact isPlain_toLower plain
          · exact ih member
      · rename_i notUpper
        split at member
        · rename_i plain
          rcases List.mem_cons.mp member with rfl | member
          · rw [← toLower_eq_self notUpper]
            exact isPlain_toLower plain
          · exact ih member
        · split at member
          · exact ih member
          · rcases List.mem_cons.mp member with rfl | member
            · rfl
            · exact ih member

theorem exists_snakeFrom_cons (plain : first.isAlphanum = true) (rest : List Char) :
    ∃ left, snakeFrom .start (first :: rest) = first.toLower :: left := by
  rw [snakeFrom]
  split
  · exact ⟨_, rfl⟩
  · rename_i notUpper
    rw [toLower_eq_self notUpper]
    exact ⟨_, rfl⟩

/-- A text that begins with a letter or a digit does so in small letters, too. -/
theorem exists_snakeCase_cons (plain : first.isAlphanum = true) (rest : List Char) :
    ∃ left, left.all isPlain = true ∧
      snakeCase (String.ofList (first :: rest)) = String.ofList (first.toLower :: left) := by
  obtain ⟨inner, _, trimmed⟩ :=
    Text.exists_trimMatching_cons Text.isBlank (isBlank_eq_false plain) rest
  have whole : Text.trim (first :: rest) = first :: inner := trimmed
  obtain ⟨small, written⟩ := exists_snakeFrom_cons plain inner
  obtain ⟨left, shorter, ended⟩ :=
    Text.exists_trimMatching_cons (· == '_') (toLower_beq_underscore plain) small
  have allPlain : left.all isPlain = true := by
    refine List.all_eq_true.mpr fun c member => ?_
    have inText : c ∈ snakeFrom .start (first :: inner) := by
      rw [written]
      exact List.mem_cons_of_mem _ (shorter.subset member)
    exact isPlain_of_mem_snakeFrom inText
  refine ⟨left, allPlain, ?_⟩
  rw [snakeCase, String.toList_ofList, whole, written, ended]

end

/-! ## What is left of a name -/

/-- The plain characters of a name, from the first one on that is neither a digit at the start nor
an underscore behind these. -/
def body (name : String) : List Char :=
  (((Text.trim name.toList).filterMap plainFor?).dropWhile Char.isDigit).dropWhile (· == '_')

/-- Whether a digit comes first when digits and then underscores are taken from the start of a name,
and a letter comes later. -/
def hidesDigit (name : String) : Bool :=
  (body name).head?.any Char.isDigit && (body name).any Char.isAlpha

theorem dropWhile_singleUnderscores (text : List Char) :
    (singleUnderscores text).dropWhile (· == '_') =
      singleUnderscores (text.dropWhile (· == '_')) := by
  induction text using singleUnderscores.induct with
  | case1 => rfl
  | case2 c =>
      simp only [singleUnderscores, List.dropWhile_cons, List.dropWhile_nil]
      split <;> rfl
  | case3 c d rest run ih =>
      obtain ⟨rfl, rfl⟩ := run
      rw [singleUnderscores, if_pos ⟨rfl, rfl⟩, ih]
      rfl
  | case4 c d rest noRun ih =>
      rw [singleUnderscores, if_neg noRun, List.dropWhile_cons, List.dropWhile_cons]
      split
      · exact ih
      · rw [singleUnderscores, if_neg noRun]

theorem mem_singleUnderscores {c : Char} (different : c ≠ '_') (text : List Char) :
    c ∈ singleUnderscores text ↔ c ∈ text := by
  induction text using singleUnderscores.induct with
  | case1 => rfl
  | case2 d => rfl
  | case3 d e rest run ih =>
      have noHead : c ≠ d := fun same => different (same.trans run.1)
      rw [singleUnderscores, if_pos run, ih, List.mem_cons (a := c) (b := d), or_iff_right noHead]
  | case4 d e rest noRun ih =>
      rw [singleUnderscores, if_neg noRun, List.mem_cons, ih, List.mem_cons (b := d)]

theorem exists_singleUnderscores_cons {first : Char} (different : first ≠ '_')
    (rest : List Char) : ∃ left, singleUnderscores (first :: rest) = first :: left := by
  cases rest with
  | nil => exact ⟨[], rfl⟩
  | cons second rest =>
      rw [singleUnderscores, if_neg fun run => different run.1]
      exact ⟨_, rfl⟩

/-- The plain characters that are left of a name, before they are cut to length. -/
def remains (name : String) : List Char :=
  Text.trimMatching (· == '_')
    (singleUnderscores (((Text.trim name.toList).filterMap plainFor?).dropWhile Char.isDigit))

theorem remains_eq (name : String) :
    remains name = Text.trimMatching (· == '_') (singleUnderscores (body name)) := by
  rw [remains, Text.trimMatching, Text.trimMatching, body, ← dropWhile_singleUnderscores,
    List.dropWhile_idempotent]

theorem ne_underscore_of_isAlpha {c : Char} (letter : c.isAlpha = true) : c ≠ '_' := by
  rintro rfl
  cases letter

theorem any_isAlpha_remains (name : String) :
    (remains name).any Char.isAlpha = (body name).any Char.isAlpha := by
  rw [Bool.eq_iff_iff, List.any_eq_true, List.any_eq_true]
  refine exists_congr fun c => and_congr_left fun letter => ?_
  have different := ne_underscore_of_isAlpha letter
  rw [remains_eq, Text.mem_trimMatching (· == '_') (beq_false_of_ne different),
    mem_singleUnderscores different]

/-- What is left of a name is used when there is a letter in it. -/
theorem sanitize?_eq (name : String) :
    sanitize? name =
      if (body name).any Char.isAlpha then some (String.ofList ((remains name).take maxLength))
      else none := by
  rw [← any_isAlpha_remains]
  rfl

theorem isAlphanum_of_body_eq_cons {name : String} {first : Char} {rest : List Char}
    (starts : body name = first :: rest) : first.isAlphanum = true := by
  have kept : first ≠ '_' := by
    have ended := List.head?_dropWhile_not (· == '_')
      (((Text.trim name.toList).filterMap plainFor?).dropWhile Char.isDigit)
    rw [← body, starts] at ended
    simpa using ended
  have member : first ∈ body name := starts ▸ List.mem_cons_self
  have among := (List.dropWhile_suffix _).subset ((List.dropWhile_suffix _).subset member)
  obtain ⟨c, _, replaced⟩ := List.mem_filterMap.mp among
  simp only [plainFor?] at replaced
  split at replaced
  · rename_i plain
    cases replaced
    simpa [kept] using plain
  · split at replaced
    · cases replaced
      exact absurd rfl kept
    · cases replaced

/-- A name with a letter is left with a text that begins as its body does. -/
theorem exists_sanitize?_eq
    {name : String} (letter : (body name).any Char.isAlpha = true) :
    ∃ first rest, (body name).head? = some first ∧ first.isAlphanum = true ∧
      sanitize? name = some (String.ofList (first :: rest)) := by
  obtain ⟨first, rest, starts⟩ := List.exists_cons_of_ne_nil (l := body name) (by
    intro empty
    rw [empty] at letter
    cases letter)
  have plain := isAlphanum_of_body_eq_cons starts
  have kept : (first == '_') = false := by
    apply beq_false_of_ne
    rintro rfl
    cases plain
  obtain ⟨single, singled⟩ := exists_singleUnderscores_cons (ne_of_beq_false kept) rest
  obtain ⟨left, _, trimmed⟩ := Text.exists_trimMatching_cons (· == '_') kept single
  have left_eq : remains name = first :: left := by
    rw [remains_eq, starts, singled, trimmed]
  refine ⟨first, left.take (maxLength - 1), by rw [starts]; rfl, plain, ?_⟩
  rw [sanitize?_eq, if_pos letter, left_eq]
  rfl

/-! ## Reserved words -/

/-- A name is no reserved word when no reserved word begins as the name does in capitals. -/
theorem isReserved_append_eq_false
    {start : String}
    (free : ∀ word ∈ reservedWords, ¬ (Text.upperCase start).toList <+: word.toList)
    (rest : String) : isReserved (start ++ rest) = false := by
  rw [isReserved, List.contains_eq_mem, decide_eq_false_iff_not, Text.upperCase_append]
  intro member
  refine free _ member ?_
  rw [String.toList_append]
  exact List.prefix_append _ _

/-- The words that stand for a table and for a column in suggestions. -/
def kinds : List String := ["tbl", "col"]

theorem isReserved_kind {kind : String} (isKind : kind ∈ kinds) (rest : String) :
    isReserved (kind ++ "_" ++ rest) = false := by
  apply isReserved_append_eq_false
  revert kind
  decide +kernel

theorem isReserved_digit {first : Char} (digit : first.isDigit = true) (rest : List Char) :
    isReserved (String.ofList (first :: rest)) = false := by
  have apart : String.ofList (first :: rest) = String.ofList [first] ++ String.ofList rest := by
    rw [← String.ofList_append, List.singleton_append]
  have plain : first.isAlphanum = true := by simp [Char.isAlphanum, digit]
  rw [apart]
  apply isReserved_append_eq_false
  refine alphanum_induction (motive := fun c => c.isDigit = true → ∀ word ∈ reservedWords,
    ¬ (Text.upperCase (String.ofList [c])).toList <+: word.toList) ?_ plain digit
  decide +kernel

/-! ## Suggestions -/

theorem isConventional_ofList (first : Char) (rest : List Char) :
    isConventional (String.ofList (first :: rest)) = (first.isLower && rest.all isPlain) := by
  rw [isConventional, String.toList_ofList]

/-- A plain text is conventional behind the word for a kind. -/
theorem isConventional_kind
    {kind : String} (isKind : kind ∈ kinds) {text : List Char} (plain : text.all isPlain = true) :
    isConventional (kind ++ "_" ++ String.ofList text) = true := by
  have word : ∀ kind ∈ kinds, ∃ first rest, (kind ++ "_").toList = first :: rest ∧
      first.isLower = true ∧ rest.all isPlain = true := by
    intro kind isKind
    rcases List.mem_pair.mp isKind with rfl | rfl
    · exact ⟨'t', ['b', 'l', '_'], by decide⟩
    · exact ⟨'c', ['o', 'l', '_'], by decide⟩
  obtain ⟨first, rest, written, small, restPlain⟩ := word kind isKind
  rw [isConventional, String.toList_append, written, String.toList_ofList, List.cons_append]
  simp only [small, List.all_append, restPlain, plain, Bool.and_self]

/-- A suggested name is no reserved word, and it is conventional unless the name hides a digit. -/
theorem suggest_spec (name : String) {kind : String} (isKind : kind ∈ kinds) :
    isReserved (suggest name kind) = false ∧
      isConventional (suggest name kind) = !hidesDigit name := by
  cases letter : (body name).any Char.isAlpha with
  | false =>
      have nothing : suggest name kind = kind ++ "_" ++ String.ofList ['1'] := by
        rw [suggest, sanitize?_eq, if_neg (by rw [letter]; exact Bool.false_ne_true),
          String.append_assoc]
        rfl
      have noDigit : hidesDigit name = false := by rw [hidesDigit, letter, Bool.and_false]
      rw [nothing, noDigit]
      exact ⟨isReserved_kind isKind _, isConventional_kind isKind rfl⟩
  | true =>
      obtain ⟨first, rest, starts, plain, sanitized⟩ := exists_sanitize?_eq letter
      obtain ⟨left, leftPlain, candidate⟩ := exists_snakeCase_cons plain rest
      have digit : hidesDigit name = first.isDigit := by
        rw [hidesDigit, starts, letter, Bool.and_true]
        rfl
      have suggested : suggest name kind =
          if isReserved (String.ofList (first.toLower :: left)) then
            kind ++ "_" ++ String.ofList (first.toLower :: left)
          else String.ofList (first.toLower :: left) := by
        have filled : (String.ofList (first.toLower :: left)).isEmpty = false := by
          rw [String.isEmpty_eq_false_iff, Ne, String.ofList_eq_empty_iff]
          exact List.cons_ne_nil _ _
        rw [suggest, sanitized, Option.map_some, candidate]
        simp only [filled, Bool.false_eq_true, if_false]
      rw [suggested, digit]
      split
      · rename_i reserved
        have noDigit : first.isDigit = false := by
          rw [← isDigit_toLower plain, ← Bool.not_eq_true]
          intro digit
          rw [isReserved_digit digit] at reserved
          cases reserved
        rw [noDigit]
        refine ⟨isReserved_kind isKind _, isConventional_kind isKind ?_⟩
        rw [List.all_cons, isPlain_toLower plain, leftPlain, Bool.and_self]
      · rename_i free
        refine ⟨eq_false_of_ne_true free, ?_⟩
        rw [isConventional_ofList, leftPlain, Bool.and_true, isLower_toLower plain]

end Identifier

/-! ## Findings that suggest a name -/

namespace Finding

/-- A finding is about the table, or the column, of this name. -/
def Concerns (finding : Finding) (schema : Schema) (name : String) : Prop :=
  ∃ table ∈ schema.tables, finding.table = some table.id ∧
    match finding.column with
    | none => table.name = name
    | some id => ∃ column ∈ table.columns, column.id = id ∧ column.name = name

/-- Two findings of one rule are about one thing. -/
structure Repeats (finding other : Finding) : Prop where
  rule : finding.rule = other.rule
  table : finding.table = other.table
  column : finding.column = other.column

/-- The word for what a finding is about. -/
def kind (finding : Finding) : String :=
  if finding.column.isNone then "tbl" else "col"

variable {finding : Finding} {schema : Schema} {name other : String}

theorem Concerns.name_eq
    (tables : schema.tableIds.Nodup) (columns : schema.columnIds.Nodup)
    (concerns : finding.Concerns schema name) (concernsOther : finding.Concerns schema other) :
    name = other := by
  obtain ⟨table, member, owner, named⟩ := concerns
  obtain ⟨otherTable, otherMember, otherOwner, otherNamed⟩ := concernsOther
  have same : table = otherTable :=
    List.inj_on_of_nodup_map tables member otherMember
      (Option.some.inj (owner.symm.trans otherOwner))
  subst same
  cases about : finding.column with
  | none =>
      rw [about] at named otherNamed
      exact named.symm.trans otherNamed
  | some id =>
      rw [about] at named otherNamed
      obtain ⟨column, columnMember, rfl, rfl⟩ := named
      obtain ⟨otherColumn, otherColumnMember, sameId, rfl⟩ := otherNamed
      rw [(Schema.place_eq columns member member columnMember otherColumnMember sameId.symm).2]

theorem kind_mem_kinds (finding : Finding) : finding.kind ∈ Identifier.kinds := by
  rw [kind]
  split <;> decide

end Finding

namespace Validation

/-- Whether a name is wrong in the eyes of a rule, of those that suggest names. -/
def faulty : Rule → String → Bool
  | .namingConvention, name => !Identifier.isConventional name
  | .reservedKeyword, name => Identifier.isReserved name
  | _, _ => false

/-- What a finding that suggests a name says of it. -/
structure Renames (schema : Schema) (finding : Finding) (name : String) : Prop where
  concerns : finding.Concerns schema name
  faulty : faulty finding.rule name = true
  suggestion : finding.suggestion = some (renameSuggestion name finding.kind)

variable {schema : Schema} {finding : Finding} {name : String}

theorem renames_of_mem_namingFindings (member : finding ∈ namingFindings schema) :
    ∃ name, Renames schema finding name ∧ finding.column = none := by
  obtain ⟨table, tableMember, rfl⟩ := List.mem_map.mp member
  obtain ⟨tableMember, unconventional⟩ := List.mem_filter.mp tableMember
  exact ⟨table.name, ⟨⟨table, tableMember, rfl, rfl⟩, unconventional, rfl⟩, rfl⟩

theorem renames_of_mem_reservedFindings (member : finding ∈ reservedFindings schema) :
    ∃ name, Renames schema finding name := by
  obtain ⟨table, tableMember, found⟩ := List.mem_flatMap.mp member
  rcases List.mem_append.mp found with found | found
  · split at found
    · rename_i reserved
      rw [List.mem_singleton.mp found]
      exact ⟨table.name, ⟨table, tableMember, rfl, rfl⟩, reserved, rfl⟩
    · cases found
  · obtain ⟨column, columnMember, rfl⟩ := List.mem_map.mp found
    obtain ⟨columnMember, reserved⟩ := List.mem_filter.mp columnMember
    exact ⟨column.name, ⟨table, tableMember, rfl, column, columnMember, rfl, rfl⟩, reserved, rfl⟩

/-- A finding of the rules on names suggests a name for a faulty one. -/
theorem renames_of_mem_validate
    (member : finding ∈ schema.validate)
    (rule : finding.rule = .namingConvention ∨ finding.rule = .reservedKeyword) :
    ∃ name, Renames schema finding name ∧
      (finding.rule = .namingConvention → finding.column = none) := by
  rw [mem_validate_iff] at member
  rcases rule with rule | rule
  · rw [rule] at member
    obtain ⟨name, renames, noColumn⟩ := renames_of_mem_namingFindings member
    exact ⟨name, renames, fun _ => noColumn⟩
  · rw [rule] at member
    obtain ⟨name, renames⟩ := renames_of_mem_reservedFindings member
    refine ⟨name, renames, fun naming => ?_⟩
    rw [rule] at naming
    cases naming

/-- What is named wrongly is found. -/
theorem exists_repeats
    (noColumn : finding.rule = .namingConvention → finding.column = none)
    (concerns : finding.Concerns schema name) (wrong : faulty finding.rule name = true) :
    ∃ other ∈ schema.validate, other.Repeats finding := by
  obtain ⟨table, tableMember, owner, named⟩ := concerns
  suffices found : ∃ other ∈ ofRule schema finding.rule,
      other.table = finding.table ∧ other.column = finding.column by
    obtain ⟨other, member, sameTable, sameColumn⟩ := found
    have sameRule := (rule_of_mem_ofRule member).1
    refine ⟨other, mem_validate_iff.mpr ?_, sameRule, sameTable, sameColumn⟩
    rwa [sameRule]
  cases rule : finding.rule with
  | namingConvention =>
      rw [noColumn rule] at named ⊢
      subst named
      rw [rule] at wrong
      exact ⟨_, List.mem_map_of_mem (List.mem_filter.mpr ⟨tableMember, wrong⟩), owner.symm, rfl⟩
  | reservedKeyword =>
      rw [rule] at wrong
      simp only [ofRule, reservedFindings, List.mem_flatMap, List.mem_append, List.mem_map,
        List.mem_filter, List.mem_ite_nil_right, List.mem_singleton]
      cases column : finding.column with
      | none =>
          rw [column] at named
          subst named
          exact ⟨_, ⟨table, tableMember, .inl ⟨wrong, rfl⟩⟩, owner.symm, rfl⟩
      | some id =>
          rw [column] at named
          obtain ⟨held, heldMember, rfl, rfl⟩ := named
          exact ⟨_, ⟨table, tableMember, .inr ⟨held, ⟨heldMember, wrong⟩, rfl⟩⟩, owner.symm, rfl⟩
  | _ =>
      rw [rule] at wrong
      cases wrong

/-- A finding comes again as long as what it is about has a faulty name. -/
theorem exists_repeats_iff
    (tables : schema.tableIds.Nodup) (columns : schema.columnIds.Nodup)
    (rule : finding.rule = .namingConvention ∨ finding.rule = .reservedKeyword)
    (noColumn : finding.rule = .namingConvention → finding.column = none)
    (concerns : finding.Concerns schema name) :
    (∃ other ∈ schema.validate, other.Repeats finding) ↔ faulty finding.rule name = true := by
  constructor
  · rintro ⟨other, member, sameRule, sameTable, sameColumn⟩
    obtain ⟨otherName, renames, _⟩ := renames_of_mem_validate member (by rwa [sameRule])
    have concernsOther : finding.Concerns schema otherName := by
      rw [Finding.Concerns, ← sameTable, ← sameColumn]
      exact renames.concerns
    rw [concerns.name_eq tables columns concernsOther, ← sameRule]
    exact renames.faulty
  · exact exists_repeats noColumn concerns

/-- A suggested name is faulty only for the convention, and only when the old name hides a digit. -/
theorem faulty_suggest
    {rule : Rule} (isName : rule = .namingConvention ∨ rule = .reservedKeyword) {kind : String}
    (isKind : kind ∈ Identifier.kinds) (name : String) :
    faulty rule (Identifier.suggest name kind) = true ↔
      rule = .namingConvention ∧ Identifier.hidesDigit name = true := by
  obtain ⟨free, conventional⟩ := Identifier.suggest_spec name isKind
  rcases isName with rfl | rfl
  · rw [faulty, conventional, Bool.not_not]
    simp
  · rw [faulty, free]
    simp

/-- A suggested name is never a reserved word, and it is conventional just when the name that it is
made of hides no digit.  The findings on the names of a schema suggest such names, and following a
suggestion, in whatever way, makes the finding go away, except for a finding on the convention when
the old name hides a digit. -/
theorem suggestions_clear_findings (before : Schema) :
    (∀ name, ∀ kind ∈ Identifier.kinds,
      Identifier.isReserved (Identifier.suggest name kind) = false ∧
        (Identifier.isConventional (Identifier.suggest name kind) = true ↔
          Identifier.hidesDigit name = false)) ∧
    ∀ finding ∈ before.validate,
      finding.rule = .namingConvention ∨ finding.rule = .reservedKeyword →
      ∃ name, finding.Concerns before name ∧
        finding.suggestion = some (renameSuggestion name finding.kind) ∧
        ∀ after : Schema, after.tableIds.Nodup → after.columnIds.Nodup →
          finding.Concerns after (Identifier.suggest name finding.kind) →
          ((∃ other ∈ after.validate, other.Repeats finding) ↔
            finding.rule = .namingConvention ∧ Identifier.hidesDigit name = true) := by
  constructor
  · intro name kind isKind
    obtain ⟨free, conventional⟩ := Identifier.suggest_spec name isKind
    exact ⟨free, by rw [conventional, Bool.not_eq_true']⟩
  · intro finding member rule
    obtain ⟨name, renames, noColumn⟩ := renames_of_mem_validate member rule
    refine ⟨name, renames.concerns, renames.suggestion, fun after tables columns concerns => ?_⟩
    rw [exists_repeats_iff tables columns rule noColumn concerns]
    exact faulty_suggest rule finding.kind_mem_kinds name

theorem suggestions_clear_findings_shop :
    let column (name : String) : Column := { name, dataType := "TEXT", id := ⟨1⟩ }
    let schema (table held : String) : Schema :=
      { Schema.new "shop" default with
        tables :=
          [{ id := ⟨0⟩
             name := table
             columns := [column held]
             position := default
             rowCount := 0
             rows := [] }] }
    let finding : Finding :=
      { rule := .reservedKeyword
        severity := .warning
        message := "Column name 'orders.user' is a reserved SQL keyword"
        table := some ⟨0⟩
        column := some ⟨1⟩
        suggestion := some "Rename to 'col_user'" }
    ("tbl" ∈ Identifier.kinds ∧
        Identifier.isConventional (Identifier.suggest "Order Items" "tbl") = true) ∧
      finding ∈ (schema "orders" "user").validate ∧
      (schema "orders" "col_user").tableIds.Nodup ∧ (schema "orders" "col_user").columnIds.Nodup ∧
      ¬ ∃ other ∈ (schema "orders" "col_user").validate, other.Repeats finding := by
  intro column schema finding
  obtain ⟨names, findings⟩ := suggestions_clear_findings (schema "orders" "user")
  have isKind : "tbl" ∈ Identifier.kinds := by decide
  have conventional := (names "Order Items" "tbl" isKind).2.mpr (by decide +kernel)
  have found : finding ∈ (schema "orders" "user").validate := by decide +kernel
  obtain ⟨name, concerns, _, cleared⟩ := findings finding found (.inr rfl)
  have isUser : name = "user" := by
    obtain ⟨table, member, _, held, heldMember, _, rfl⟩ := concerns
    obtain rfl := List.mem_singleton.mp member
    obtain rfl := List.mem_singleton.mp heldMember
    rfl
  subst isUser
  have tables : (schema "orders" "col_user").tableIds.Nodup := by decide
  have columns : (schema "orders" "col_user").columnIds.Nodup := by decide
  have renamed : finding.Concerns (schema "orders" "col_user")
      (Identifier.suggest "user" finding.kind) :=
    ⟨_, List.mem_cons_self, rfl, _, List.mem_cons_self, rfl, by decide +kernel⟩
  refine ⟨⟨isKind, conventional⟩, found, tables, columns, fun repeated => ?_⟩
  obtain ⟨naming, _⟩ := (cleared _ tables columns renamed).mp repeated
  cases naming

/-- A digit behind an underscore comes to stand first. -/
theorem suggestion_starts_with_digit :
    "tbl" ∈ Identifier.kinds ∧ Identifier.suggest "_1a" "tbl" = "1a" ∧
      Identifier.isConventional (Identifier.suggest "_1a" "tbl") = false := by
  decide +kernel

end Validation

end SchemaDesign
