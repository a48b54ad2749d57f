import Mathlib.Data.List.DropRight
import Mathlib.Data.List.Find
import Mathlib.Data.List.Infix
import SchemaDesign.Export.JsonSchema
import SchemaDesign.Proofs.Validation.SuggestedNames

/-!
# Base types and what follows them

The name of a data type in a target is looked up by needles that may occur anywhere in it, so the
arguments and modifiers of a type can have a say.  They do so only if they name an earlier row of
the table than the base name does.
-/

namespace SchemaDesign

namespace Text

/-! ## Parts of a text -/

theorem isSome_afterStart?_iff
    {start text : List Char} : (afterStart? start text).isSome ↔ start <+: text := by
  induction start generalizing text with
  | nil => simp [afterStart?]
  | cons p start ih =>
      cases text with
      | nil => simp [afterStart?]
      | cons c text =>
          rw [afterStart?, List.cons_prefix_cons]
          split
          · rename_i same
            rw [ih, and_iff_right same]
          · rename_i different
            simp [different]

theorem occurs_iff_infix {part text : List Char} : occurs part text = true ↔ part <:+: text := by
  induction text with
  | nil => simp [occurs, cutAt?]
  | cons c text ih =>
      rw [List.infix_cons_iff, ← isSome_afterStart?_iff, ← ih, occurs, cutAt?, occurs]
      cases afterStart? part (c :: text) with
      | none => simp
      | some after => simp

section

variable {part : List Char} {separates : Char → Bool}
  (solid : ∀ c ∈ part, separates c = false)

include solid

theorem prefix_of_prefix_append_separated
    {left right : List Char} (separated : ∀ c ∈ right.head?, separates c = true)
    (starts : part <+: left ++ right) : part <+: left := by
  induction left generalizing part with
  | nil =>
      cases part with
      | nil => exact List.nil_prefix
      | cons c part =>
          obtain ⟨after, rfl⟩ := starts
          have kept := solid c List.mem_cons_self
          rw [separated c rfl] at kept
          cases kept
  | cons d left ih =>
      cases part with
      | nil => exact List.nil_prefix
      | cons c part =>
          obtain ⟨same, starts⟩ := List.cons_prefix_cons.mp starts
          have solidPart : ∀ c ∈ part, separates c = false :=
            fun other member => solid other (List.mem_cons_of_mem c member)
          exact List.cons_prefix_cons.mpr ⟨same, ih solidPart starts⟩

/-- A part without separators does not reach over one. -/
theorem infix_append_iff_of_separated
    (left : List Char) {right : List Char} (separated : ∀ c ∈ right.head?, separates c = true) :
    part <:+: left ++ right ↔ part <:+: left ∨ part <:+: right := by
  induction left with
  | nil =>
      rw [List.nil_append, List.infix_nil]
      refine ⟨.inr, ?_⟩
      rintro (rfl | inside)
      · exact List.nil_infix
      · exact inside
  | cons c left ih =>
      have starts : part <+: c :: (left ++ right) ↔ part <+: c :: left := by
        rw [← List.cons_append]
        exact ⟨prefix_of_prefix_append_separated solid separated,
          fun starts => starts.trans (List.prefix_append (c :: left) right)⟩
      rw [List.cons_append, List.infix_cons_iff, starts, ih, List.infix_cons_iff, or_assoc]

/-- A part without separators does not begin among separators. -/
theorem infix_append_iff_of_separates
    (notEmpty : part ≠ []) {left : List Char} (separators : ∀ c ∈ left, separates c = true)
    (right : List Char) : part <:+: left ++ right ↔ part <:+: right := by
  induction left with
  | nil => rfl
  | cons c left ih =>
      have later := ih fun other member => separators other (List.mem_cons_of_mem c member)
      rw [List.cons_append, List.infix_cons_iff, later, or_iff_right]
      intro starts
      obtain ⟨d, rest, rfl⟩ := List.exists_cons_of_ne_nil notEmpty
      obtain ⟨rfl, _⟩ := List.cons_prefix_cons.mp starts
      have kept := solid d List.mem_cons_self
      rw [separators d List.mem_cons_self] at kept
      cases kept

end

/-! ## Capitals -/

theorem toList_upperCase (s : String) : (upperCase s).toList = s.toList.flatMap capitalOf := by
  rw [upperCase, String.toList_ofList]

/-- Blanks have no capital form of their own. -/
theorem capitalOf_of_blank {c : Char} (blank : isBlank c = true) : capitalOf c = [c] := by
  have checked : ∀ n ∈ [9, 10, 11, 12, 13, 0x20, 0x85, 0xA0, 0x1680, 0x2000, 0x2001, 0x2002, 0x2003,
      0x2004, 0x2005, 0x2006, 0x2007, 0x2008, 0x2009, 0x200A, 0x2028, 0x2029, 0x202F, 0x205F,
      0x3000], capitalOf (Char.ofNat n) = [Char.ofNat n] := by
    decide +kernel
  have code := checked c.toNat (by
    simp only [isBlank, Bool.or_eq_true, Bool.and_eq_true, decide_eq_true_eq, beq_iff_eq] at blank
    simp only [List.mem_cons, List.not_mem_nil, or_false]
    omega)
  rwa [Char.ofNat_toNat] at code

theorem flatMap_capitalOf_of_blank {text : List Char} (blank : ∀ c ∈ text, isBlank c = true) :
    text.flatMap capitalOf = text := by
  induction text with
  | nil => rfl
  | cons c text ih =>
      rw [List.flatMap_cons, capitalOf_of_blank (blank c List.mem_cons_self),
        ih fun other member => blank other (List.mem_cons_of_mem c member), List.singleton_append]

/-- The first characters of a class without blanks are the same whether or not the blanks at the end
are there. -/
theorem takeWhile_trimEnd
    {keep : Char → Bool} (leaves : ∀ c, isBlank c = true → keep c = false) (text : List Char) :
    (trimEnd text).takeWhile keep = text.takeWhile keep := by
  have ends : (text.rtakeWhile isBlank).takeWhile keep = [] := by
    cases blanks : text.rtakeWhile isBlank with
    | nil => rfl
    | cons c rest =>
        have blank : isBlank c = true :=
          List.mem_rtakeWhile_imp (blanks ▸ List.mem_cons_self)
        rw [List.takeWhile_cons_of_neg (ne_true_of_eq_false (leaves c blank))]
  have whole := List.rdropWhile_append_rtakeWhile (p := isBlank) (l := text)
  -- What is kept of the text may be all of the trimmed text, but no blank is kept after it.
  nth_rewrite 2 [← whole]
  rw [List.takeWhile_append, ends, List.append_nil]
  split
  · rename_i all
    exact (List.takeWhile_prefix keep).eq_of_length all
  · rfl

end Text

namespace DataType

/-- Whether a character ends the base name of a type. -/
def endsBase (c : Char) : Bool :=
  c == '(' || Text.isBlank c

/-- What follows the base name of a type: its arguments and modifiers. -/
def details (dataType : String) : String :=
  String.ofList ((Text.trimStart dataType.toList).dropWhile fun c => !endsBase c)

/-- A needle of a table: a word of capital letters. -/
def IsNeedle (needle : String) : Prop :=
  needle.toList ≠ [] ∧ needle.toList.all Char.isUpper = true

instance (needle : String) : Decidable (IsNeedle needle) :=
  inferInstanceAs (Decidable (_ ∧ _))

theorem IsNeedle.isUpper {needle : String} (isNeedle : IsNeedle needle) :
    ∀ c ∈ needle.toList, c.isUpper = true :=
  List.all_eq_true.mp isNeedle.2

theorem endsBase_of_isUpper {c : Char} (capital : c.isUpper = true) : endsBase c = false := by
  have plain : c.isAlphanum = true := by
    change (c.isUpper || c.isLower || c.isDigit) = true
    rw [capital, Bool.true_or, Bool.true_or]
  rw [endsBase, Identifier.isBlank_eq_false plain, Bool.or_false, beq_eq_false_iff_ne]
  rintro rfl
  cases capital

theorem toList_baseName (dataType : String) :
    (baseName dataType).toList =
      ((Text.trimStart dataType.toList).takeWhile fun c => !endsBase c).flatMap Text.capitalOf := by
  have blanks (c : Char) (blank : Text.isBlank c = true) : (!endsBase c) = false := by
    rw [endsBase, blank, Bool.or_true, Bool.not_true]
  rw [baseName, Text.toList_upperCase, String.toList_ofList, Text.trim]
  exact congrArg _ (Text.takeWhile_trimEnd blanks _)

theorem capitalOf_of_endsBase {c : Char} (ends : endsBase c = true) : Text.capitalOf c = [c] := by
  rcases Bool.or_eq_true_iff.mp ends with paren | blank
  · rw [beq_iff_eq.mp paren]
    decide
  · exact Text.capitalOf_of_blank blank

theorem endsBase_of_mem_head? {dataType : String} {c : Char}
    (first : c ∈ (Text.upperCase (details dataType)).toList.head?) : endsBase c = true := by
  rw [Text.toList_upperCase, details, String.toList_ofList] at first
  have ends := List.head?_dropWhile_not (fun c => !endsBase c) (Text.trimStart dataType.toList)
  cases rest : (Text.trimStart dataType.toList).dropWhile fun c => !endsBase c with
  | nil => simp [rest] at first
  | cons d rest' =>
      rw [rest] at first ends
      have ends : endsBase d = true := by simpa using ends
      rw [List.flatMap_cons, capitalOf_of_endsBase ends] at first
      obtain rfl : d = c := by simpa using first
      exact ends

/-- The base names of the catalogue are in capitals. -/
theorem upperCase_baseName {dataType : String} (known : isKnown dataType = true) :
    Text.upperCase (baseName dataType) = baseName dataType := by
  have checked : ∀ name ∈ catalog, Text.upperCase name = name := by decide +kernel
  rw [isKnown] at known
  exact checked (baseName dataType) (List.contains_iff_mem.mp known)

/-- A needle that a type mentions is mentioned by its base name or by what follows it. -/
theorem mentions_eq_or
    {dataType needle : String} (known : isKnown dataType = true) (isNeedle : IsNeedle needle) :
    mentions dataType needle =
      (mentions (details dataType) needle || mentions (baseName dataType) needle) := by
  have solid : ∀ c ∈ needle.toList, endsBase c = false :=
    fun c member => endsBase_of_isUpper (isNeedle.isUpper c member)
  have blank : ∀ c ∈ dataType.toList.takeWhile Text.isBlank, Text.isBlank c = true :=
    fun c member => List.mem_takeWhile_imp member
  have blanks : ∀ c ∈ dataType.toList.takeWhile Text.isBlank, endsBase c = true :=
    fun c member => by rw [endsBase, blank c member, Bool.or_true]
  have whole : (Text.upperCase dataType).toList =
      dataType.toList.takeWhile Text.isBlank ++
        ((baseName dataType).toList ++ (Text.upperCase (details dataType)).toList) := by
    rw [Text.toList_upperCase, toList_baseName, Text.toList_upperCase, details,
      String.toList_ofList, ← List.flatMap_append, List.takeWhile_append_dropWhile]
    nth_rewrite 1 [← List.takeWhile_append_dropWhile (p := Text.isBlank) (l := dataType.toList)]
    rw [List.flatMap_append, Text.flatMap_capitalOf_of_blank blank, Text.trimStart]
  rw [mentions, mentions, mentions, upperCase_baseName known, whole, Bool.eq_iff_iff,
    Bool.or_eq_true, Text.occurs_iff_infix, Text.occurs_iff_infix, Text.occurs_iff_infix,
    Text.infix_append_iff_of_separates solid isNeedle.1 blanks,
    Text.infix_append_iff_of_separated solid _ fun c first => endsBase_of_mem_head? first, or_comm]

/-- A text without letters mentions no needle. -/
theorem mentions_eq_false
    {text needle : String} (letterless : ∀ c ∈ (Text.upperCase text).toList, c.isUpper = false)
    (isNeedle : IsNeedle needle) : mentions text needle = false := by
  obtain ⟨c, rest, whole⟩ := List.exists_cons_of_ne_nil isNeedle.1
  have first : c ∈ needle.toList := whole ▸ List.mem_cons_self
  rw [mentions, Bool.eq_false_iff, ne_eq, Text.occurs_iff_infix]
  intro inside
  have letter := isNeedle.isUpper c first
  rw [letterless c (inside.subset first)] at letter
  cases letter

end DataType

namespace Export

namespace TypeTable

/-- The tables of all targets. -/
def all : List TypeTable := [typeScript, prisma, jsonSchema, bson]

/-- The table of the formats of JSON strings. -/
def formats : TypeTable :=
  [(["TIMESTAMP", "DATETIME"], "date-time"), (["DATE"], "date"), (["UUID"], "uuid")]

/-- Whether a text mentions a needle of a row. -/
def names (text : String) (row : List String × String) : Bool :=
  row.1.any (DataType.mentions text)

/-- The place of the first row that a text names; behind the last row if it names none. -/
def rank (table : TypeTable) (text : String) : Nat :=
  table.findIdx (names text)

/-- The part of a data type that decides its row: its base name, unless what follows the base name
names an earlier row. -/
def deciding (table : TypeTable) (dataType : String) : String :=
  if table.rank (DataType.details dataType) < table.rank (DataType.baseName dataType) then
    DataType.details dataType
  else DataType.baseName dataType

/-- The words of the table are needles. -/
def HasNeedles (table : TypeTable) : Prop :=
  ∀ row ∈ table, ∀ needle ∈ row.1, DataType.IsNeedle needle

instance (table : TypeTable) : Decidable table.HasNeedles :=
  inferInstanceAs (Decidable (∀ row ∈ table, ∀ needle ∈ row.1, DataType.IsNeedle needle))

end TypeTable

end Export

/-- The first element with either of two properties has the one that comes first in the list. -/
theorem find?_or {α : Type} (items : List α) (first second : α → Bool) :
    (items.find? fun item => first item || second item) =
      if items.findIdx first < items.findIdx second then items.find? first
      else items.find? second := by
  induction items with
  | nil => rfl
  | cons item items ih =>
      rw [List.find?_cons, List.find?_cons, List.find?_cons, List.findIdx_cons, List.findIdx_cons,
        ih]
      cases first item <;> cases second item <;> simp

namespace Export

namespace TypeTable

variable {table : TypeTable} {dataType : String}

theorem hasNeedles_all : ∀ table ∈ formats :: all, table.HasNeedles := by
  decide +kernel

theorem names_eq_or
    (needles : table.HasNeedles) (known : DataType.isKnown dataType = true)
    {row : List String × String} (member : row ∈ table) :
    names dataType row =
      (names (DataType.details dataType) row || names (DataType.baseName dataType) row) := by
  have each : ∀ needle ∈ row.1, DataType.mentions dataType needle =
      (DataType.mentions (DataType.details dataType) needle ||
        DataType.mentions (DataType.baseName dataType) needle) :=
    fun needle found => DataType.mentions_eq_or known (needles row member needle found)
  rw [names, names, names, Bool.eq_iff_iff, Bool.or_eq_true, List.any_eq_true, List.any_eq_true,
    List.any_eq_true, ← exists_or]
  refine exists_congr fun needle => ?_
  rw [← and_or_left, ← Bool.or_eq_true]
  exact and_congr_right fun found => by rw [each needle found]

/-- The row of a type is that of the part that decides it. -/
theorem find?_names
    (needles : table.HasNeedles) (known : DataType.isKnown dataType = true) :
    table.find? (names dataType) = table.find? (names (table.deciding dataType)) := by
  rw [List.find?_congr fun row member => names_eq_or needles known member, find?_or, deciding]
  rw [rank, rank]
  split <;> rfl

theorem lookup_deciding
    (needles : table.HasNeedles) (known : DataType.isKnown dataType = true) (fallback : String) :
    table.lookup dataType fallback = table.lookup (table.deciding dataType) fallback := by
  have row : (table.find? fun row => row.1.any (DataType.mentions dataType)) =
      table.find? fun row => row.1.any (DataType.mentions (table.deciding dataType)) :=
    find?_names needles known
  rw [lookup, row, lookup]

/-- Lengths and other arguments without letters decide nothing. -/
theorem deciding_of_letterless
    (needles : table.HasNeedles)
    (letterless : ∀ c ∈ (Text.upperCase (DataType.details dataType)).toList, c.isUpper = false) :
    table.deciding dataType = DataType.baseName dataType := by
  have behind : table.rank (DataType.details dataType) = table.length := by
    rw [rank, List.findIdx_eq_length]
    intro row member
    rw [names, List.any_eq_false]
    intro needle found
    rw [DataType.mentions_eq_false letterless (needles row member needle found)]
    exact Bool.false_ne_true
  rw [deciding, behind, if_neg]
  exact Nat.not_lt.mpr List.findIdx_le_length

end TypeTable

namespace JsonSchema

theorem format?_eq_find? (dataType : String) :
    format? dataType =
      (TypeTable.formats.find? (TypeTable.names dataType)).map fun row => row.2 := by
  rw [format?, TypeTable.formats, List.find?_cons, List.find?_cons, List.find?_cons,
    TypeTable.names, TypeTable.names, TypeTable.names]
  dsimp only [List.any_cons, List.any_nil, List.find?_nil]
  rw [Bool.or_false, Bool.or_false, Bool.or_false]
  cases (DataType.mentions dataType "TIMESTAMP" || DataType.mentions dataType "DATETIME") <;>
    cases DataType.mentions dataType "DATE" <;> cases DataType.mentions dataType "UUID" <;> rfl

theorem member?_format (column : Column) :
    (columnSchema column).member? "format" = (format? column.dataType).map .string := by
  rw [columnSchema]
  cases format? column.dataType <;> cases DataType.charLength? column.dataType <;>
    cases column.isPrimaryKey <;> rfl

end JsonSchema

/-- In every table the name of a known type, and in a JSON Schema its format, is that of its base
name, unless what follows the base name names an earlier row: then it is that of what follows.
Arguments without letters, such as lengths, never name one. -/
theorem lookup_of_known_type
    {dataType : String} (known : DataType.isKnown dataType = true) :
    (∀ table ∈ TypeTable.all, ∀ fallback,
        table.lookup dataType fallback = table.lookup (table.deciding dataType) fallback) ∧
      (∀ column : Column, column.dataType = dataType →
        (JsonSchema.columnSchema column).member? "format" =
          (JsonSchema.format? (TypeTable.formats.deciding dataType)).map .string) ∧
      ((∀ c ∈ (Text.upperCase (DataType.details dataType)).toList, c.isUpper = false) →
        ∀ table ∈ TypeTable.formats :: TypeTable.all,
          table.deciding dataType = DataType.baseName dataType) := by
  refine ⟨fun table member fallback => ?_, ?_, fun letterless table member => ?_⟩
  · have needles := TypeTable.hasNeedles_all table (List.mem_cons_of_mem _ member)
    exact TypeTable.lookup_deciding needles known fallback
  · rintro column rfl
    have needles := TypeTable.hasNeedles_all _ List.mem_cons_self
    rw [JsonSchema.member?_format, JsonSchema.format?_eq_find?, JsonSchema.format?_eq_find?,
      TypeTable.find?_names needles known]
  · exact TypeTable.deciding_of_letterless (TypeTable.hasNeedles_all table member) letterless

/-- A character type with a length has no format and is a string. -/
theorem lookup_of_varchar :
    DataType.isKnown "varchar(255)" = true ∧
      TypeTable.jsonSchema.lookup "varchar(255)" "string" =
        TypeTable.jsonSchema.lookup (TypeTable.jsonSchema.deciding "varchar(255)") "string" ∧
      TypeTable.jsonSchema.deciding "varchar(255)" = "VARCHAR" := by
  have known : DataType.isKnown "varchar(255)" = true := by decide +kernel
  obtain ⟨lookups, _, letterless⟩ := lookup_of_known_type known
  have base : DataType.baseName "varchar(255)" = "VARCHAR" := by decide +kernel
  have lengths : (Text.upperCase (DataType.details "varchar(255)")).toList =
      ['(', '2', '5', '5', ')'] := by
    decide +kernel
  refine ⟨known, lookups _ (by decide +kernel) "string", ?_⟩
  rw [letterless (by rw [lengths]; simp) _ (by decide +kernel), base]

/-- The members of an enumeration can decide its name and its format. -/
theorem enum_members_decide :
    DataType.isKnown "ENUM('json','update')" = true ∧
      TypeTable.typeScript.lookup "ENUM('json','update')" "string" ≠
        TypeTable.typeScript.lookup (DataType.baseName "ENUM('json','update')") "string" ∧
      JsonSchema.format? "ENUM('json','update')" ≠
        JsonSchema.format? (DataType.baseName "ENUM('json','update')") := by
  decide +kernel

end Export

end SchemaDesign
