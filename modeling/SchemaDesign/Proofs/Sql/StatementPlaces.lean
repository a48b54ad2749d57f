import SchemaDesign.Proofs.Sql.ByteOffsets
import SchemaDesign.Proofs.Sql.Lines

/-!
# Where statements stand

The places of a statement are those of its text in the script.  Its bytes are found there, between
whole characters, and no other statement has any of them.
-/

namespace SchemaDesign.Sql

/-! ## Bytes -/

theorem utf8ByteSize_ofList (text : List Char) :
    (String.ofList text).utf8ByteSize = byteLength text := by
  induction text with
  | nil => rfl
  | cons c text ih =>
      rw [String.ofList_cons, String.utf8ByteSize_append, String.utf8ByteSize_singleton, ih,
        byteLength]

theorem byteLength_toList (text : String) : byteLength text.toList = text.utf8ByteSize := by
  rw [← utf8ByteSize_ofList, String.ofList_toList]

/-- The bytes of a part of a text are at the offset at which it begins. -/
theorem extract_toByteArray (left part right : String) :
    (left ++ (part ++ right)).toByteArray.extract left.utf8ByteSize
        (left.utf8ByteSize + part.utf8ByteSize) =
      part.toByteArray := by
  have before : left.toByteArray.extract left.utf8ByteSize
      (left.utf8ByteSize + part.utf8ByteSize) = ByteArray.empty := by
    rw [ByteArray.extract_eq_empty_iff, String.size_toByteArray]
    exact Nat.min_le_right _ _
  have behind : (part ++ right).toByteArray.extract 0 part.utf8ByteSize = part.toByteArray := by
    rw [String.toByteArray_append, ByteArray.extract_append_eq_left String.size_toByteArray.symm]
  rw [String.toByteArray_append, ByteArray.extract_append, String.size_toByteArray, Nat.sub_self,
    Nat.add_sub_cancel_left, before, behind, ByteArray.empty_append]

/-! ## Pieces -/

theorem intercalate_prependToFirst
    {pieces : List (List Char)} (nonempty : pieces ≠ []) (c : Char) :
    [';'].intercalate (prependToFirst c pieces) = c :: [';'].intercalate pieces := by
  cases pieces with
  | nil => exact absurd rfl nonempty
  | cons piece pieces =>
      cases pieces with
      | nil => rw [prependToFirst, List.intercalate_singleton, List.intercalate_singleton]
      | cons next pieces =>
          rw [prependToFirst, List.intercalate_cons_cons, List.intercalate_cons_cons,
            List.cons_append, List.cons_append]

/-- A script consists of its pieces, with semicolons between them. -/
theorem intercalate_pieces (mode : Mode) (text : List Char) :
    [';'].intercalate (pieces mode text) = text := by
  induction text generalizing mode with
  | nil => rfl
  | cons c rest ih =>
      by_cases here : mode = .code ∧ c = ';'
      · rw [pieces, if_pos here, List.intercalate_cons_of_ne_nil (pieces_ne_nil _ _), ih, here.2]
        rfl
      · rw [pieces_cons here, intercalate_prependToFirst (pieces_ne_nil _ _), ih]

namespace StatementSource

variable {script : String} {statement : StatementSource}

/-- A statement stands in a script between what comes before it, the gap up to its end, and what
comes from there on. -/
structure StandsBetween (script : String) (statement : StatementSource)
    (before gap after : String) : Prop where
  whole : script = before ++ (statement.text ++ (gap ++ after))
  start : statement.start = .ofOffset script.toList before.utf8ByteSize
  finish : statement.finish = .ofOffset script.toList
    (before.utf8ByteSize + statement.text.utf8ByteSize + gap.utf8ByteSize)
  semicolon : statement.terminated = true → ∃ rest, after = ";" ++ rest
  ending : statement.terminated = false → after = ""

/-- The statement of a piece stands where the piece does. -/
theorem exists_standsBetween_of_piece
    {source left piece right : List Char} {terminated : Bool}
    (whole : source = left ++ (piece ++ right))
    (found : statementOf? source (byteLength left) piece terminated = some statement)
    (semicolon : terminated = true → ∃ rest, right = ';' :: rest)
    (ending : terminated = false → right = []) :
    ∃ before gap after,
      statement.StandsBetween (String.ofList source) before gap after := by
  obtain ⟨text, begins, rfl⟩ := Option.map_eq_some_iff.mp found
  obtain ⟨skipped, rfl⟩ := exists_append_of_meaningful? begins
  obtain ⟨blanks, trimmed, _⟩ := Text.exists_trimEnd_append text
  refine ⟨String.ofList (left ++ skipped), String.ofList blanks, String.ofList right,
    ?_, ?_, ?_, ?_, ?_⟩
  · simp only [← String.ofList_append]
    rw [← List.append_assoc (Text.trimEnd text), ← trimmed, whole]
    simp only [List.append_assoc]
  · rw [String.toList_ofList, utf8ByteSize_ofList, byteLength_append, byteLength_append,
      Nat.add_sub_cancel]
  · have lengths := congrArg byteLength trimmed
    rw [byteLength_append] at lengths
    simp only [String.toList_ofList, utf8ByteSize_ofList, byteLength_append]
    rw [lengths]
    congr 1
    omega
  · intro terminated
    obtain ⟨rest, rfl⟩ := semicolon terminated
    exact ⟨String.ofList rest, String.ofList_cons⟩
  · intro terminated
    rw [ending terminated, String.ofList_nil]

/-- The statements of pieces stand where the pieces do. -/
theorem exists_standsBetween_of_pieces
    {source left : List Char} {pieces : List (List Char)}
    (whole : source = left ++ [';'].intercalate pieces)
    (member : statement ∈ statementsFrom source (byteLength left) pieces) :
    ∃ before gap after,
      statement.StandsBetween (String.ofList source) before gap after := by
  induction pieces generalizing left with
  | nil => cases member
  | cons piece pieces ih =>
      cases pieces with
      | nil =>
          have last : source = left ++ (piece ++ []) := by
            rw [whole, List.intercalate_singleton, List.append_nil]
          rw [statementsFrom_singleton] at member
          exact exists_standsBetween_of_piece last (Option.mem_toList.mp member) nofun fun _ => rfl
      | cons next pieces =>
          rw [statementsFrom_cons (List.cons_ne_nil _ _)] at member
          rw [List.intercalate_cons_cons] at whole
          rcases List.mem_append.mp member with first | later
          · have here :
                source = left ++ (piece ++ (';' :: [';'].intercalate (next :: pieces))) := by
              rw [whole, List.append_assoc]
              rfl
            exact exists_standsBetween_of_piece here (Option.mem_toList.mp first)
              (fun _ => ⟨_, rfl⟩) nofun
          · have behind :
                source = left ++ (piece ++ [';']) ++ [';'].intercalate (next :: pieces) := by
              rw [whole, List.append_assoc left]
            have offset : byteLength left + byteLength piece + 1 =
                byteLength (left ++ (piece ++ [';'])) := by
              rw [byteLength_append, byteLength_append, Nat.add_assoc]
              rfl
            rw [offset] at later
            exact ih behind later

theorem exists_standsBetween (member : statement ∈ statements script) :
    ∃ before gap after, statement.StandsBetween script before gap after := by
  have whole : script.toList = [] ++ [';'].intercalate (pieces .code script.toList) := by
    rw [intercalate_pieces, List.nil_append]
  have stands := exists_standsBetween_of_pieces whole member
  rwa [String.ofList_toList] at stands

/-- A statement is the part of a script that its places tell, and these are places between whole
characters. -/
structure IsPlaced (script : String) (statement : StatementSource) : Prop where
  nonempty : statement.text ≠ ""
  solidStart : ∀ c ∈ statement.text.toList.head?, Text.isBlank c = false
  solidEnd : ∀ c ∈ statement.text.toList.getLast?, Text.isBlank c = false
  bytes : script.toByteArray.extract statement.start.offset
      (statement.start.offset + statement.text.utf8ByteSize) = statement.text.toByteArray
  within : statement.start.offset + statement.text.utf8ByteSize ≤ statement.finish.offset
  semicolon : statement.terminated = true →
    ∃ before after, script = before ++ ";" ++ after ∧
      before.utf8ByteSize = statement.finish.offset
  ending : statement.terminated = false → statement.finish.offset = script.utf8ByteSize
  start : statement.start = .ofOffset script.toList statement.start.offset
  finish : statement.finish = .ofOffset script.toList statement.finish.offset
  boundaries : ∀ offset ∈
      [statement.start.offset, statement.start.offset + statement.text.utf8ByteSize,
        statement.finish.offset],
    String.Pos.Raw.IsValid script ⟨offset⟩

/-- A statement has its semicolon, and another one begins behind that. -/
structure Precedes (first second : StatementSource) : Prop where
  terminated : first.terminated = true
  apart : first.finish.offset < second.start.offset

theorem isValid_of_append (left right : String) :
    String.Pos.Raw.IsValid (left ++ right) ⟨left.utf8ByteSize⟩ :=
  String.Pos.Raw.isValid_iff_exists_append.mpr ⟨left, right, rfl, rfl⟩

/-- The text of a statement begins and ends with a character that is not blank. -/
theorem solid_of_mem_statements (member : statement ∈ statements script) :
    statement.text ≠ "" ∧ (∀ c ∈ statement.text.toList.head?, Text.isBlank c = false) ∧
      ∀ c ∈ statement.text.toList.getLast?, Text.isBlank c = false := by
  obtain ⟨c, rest, begins, solid, _⟩ := begins_of_mem_statements member
  obtain ⟨_, _, text, _, same⟩ := exists_piece_of_mem_statements member
  have last : statement.text.toList.getLast? = (text.reverse.dropWhile Text.isBlank).head? := by
    rw [same, String.toList_ofList, Text.trimEnd, List.getLast?_reverse]
  refine ⟨?_, ?_, ?_⟩
  · intro empty
    rw [empty] at begins
    cases begins
  · rw [begins]
    rintro _ ⟨rfl⟩
    exact solid
  · intro d isLast
    rw [last, Option.mem_def] at isLast
    have kept := List.head?_dropWhile_not Text.isBlank text.reverse
    rwa [isLast] at kept

theorem isPlaced (member : statement ∈ statements script) : statement.IsPlaced script := by
  obtain ⟨nonempty, solidStart, solidEnd⟩ := solid_of_mem_statements member
  obtain ⟨before, gap, after, stands⟩ := exists_standsBetween member
  have startOffset : statement.start.offset = before.utf8ByteSize := by
    rw [stands.start]
    rfl
  have finishOffset : statement.finish.offset =
      before.utf8ByteSize + statement.text.utf8ByteSize + gap.utf8ByteSize := by
    rw [stands.finish]
    rfl
  have upToEnd : script = before ++ statement.text ++ gap ++ after := by
    rw [stands.whole, String.append_assoc, String.append_assoc]
  have endSize : (before ++ statement.text ++ gap).utf8ByteSize = statement.finish.offset := by
    rw [String.utf8ByteSize_append, String.utf8ByteSize_append, finishOffset]
  constructor
  case nonempty => exact nonempty
  case solidStart => exact solidStart
  case solidEnd => exact solidEnd
  case bytes =>
    have bytes := extract_toByteArray before statement.text (gap ++ after)
    rwa [← stands.whole, ← startOffset] at bytes
  case within => omega
  case semicolon =>
    intro terminated
    obtain ⟨rest, rfl⟩ := stands.semicolon terminated
    exact ⟨before ++ statement.text ++ gap, rest, upToEnd.trans String.append_assoc.symm,
      endSize⟩
  case ending =>
    intro terminated
    rw [← endSize, upToEnd, stands.ending terminated, String.append_empty]
  case start => rw [startOffset, ← stands.start]
  case finish => rw [finishOffset, ← stands.finish]
  case boundaries =>
    simp only [List.forall_mem_cons]
    refine ⟨?_, ?_, ?_, nofun⟩
    · rw [startOffset, stands.whole]
      exact isValid_of_append _ _
    · rw [startOffset, ← String.utf8ByteSize_append, stands.whole, ← String.append_assoc]
      exact isValid_of_append _ _
    · rw [← endSize, upToEnd]
      exact isValid_of_append _ _

end StatementSource

/-! ## Their order -/

theorem offsets_of_mem_statementOf?
    {source piece : List Char} {offset : Nat} {terminated : Bool} {statement : StatementSource}
    (member : statement ∈ (statementOf? source offset piece terminated).toList) :
    offset ≤ statement.start.offset ∧ statement.finish.offset = offset + byteLength piece ∧
      statement.terminated = terminated := by
  obtain ⟨text, _, rfl⟩ := Option.map_eq_some_iff.mp (Option.mem_toList.mp member)
  exact ⟨Nat.le_add_right _ _, rfl, rfl⟩

theorem le_start_of_mem_statementsFrom
    {source : List Char} {offset : Nat} {pieces : List (List Char)} {statement : StatementSource}
    (member : statement ∈ statementsFrom source offset pieces) :
    offset ≤ statement.start.offset := by
  induction pieces generalizing offset with
  | nil => cases member
  | cons piece pieces ih =>
      cases pieces with
      | nil =>
          rw [statementsFrom_singleton] at member
          exact (offsets_of_mem_statementOf? member).1
      | cons next pieces =>
          rw [statementsFrom_cons (List.cons_ne_nil _ _)] at member
          rcases List.mem_append.mp member with first | later
          · exact (offsets_of_mem_statementOf? first).1
          · have behind := ih later
            omega

theorem pairwise_toList {α : Type} (related : α → α → Prop) (found : Option α) :
    found.toList.Pairwise related := by
  cases found with
  | none => exact .nil
  | some value => exact List.pairwise_singleton _ value

theorem pairwise_statementsFrom
    (source : List Char) (offset : Nat) (pieces : List (List Char)) :
    (statementsFrom source offset pieces).Pairwise StatementSource.Precedes := by
  induction pieces generalizing offset with
  | nil => exact .nil
  | cons piece pieces ih =>
      cases pieces with
      | nil =>
          rw [statementsFrom_singleton]
          exact pairwise_toList _ _
      | cons next pieces =>
          rw [statementsFrom_cons (List.cons_ne_nil _ _)]
          refine List.pairwise_append.mpr ⟨pairwise_toList _ _, ih _, ?_⟩
          intro first held second later
          obtain ⟨_, finish, terminated⟩ := offsets_of_mem_statementOf? held
          have behind := le_start_of_mem_statementsFrom later
          exact ⟨terminated, by omega⟩

/-- Each statement of a script is what its places tell, with the bytes of its text at its start and
no blank around it, up to its semicolon or the end of the script.  The statements come one after the
other, and none but the last is without its semicolon.  To look for them by byte offsets gives the
same, as no offset at which a slice is taken is inside a character. -/
theorem statements_placed (script : String) :
    (∀ statement ∈ statements script, statement.IsPlaced script) ∧
      (statements script).Pairwise StatementSource.Precedes ∧
      statementsBetween? script.toList 0 (semicolons .code 0 script.toList) =
        some (statements script) :=
  ⟨fun _ member => StatementSource.isPlaced member, pairwise_statementsFrom _ _ _,
    statementsBetween?_eq script⟩

end SchemaDesign.Sql
