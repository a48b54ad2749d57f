import SchemaDesign.Proofs.Execution.Soundness
import SchemaDesign.Proofs.Validation.ByRule

/-!
# Names that are taken

Validation compares names by their small letters, of whatever alphabet, and a look-up by the letters
`A` to `Z` only.  So validation reports a table or a column exactly if a look-up of its name finds
an earlier one, or if an earlier one has a name that differs in the case of other letters.  Of names
that a look-up confuses, none is passed over.
-/

namespace SchemaDesign

namespace Text

/-! ## Small letters -/

theorem toLower_eq_self_of_wide {c : Char} (wide : ¬ c.toNat < 128) : c.toLower = c := by
  refine dif_neg ?_
  rintro ⟨_, last⟩
  have code : c.val.toNat ≤ 'Z'.val.toNat := UInt32.le_iff_toNat_le.mp last
  have lastCapital : 'Z'.val.toNat = 90 := rfl
  have same : c.val.toNat = c.toNat := rfl
  omega

/-- What the first 128 characters have in common with their small forms all characters have. -/
theorem toLower_invariant
    {α : Type} (property : Char → α)
    (checked : ∀ n < 128, property (Char.ofNat n).toLower = property (Char.ofNat n)) (c : Char) :
    property c.toLower = property c := by
  by_cases narrow : c.toNat < 128
  · have atCode := checked c.toNat narrow
    rwa [Char.ofNat_toNat] at atCode
  · rw [toLower_eq_self_of_wide narrow]

theorem isCased_toLower (c : Char) : isCased c.toLower = isCased c :=
  toLower_invariant isCased (by decide +kernel) c

theorem isCaseIgnorable_toLower (c : Char) : isCaseIgnorable c.toLower = isCaseIgnorable c :=
  toLower_invariant isCaseIgnorable (by decide +kernel) c

theorem smallOf_toLower (c : Char) : smallOf c.toLower = smallOf c :=
  toLower_invariant smallOf (by decide +kernel) c

theorem toNat_toLower_eq_sigma_iff (c : Char) : c.toLower.toNat = 0x3A3 ↔ c.toNat = 0x3A3 := by
  have same := toLower_invariant (fun c => decide (c.toNat = 0x3A3)) (by decide +kernel) c
  rwa [decide_eq_decide] at same

theorem meetsCased_map_toLower (text : List Char) :
    meetsCased (text.map Char.toLower) = meetsCased text := by
  have ignored : isCaseIgnorable ∘ Char.toLower = isCaseIgnorable :=
    funext isCaseIgnorable_toLower
  rw [meetsCased, List.dropWhile_map, ignored, meetsCased]
  cases text.dropWhile isCaseIgnorable with
  | nil => rfl
  | cons c rest => exact isCased_toLower c

theorem smallFrom_map_toLower (before text : List Char) :
    smallFrom (before.map Char.toLower) (text.map Char.toLower) = smallFrom before text := by
  induction text generalizing before with
  | nil => rfl
  | cons c text ih =>
      rw [List.map_cons, smallFrom, smallFrom, ← List.map_cons, ih, smallOf_toLower]
      simp only [toNat_toLower_eq_sigma_iff, meetsCased_map_toLower]

/-- Names that are the same for a look-up have the same small letters. -/
theorem lowerCase_eq_of_same
    {left right : String} (same : Text.same left right = true) :
    lowerCase left = lowerCase right := by
  have folded (s : String) : lowerCase s = String.ofList (smallFrom [] (foldCase s)) := by
    rw [lowerCase, foldCase, ← smallFrom_map_toLower, List.map_nil]
  rw [folded, folded, same_iff.mp same]

/-- Two names have the same small letters, but differ in the case of letters beyond `A` to `Z`. -/
def OnlyWidelySame (left right : String) : Prop :=
  lowerCase left = lowerCase right ∧ same left right = false

theorem lowerCase_eq_iff {left right : String} :
    lowerCase left = lowerCase right ↔ same left right = true ∨ OnlyWidelySame left right := by
  constructor
  · intro small
    cases same : same left right with
    | true => exact .inl rfl
    | false => exact .inr ⟨small, same⟩
  · rintro (same | widely)
    · exact lowerCase_eq_of_same same
    · exact widely.1

end Text

/-! ## What stands before an item of a list -/

section

variable {α : Type} {items : List α} {x : α}

theorem pair_sublist_cons_iff {first item : α} :
    [first, x].Sublist (item :: items) ↔
      [first, x].Sublist items ∨ first = item ∧ x ∈ items := by
  rw [List.sublist_cons_iff]
  refine or_congr_right ?_
  constructor
  · rintro ⟨rest, same, inside⟩
    cases same
    exact ⟨rfl, List.singleton_sublist.mp inside⟩
  · rintro ⟨rfl, member⟩
    exact ⟨[x], rfl, List.singleton_sublist.mpr member⟩

/-- The first item of a kind is another and earlier one exactly if there is an earlier one. -/
theorem exists_earlier_find?_iff
    (distinct : items.Nodup) (isMeant : α → Bool) :
    (∃ earlier, items.find? isMeant = some earlier ∧ earlier ≠ x ∧ [earlier, x].Sublist items) ↔
      ∃ earlier, [earlier, x].Sublist items ∧ isMeant earlier = true := by
  constructor
  · rintro ⟨earlier, found, _, before⟩
    exact ⟨earlier, before, List.find?_some found⟩
  · rintro ⟨earlier, before, meant⟩
    obtain ⟨front, back, rfl, member, inside⟩ := List.cons_sublist_iff.mp before
    obtain ⟨first, found⟩ := Option.isSome_iff_exists.mp
      (List.find?_isSome.mpr ⟨earlier, member, meant⟩)
    have ordered : [first, x].Sublist (front ++ back) :=
      List.cons_sublist_iff.mpr ⟨front, back, rfl, List.mem_of_find?_eq_some found, inside⟩
    refine ⟨first, ?_, ?_, ordered⟩
    · rw [List.find?_append, found, Option.some_or]
    · exact List.pairwise_iff_forall_sublist.mp distinct ordered

/-- An item with none of a kind before it is the one of the kind that is found. -/
theorem find?_eq_some_of_no_earlier
    {isMeant : α → Bool} (member : x ∈ items) (meant : isMeant x = true)
    (alone : ∀ earlier, [earlier, x].Sublist items → isMeant earlier = false) :
    items.find? isMeant = some x := by
  obtain ⟨front, back, rfl⟩ := List.append_of_mem member
  refine find?_append_cons back (fun earlier inFront => alone earlier ?_) meant
  refine List.cons_sublist_iff.mpr ⟨front, x :: back, rfl, inFront, ?_⟩
  exact List.singleton_sublist.mpr List.mem_cons_self

/-- An earlier item of the same small letters is found by the name, or it differs in the case of
letters beyond `A` to `Z`. -/
theorem exists_lowerCase_eq_iff (distinct : items.Nodup) (name : α → String) :
    (∃ earlier, [earlier, x].Sublist items ∧
        Text.lowerCase (name earlier) = Text.lowerCase (name x)) ↔
      (∃ earlier, items.find? (fun item => Text.same (name item) (name x)) = some earlier ∧
        earlier ≠ x ∧ [earlier, x].Sublist items) ∨
      ∃ earlier, [earlier, x].Sublist items ∧ Text.OnlyWidelySame (name earlier) (name x) := by
  rw [exists_earlier_find?_iff distinct, ← exists_or]
  refine exists_congr fun earlier => ?_
  rw [Text.lowerCase_eq_iff, and_or_left]

/-- An item with none of the same small letters before it is the one that its name finds. -/
theorem find?_same_eq_some
    (name : α → String) {wanted : String} (member : x ∈ items)
    (meant : Text.same (name x) wanted = true)
    (alone : ¬ ∃ earlier, [earlier, x].Sublist items ∧
      Text.lowerCase (name earlier) = Text.lowerCase (name x)) :
    items.find? (fun item => Text.same (name item) wanted) = some x := by
  apply find?_eq_some_of_no_earlier member meant
  intro earlier before
  rw [Bool.eq_false_iff]
  intro same
  rw [Text.same_comm] at meant
  exact alone ⟨earlier, before, Text.lowerCase_eq_of_same (Text.same_trans same meant)⟩

end

namespace Validation

/-! ## Repeated keys -/

/-- The items of a list with the key of an item before them, or with a key that has been seen. -/
def repeats {α : Type} (key : α → String) (seen : List String) : List α → List α
  | [] => []
  | item :: items =>
      if seen.contains (key item) then item :: repeats key seen items
      else repeats key (key item :: seen) items

theorem mem_repeats_iff
    {α : Type} {key : α → String} {seen : List String} {items : List α} {x : α} :
    x ∈ repeats key seen items ↔
      (x ∈ items ∧ key x ∈ seen) ∨
        ∃ earlier, [earlier, x].Sublist items ∧ key earlier = key x := by
  induction items generalizing seen with
  | nil => simp [repeats]
  | cons item items ih =>
      have later : (∃ earlier, [earlier, x].Sublist (item :: items) ∧ key earlier = key x) ↔
          (∃ earlier, [earlier, x].Sublist items ∧ key earlier = key x) ∨
            x ∈ items ∧ key x = key item := by
        simp only [pair_sublist_cons_iff, or_and_right, exists_or]
        refine or_congr_right ?_
        constructor
        · rintro ⟨_, ⟨rfl, member⟩, same⟩
          exact ⟨member, same.symm⟩
        · rintro ⟨member, same⟩
          exact ⟨item, ⟨rfl, member⟩, same.symm⟩
      rw [later, repeats]
      split
      · rename_i known
        have known : key item ∈ seen := List.contains_iff_mem.mp known
        rw [List.mem_cons, ih, List.mem_cons]
        constructor
        · rintro (rfl | ⟨member, old⟩ | before)
          · exact .inl ⟨.inl rfl, known⟩
          · exact .inl ⟨.inr member, old⟩
          · exact .inr (.inl before)
        · rintro (⟨rfl | member, old⟩ | before | ⟨member, same⟩)
          · exact .inl rfl
          · exact .inr (.inl ⟨member, old⟩)
          · exact .inr (.inr before)
          · exact .inr (.inl ⟨member, same ▸ known⟩)
      · rename_i new
        have new : key item ∉ seen := fun known => new (List.contains_iff_mem.mpr known)
        rw [ih, List.mem_cons, List.mem_cons]
        constructor
        · rintro (⟨member, same | old⟩ | before)
          · exact .inr (.inr ⟨member, same⟩)
          · exact .inl ⟨.inr member, old⟩
          · exact .inr (.inl before)
        · rintro (⟨rfl | member, old⟩ | before | ⟨member, same⟩)
          · exact absurd old new
          · exact .inl ⟨member, .inr old⟩
          · exact .inr before
          · exact .inl ⟨member, .inl same⟩

/-- An item is seen among the repeated ones through a view that tells it from the other items. -/
theorem mem_map_repeats_iff
    {α γ : Type} {key : α → String} {items : List α} {x : α} (view : α → γ)
    (apart : ∀ y ∈ items, view y = view x → y = x) :
    view x ∈ (repeats key [] items).map view ↔
      ∃ earlier, [earlier, x].Sublist items ∧ key earlier = key x := by
  have repeated {y : α} : y ∈ repeats key [] items ↔
      ∃ earlier, [earlier, y].Sublist items ∧ key earlier = key y := by
    rw [mem_repeats_iff, or_iff_right]
    rintro ⟨_, seen⟩
    cases seen
  rw [List.mem_map]
  constructor
  · rintro ⟨y, found, same⟩
    obtain ⟨earlier, before, key⟩ := repeated.mp found
    rw [← apart y (before.subset (List.mem_cons_of_mem _ List.mem_cons_self)) same]
    exact ⟨earlier, before, key⟩
  · intro before
    exact ⟨x, repeated.mpr before, rfl⟩

/-! ## Findings on repeated names -/

theorem map_duplicateTablesAfter (seen : List (String × String)) (tables : List Table) :
    (duplicateTablesAfter seen tables).map (fun finding => (finding.severity, finding.table)) =
      (repeats (fun table => Text.lowerCase table.name) (seen.map Prod.fst) tables).map
        fun table => (.error, some table.id) := by
  have known (seen : List (String × String)) (key : String) :
      (seen.map Prod.fst).contains key = (seen.lookup key).isSome := by
    rw [Bool.eq_iff_iff, List.contains_iff_mem, List.mem_map, List.lookup_isSome_iff]
    exact exists_congr fun entry => and_congr_right fun _ => by rw [beq_iff_eq, eq_comm]
  induction tables generalizing seen with
  | nil => rfl
  | cons table tables ih =>
      rw [duplicateTablesAfter, repeats, known]
      cases seen.lookup (Text.lowerCase table.name) with
      | none => exact ih _
      | some first =>
          rw [Option.isSome_some, if_pos rfl, List.map_cons, List.map_cons, ← ih]

theorem map_duplicateColumnsAfter (table : Table) (seen : List String) (columns : List Column) :
    (duplicateColumnsAfter table seen columns).map
        (fun finding => (finding.severity, finding.table, finding.column)) =
      (repeats (fun column => Text.lowerCase column.name) seen columns).map
        fun column => (.error, some table.id, some column.id) := by
  induction columns generalizing seen with
  | nil => rfl
  | cons column columns ih =>
      rw [duplicateColumnsAfter, repeats]
      split
      · rw [List.map_cons, List.map_cons, ih]
      · exact ih _

theorem table_of_mem_duplicateColumnsAfter
    {table : Table} {seen : List String} {columns : List Column} {finding : Finding}
    (found : finding ∈ duplicateColumnsAfter table seen columns) :
    finding.table = some table.id := by
  have viewed : (finding.severity, finding.table, finding.column) ∈
      (duplicateColumnsAfter table seen columns).map
        fun finding => (finding.severity, finding.table, finding.column) :=
    List.mem_map_of_mem found
  rw [map_duplicateColumnsAfter] at viewed
  obtain ⟨column, _, same⟩ := List.mem_map.mp viewed
  simp only [Prod.mk.injEq] at same
  exact same.2.1.symm

theorem exists_finding_iff {schema : Schema} (rule : Rule) {holds : Finding → Prop} :
    (∃ finding ∈ schema.validate, finding.rule = rule ∧ holds finding) ↔
      ∃ finding ∈ ofRule schema rule, holds finding := by
  constructor
  · rintro ⟨finding, found, rfl, held⟩
    exact ⟨finding, mem_validate_iff.mp found, held⟩
  · rintro ⟨finding, found, held⟩
    have same := (rule_of_mem_ofRule found).1
    exact ⟨finding, mem_validate_iff.mpr (same.symm ▸ found), same, held⟩

end Validation

/-! ## Reports and look-ups -/

/-- A look-up of the name of a column finds another and earlier one. -/
def Table.FindsEarlierColumn (table : Table) (column : Column) : Prop :=
  ∃ earlier, table.columnNamed? column.name = some earlier ∧ earlier ≠ column ∧
    [earlier, column].Sublist table.columns

namespace Schema

/-- A look-up of the name of a table finds another and earlier one. -/
def FindsEarlierTable (schema : Schema) (table : Table) : Prop :=
  ∃ earlier, schema.tableNamed? table.name = some earlier ∧ earlier ≠ table ∧
    [earlier, table].Sublist schema.tables

/-- Validation reports a table for its name. -/
def ReportsTable (schema : Schema) (table : Table) : Prop :=
  ∃ finding ∈ schema.validate, finding.rule = .duplicateTableName ∧
    finding.severity = .error ∧ finding.table = some table.id

/-- Validation reports a column of a table for its name. -/
def ReportsColumn (schema : Schema) (table : Table) (column : Column) : Prop :=
  ∃ finding ∈ schema.validate, finding.rule = .duplicateColumnName ∧
    finding.severity = .error ∧ finding.table = some table.id ∧ finding.column = some column.id

variable {schema : Schema} {table : Table} {column : Column}

theorem reportsTable_iff
    (tableIds : schema.tableIds.Nodup) (member : table ∈ schema.tables) :
    schema.ReportsTable table ↔
      ∃ earlier, [earlier, table].Sublist schema.tables ∧
        Text.lowerCase earlier.name = Text.lowerCase table.name := by
  have seen : schema.ReportsTable table ↔
      (Severity.error, some table.id) ∈ (Validation.duplicateTablesAfter [] schema.tables).map
        fun finding => (finding.severity, finding.table) := by
    rw [ReportsTable, Validation.exists_finding_iff, List.mem_map]
    simp only [Prod.mk.injEq]
    rfl
  rw [seen, Validation.map_duplicateTablesAfter, List.map_nil]
  apply Validation.mem_map_repeats_iff fun table : Table => (Severity.error, some table.id)
  intro other otherMember same
  apply List.inj_on_of_nodup_map tableIds otherMember member
  simpa using same

theorem reportsColumn_iff
    (tableIds : schema.tableIds.Nodup) (columnIds : schema.columnIds.Nodup)
    (member : table ∈ schema.tables) (columnMember : column ∈ table.columns) :
    schema.ReportsColumn table column ↔
      ∃ earlier, [earlier, column].Sublist table.columns ∧
        Text.lowerCase earlier.name = Text.lowerCase column.name := by
  have seen : schema.ReportsColumn table column ↔
      (Severity.error, some table.id, some column.id) ∈
        (Validation.duplicateColumnsAfter table [] table.columns).map
          fun finding => (finding.severity, finding.table, finding.column) := by
    rw [ReportsColumn, Validation.exists_finding_iff, List.mem_map]
    simp only [Prod.mk.injEq]
    constructor
    · rintro ⟨finding, found, held⟩
      obtain ⟨owner, ownerMember, found⟩ := List.mem_flatMap.mp found
      have about := (Validation.table_of_mem_duplicateColumnsAfter found).symm.trans held.2.1
      have same : owner = table :=
        List.inj_on_of_nodup_map tableIds ownerMember member (Option.some.inj about)
      exact ⟨finding, same ▸ found, held⟩
    · rintro ⟨finding, found, held⟩
      exact ⟨finding, List.mem_flatMap.mpr ⟨table, member, found⟩, held⟩
  rw [seen, Validation.map_duplicateColumnsAfter]
  apply Validation.mem_map_repeats_iff
    fun column : Column => (Severity.error, some table.id, some column.id)
  intro other otherMember same
  apply List.inj_on_of_nodup_map (columns_nodup columnIds member) otherMember columnMember
  simpa using same

/-- Where names of tables differ for look-ups, those reported differ in the case of letters beyond
`A` to `Z`. -/
theorem onlyWidelySame_of_finding
    (names : schema.tables.Pairwise fun left right => Text.same left.name right.name = false)
    {finding : Finding} (found : finding ∈ schema.validate)
    (rule : finding.rule = .duplicateTableName) :
    ∃ first second, [first, second].Sublist schema.tables ∧
      Text.OnlyWidelySame first.name second.name := by
  rw [Validation.mem_validate_iff, rule] at found
  have viewed : (finding.severity, finding.table) ∈
      (Validation.duplicateTablesAfter [] schema.tables).map
        fun finding => (finding.severity, finding.table) :=
    List.mem_map_of_mem found
  rw [Validation.map_duplicateTablesAfter] at viewed
  obtain ⟨second, repeated, _⟩ := List.mem_map.mp viewed
  rcases Validation.mem_repeats_iff.mp repeated with ⟨_, seen⟩ | ⟨first, before, small⟩
  · cases seen
  · exact ⟨first, second, before, small, List.pairwise_iff_forall_sublist.mp names before⟩

/-- Validation reports a table exactly if a look-up of its name finds an earlier one, or if an
earlier one has a name that differs in the case of letters beyond `A` to `Z`, and columns likewise.
So where it reports no table, or no column, look-ups are never in doubt; and statements that are
carried out from an empty schema on leave no table that is reported for any other reason than
letters beyond `A` to `Z`. -/
theorem duplicate_names_match_lookups
    (tableIds : schema.tableIds.Nodup) (columnIds : schema.columnIds.Nodup) :
    (∀ table ∈ schema.tables,
        (schema.ReportsTable table ↔ schema.FindsEarlierTable table ∨
          ∃ earlier, [earlier, table].Sublist schema.tables ∧
            Text.OnlyWidelySame earlier.name table.name)) ∧
      (∀ table ∈ schema.tables, ∀ column ∈ table.columns,
        (schema.ReportsColumn table column ↔ table.FindsEarlierColumn column ∨
          ∃ earlier, [earlier, column].Sublist table.columns ∧
            Text.OnlyWidelySame earlier.name column.name)) ∧
      ((∀ finding ∈ schema.validate, finding.rule ≠ .duplicateTableName) →
        ∀ name, ∀ table ∈ schema.tables, Text.same table.name name = true →
          schema.tableNamed? name = some table) ∧
      ((∀ finding ∈ schema.validate, finding.rule ≠ .duplicateColumnName) →
        ∀ name, ∀ table ∈ schema.tables, ∀ column ∈ table.columns,
          Text.same column.name name = true → table.columnNamed? name = some column) ∧
      ∀ session : Session, session.schema.IsEmpty → ∀ scripts script count,
        let reached :=
          (session.executedScripts scripts).executed ((Sql.statements script).take count)
        ∀ finding ∈ reached.schema.validate, finding.rule = .duplicateTableName →
          ∃ first second, [first, second].Sublist reached.schema.tables ∧
            Text.OnlyWidelySame first.name second.name := by
  have tablesApart : schema.tables.Nodup := .of_map _ tableIds
  refine ⟨?_, ?_, ?_, ?_, ?_⟩
  · intro table member
    rw [reportsTable_iff tableIds member]
    exact exists_lowerCase_eq_iff tablesApart fun table => table.name
  · intro table member column columnMember
    have columnsApart : table.columns.Nodup := .of_map _ (columns_nodup columnIds member)
    rw [reportsColumn_iff tableIds columnIds member columnMember]
    exact exists_lowerCase_eq_iff columnsApart fun column => column.name
  · intro silent name table member same
    apply find?_same_eq_some (fun table => table.name) member same
    rw [← reportsTable_iff tableIds member]
    rintro ⟨finding, found, rule, _⟩
    exact silent finding found rule
  · intro silent name table member column columnMember same
    apply find?_same_eq_some (fun column => column.name) columnMember same
    rw [← reportsColumn_iff tableIds columnIds member columnMember]
    rintro ⟨finding, found, rule, _⟩
    exact silent finding found rule
  · intro session empty scripts script count reached finding found rule
    have stands : reached.Stands :=
      ((Session.stands_of_isEmpty empty).executedScripts scripts).executed _
    exact onlyWidelySame_of_finding stands.keyed.tableNames found rule

/-- Two columns `id` and `ID`: the second is reported, and a look-up of its name finds the first. -/
theorem duplicate_names_match_lookups_shop :
    let first : Column := { name := "id", dataType := "INT", id := ⟨1⟩ }
    let second : Column := { name := "ID", dataType := "INT", id := ⟨2⟩ }
    let users : Table :=
      { id := ⟨0⟩
        name := "users"
        columns := [first, second]
        position := default
        rowCount := 0
        rows := [] }
    let schema : Schema := { Schema.new "shop" default with tables := [users] }
    let session : Session := .ofConfig {} 0 default
    let reached := (session.executedScripts ["CREATE TABLE users (id INT);"]).executed
      ((Sql.statements "CREATE TABLE Users (id INT);").take 1)
    (schema.tableIds.Nodup ∧ schema.columnIds.Nodup ∧ users ∈ schema.tables ∧
        second ∈ users.columns ∧ users.FindsEarlierColumn second ∧
        schema.ReportsColumn users second) ∧
      ((∀ finding ∈ schema.validate, finding.rule ≠ .duplicateTableName) ∧
        schema.tableNamed? "USERS" = some users) ∧
      session.schema.IsEmpty ∧
        ∀ finding ∈ reached.schema.validate, finding.rule = .duplicateTableName →
          ∃ first second, [first, second].Sublist reached.schema.tables ∧
            Text.OnlyWidelySame first.name second.name := by
  intro first second users schema session reached
  have tableIds : schema.tableIds.Nodup := by decide
  have columnIds : schema.columnIds.Nodup := by decide
  have member : users ∈ schema.tables := List.mem_singleton.mpr rfl
  have columnMember : second ∈ users.columns := List.mem_cons_of_mem _ List.mem_cons_self
  have finds : users.FindsEarlierColumn second :=
    ⟨first, by decide, by decide, List.Sublist.refl _⟩
  have silent : ∀ finding ∈ schema.validate, finding.rule ≠ .duplicateTableName := by
    decide +kernel
  have empty : session.schema.IsEmpty := ⟨rfl, rfl, rfl, rfl⟩
  obtain ⟨_, columns, tables, _, statements⟩ := duplicate_names_match_lookups tableIds columnIds
  refine ⟨⟨tableIds, columnIds, member, columnMember, finds, ?_⟩, ⟨silent, ?_⟩, empty, ?_⟩
  · exact (columns users member second columnMember).mpr (.inl finds)
  · exact tables silent "USERS" users member (by decide)
  · exact statements session empty _ _ 1

/-- Two tables that statements create are reported although each name finds its own table. -/
theorem created_tables_reported :
    let session : Session := .ofConfig {} 0 default
    let script : String := "CREATE TABLE \"É\" (id INT); CREATE TABLE \"é\" (id INT)"
    let reached := session.executedScripts [script]
    session.schema.IsEmpty ∧ reached.schema.tableIds.Nodup ∧ reached.schema.columnIds.Nodup ∧
      (∃ finding ∈ reached.schema.validate, finding.rule = .duplicateTableName) ∧
      ∀ table ∈ reached.schema.tables, reached.schema.tableNamed? table.name = some table := by
  refine ⟨⟨rfl, rfl, rfl, rfl⟩, ?_, ?_, ?_, ?_⟩ <;> decide +kernel

end Schema

end SchemaDesign
