import SchemaDesign.Proofs.Sql.Spellings

/-!
# Statements that alter a table

What follows the name of the table is divided at the commas outside parentheses.  A fragment that is
not empty is one action and is taken to its end, and an empty one, at a stray comma, is passed over.
-/

namespace SchemaDesign.Sql

/-- An action of a statement that alters a table. -/
inductive AlterationTokens : AlterAction → List Token → Prop where
  | addColumn {column : ColumnDef} {opening word tokens : List Token} :
      AreKeywords ["ADD"] opening → Optionally (AreKeywords ["COLUMN"]) word →
        ColumnTokens column tokens →
          AlterationTokens (.addColumn column) (opening ++ (word ++ tokens))
  | addConstraint {constraint : TableConstraint} {opening tokens : List Token} :
      AreKeywords ["ADD"] opening → NamedConstraintTokens constraint tokens →
        AlterationTokens (.addConstraint constraint) (opening ++ tokens)
  | modifyColumn {column : ColumnDef} {opening word tokens : List Token} :
      AreKeywords ["MODIFY"] opening → Optionally (AreKeywords ["COLUMN"]) word →
        ColumnTokens column tokens →
          AlterationTokens (.modifyColumn column) (opening ++ (word ++ tokens))
  | dropColumn {name : String} {opening word tokens : List Token} :
      AreKeywords ["DROP"] opening → Optionally (AreKeywords ["COLUMN"]) word →
        WordTokens name tokens → AlterationTokens (.dropColumn name) (opening ++ (word ++ tokens))
  | renameColumn {old new : String} {opening column first word second : List Token} :
      AreKeywords ["RENAME"] opening → AreKeywords ["COLUMN"] column → WordTokens old first →
        AreKeywords ["TO"] word → WordTokens new second →
          AlterationTokens (.renameColumn old new)
            (opening ++ (column ++ (first ++ (word ++ second))))
  | renameTo {name : String} {opening word tokens : List Token} :
      AreKeywords ["RENAME"] opening → Optionally (AreAnyKeywords [["TO"], ["AS"]]) word →
        NameTokens name tokens → AlterationTokens (.renameTo name) (opening ++ (word ++ tokens))

/-! ## Actions -/

namespace Parser

variable {tokens : List Token} {action : AlterAction}

theorem alterationTokens_of_dropAction {opening : List Token}
    (spelled : AreKeywords ["DROP"] opening) (read : dropAction tokens = .ok action) :
    AlterationTokens action (opening ++ tokens) := by
  obtain ⟨⟨name, left⟩, nameRead, read⟩ := bind_eq_ok (droppable_of_dropAction read)
  obtain ⟨rfl, rfl⟩ := nil_of_atEnd read
  obtain ⟨word, whole, wordSpelled⟩ := optionally_of_skipKeyword "COLUMN" tokens
  obtain ⟨taken, same, nameSpelled⟩ := takes_identifier nameRead
  rw [List.append_nil] at same
  rw [whole, same]
  exact .dropColumn spelled wordSpelled nameSpelled

theorem alterationTokens_of_renameAction {opening : List Token}
    (spelled : AreKeywords ["RENAME"] opening) (read : renameAction tokens = .ok action) :
    AlterationTokens action (opening ++ tokens) := by
  rw [renameAction] at read
  split at read
  · rename_i rest found
    obtain ⟨⟨old, left⟩, oldRead, read⟩ := bind_eq_ok read
    dsimp only at read
    split at read
    · cases read
    · rename_i rest toward
      obtain ⟨⟨new, left⟩, newRead, read⟩ := bind_eq_ok read
      obtain ⟨rfl, rfl⟩ := nil_of_atEnd read
      obtain ⟨column, rfl, columnSpelled⟩ := areKeywords_of_afterKeywords? found
      obtain ⟨first, rfl, oldSpelled⟩ := takes_identifier oldRead
      obtain ⟨word, rfl, wordSpelled⟩ := areKeywords_of_afterKeywords? toward
      obtain ⟨second, rfl, newSpelled⟩ := takes_identifier newRead
      rw [List.append_nil]
      exact .renameColumn spelled columnSpelled oldSpelled wordSpelled newSpelled
  · obtain ⟨word, whole, wordSpelled⟩ := optionally_of_afterAny? [["TO"], ["AS"]] tokens
    obtain ⟨⟨name, left⟩, nameRead, read⟩ := bind_eq_ok read
    obtain ⟨rfl, rfl⟩ := nil_of_atEnd read
    obtain ⟨taken, same, nameSpelled⟩ := takes_objectName nameRead
    rw [List.append_nil] at same
    rw [whole, same]
    exact .renameTo spelled wordSpelled nameSpelled

/-- An action is read of all tokens of a fragment. -/
theorem alterationTokens_of_alterAction (read : alterAction tokens = .ok action) :
    AlterationTokens action tokens := by
  unfold alterAction at read
  split at read
  · rename_i rest add
    obtain ⟨opening, rfl, spelled⟩ := areKeywords_of_afterKeywords? add
    split at read
    · obtain ⟨constraint, constraintRead, rfl⟩ := map_eq_ok read
      exact .addConstraint spelled (namedConstraintTokens_of_tableConstraint constraintRead)
    · obtain ⟨column, columnRead, rfl⟩ := map_eq_ok read
      obtain ⟨word, whole, wordSpelled⟩ := optionally_of_skipKeyword "COLUMN" rest
      rw [whole]
      exact .addColumn spelled wordSpelled (columnTokens_of_remainingColumn columnRead)
  split at read
  · rename_i rest drop
    obtain ⟨opening, rfl, spelled⟩ := areKeywords_of_afterKeywords? drop
    exact alterationTokens_of_dropAction spelled read
  split at read
  · rename_i rest modify
    obtain ⟨opening, rfl, spelled⟩ := areKeywords_of_afterKeywords? modify
    obtain ⟨column, columnRead, rfl⟩ := map_eq_ok read
    obtain ⟨word, whole, wordSpelled⟩ := optionally_of_skipKeyword "COLUMN" rest
    rw [whole]
    exact .modifyColumn spelled wordSpelled (columnTokens_of_remainingColumn columnRead)
  split at read
  · rename_i rest rename
    obtain ⟨opening, rfl, spelled⟩ := areKeywords_of_afterKeywords? rename
    exact alterationTokens_of_renameAction spelled read
  · split at read
    · cases read
    · cases read

/-- What is read as a change of a table goes by the fragments that are not empty. -/
theorem alterTable_eq_ok
    {table : String} {actions : List AlterAction}
    (read : alterTable tokens = .ok (.alterTable table actions)) :
    ∃ name rest fragments, tokens = name ++ rest ∧ NameTokens table name ∧ rest ≠ [] ∧
      Fragments 0 fragments rest ∧
      List.Forall₂ AlterationTokens actions
        (fragments.filter fun fragment => !fragment.isEmpty) := by
  obtain ⟨⟨found, rest⟩, named, read⟩ := bind_eq_ok read
  dsimp only at read
  split at read
  · cases read
  · rename_i some
    obtain ⟨each, eachRead, read⟩ := bind_eq_ok read
    cases read
    obtain ⟨name, rfl, nameSpelled⟩ := takes_objectName named
    refine ⟨name, rest, _, rfl, nameSpelled, ?_, fragments_partsFrom 0 rest, ?_⟩
    · rintro rfl
      exact some rfl
    · exact (forall₂_of_mapM_eq_ok eachRead).imp fun _ _ => alterationTokens_of_alterAction

end Parser

/-- Of tokens that alter a table, what follows the keywords is read as a change of it. -/
theorem alterTable_of_statement
    {tokens : List Token} {table : String} {actions : List AlterAction}
    (accepted : statement tokens = .ok (.alterTable table actions)) :
    ∃ rest, Parser.afterKeywords? ["ALTER", "TABLE"] tokens = some rest ∧
      Parser.alterTable rest = .ok (.alterTable table actions) := by
  rw [statement] at accepted
  split at accepted
  · obtain ⟨_, _, accepted⟩ := bind_eq_ok accepted
    obtain ⟨_, _, accepted⟩ := bind_eq_ok accepted
    obtain ⟨_, _, accepted⟩ := bind_eq_ok accepted
    obtain ⟨_, _, accepted⟩ := bind_eq_ok accepted
    cases accepted
  split at accepted
  · rename_i rest found
    exact ⟨rest, found, accepted⟩
  split at accepted
  · obtain ⟨_, _, accepted⟩ := bind_eq_ok accepted
    cases Parser.atEnd_eq_ok accepted
  · cases accepted

/-- What follows the name of the table in a statement that alters one is not empty, and the
fragments of it that are not empty are its actions, in order and each to its end.  It is a list of
actions with single commas between them exactly if no comma is stray. -/
theorem alter_table_actions
    {tokens : List Token} {table : String} {actions : List AlterAction}
    (accepted : statement tokens = .ok (.alterTable table actions)) :
    ∃ opening name rest fragments, tokens = opening ++ (name ++ rest) ∧
      AreKeywords ["ALTER", "TABLE"] opening ∧ NameTokens table name ∧ rest ≠ [] ∧
      Fragments 0 fragments rest ∧
      List.Forall₂ AlterationTokens actions (fragments.filter fun fragment => !fragment.isEmpty) ∧
      (actions ≠ [] ∧ [] ∉ fragments ∧ List.Forall₂ AlterationTokens actions fragments ↔
        ¬ StrayComma rest) := by
  obtain ⟨body, found, read⟩ := alterTable_of_statement accepted
  obtain ⟨opening, rfl, spelled⟩ := Parser.areKeywords_of_afterKeywords? found
  obtain ⟨name, rest, fragments, rfl, nameSpelled, nonempty, divided, each⟩ :=
    Parser.alterTable_eq_ok read
  refine ⟨opening, name, rest, fragments, rfl, spelled, nameSpelled, nonempty, divided, each, ?_⟩
  rw [strayComma_iff divided nonempty]
  constructor
  · exact fun proper => proper.2.1
  · intro absent
    have all : (fragments.filter fun fragment => !fragment.isEmpty) = fragments := by
      rw [List.filter_eq_self]
      intro fragment member
      have full : fragment ≠ [] := fun empty => absent (empty ▸ member)
      simpa using full
    rw [all] at each
    refine ⟨?_, absent, each⟩
    rintro rfl
    cases each
    exact divided.ne_nil rfl

/-- A name with a schema before it, a default value with a comma in it and a quoted name. -/
theorem alter_table_actions_users :
    ∃ fragments, fragments.length = 2 ∧
      List.Forall₂ AlterationTokens
        [.addColumn { name := "age", dataType := "INT", default := some "f(1, 2)" },
          .dropColumn "nick name"] fragments := by
  have accepted : statement
      [.word "ALTER" false, .word "TABLE" false, .word "app" false, .period, .word "users" false,
        .word "ADD" false, .word "age" false, .word "INT" false, .word "DEFAULT" false,
        .word "f" false, .openParen, .number "1", .comma, .number "2", .closeParen, .comma,
        .word "DROP" false, .word "nick name" true] =
      .ok (.alterTable "users"
        [.addColumn { name := "age", dataType := "INT", default := some "f(1, 2)" },
          .dropColumn "nick name"]) := by
    decide +kernel
  obtain ⟨_, _, _, _, _, _, _, _, _, each, _⟩ := alter_table_actions accepted
  exact ⟨_, each.length_eq.symm, each⟩

/-- A comma alone is taken for a list of no actions, and commas that are doubled or come last for
none at all. -/
theorem stray_commas_accepted :
    Statement.ofText "ALTER TABLE users ," = .ok (.alterTable "users" []) ∧
      Statement.ofText "ALTER TABLE users DROP a,, DROP b," =
        .ok (.alterTable "users" [.dropColumn "a", .dropColumn "b"]) := by
  decide +kernel

end SchemaDesign.Sql
