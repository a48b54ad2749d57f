import SchemaDesign.Sql.Parser

/-!
# Indexes that statements ask for

Tokens are read as an index of a table only when they have the shape of one, so the index has
columns, whatever the tokens are.
-/

namespace SchemaDesign.Sql

/-- An index has columns. -/
def TableConstraint.HasColumns : TableConstraint → Prop
  | .index _ columns => columns ≠ []
  | _ => True

/-- Every index that a statement gives to a table has columns. -/
def Statement.HasColumns : Statement → Prop
  | .createTable definition => ∀ constraint ∈ definition.constraints, constraint.HasColumns
  | .alterTable _ actions => ∀ constraint, .addConstraint constraint ∈ actions →
      constraint.HasColumns
  | _ => True

section

variable {α β ε : Type} {read : α → Except ε β}

theorem bind_eq_ok
    {first : Except ε α} {next : α → Except ε β} {result : β}
    (succeeded : first >>= next = .ok result) :
    ∃ answer, first = .ok answer ∧ next answer = .ok result := by
  cases first with
  | error error => cases succeeded
  | ok answer => exact ⟨answer, rfl, succeeded⟩

theorem map_eq_ok
    {first : Except ε α} {change : α → β} {result : β}
    (succeeded : first.map change = .ok result) :
    ∃ answer, first = .ok answer ∧ change answer = result := by
  cases first with
  | error error => cases succeeded
  | ok answer =>
      cases succeeded
      exact ⟨answer, rfl, rfl⟩

theorem mem_of_mapM_eq_ok
    {xs : List α} {ys : List β} (succeeded : xs.mapM read = .ok ys) {y : β} (member : y ∈ ys) :
    ∃ x ∈ xs, read x = .ok y := by
  induction xs generalizing ys with
  | nil =>
      rw [List.mapM_nil] at succeeded
      cases succeeded
      cases member
  | cons x xs ih =>
      rw [List.mapM_cons] at succeeded
      obtain ⟨first, firstRead, succeeded⟩ := bind_eq_ok succeeded
      obtain ⟨rest, restRead, succeeded⟩ := bind_eq_ok succeeded
      cases succeeded
      rcases List.mem_cons.mp member with rfl | member
      · exact ⟨x, List.mem_cons_self, firstRead⟩
      · obtain ⟨other, otherMember, otherRead⟩ := ih restRead member
        exact ⟨other, List.mem_cons_of_mem _ otherMember, otherRead⟩

theorem ne_nil_of_mapM_eq_ok
    {xs : List α} {ys : List β} (succeeded : xs.mapM read = .ok ys) (nonempty : xs ≠ []) :
    ys ≠ [] := by
  cases xs with
  | nil => exact absurd rfl nonempty
  | cons x xs =>
      rw [List.mapM_cons] at succeeded
      obtain ⟨first, _, succeeded⟩ := bind_eq_ok succeeded
      obtain ⟨rest, _, succeeded⟩ := bind_eq_ok succeeded
      cases succeeded
      exact List.cons_ne_nil first rest

end

namespace Parser

theorem isKeyword_ne
    {token : Token} {left right : String} (named : token.isKeyword left = true)
    (different : Text.same left right = false) : token.isKeyword right = false := by
  cases token with
  | word value quoted =>
      cases quoted with
      | true => cases named
      | false =>
          rw [Bool.eq_false_iff]
          intro same
          have sameLeft : Text.same left value = true := by
            rw [Text.same_comm]
            exact named
          have equal : Text.same left right = true := Text.same_trans sameLeft same
          rw [equal] at different
          cases different
  | _ => cases named

theorem enclosed?_word
    {value : String} {quoted : Bool} {rest inner after : List Token}
    (found : enclosed? 0 (.word value quoted :: rest) = some (inner, after)) :
    ∃ later, inner = .word value quoted :: later := by
  simp only [enclosed?, Option.map_eq_some_iff, Prod.mk.injEq] at found
  obtain ⟨⟨later, _⟩, _, rfl, _⟩ := found
  exact ⟨later, rfl⟩

theorem parts_word_ne_nil (value : String) (quoted : Bool) (rest : List Token) :
    parts (.word value quoted :: rest) ≠ [] := by
  have first : ∃ part others,
      partsFrom 0 (.word value quoted :: rest) = (.word value quoted :: part) :: others := by
    simp only [partsFrom, reduceCtorEq, false_and, if_false]
    split
    · exact ⟨[], [], rfl⟩
    · next part others _ => exact ⟨part, others, rfl⟩
  obtain ⟨part, others, equality⟩ := first
  rw [parts, equality, List.filter_cons_of_pos rfl]
  exact List.cons_ne_nil _ _

/-- A list of columns that begins with a word is not empty. -/
theorem columnList_ne_nil
    {value : String} {quoted : Bool} {tokens rest : List Token} {columns : List String}
    (read : columnList (.openParen :: .word value quoted :: tokens) = .ok (columns, rest)) :
    columns ≠ [] := by
  rw [columnList] at read
  obtain ⟨⟨inner, after⟩, enclosed, read⟩ := bind_eq_ok read
  obtain ⟨names, listed, read⟩ := bind_eq_ok read
  cases read
  rw [parenthesized] at enclosed
  split at enclosed
  · next found =>
      cases enclosed
      obtain ⟨later, rfl⟩ := enclosed?_word found
      exact ne_nil_of_mapM_eq_ok listed (parts_word_ne_nil value quoted later)
  · cases enclosed

theorem columnListAt_zero {tokens : List Token} (shape : columnListAt tokens 0 = true) :
    ∃ value quoted rest, tokens = .openParen :: .word value quoted :: rest := by
  cases tokens with
  | nil => cases shape
  | cons first tokens =>
      cases tokens with
      | nil =>
          rw [columnListAt, Bool.and_eq_true] at shape
          cases shape.2
      | cons second rest =>
          rw [columnListAt, Bool.and_eq_true] at shape
          obtain ⟨opened, word⟩ := shape
          have opening : first = .openParen := by simpa using opened
          cases second with
          | word value quoted => exact ⟨value, quoted, rest, by rw [opening]⟩
          | _ => cases word

/-- Where a list of columns comes first or after a name, it is read and has columns. -/
theorem columns_ne_nil_of_named
    {tokens rest : List Token} {columns : List String}
    (shape : (columnListAt tokens 0 || (wordAt tokens 0 && columnListAt tokens 1)) = true)
    (read : columnList (optionalName tokens).2 = .ok (columns, rest)) : columns ≠ [] := by
  rcases Bool.or_eq_true_iff.mp shape with listed | named
  · obtain ⟨value, quoted, after, rfl⟩ := columnListAt_zero listed
    exact columnList_ne_nil read
  · obtain ⟨word, listed⟩ := Bool.and_eq_true_iff.mp named
    cases tokens with
    | nil => cases word
    | cons first tokens =>
        cases first with
        | word value quoted =>
            obtain ⟨column, columnQuoted, after, rfl⟩ := columnListAt_zero listed
            exact columnList_ne_nil read
        | _ => cases word

theorem afterKeyword?_eq_some
    {keyword : String} {tokens rest : List Token}
    (found : afterKeywords? [keyword] tokens = some rest) :
    ∃ token, tokens = token :: rest ∧ token.isKeyword keyword = true := by
  cases tokens with
  | nil => cases found
  | cons token tokens =>
      rw [afterKeywords?] at found
      split at found
      · next named =>
          cases found
          exact ⟨token, rfl, named⟩
      · cases found

/-- What is read as an index begins with a keyword for it. -/
theorem constraintAfter_index
    {name indexName : Option String} {tokens rest : List Token} {columns : List String}
    (read : constraintAfter name tokens = .ok (.index indexName columns, rest)) :
    ∃ token later, tokens = token :: later ∧
      (token.isKeyword "INDEX" = true ∨ token.isKeyword "KEY" = true) ∧
        columnList (optionalName later).2 = .ok (columns, rest) := by
  rw [constraintAfter] at read
  split at read
  · obtain ⟨listed, _, read⟩ := bind_eq_ok read
    cases read
  · split at read
    · obtain ⟨listed, _, read⟩ := bind_eq_ok read
      cases read
    · split at read
      · obtain ⟨⟨listed, after⟩, _, read⟩ := bind_eq_ok read
        dsimp only at read
        split at read
        · cases read
        · obtain ⟨target, _, read⟩ := bind_eq_ok read
          cases read
      · split at read
        · obtain ⟨enclosed, _, read⟩ := bind_eq_ok read
          cases read
        · split at read
          · next later found =>
              obtain ⟨⟨names, after⟩, listed, read⟩ := bind_eq_ok read
              cases read
              obtain ⟨keywords, member, found⟩ := List.exists_of_findSome?_eq_some found
              rcases List.mem_cons.mp member with rfl | member
              · obtain ⟨token, rfl, named⟩ := afterKeyword?_eq_some found
                exact ⟨token, later, rfl, .inl named, listed⟩
              · rw [List.mem_singleton.mp member] at found
                obtain ⟨token, rfl, named⟩ := afterKeyword?_eq_some found
                exact ⟨token, later, rfl, .inr named, listed⟩
          · cases read

/-- A constraint that is read from tokens of its shape, if it is an index, has columns. -/
theorem tableConstraint_hasColumns
    {tokens : List Token} {constraint : TableConstraint} (shape : isTableConstraint tokens = true)
    (read : tableConstraint tokens = .ok constraint) : constraint.HasColumns := by
  cases constraint with
  | index name columns =>
      rw [tableConstraint] at read
      obtain ⟨⟨ownName, rest⟩, named, read⟩ := bind_eq_ok read
      obtain ⟨⟨constraint, after⟩, body, read⟩ := bind_eq_ok read
      have same : constraint = .index name columns := by
        cases after with
        | nil => cases read; rfl
        | cons token after => cases read
      subst same
      obtain ⟨token, later, rfl, keyword, listed⟩ := constraintAfter_index body
      have other : ∀ word, Text.same "INDEX" word = false → Text.same "KEY" word = false →
          token.isKeyword word = false := by
        intro word notIndex notKey
        rcases keyword with keyword | keyword
        · exact isKeyword_ne keyword notIndex
        · exact isKeyword_ne keyword notKey
      rw [constraintName] at named
      split at named
      · next unnamed found =>
          obtain ⟨first, rfl, constrained⟩ := afterKeyword?_eq_some found
          obtain ⟨⟨identified, left⟩, identifies, equality⟩ := map_eq_ok named
          cases equality
          cases unnamed with
          | nil => cases identifies
          | cons word unnamed =>
              cases word with
              | word value quoted =>
                  cases identifies
                  have found : ∀ rest, keywordAt (first :: rest) 0 "CONSTRAINT" = true :=
                    fun _ => constrained
                  rw [isTableConstraint] at shape
                  dsimp only at shape
                  rw [if_pos (found _), Bool.and_eq_true] at shape
                  simp only [List.any_cons, List.any_nil, keywordAt, List.getElem?_cons_succ,
                    List.getElem?_cons_zero, Bool.or_eq_true] at shape
                  rw [other "PRIMARY" (by decide) (by decide),
                    other "UNIQUE" (by decide) (by decide),
                    other "FOREIGN" (by decide) (by decide),
                    other "CHECK" (by decide) (by decide)] at shape
                  simp at shape
              | _ => cases identifies
      · cases named
        have first : ∀ word, Text.same "INDEX" word = false → Text.same "KEY" word = false →
            keywordAt (token :: later) 0 word = false := other
        rw [isTableConstraint] at shape
        dsimp only at shape
        rw [first "CONSTRAINT" (by decide) (by decide), first "PRIMARY" (by decide) (by decide),
          first "FOREIGN" (by decide) (by decide), first "CHECK" (by decide) (by decide),
          first "UNIQUE" (by decide) (by decide)] at shape
        simp only [Bool.false_eq_true, if_false, Bool.or_self] at shape
        split at shape
        · exact columns_ne_nil_of_named shape listed
        · cases shape
  | _ => trivial

theorem element?_hasColumns
    {part : List Token} {constraint : TableConstraint}
    (read : element? part = .ok (some (.constraint constraint))) : constraint.HasColumns := by
  rw [element?] at read
  split at read
  · next shape =>
      obtain ⟨found, succeeded, equality⟩ := map_eq_ok read
      cases equality
      exact tableConstraint_hasColumns shape succeeded
  · obtain ⟨column, _, equality⟩ := map_eq_ok read
    cases column with
    | none => cases equality
    | some column => cases equality

theorem createTable_hasColumns
    {tokens : List Token} {statement : Statement} (read : createTable tokens = .ok statement) :
    statement.HasColumns := by
  rw [createTable] at read
  obtain ⟨⟨name, rest⟩, _, read⟩ := bind_eq_ok read
  obtain ⟨⟨body, options⟩, _, read⟩ := bind_eq_ok read
  obtain ⟨_, _, read⟩ := bind_eq_ok read
  obtain ⟨elements, succeeded, read⟩ := bind_eq_ok read
  cases read
  intro constraint member
  obtain ⟨element, elementMember, equality⟩ := List.mem_filterMap.mp member
  obtain ⟨part, _, partRead⟩ := mem_of_mapM_eq_ok succeeded elementMember
  cases element with
  | none => cases equality
  | some element =>
      cases element with
      | column column => cases equality
      | constraint found =>
          cases equality
          exact element?_hasColumns partRead

theorem atEnd_eq_ok
    {α : Type} {expected result : α} {tokens : List Token}
    (read : atEnd expected tokens = .ok result) : result = expected := by
  cases tokens with
  | nil =>
      cases read
      rfl
  | cons token tokens => cases read

theorem droppable_of_dropAction
    {tokens : List Token} {action : AlterAction} (read : dropAction tokens = .ok action) :
    (identifier (skipKeyword "COLUMN" tokens) >>= fun found =>
      atEnd (.dropColumn found.1) found.2) = .ok action := by
  cases tokens with
  | nil => exact read
  | cons token tokens =>
      unfold dropAction at read
      dsimp only at read
      split at read
      · cases read
      · exact read

theorem dropAction_ne
    {tokens : List Token} {action : AlterAction} (read : dropAction tokens = .ok action)
    (constraint : TableConstraint) : action ≠ .addConstraint constraint := by
  obtain ⟨⟨name, rest⟩, _, read⟩ := bind_eq_ok (droppable_of_dropAction read)
  rw [atEnd_eq_ok read]
  exact AlterAction.noConfusion

theorem renameAction_ne
    {tokens : List Token} {action : AlterAction} (read : renameAction tokens = .ok action)
    (constraint : TableConstraint) : action ≠ .addConstraint constraint := by
  rw [renameAction] at read
  split at read
  · obtain ⟨⟨old, rest⟩, _, read⟩ := bind_eq_ok read
    dsimp only at read
    split at read
    · cases read
    · obtain ⟨⟨new, rest⟩, _, read⟩ := bind_eq_ok read
      rw [atEnd_eq_ok read]
      exact AlterAction.noConfusion
  · obtain ⟨⟨name, rest⟩, _, read⟩ := bind_eq_ok read
    rw [atEnd_eq_ok read]
    exact AlterAction.noConfusion

theorem alterAction_hasColumns
    {tokens : List Token} {constraint : TableConstraint}
    (read : alterAction tokens = .ok (.addConstraint constraint)) : constraint.HasColumns := by
  unfold alterAction at read
  split at read
  · split at read
    · next shape =>
        obtain ⟨found, succeeded, equality⟩ := map_eq_ok read
        cases equality
        exact tableConstraint_hasColumns shape succeeded
    · obtain ⟨column, _, equality⟩ := map_eq_ok read
      cases equality
  · split at read
    · exact absurd rfl (dropAction_ne read constraint)
    · split at read
      · obtain ⟨column, _, equality⟩ := map_eq_ok read
        cases equality
      · split at read
        · exact absurd rfl (renameAction_ne read constraint)
        · split at read
          · cases read
          · cases read

theorem alterTable_hasColumns
    {tokens : List Token} {statement : Statement} (read : alterTable tokens = .ok statement) :
    statement.HasColumns := by
  rw [alterTable] at read
  obtain ⟨⟨name, rest⟩, _, read⟩ := bind_eq_ok read
  dsimp only at read
  split at read
  · cases read
  · obtain ⟨actions, succeeded, read⟩ := bind_eq_ok read
    cases read
    intro constraint member
    obtain ⟨part, _, partRead⟩ := mem_of_mapM_eq_ok succeeded member
    exact alterAction_hasColumns partRead

end Parser

/-- Whatever tokens a statement is read from, the indexes that it gives to tables have columns. -/
theorem statement_hasColumns
    {tokens : List Token} {read : Statement} (succeeded : statement tokens = .ok read) :
    read.HasColumns := by
  rw [statement] at succeeded
  split at succeeded
  · exact Parser.createTable_hasColumns succeeded
  · split at succeeded
    · exact Parser.alterTable_hasColumns succeeded
    · split at succeeded
      · obtain ⟨⟨tables, rest⟩, _, read⟩ := bind_eq_ok succeeded
        rw [Parser.atEnd_eq_ok read]
        trivial
      · cases succeeded
        trivial

end SchemaDesign.Sql
