import SchemaDesign.Proofs.Execution.Recreation

/-!
# Which columns a foreign key pairs

A foreign key passes over the names of referenced columns that do not exist before it pairs its
columns with the others.  So it pairs columns by position only if nothing that exists is named after
a name it has passed over; otherwise the columns move up.
-/

namespace SchemaDesign

/-- The relationships of a schema, without their identities. -/
def Schema.relationshipSpecs (schema : Schema) : List RelationshipSpec :=
  schema.relationships.map fun relationship => relationship.toRelationshipSpec

namespace Execution

open Sql (TableConstraint)

namespace ForeignKey

/-- The relationship between the columns of two names, if both exist. -/
def link? (key : ForeignKey) (tableName : String) (source target : Table) (names : String × String) :
    Option RelationshipSpec :=
  (source.columnNamed? names.1).bind fun sourceColumn =>
    (target.columnNamed? names.2).map fun targetColumn =>
      keySpec (key.name.getD ("fk_" ++ tableName ++ "_" ++ sourceColumn.name)) source sourceColumn
        target targetColumn

/-- The relationships between columns whose names are listed at the same position. -/
def pairs (key : ForeignKey) (tableName : String) (source target : Table)
    (columns referenced : List String) : List RelationshipSpec :=
  (columns.zip referenced).filterMap (key.link? tableName source target)

/-- Up to some position, no name of a column is listed after a name that no column has. -/
def Gapless (target : Table) (count : Nat) (referenced : List String) : Prop :=
  ∀ before name after, referenced = before ++ name :: after → before.length < count →
    target.columnNamed? name = none → ∀ other ∈ after, target.columnNamed? other = none

/-- The columns of a foreign key exist and are different. -/
structure Sourced (source : Table) (columns : List String) : Prop where
  found : ∀ name ∈ columns, ∃ column, source.columnNamed? name = some column
  distinct : ((columns.filterMap source.columnNamed?).map fun column => column.id).Nodup

/-- What the warnings on a foreign key tell about names without a column.  Where the number of
columns differs, that may be all that a column without a counterpart is told about. -/
structure Warned (key : ForeignKey) (tableName : String) (source target : Table)
    (warnings : List String) : Prop where
  referenced : ∀ name ∈ key.references.columns, target.columnNamed? name = none →
    ("Referenced column '" ++ target.name ++ "." ++ name ++ "' not found") ∈ warnings
  columns : ∀ name ∈ key.columns, source.columnNamed? name = none →
    ("Column '" ++ name ++ "' not found in table '" ++ tableName ++ "', foreign key skipped")
        ∈ warnings ∨
      ∃ count ≠ key.columns.length,
        ("Foreign key on '" ++ tableName ++ "' maps " ++ toString key.columns.length ++
          " column(s) to " ++ toString count ++ " referenced column(s)") ∈ warnings
  lengths : key.columns.length ≠ key.references.columns.length → warnings ≠ []

theorem Sourced.tail
    {source : Table} {column : String} {columns : List String}
    (sourced : Sourced source (column :: columns)) : Sourced source columns := by
  obtain ⟨sourceColumn, found⟩ := sourced.found column List.mem_cons_self
  have distinct := sourced.distinct
  rw [List.filterMap_cons_some found, List.map_cons, List.nodup_cons] at distinct
  exact ⟨fun other member => sourced.found other (List.mem_cons_of_mem _ member), distinct.2⟩

/-! ## Gaps -/

section

variable {target : Table} {name : String} {referenced : List String}

theorem gapless_nil (count : Nat) : Gapless target count [] :=
  fun _ _ _ split => absurd split (by simp)

theorem gapless_zero (referenced : List String) : Gapless target 0 referenced :=
  fun _ _ _ _ shorter => absurd shorter (Nat.not_lt_zero _)

theorem gapless_cons_iff {count : Nat} :
    Gapless target (count + 1) (name :: referenced) ↔
      (target.columnNamed? name = none → ∀ other ∈ referenced, target.columnNamed? other = none) ∧
        Gapless target count referenced := by
  constructor
  · intro gapless
    refine ⟨gapless [] name referenced rfl (Nat.succ_pos _), ?_⟩
    intro before missing after split shorter
    exact gapless (name :: before) missing after (congrArg (name :: ·) split)
      (Nat.succ_lt_succ shorter)
  · rintro ⟨first, rest⟩ before missing after split shorter
    cases before with
    | nil =>
        obtain ⟨rfl, rfl⟩ := List.cons.inj split
        exact first
    | cons head before =>
        exact rest before missing after (List.cons.inj split).2 (Nat.lt_of_succ_lt_succ shorter)

/-- The names that a column has. -/
def existing (target : Table) (referenced : List String) : List String :=
  referenced.filter fun name => (target.columnNamed? name).isSome

theorem existing_cons_of_some {column : Column} (found : target.columnNamed? name = some column) :
    existing target (name :: referenced) = name :: existing target referenced :=
  List.filter_cons_of_pos (by rw [found]; rfl)

theorem existing_cons_of_none (missing : target.columnNamed? name = none) :
    existing target (name :: referenced) = existing target referenced :=
  List.filter_cons_of_neg (by simp [missing])

theorem existing_eq_nil_iff :
    existing target referenced = [] ↔ ∀ other ∈ referenced, target.columnNamed? other = none := by
  simp [existing]

end

/-! ## Pairs -/

section

variable {key : ForeignKey} {tableName : String} {source target : Table}
variable {columns referenced : List String}

theorem pairs_nil (columns : List String) : key.pairs tableName source target columns [] = [] := by
  rw [pairs, List.zip_nil_right, List.filterMap_nil]

theorem pairs_cons (column name : String) :
    key.pairs tableName source target (column :: columns) (name :: referenced) =
      (key.link? tableName source target (column, name)).toList ++
        key.pairs tableName source target columns referenced := by
  rw [pairs, List.zip_cons_cons, List.filterMap_cons]
  cases key.link? tableName source target (column, name) with
  | none => rfl
  | some spec => rfl

theorem link?_of_missing {column name : String} (missing : target.columnNamed? name = none) :
    key.link? tableName source target (column, name) = none := by
  simp [link?, missing]

theorem pairs_of_missing
    (missing : ∀ name ∈ referenced, target.columnNamed? name = none) :
    key.pairs tableName source target columns referenced = [] := by
  rw [pairs, List.filterMap_eq_nil_iff]
  rintro ⟨column, name⟩ member
  exact link?_of_missing (missing name (List.of_mem_zip member).2)

/-- A pair goes from one of the columns. -/
theorem sourceColumn_mem
    {spec : RelationshipSpec}
    (member : spec ∈ key.pairs tableName source target columns referenced) :
    spec.sourceColumn ∈ (columns.filterMap source.columnNamed?).map fun column => column.id := by
  obtain ⟨⟨column, name⟩, paired, linked⟩ := List.mem_filterMap.mp member
  obtain ⟨sourceColumn, found, reached⟩ := Option.bind_eq_some_iff.mp linked
  obtain ⟨_, _, rfl⟩ := Option.map_eq_some_iff.mp reached
  exact List.mem_map_of_mem (List.mem_filterMap.mpr ⟨column, (List.of_mem_zip paired).1, found⟩)

/-- Without gaps, to pass over names without a column first makes no difference. -/
theorem pairs_existing_of_gapless (gapless : Gapless target columns.length referenced) :
    key.pairs tableName source target columns (existing target referenced) =
      key.pairs tableName source target columns referenced := by
  induction referenced generalizing columns with
  | nil => rfl
  | cons name referenced ih =>
      cases columns with
      | nil => rfl
      | cons column columns =>
          obtain ⟨first, rest⟩ := gapless_cons_iff.mp gapless
          cases named : target.columnNamed? name with
          | some targetColumn =>
              rw [existing_cons_of_some named, pairs_cons, pairs_cons, ih rest]
          | none =>
              have others := first named
              rw [existing_cons_of_none named, existing_eq_nil_iff.mpr others, pairs_nil, pairs_cons,
                link?_of_missing named, pairs_of_missing others]
              rfl

/-- The pair of a column that the others are different from is not among the pairs of the others. -/
theorem link?_ne_of_mem
    {column name : String} {spec other : RelationshipSpec}
    (sourced : Sourced source (column :: columns))
    (linked : key.link? tableName source target (column, name) = some spec)
    (member : other ∈ key.pairs tableName source target columns referenced) : spec ≠ other := by
  obtain ⟨sourceColumn, found, reached⟩ := Option.bind_eq_some_iff.mp linked
  obtain ⟨_, _, rfl⟩ := Option.map_eq_some_iff.mp reached
  have distinct := sourced.distinct
  rw [List.filterMap_cons_some found, List.map_cons, List.nodup_cons] at distinct
  rintro rfl
  exact distinct.1 (sourceColumn_mem member)

/-- A column that stands at a name without a column is paired with the next name that has one, if
there is any. -/
theorem missing_after_gap
    {column : String} (sourced : Sourced source (column :: columns))
    (within : key.pairs tableName source target (column :: columns) (existing target referenced) ⊆
      key.pairs tableName source target columns referenced) :
    ∀ other ∈ referenced, target.columnNamed? other = none := by
  rw [← existing_eq_nil_iff]
  cases remaining : existing target referenced with
  | nil => rfl
  | cons next more =>
      obtain ⟨sourceColumn, sourceFound⟩ := sourced.found column List.mem_cons_self
      have exists_ : next ∈ existing target referenced := remaining ▸ List.mem_cons_self
      obtain ⟨targetColumn, targetFound⟩ :=
        Option.isSome_iff_exists.mp (List.mem_filter.mp exists_).2
      have linked : key.link? tableName source target (column, next) = some (keySpec
          (key.name.getD ("fk_" ++ tableName ++ "_" ++ sourceColumn.name)) source sourceColumn
          target targetColumn) := by
        rw [link?, sourceFound, targetFound]
        rfl
      rw [remaining, pairs_cons, linked] at within
      exact absurd rfl (link?_ne_of_mem sourced linked (within List.mem_cons_self))

/-- If only columns at the same position are paired, there are no gaps. -/
theorem gapless_of_subset
    (sourced : Sourced source columns)
    (within : key.pairs tableName source target columns (existing target referenced) ⊆
      key.pairs tableName source target columns referenced) :
    Gapless target columns.length referenced := by
  induction referenced generalizing columns with
  | nil => exact gapless_nil _
  | cons name referenced ih =>
      cases columns with
      | nil => exact gapless_zero _
      | cons column columns =>
          refine gapless_cons_iff.mpr ?_
          cases named : target.columnNamed? name with
          | some targetColumn =>
              rw [existing_cons_of_some named, pairs_cons, pairs_cons] at within
              refine ⟨fun missing => absurd missing (Option.some_ne_none _), ih sourced.tail ?_⟩
              intro spec member
              rcases List.mem_append.mp (within (List.mem_append_right _ member)) with first | rest
              · exact absurd rfl (link?_ne_of_mem sourced (Option.mem_toList.mp first) member)
              · exact rest
          | none =>
              rw [existing_cons_of_none named, pairs_cons, link?_of_missing named] at within
              have others := missing_after_gap sourced within
              refine ⟨fun _ => others, ?_⟩
              intro before missing after split _ _ other member
              exact others other (split ▸ List.mem_append_right _ (List.mem_cons_of_mem _ member))

end

/-! ## The relationships and warnings of a foreign key -/

section

variable (key : ForeignKey) (tableName : String) (source target : Table)

theorem relationships_pairLinks (columns referenced : List String) :
    (key.pairLinks tableName source target
        (columns.zip (referenced.filterMap target.columnNamed?))).relationships =
      key.pairs tableName source target columns (existing target referenced) := by
  induction referenced generalizing columns with
  | nil => simp [existing, pairs, pairLinks]
  | cons name referenced ih =>
      cases columns with
      | nil => rfl
      | cons column columns =>
          cases named : target.columnNamed? name with
          | none => rw [List.filterMap_cons_none named, existing_cons_of_none named, ih]
          | some targetColumn =>
              rw [List.filterMap_cons_some named, existing_cons_of_some named, List.zip_cons_cons,
                pairLinks, pairs_cons, ← ih columns]
              cases found : source.columnNamed? column with
              | none => simp [link?, found]
              | some sourceColumn => simp [link?, found, named, keySpec]

theorem mem_warnings_pairLinks
    {pairs : List (String × Column)} {pair : String × Column} (member : pair ∈ pairs)
    (missing : source.columnNamed? pair.1 = none) :
    ("Column '" ++ pair.1 ++ "' not found in table '" ++ tableName ++ "', foreign key skipped") ∈
      (key.pairLinks tableName source target pairs).warnings := by
  induction pairs with
  | nil => cases member
  | cons first pairs ih =>
      rw [pairLinks]
      rcases List.mem_cons.mp member with rfl | member
      · rw [missing]
        exact List.mem_cons_self
      · split
        · exact List.mem_cons_of_mem _ (ih member)
        · exact ih member

theorem targetColumns_of_listed
    {references : Sql.ForeignRef} (listed : references.columns ≠ []) :
    targetColumns references target =
      (references.columns.filterMap target.columnNamed?,
        (references.columns.filter fun name => (target.columnNamed? name).isNone).map fun name =>
          "Referenced column '" ++ target.name ++ "." ++ name ++ "' not found") := by
  rw [targetColumns, if_neg (by simpa using listed)]

variable {schema : Schema} {target}

theorem relationships_links
    (targetFound : schema.tableNamed? key.references.table = some target)
    (listed : key.references.columns ≠ []) :
    (key.links schema tableName source).relationships =
      key.pairs tableName source target key.columns (existing target key.references.columns) := by
  simp only [links, targetFound, targetColumns_of_listed target listed]
  exact key.relationships_pairLinks tableName source target key.columns key.references.columns

theorem warned_links
    (targetFound : schema.tableNamed? key.references.table = some target)
    (listed : key.references.columns ≠ []) :
    key.Warned tableName source target (key.links schema tableName source).warnings := by
  simp only [links, targetFound, targetColumns_of_listed target listed]
  let targets := key.references.columns.filterMap target.columnNamed?
  constructor
  · intro name member missing
    apply List.mem_append_left
    apply List.mem_append_left
    have passed : name ∈ key.references.columns.filter fun name =>
        (target.columnNamed? name).isNone :=
      List.mem_filter.mpr ⟨member, by rw [missing]; rfl⟩
    exact List.mem_map_of_mem passed
  · intro name member missing
    by_cases same : targets.length = key.columns.length
    · left
      have columns : (key.columns.zip targets).map Prod.fst = key.columns :=
        List.map_fst_zip same.ge
      rw [← columns] at member
      obtain ⟨pair, paired, rfl⟩ := List.mem_map.mp member
      exact List.mem_append_right _
        (key.mem_warnings_pairLinks tableName source target paired missing)
    · right
      refine ⟨targets.length, same, ?_⟩
      apply List.mem_append_left
      apply List.mem_append_right
      rw [countWarnings, if_neg same]
      exact List.mem_singleton_self _
  · intro different none
    simp only [List.append_eq_nil_iff, List.map_eq_nil_iff, List.filter_eq_nil_iff] at none
    obtain ⟨⟨known, counted⟩, _⟩ := none
    have all : targets.length = key.references.columns.length := by
      rw [List.length_filterMap_eq_countP, List.countP_eq_length]
      intro name member
      exact Option.isSome_iff_ne_none.mpr (by simpa using known name member)
    rw [countWarnings] at counted
    split at counted
    · next same => exact different (same.symm.trans all)
    · cases counted

end

end ForeignKey

/-! ## Adding the relationships -/

theorem addRelationship_specs (spec : RelationshipSpec) (specs : List RelationshipSpec) :
    Succeeds (fun session => session.schema.relationshipSpecs = specs)
      (always (discard (SessionM.addRelationship spec)))
      (fun session => session.schema.relationshipSpecs = specs ++ [spec]) := by
  apply Leads.always
  intro session same
  let id : RelationshipId := { number := session.workspace.nextId }
  change ((SessionM.addRelationship spec).run session).2.schema.relationshipSpecs = _
  rw [SessionM.addRelationship, SessionM.run_carry, Session.schema, Session.finished_workspace]
  change (session.schema.relationships ++ [({ spec with id } : Relationship)]).map _ = _
  rw [List.map_append]
  exact congrArg (· ++ [spec]) same

theorem addRelationships_specs (added specs : List RelationshipSpec) :
    Succeeds (fun session => session.schema.relationshipSpecs = specs)
      (added.forM fun spec => always (discard (SessionM.addRelationship spec)))
      (fun session => session.schema.relationshipSpecs = specs ++ added) := by
  induction added generalizing specs with
  | nil =>
      rw [List.append_nil]
      exact .pure _
  | cons spec added ih =>
      apply Succeeds.bind (addRelationship_specs spec specs)
      intro _
      rw [List.append_cons specs spec added]
      exact ih (specs ++ [spec])

theorem linkForeignKey_specs
    {session : Session} {id : TableId} {source : Table}
    (found : session.schema.table? id = some source) (tableName : String) (key : ForeignKey) :
    let links := key.links session.schema tableName source
    ∃ later, (linkForeignKey id tableName key).run.run session = (.ok links.warnings, later) ∧
      later.schema.relationshipSpecs =
        session.schema.relationshipSpecs ++ links.relationships := by
  intro links
  have leads : Leads (fun begun => begun = session) (linkForeignKey id tableName key)
      (fun warnings later => warnings = links.warnings ∧
        later.schema.relationshipSpecs =
          session.schema.relationshipSpecs ++ links.relationships)
      fun _ => False := by
    apply Leads.current_bind
    rintro session rfl
    simp only [found]
    apply Leads.bind
    · apply (addRelationships_specs _ session.schema.relationshipSpecs).strengthen
      rintro later ⟨_, same⟩
      rw [same]
    · intro _
      exact Leads.pure fun later added => ⟨rfl, added⟩
  have led := leads session rfl
  cases ran : (linkForeignKey id tableName key).run.run session with
  | mk result later =>
      rw [ran] at led
      cases result with
      | error error => exact led.elim
      | ok warnings =>
          obtain ⟨rfl, added⟩ := led
          exact ⟨later, rfl, added⟩

/-! ## Foreign keys of statements -/

/-- A foreign key that lists what it refers to is added with warnings for all that it names and that
does not exist.  Without gaps among the referenced columns it pairs the columns at the same
positions; with gaps, some pair is not of one position, if all columns it is for exist and are
different. -/
theorem foreign_key_pairs
    {session : Session} {id : TableId} {source : Table}
    (found : session.schema.table? id = some source) (tableName : String) {key : ForeignKey}
    (listed : key.references.columns ≠ []) :
    ∃ created warnings later,
      (addConstraint id tableName (.foreignKey key.name key.columns key.references)).run.run session =
        (.ok warnings, later) ∧
      later.schema.relationshipSpecs = session.schema.relationshipSpecs ++ created ∧
      (session.schema.tableNamed? key.references.table = none →
        created = [] ∧
          warnings = ["Referenced table '" ++ key.references.table ++
            "' not found, foreign key skipped"]) ∧
      ∀ target, session.schema.tableNamed? key.references.table = some target →
        let paired := key.pairs tableName source target key.columns key.references.columns
        let gapless := ForeignKey.Gapless target key.columns.length key.references.columns
        key.Warned tableName source target warnings ∧
          (gapless → created = paired) ∧
          (ForeignKey.Sourced source key.columns → created ⊆ paired → gapless) := by
  obtain ⟨later, ran, added⟩ := linkForeignKey_specs found tableName key
  refine ⟨_, _, later, ran, added, ?_, ?_⟩
  · intro missing
    simp [ForeignKey.links, missing]
  · intro target targetFound
    refine ⟨key.warned_links tableName source targetFound listed, ?_⟩
    rw [key.relationships_links tableName source targetFound listed]
    exact ⟨ForeignKey.pairs_existing_of_gapless, ForeignKey.gapless_of_subset⟩

/-- A column of integers. -/
def integers (number : Nat) (name : String) : Column :=
  { name, dataType := "INT", id := ⟨number⟩ }

/-- Users with columns `a` and `b`. -/
def users : Table :=
  { id := ⟨2⟩, name := "users", columns := [integers 0 "a", integers 1 "b"], position := default
    rowCount := 0, rows := [] }

/-- Orders with columns `x` and `y`, which are to refer to the users. -/
def orders : Table :=
  { users with id := ⟨5⟩, name := "orders", columns := [integers 3 "x", integers 4 "y"] }

/-- A foreign key of the orders for both columns. -/
def buyer (referenced : List String) : ForeignKey :=
  { name := some "buyer", columns := ["x", "y"]
    references := { table := "users", columns := referenced } }

/-- A session on the users and the orders. -/
def market : Session :=
  .ofWorkspace
    { schema := { Schema.new "market" default with tables := [users, orders] }
      nextId := 6
      now := default }

/-- A last name that no column has leaves no gap. -/
theorem foreign_key_pairs_market :
    let key := buyer ["a", "nope"]
    ∃ warnings later,
      market.schema.table? ⟨5⟩ = some orders ∧ key.references.columns ≠ [] ∧
      (addConstraint ⟨5⟩ "orders" (.foreignKey key.name key.columns key.references)).run.run market =
        (.ok warnings, later) ∧
      later.schema.relationshipSpecs =
        [keySpec "buyer" orders (integers 3 "x") users (integers 0 "a")] ∧
      "Referenced column 'users.nope' not found" ∈ warnings := by
  intro key
  have found : market.schema.table? ⟨5⟩ = some orders := rfl
  have listed : key.references.columns ≠ [] := List.cons_ne_nil _ _
  have targetFound : market.schema.tableNamed? "users" = some users := by
    decide +kernel
  have gapless : ForeignKey.Gapless users 2 ["a", "nope"] := by
    rw [ForeignKey.gapless_cons_iff, ForeignKey.gapless_cons_iff]
    exact ⟨by decide, by simp, ForeignKey.gapless_zero _⟩
  have paired : key.pairs "orders" orders users ["x", "y"] ["a", "nope"] =
      [keySpec "buyer" orders (integers 3 "x") users (integers 0 "a")] := by
    decide +kernel
  obtain ⟨created, warnings, later, ran, added, _, pairs⟩ := foreign_key_pairs found "orders" listed
  obtain ⟨warned, created, _⟩ := pairs users targetFound
  refine ⟨warnings, later, found, listed, ran, ?_, ?_⟩
  · rw [added, created gapless]
    exact paired
  · exact warned.referenced "nope" (by decide) (by decide +kernel)

/-- Once the first name is passed over, the first column refers to what the second is to refer to. -/
theorem foreign_key_shifted_market :
    let key := buyer ["nope", "b"]
    let source : Sql.StatementSource :=
      ⟨"ALTER TABLE orders ADD CONSTRAINT buyer FOREIGN KEY (x, y) REFERENCES users (nope, b)",
        default, default, true⟩
    let ran := (SessionM.executeStatement source).run market
    ran.2.schema.relationshipSpecs =
        [keySpec "buyer" orders (integers 3 "x") users (integers 1 "b")] ∧
      key.pairs "orders" orders users key.columns key.references.columns =
        [keySpec "buyer" orders (integers 4 "y") users (integers 1 "b")] ∧
      ¬∀ spec ∈ ran.2.schema.relationshipSpecs,
        spec ∈ key.pairs "orders" orders users key.columns key.references.columns := by
  intro key source ran
  have created : ran.2.schema.relationshipSpecs =
      [keySpec "buyer" orders (integers 3 "x") users (integers 1 "b")] := by
    decide +kernel
  have paired : key.pairs "orders" orders users key.columns key.references.columns =
      [keySpec "buyer" orders (integers 4 "y") users (integers 1 "b")] := by
    decide +kernel
  refine ⟨created, paired, ?_⟩
  rw [created, paired]
  decide

end Execution

end SchemaDesign
