import SchemaDesign.Ddl.Script
import SchemaDesign.Export.Format
import SchemaDesign.Proofs.Export.CollectionIndexes
import SchemaDesign.Proofs.Json.Values

/-!
# Columns that must have a value

The documents for JSON Schema and MongoDB and the interfaces for TypeScript agree on which columns
must have a value: those that are not nullable.  The definitions in SQL demand it of these, and also
of nullable columns of a primary key and of nullable columns under a constraint.
-/

namespace SchemaDesign

/-! ## Definitions in SQL -/

namespace Ddl

/-- The clause of a default value, with a blank before it. -/
def defaultClause (column : ColumnSpec) : String :=
  match column.defaultValue with
  | some value => " DEFAULT " ++ value
  | none => ""

/-- A definition of a column demands a value: `NOT NULL` stands behind the type of the column, or
`PRIMARY KEY` at the end. -/
def DemandsValue (dialect : Dialect) (column : ColumnSpec) (definition : String) : Prop :=
  ∃ notNull ∈ ["", " NOT NULL"], ∃ key ∈ ["", " UNIQUE", " PRIMARY KEY"],
    definition = dialect.quote column.name ++ " " ++ column.dataType ++ notNull ++
      defaultClause column ++ key ∧
    (notNull = " NOT NULL" ∨ key = " PRIMARY KEY")

variable {dialect : Dialect} {column : ColumnSpec}

/-- Behind the type and a default value `NOT NULL` and the last clause can be told apart. -/
theorem clauses_eq
    {notNull other key last : String} (notNullKnown : notNull ∈ ["", " NOT NULL"])
    (otherKnown : other ∈ ["", " NOT NULL"]) (keyKnown : key ∈ ["", " UNIQUE", " PRIMARY KEY"])
    (lastKnown : last ∈ ["", " UNIQUE", " PRIMARY KEY"])
    (same : notNull ++ (defaultClause column ++ key) = other ++ (defaultClause column ++ last)) :
    notNull = other ∧ key = last := by
  have notDefault (value : String) (key last : String) :
      " NOT NULL" ++ (" DEFAULT " ++ value ++ key) ≠ "" ++ (" DEFAULT " ++ value ++ last) := by
    intro same
    have letters := congrArg (fun text => text.toList[1]?) same
    simp [String.toList_append] at letters
  cases given : column.defaultValue with
  | none =>
      have clause : defaultClause column = "" := by rw [defaultClause, given]
      have known : ∀ notNull ∈ ["", " NOT NULL"], ∀ other ∈ ["", " NOT NULL"],
          ∀ key ∈ ["", " UNIQUE", " PRIMARY KEY"], ∀ last ∈ ["", " UNIQUE", " PRIMARY KEY"],
            notNull ++ key = other ++ last → notNull = other ∧ key = last := by decide
      rw [clause, String.empty_append, String.empty_append] at same
      exact known notNull notNullKnown other otherKnown key keyKnown last lastKnown same
  | some value =>
      have clause : defaultClause column = " DEFAULT " ++ value := by rw [defaultClause, given]
      have equal : notNull = other := by
        rw [clause] at same
        simp only [List.mem_cons, List.not_mem_nil, or_false] at notNullKnown otherKnown
        rcases notNullKnown with rfl | rfl <;> rcases otherKnown with rfl | rfl
        · rfl
        · exact absurd same.symm (notDefault value last key)
        · exact absurd same (notDefault value key last)
        · rfl
      subst equal
      rw [String.append_right_inj, String.append_right_inj] at same
      exact ⟨rfl, same⟩

theorem demandsValue_columnDefinition_iff (forced : Bool) :
    DemandsValue dialect column (columnDefinition dialect column forced) ↔
      column.nullable = false ∨ column.isPrimaryKey = true ∨ forced = true := by
  let written (primary nullable : Bool) : String :=
    if !primary && (!nullable || forced) then " NOT NULL" else ""
  let ending (primary unique : Bool) : String :=
    if primary then " PRIMARY KEY" else if unique then " UNIQUE" else ""
  have writtenKnown : ∀ primary nullable, written primary nullable ∈ ["", " NOT NULL"] := by
    cases forced <;> decide
  have endingKnown : ∀ primary unique,
      ending primary unique ∈ ["", " UNIQUE", " PRIMARY KEY"] := by
    decide
  have demanded : ∀ primary nullable unique,
      (written primary nullable = " NOT NULL" ∨ ending primary unique = " PRIMARY KEY") ↔
        nullable = false ∨ primary = true ∨ forced = true := by
    cases forced <;> decide
  have whole : columnDefinition dialect column forced =
      dialect.quote column.name ++ " " ++ column.dataType ++
        written column.isPrimaryKey column.nullable ++ defaultClause column ++
        ending column.isPrimaryKey column.isUnique := rfl
  rw [← demanded column.isPrimaryKey column.nullable column.isUnique]
  constructor
  · rintro ⟨notNull, notNullKnown, key, keyKnown, same, demanded⟩
    rw [whole] at same
    simp only [String.append_assoc, String.append_right_inj] at same
    obtain ⟨sameNull, sameKey⟩ :=
      clauses_eq (writtenKnown _ _) notNullKnown (endingKnown _ _) keyKnown same
    rwa [sameNull, sameKey]
  · intro demanded
    exact ⟨_, writtenKnown _ _, _, endingKnown _ _, whole, demanded⟩

end Ddl

/-! ## Documents -/

namespace Export.JsonSchema

theorem foldl_put_eq_append
    {before members : List (String × Json)}
    (distinct : ((before ++ members).map Prod.fst).Nodup) :
    members.foldl (fun object member => Json.put member.1 member.2 object) before =
      before ++ members := by
  induction members generalizing before with
  | nil => rw [List.foldl_nil, List.append_nil]
  | cons member members ih =>
      have fresh : member.1 ∉ before.map fun member => member.1 := by
        rw [List.map_append, List.nodup_append] at distinct
        intro known
        exact distinct.2.2 _ known _ List.mem_cons_self rfl
      rw [List.foldl_cons, Json.put_eq_append member.2 fresh, ih]
      · rw [List.append_assoc]
        rfl
      · rwa [List.append_assoc]

/-- An object of members of distinct names has each of them. -/
theorem member?_objectOf
    {members : List (String × Json)} (distinct : (members.map Prod.fst).Nodup)
    {name : String} {value : Json} (member : (name, value) ∈ members) :
    (objectOf members).member? name = some value := by
  rw [objectOf, foldl_put_eq_append (by rwa [List.nil_append]), List.nil_append, Json.member?,
    List.lookup_eq_some_iff]
  obtain ⟨before, after, rfl⟩ := List.append_of_mem member
  refine ⟨before, after, rfl, ?_⟩
  intro other inBefore
  rw [List.map_append, List.nodup_append] at distinct
  rw [bne_iff_ne]
  exact (distinct.2.2 _ (List.mem_map_of_mem inBefore) _ List.mem_cons_self).symm

theorem mem_required_iff
    {table : Table} (distinct : (table.columns.map fun column => column.name).Nodup)
    {column : Column} (member : column ∈ table.columns) :
    column.name ∈ required table ↔ column.nullable = false := by
  rw [required, List.mem_map]
  constructor
  · rintro ⟨other, kept, same⟩
    obtain ⟨otherMember, notNull⟩ := List.mem_filter.mp kept
    rw [← List.inj_on_of_nodup_map distinct otherMember member same]
    simpa using notNull
  · intro notNull
    refine ⟨column, List.mem_filter.mpr ⟨member, ?_⟩, rfl⟩
    rw [notNull, Bool.not_false]

/-- The list of what every object of a table must have, in a document. -/
def requiredOf? (document : Json) (table : String) : Option Json :=
  ((document.member? "properties").bind (Json.member? table)).bind (Json.member? "required")

theorem requiredOf?_document
    {schema : Schema} (distinct : (schema.tables.map fun table => table.name).Nodup)
    {table : Table} (member : table ∈ schema.tables) :
    requiredOf? (document schema) table.name = some (.strings (required table)) := by
  have properties : (document schema).member? "properties" =
      some (objectOf (schema.tables.map fun table => (table.name, tableSchema table))) := rfl
  have described : (table.name, tableSchema table) ∈
      schema.tables.map fun table => (table.name, tableSchema table) :=
    List.mem_map_of_mem member
  rw [requiredOf?, properties, Option.bind_some, member?_objectOf (by rwa [List.map_map]) described]
  rfl

end Export.JsonSchema

namespace Json

/-- A list of texts in a document names a text. -/
def Lists (list : Option Json) (text : String) : Prop :=
  ∃ items, list = some (.array items) ∧ .string text ∈ items

theorem lists_strings_iff {texts : List String} {text : String} :
    Lists (some (.strings texts)) text ↔ text ∈ texts := by
  constructor
  · rintro ⟨items, same, member⟩
    cases same
    obtain ⟨other, otherMember, equal⟩ := List.mem_map.mp member
    cases equal
    exact otherMember
  · intro member
    exact ⟨_, rfl, List.mem_map_of_mem member⟩

end Json

namespace Export.MongoDb

/-- The options of a collection. -/
def options (table : Table) : Json :=
  .object [("validator", .object [("$jsonSchema", collectionSchema table)])]

/-- The list of what every entry of a collection must have, in its options. -/
def requiredOf? (options : Json) : Option Json :=
  ((options.member? "validator").bind (Json.member? "$jsonSchema")).bind (Json.member? "required")

theorem options_isPartOf {schema : Schema} {table : Table} (member : table ∈ schema.tables) :
    IsPartOf (options table).pretty (generate schema) := by
  have inCollection : IsPartOf (options table).pretty (collection schema table) :=
    ⟨"\ndb.createCollection(" ++ (Json.string table.name).compact ++ ", ",
      ");\n" ++ String.join ((collectionIndexes schema table).map (createIndex table.name)),
      by rw [← String.append_assoc]; rfl⟩
  have inCollections : IsPartOf (collection schema table)
      (String.join (schema.tables.map (collection schema))) :=
    isPartOf_join (List.mem_map_of_mem member)
  exact (inCollection.trans inCollections).trans (isPartOf_append (header schema) _)

end Export.MongoDb

/-! ## Interfaces -/

namespace Export.TypeScript

/-- The line of a column marks it as optional: a question mark stands behind its name. -/
def MarksOptional (column : Column) (line : String) : Prop :=
  ("  " ++ propertyName column.name ++ "?").toList <+: line.toList

theorem marksOptional_property_iff (column : Column) :
    MarksOptional column (property column) ↔ column.nullable = true := by
  have line : property column = "  " ++ propertyName column.name ++
      ((if column.nullable then "?" else "") ++ (": " ++
        (TypeTable.typeScript.lookup column.dataType "string" ++ ";\n"))) := by
    rw [property]
    simp only [String.append_assoc]
  rw [MarksOptional, line]
  generalize "  " ++ propertyName column.name = start
  rw [String.toList_append, String.toList_append, List.prefix_append_right_inj]
  cases column.nullable <;> simp

end Export.TypeScript

/-! ## All targets -/

/-- A constraint of a table forbids that a column is null. -/
def Schema.ForbidsNull (schema : Schema) (table : Table) (column : Column) : Prop :=
  ∃ constraint ∈ schema.constraintsOf table.id,
    constraint.kind = .notNull ∧ constraint.column = some column.id

/-- The document of a schema requires a column of a table. -/
def Export.JsonSchema.Requires (schema : Schema) (table : Table) (column : Column) : Prop :=
  Json.Lists (requiredOf? (document schema) table.name) column.name

/-- The collection of a table requires a column. -/
def Export.MongoDb.Requires (table : Table) (column : Column) : Prop :=
  Json.Lists (requiredOf? (options table)) column.name

section

variable {schema : Schema} {table : Table} {column : Column}

theorem demandsNotNull_iff :
    Ddl.demandsNotNull (schema.constraintsOf table.id) column = true ↔
      schema.ForbidsNull table column := by
  rw [Ddl.demandsNotNull, List.any_eq_true, Schema.ForbidsNull]
  simp only [Bool.and_eq_true, beq_iff_eq]

/-- The line of a column in the statement that creates its table is its definition. -/
theorem tableLines_getElem?
    (dialect : Dialect) {place : Nat} (placed : table.columns[place]? = some column) :
    (Ddl.tableLines dialect schema table)[place]? =
      some (Ddl.columnDefinition dialect column.toColumnSpec
        (Ddl.demandsNotNull (schema.constraintsOf table.id) column)) := by
  have inside := (List.getElem?_eq_some_iff.mp placed).1
  rw [Ddl.tableLines, List.getElem?_append_left (by rwa [List.length_map]), List.getElem?_map,
    placed, Option.map_some]

open Export.MongoDb (IsPartOf isPartOf_append isPartOf_join)

theorem createTable_isPartOf (dialect : Dialect) (member : table ∈ schema.tables) :
    IsPartOf (Ddl.createTable dialect schema table) (Ddl.script dialect schema) := by
  let statement (table : Table) : String := "\n" ++ Ddl.createTable dialect schema table ++ "\n"
  have inStatement : IsPartOf (Ddl.createTable dialect schema table) (statement table) :=
    ⟨"\n", "\n", rfl⟩
  have inTables : IsPartOf (statement table) (String.join (schema.tables.map statement)) :=
    isPartOf_join (List.mem_map_of_mem member)
  have followed {part whole : String} (inside : IsPartOf part whole) (after : String) :
      IsPartOf part (whole ++ after) :=
    inside.trans ⟨"", after, by rw [String.empty_append]⟩
  -- The script is its heading, the tables, and then indexes, foreign keys and accounts.
  unfold Ddl.script
  exact (inStatement.trans inTables).trans
    (followed (followed (followed (isPartOf_append _ _) _) _) _)

theorem property_isPartOf (member : table ∈ schema.tables) (columnMember : column ∈ table.columns) :
    IsPartOf (Export.TypeScript.property column) (Export.TypeScript.generate schema) := by
  have inProperties : IsPartOf (Export.TypeScript.property column)
      (String.join (table.columns.map Export.TypeScript.property)) :=
    isPartOf_join (List.mem_map_of_mem columnMember)
  have inInterface : IsPartOf (Export.TypeScript.property column)
      (Export.TypeScript.interface table) :=
    inProperties.trans ⟨_, _, rfl⟩
  have inInterfaces : IsPartOf (Export.TypeScript.interface table)
      (String.join (schema.tables.map Export.TypeScript.interface)) :=
    isPartOf_join (List.mem_map_of_mem member)
  exact (inInterface.trans inInterfaces).trans (isPartOf_append _ _)

end

open Export.MongoDb (IsPartOf)

/-- The targets agree on which columns must have a value, but for one thing: the definitions in SQL
also demand a value of a nullable column that belongs to the primary key or that a constraint
forbids to be null. -/
theorem required_columns_agree
    {schema : Schema} (tableNames : (schema.tables.map fun table => table.name).Nodup)
    (columnNames : ∀ table ∈ schema.tables, (table.columns.map fun column => column.name).Nodup)
    {table : Table} (member : table ∈ schema.tables) {place : Nat} {column : Column}
    (placed : table.columns[place]? = some column) (dialect : Dialect) :
    (Export.JsonSchema.Requires schema table column ↔ Export.MongoDb.Requires table column) ∧
      (Export.JsonSchema.Requires schema table column ↔
        ¬ Export.TypeScript.MarksOptional column (Export.TypeScript.property column)) ∧
      ∃ definition, (Ddl.tableLines dialect schema table)[place]? = some definition ∧
        (Ddl.DemandsValue dialect column.toColumnSpec definition ↔
          Export.JsonSchema.Requires schema table column ∨
            column.nullable = true ∧
              (column.isPrimaryKey = true ∨ schema.ForbidsNull table column)) ∧
        (column.nullable = true → ¬ Export.JsonSchema.Requires schema table column) ∧
        IsPartOf (Ddl.createTable dialect schema table) (Ddl.script dialect schema) ∧
        IsPartOf (Export.MongoDb.options table).pretty (Export.MongoDb.generate schema) ∧
        IsPartOf (Export.TypeScript.property column) (Export.TypeScript.generate schema) := by
  have columnMember : column ∈ table.columns := List.mem_of_getElem? placed
  have listed : column.name ∈ Export.JsonSchema.required table ↔ column.nullable = false :=
    Export.JsonSchema.mem_required_iff (columnNames table member) columnMember
  have inDocument : Export.JsonSchema.Requires schema table column ↔ column.nullable = false := by
    rw [Export.JsonSchema.Requires, Export.JsonSchema.requiredOf?_document tableNames member,
      Json.lists_strings_iff, listed]
  have inOptions : Export.MongoDb.Requires table column ↔ column.nullable = false := by
    have list : Export.MongoDb.requiredOf? (Export.MongoDb.options table) =
        some (.strings (Export.JsonSchema.required table)) := rfl
    rw [Export.MongoDb.Requires, list, Json.lists_strings_iff, listed]
  refine ⟨?_, ?_, _, tableLines_getElem? dialect placed, ?_, ?_, ?_, ?_, ?_⟩
  · rw [inDocument, inOptions]
  · rw [inDocument, Export.TypeScript.marksOptional_property_iff, Bool.not_eq_true]
  · rw [Ddl.demandsValue_columnDefinition_iff, demandsNotNull_iff, inDocument]
    cases column.nullable <;> simp
  · intro nullable
    rw [inDocument, nullable]
    exact Bool.noConfusion
  · exact createTable_isPartOf dialect member
  · exact Export.MongoDb.options_isPartOf member
  · exact property_isPartOf member columnMember

/-- A key, and a nullable column that no constraint mentions. -/
theorem required_columns_agree_shop :
    let key : Column :=
      { name := "id", dataType := "INT", nullable := false, isPrimaryKey := true, id := ⟨1⟩ }
    let nick : Column := { name := "nick", dataType := "TEXT", id := ⟨2⟩ }
    let users : Table :=
      { id := ⟨0⟩
        name := "users"
        columns := [key, nick]
        position := default
        rowCount := 0
        rows := [] }
    let schema : Schema := { Schema.new "shop" default with tables := [users] }
    (schema.tables.map fun table => table.name).Nodup ∧
      (∀ table ∈ schema.tables, (table.columns.map fun column => column.name).Nodup) ∧
      users ∈ schema.tables ∧ users.columns[0]? = some key ∧ users.columns[1]? = some nick ∧
      (Export.JsonSchema.Requires schema users key ↔ Export.MongoDb.Requires users key) ∧
      (Export.JsonSchema.Requires schema users nick ↔
        ¬ Export.TypeScript.MarksOptional nick (Export.TypeScript.property nick)) := by
  intro key nick users schema
  have tableNames : (schema.tables.map fun table => table.name).Nodup := by decide
  have columnNames :
      ∀ table ∈ schema.tables, (table.columns.map fun column => column.name).Nodup := by decide
  have member : users ∈ schema.tables := List.mem_singleton.mpr rfl
  have keyPlaced : users.columns[0]? = some key := rfl
  have nickPlaced : users.columns[1]? = some nick := rfl
  exact ⟨tableNames, columnNames, member, keyPlaced, nickPlaced,
    (required_columns_agree tableNames columnNames member keyPlaced .mySql).1,
    (required_columns_agree tableNames columnNames member nickPlaced .mySql).2.1⟩

/-- In SQL a constraint and the primary key demand a value of columns that are required nowhere
else. -/
theorem required_in_sql_only :
    let key : Column := { name := "id", dataType := "INT", isPrimaryKey := true, id := ⟨1⟩ }
    let email : Column := { name := "email", dataType := "TEXT", id := ⟨2⟩ }
    let users : Table :=
      { id := ⟨0⟩
        name := "users"
        columns := [key, email]
        position := default
        rowCount := 0
        rows := [] }
    let constraint : Constraint :=
      { name := "has_email"
        kind := .notNull
        table := ⟨0⟩
        column := some ⟨2⟩
        expression := none
        id := ⟨3⟩ }
    let schema : Schema :=
      { Schema.new "shop" default with tables := [users], constraints := [constraint] }
    (schema.tables.map fun table => table.name).Nodup ∧
      (∀ table ∈ schema.tables, (table.columns.map fun column => column.name).Nodup) ∧
      users ∈ schema.tables ∧ users.columns = [key, email] ∧
      (∀ dialect, ∃ ofKey ofEmail, Ddl.tableLines dialect schema users = [ofKey, ofEmail] ∧
        Ddl.DemandsValue dialect key.toColumnSpec ofKey ∧
        Ddl.DemandsValue dialect email.toColumnSpec ofEmail) ∧
      ∀ column ∈ [key, email],
        ¬ Export.JsonSchema.Requires schema users column ∧
          ¬ Export.MongoDb.Requires users column ∧
          Export.TypeScript.MarksOptional column (Export.TypeScript.property column) := by
  intro key email users constraint schema
  refine ⟨by decide, by decide, List.mem_singleton.mpr rfl, rfl, ?_, ?_⟩
  · intro dialect
    refine ⟨_, _, rfl, ?_, ?_⟩
    · exact (Ddl.demandsValue_columnDefinition_iff false).mpr (.inr (.inl rfl))
    · exact (Ddl.demandsValue_columnDefinition_iff true).mpr (.inr (.inr rfl))
  · intro column member
    have nullable : column.nullable = true := by
      revert column
      decide
    have inDocument : Export.JsonSchema.requiredOf? (Export.JsonSchema.document schema) "users" =
        some (.strings []) := by
      decide
    have inOptions : Export.MongoDb.requiredOf? (Export.MongoDb.options users) =
        some (.strings []) := rfl
    refine ⟨?_, ?_, (Export.TypeScript.marksOptional_property_iff column).mpr nullable⟩
    · rw [Export.JsonSchema.Requires, inDocument, Json.lists_strings_iff]
      exact List.not_mem_nil
    · rw [Export.MongoDb.Requires, inOptions, Json.lists_strings_iff]
      exact List.not_mem_nil

end SchemaDesign
