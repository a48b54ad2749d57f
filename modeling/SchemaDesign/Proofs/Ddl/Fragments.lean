import SchemaDesign.Proofs.Ddl.Creations
import SchemaDesign.Proofs.Ddl.Scripts
import SchemaDesign.Proofs.Sql.Uncut

/-!
# Creation scripts cut again

Where what is written as it stands opens nothing, a creation script for MySQL is cut into the
statements that it was put together from, whatever the tables, columns, indexes, constraints and
relationships are called.
-/

namespace SchemaDesign

open Sql (Closed ClosedBefore Invisible OpensNothing Solid StartsApart scriptTexts)

/-- What a schema has that is written as it stands opens nothing. -/
structure Schema.OpensNothing (schema : Schema) : Prop where
  types : ∀ table ∈ schema.tables, ∀ column ∈ table.columns,
    Sql.OpensNothing column.dataType.toList
  defaults : ∀ table ∈ schema.tables, ∀ column ∈ table.columns, ∀ value ∈ column.defaultValue,
    Sql.OpensNothing value.toList
  checks : ∀ constraint ∈ schema.constraints, ∀ expression ∈ constraint.expression,
    Sql.OpensNothing expression.toList

instance (schema : Schema) : Decidable schema.OpensNothing :=
  decidable_of_iff
    ((∀ table ∈ schema.tables, ∀ column ∈ table.columns,
        Sql.OpensNothing column.dataType.toList) ∧
      (∀ table ∈ schema.tables, ∀ column ∈ table.columns, ∀ value ∈ column.defaultValue,
        Sql.OpensNothing value.toList) ∧
      ∀ constraint ∈ schema.constraints, ∀ expression ∈ constraint.expression,
        Sql.OpensNothing expression.toList)
    ⟨fun ⟨types, defaults, checks⟩ => ⟨types, defaults, checks⟩,
      fun nothing => ⟨nothing.types, nothing.defaults, nothing.checks⟩⟩

namespace Ddl

/-- A line that is one statement with its semicolon. -/
def IsFragment (line : String) : Prop :=
  ∃ text, line = text ++ ";" ∧ Solid text.toList

section

variable {lines : List String} (fragments : ∀ line ∈ lines, IsFragment line)

include fragments

/-- The statements of lines, with the same before each. -/
theorem texts_lines {lead : String} (invisible : Invisible lead.toList) (rest : List Char) :
    (scriptTexts ((String.join (lines.map fun line => lead ++ line ++ "\n")).toList ++ rest)).map
        (· ++ ";") =
      lines ++ (scriptTexts rest).map (· ++ ";") := by
  choose! texts solid using fragments
  have same : (lines.map texts).map (· ++ ";") = lines := by
    rw [List.map_map]
    conv_rhs => rw [← List.map_id lines]
    apply List.map_congr_left
    intro line member
    exact (solid line member).1.symm
  rw [Sql.scriptTexts_lines invisible solid, List.map_append, same]

theorem texts_paragraph (rest : List Char) :
    (scriptTexts ((paragraph lines).toList ++ rest)).map (· ++ ";") =
      lines ++ (scriptTexts rest).map (· ++ ";") := by
  by_cases none : lines = []
  · rw [none]
    rfl
  · rw [Sql.paragraph_eq _ none, String.toList_append, List.append_assoc,
      show "\n".toList = ['\n'] from rfl, Sql.scriptTexts_invisible .newline]
    exact texts_lines fragments (show Invisible "".toList from .nil) rest

end

/-! ## Statements as lines -/

theorem closed_quote (name : String) : Closed (Dialect.mySql.quote name).toList := by
  have shape : (Dialect.mySql.quote name).toList =
      Sql.quotedText (Char.ofNat 0x60) name.toList := by
    simp [Dialect.quote, Dialect.quotes, Sql.Writes.toList_doubled, Sql.quotedText]
  rw [shape]
  exact .quotedText rfl _

theorem closed_quoteList (names : List String) : Closed (Dialect.mySql.quoteList names).toList := by
  apply Closed.intercalate (.plain (by decide))
  intro item member
  obtain ⟨name, _, rfl⟩ := List.mem_map.mp member
  exact closed_quote name

/-- A closed text between words, with a semicolon after it, is one statement. -/
theorem isFragment_of
    {line first middle last : String} (written : line = first ++ middle ++ last ++ ";")
    (closed : Closed (first ++ middle ++ last).toList)
    (begins : first.toList.head?.any Sql.beginsStatement = true)
    (ends : last.toList.getLast?.any (fun c => !Text.isBlank c) = true) : IsFragment line :=
  ⟨_, written, .of_closed closed begins ends⟩

/-- A statement that is put together from closed parts and ends with a parenthesis. -/
theorem isFragment_join
    {line first : String} {parts : List String}
    (written : line = first ++ String.join parts ++ ");")
    (plain : first.toList.all Sql.isInert = true)
    (begins : first.toList.head?.any Sql.beginsStatement = true)
    (closed : ∀ part ∈ parts, Closed part.toList) : IsFragment line := by
  have shape : line = first ++ String.join parts ++ ")" ++ ";" := by
    rw [written, show ");" = ")" ++ ";" from rfl, ← String.append_assoc]
  apply isFragment_of shape _ begins (by decide)
  exact ((Closed.plain plain).string_append (.join closed)).string_append (.plain (by decide))

theorem isFragment_createIndex (tableName : String) (index : IndexSpec) :
    IsFragment (createIndex .mySql tableName index) := by
  let unique := if index.isUnique then "UNIQUE " else ""
  have closedUnique : Closed unique.toList := by
    dsimp only [unique]
    split
    · exact .plain (by decide)
    · exact .nil
  let parts := [unique, "INDEX ", Dialect.mySql.quote index.name, " ON ",
    Dialect.mySql.quote tableName, " (", Dialect.mySql.quoteList index.columns]
  have written : createIndex .mySql tableName index = "CREATE " ++ String.join parts ++ ");" := by
    unfold createIndex
    simp only [parts, unique, String.join_cons, String.join_nil, String.append_assoc,
      String.empty_append]
  apply isFragment_join written (by decide) (by decide)
  simp only [parts, List.forall_mem_cons]
  exact ⟨closedUnique, .plain (by decide), closed_quote _, .plain (by decide), closed_quote _,
    .plain (by decide), closed_quoteList _, nofun⟩

theorem isFragment_foreignKey
    {schema : Schema} {relationship : RelationshipSpec} {line : String}
    (key : foreignKey? .mySql schema relationship = some line) : IsFragment line := by
  obtain ⟨⟨⟨source, sourceColumn⟩, ⟨target, targetColumn⟩⟩, _, spelled⟩ :=
    Option.bind_eq_some_iff.mp key
  obtain ⟨constraint, closedConstraint, rfl⟩ : ∃ constraint, Closed constraint.toList ∧
      line = "ALTER TABLE " ++ Dialect.mySql.quote source.name ++ " ADD " ++ constraint ++
        "FOREIGN KEY (" ++ Dialect.mySql.quote sourceColumn.name ++ ") REFERENCES " ++
          Dialect.mySql.quote target.name ++ " (" ++ Dialect.mySql.quote targetColumn.name ++
            ");" := by
    cases named : relationship.name with
    | none =>
        refine ⟨"", .nil, ?_⟩
        rw [named] at spelled
        exact (Option.some.inj spelled).symm
    | some name =>
        refine ⟨"CONSTRAINT " ++ Dialect.mySql.quote name ++ " ", ?_, ?_⟩
        · exact ((Closed.plain (by decide)).string_append (closed_quote name)).string_append
            (.plain (by decide))
        · rw [named] at spelled
          exact (Option.some.inj spelled).symm
  let parts := [Dialect.mySql.quote source.name, " ADD ", constraint, "FOREIGN KEY (",
    Dialect.mySql.quote sourceColumn.name, ") REFERENCES ", Dialect.mySql.quote target.name, " (",
    Dialect.mySql.quote targetColumn.name]
  have closed : ∀ part ∈ parts, Closed part.toList := by
    simp only [parts, List.forall_mem_cons]
    exact ⟨closed_quote _, .plain (by decide), closedConstraint, .plain (by decide),
      closed_quote _, .plain (by decide), closed_quote _, .plain (by decide), closed_quote _, nofun⟩
  have written : "ALTER TABLE " ++ Dialect.mySql.quote source.name ++ " ADD " ++ constraint ++
      "FOREIGN KEY (" ++ Dialect.mySql.quote sourceColumn.name ++ ") REFERENCES " ++
        Dialect.mySql.quote target.name ++ " (" ++ Dialect.mySql.quote targetColumn.name ++ ");" =
      "ALTER TABLE " ++ String.join parts ++ ");" := by
    simp only [parts, String.join_cons, String.join_nil, String.append_assoc, String.empty_append]
  exact isFragment_join written (by decide) (by decide) closed

/-! ### Accounts -/

/-- An account as it is written. -/
def accountText (username host : String) : String :=
  "'" ++ username ++ "'@'" ++ host ++ "'"

theorem flatMap_unmarked {mark : Char} {text : List Char} (absent : mark ∉ text) :
    text.flatMap (fun c => if c = mark then [mark, mark] else [c]) = text := by
  induction text with
  | nil => rfl
  | cons c text ih =>
      have different : c ≠ mark := fun same => absent (same ▸ List.mem_cons_self)
      rw [List.flatMap_cons, if_neg different,
        ih fun member => absent (List.mem_cons_of_mem _ member)]
      rfl

/-- An account without single quotes is written between quotes that close what they open. -/
theorem closed_account
    {username host : String} (noQuote : '\'' ∉ username.toList) (noQuoteHost : '\'' ∉ host.toList) :
    Closed (accountText username host).toList := by
  have shape : (accountText username host).toList =
      Sql.quotedText '\'' username.toList ++ (['@'] ++ Sql.quotedText '\'' host.toList) := by
    simp [accountText, Sql.quotedText, flatMap_unmarked noQuote, flatMap_unmarked noQuoteHost]
  rw [shape]
  exact (Closed.quotedText rfl _).append ((Closed.inert rfl).append (.quotedText rfl _))

theorem isFragment_account
    {line first middle username host : String}
    (written : line = first ++ middle ++ accountText username host ++ ";")
    (plain : first.toList.all Sql.isInert = true)
    (begins : first.toList.head?.any Sql.beginsStatement = true)
    (closed : Closed middle.toList) (noQuote : '\'' ∉ username.toList)
    (noQuoteHost : '\'' ∉ host.toList) : IsFragment line := by
  have shape : first ++ middle ++ accountText username host =
      first ++ (middle ++ ("'" ++ username ++ "'@'" ++ host)) ++ "'" := by
    simp only [accountText, String.append_assoc]
  rw [shape] at written
  refine isFragment_of written ?_ begins (by decide)
  rw [← shape]
  exact ((Closed.plain plain).string_append closed).string_append
    (closed_account noQuote noQuoteHost)

theorem isFragment_createUser
    {user : User} (noQuote : '\'' ∉ user.username.toList) (noQuoteHost : '\'' ∉ user.host.toList) :
    IsFragment (createUser user) := by
  have written : createUser user =
      "CREATE USER " ++ "IF NOT EXISTS " ++ accountText user.username user.host ++ ";" := by
    unfold createUser
    rw [show "CREATE USER IF NOT EXISTS '" = "CREATE USER " ++ "IF NOT EXISTS " ++ "'" from rfl,
      show "';" = "'" ++ ";" from rfl]
    simp only [accountText, String.append_assoc]
  exact isFragment_account written (by decide) (by decide) (.plain (by decide)) noQuote noQuoteHost

theorem closed_grantObject
    {schema : Schema} {permission : Permission} {object : String}
    (granted : grantObject? schema permission = some object) : Closed object.toList := by
  rw [grantObject?] at granted
  cases on : permission.table with
  | none =>
      rw [on] at granted
      cases granted
      exact (closed_quote _).string_append (.plain (by decide))
  | some id =>
      rw [on] at granted
      obtain ⟨table, _, rfl⟩ := Option.map_eq_some_iff.mp granted
      exact ((closed_quote _).string_append (.plain (by decide))).string_append (closed_quote _)

theorem isFragment_grant
    {schema : Schema} {permission : Permission} {line : String}
    (grant : grant? schema permission = some line)
    (noQuotes : ∀ user ∈ schema.users,
      '\'' ∉ user.username.toList ∧ '\'' ∉ user.host.toList) : IsFragment line := by
  obtain ⟨user, found, granted⟩ := Option.bind_eq_some_iff.mp grant
  obtain ⟨object, on, spelled⟩ := Option.bind_eq_some_iff.mp granted
  obtain ⟨noQuote, noQuoteHost⟩ := noQuotes user (List.mem_of_find?_eq_some found)
  let privileges := ", ".intercalate (permission.privileges.map Privilege.text)
  have closedPrivileges : Closed privileges.toList := by
    apply Closed.intercalate (.plain (by decide))
    intro item member
    obtain ⟨privilege, _, rfl⟩ := List.mem_map.mp member
    cases privilege with
    | select => exact .plain (by decide)
    | insert => exact .plain (by decide)
    | update => exact .plain (by decide)
    | delete => exact .plain (by decide)
    | all => exact .plain (by decide)
  have written : line = "GRANT " ++ (privileges ++ " ON " ++ object ++ " TO ") ++
      accountText user.username user.host ++ ";" := by
    split at spelled
    · cases spelled
    · rw [← Option.some.inj spelled, show " TO '" = " TO " ++ "'" from rfl,
        show "';" = "'" ++ ";" from rfl]
      simp only [accountText, privileges, String.append_assoc]
  apply isFragment_account written (by decide) (by decide) _ noQuote noQuoteHost
  exact ((closedPrivileges.string_append (.plain (by decide))).string_append
    (closed_grantObject on)).string_append (.plain (by decide))

/-! ### Tables -/

theorem closedBefore_columnDefinition
    {column : ColumnSpec} (type : Sql.OpensNothing column.dataType.toList)
    (default : ∀ value ∈ column.defaultValue, Sql.OpensNothing value.toList)
    (forceNotNull : Bool) :
    ClosedBefore (columnDefinition .mySql column forceNotNull).toList := by
  have typed : ClosedBefore (Dialect.mySql.quote column.name ++ " " ++ column.dataType).toList :=
    ((closed_quote column.name).string_append (.plain (by decide))).string_append_before
      type.closedBefore
  -- Each of the suffixes is empty or begins with a blank.
  have word (text : String) (plain : text.toList.all Sql.isInert = true)
      (apart : StartsApart text.toList) : ClosedBefore text.toList ∧ StartsApart text.toList :=
    ⟨(Closed.plain plain).closedBefore, apart⟩
  have notNull (demanded : Bool) :
      ClosedBefore (if demanded then " NOT NULL" else "").toList ∧
        StartsApart (if demanded then " NOT NULL" else "").toList := by
    cases demanded with
    | false => exact word "" (by decide) (by decide)
    | true => exact word " NOT NULL" (by decide) (by decide)
  have key :
      let text := if column.isPrimaryKey then " PRIMARY KEY" else if column.isUnique then " UNIQUE"
        else ""
      ClosedBefore text.toList ∧ StartsApart text.toList := by
    cases column.isPrimaryKey with
    | true => exact word " PRIMARY KEY" (by decide) (by decide)
    | false =>
        cases column.isUnique with
        | true => exact word " UNIQUE" (by decide) (by decide)
        | false => exact word "" (by decide) (by decide)
  let demanded := !column.isPrimaryKey && (!column.nullable || forceNotNull)
  have known := typed.string_append (notNull demanded).1 (notNull demanded).2
  unfold columnDefinition
  cases given : column.defaultValue with
  | none =>
      have nothing := word "" (by decide) (by decide)
      exact (known.string_append nothing.1 nothing.2).string_append key.1 key.2
  | some text =>
      have closed : ClosedBefore (" DEFAULT " ++ text).toList :=
        (Closed.plain (by decide)).string_append_before (default text given).closedBefore
      have apart : StartsApart (" DEFAULT " ++ text).toList := by
        rw [String.toList_append]
        exact StartsApart.append (by decide) (by decide) _
      exact (known.string_append closed apart).string_append key.1 key.2

theorem closed_constraintClause
    {table : Table} {constraint : ConstraintSpec} {clause : String}
    (written : constraintClause? .mySql table constraint = some clause)
    (check : ∀ expression ∈ constraint.expression, Sql.OpensNothing expression.toList) :
    Closed clause.toList := by
  have named : Closed ("CONSTRAINT " ++ Dialect.mySql.quote constraint.name).toList :=
    (Closed.plain (by decide)).string_append (closed_quote _)
  rw [constraintClause?] at written
  cases kind : constraint.kind with
  | notNull =>
      rw [kind] at written
      cases written
  | check =>
      rw [kind] at written
      obtain ⟨expression, given, rfl⟩ := Option.map_eq_some_iff.mp written
      have opened : ClosedBefore ("CONSTRAINT " ++ Dialect.mySql.quote constraint.name ++
          " CHECK (" ++ expression).toList :=
        (named.string_append (.plain (by decide))).string_append_before
          (check expression given).closedBefore
      rw [String.toList_append]
      exact opened.append_closed (.plain (by decide)) (by decide) (by decide)
  | unique =>
      rw [kind] at written
      obtain ⟨column, _, rfl⟩ := Option.map_eq_some_iff.mp written
      exact ((named.string_append (.plain (by decide))).string_append
        (closed_quote _)).string_append (.plain (by decide))

theorem isFragment_createTable
    {schema : Schema} (nothing : schema.OpensNothing) {table : Table}
    (member : table ∈ schema.tables) : IsFragment (createTable .mySql schema table) := by
  have closed : ∀ line ∈ tableLines .mySql schema table, ClosedBefore line.toList := by
    intro line listed
    rw [tableLines, List.mem_append] at listed
    rcases listed with defined | constrained
    · obtain ⟨column, columnMember, rfl⟩ := List.mem_map.mp defined
      exact closedBefore_columnDefinition (nothing.types table member column columnMember)
        (nothing.defaults table member column columnMember) _
    · obtain ⟨constraint, own, written⟩ := List.mem_filterMap.mp constrained
      have constraintMember := (List.mem_filter.mp own).1
      have clause := closed_constraintClause written (nothing.checks constraint constraintMember)
      exact clause.closedBefore
  let lines := (tableLines .mySql schema table).map ("  " ++ ·)
  have indented : ∀ line ∈ lines, ClosedBefore line.toList := by
    intro line listed
    obtain ⟨line, unindented, rfl⟩ := List.mem_map.mp listed
    exact (Closed.plain (by decide)).string_append_before (closed line unindented)
  have body : ClosedBefore (",\n".intercalate lines).toList :=
    .intercalate (.plain (by decide)) (by decide) (by decide) indented
  let opening := Dialect.mySql.quote table.name ++ " (\n"
  have opened : Closed ("CREATE TABLE " ++ opening).toList :=
    (Closed.plain (by decide)).string_append
      ((closed_quote _).string_append (.plain (by decide)))
  have written : createTable .mySql schema table =
      "CREATE TABLE " ++ (opening ++ ",\n".intercalate lines) ++ "\n)" ++ ";" := by
    unfold createTable
    rw [show "\n);" = "\n)" ++ ";" from rfl]
    simp only [opening, lines, String.append_assoc]
  apply isFragment_of written _ (by decide) (by decide)
  rw [← String.append_assoc, String.toList_append]
  have unclosed := opened.string_append_before body
  exact unclosed.append_closed (.plain (by decide)) (by decide) (by decide)

/-! ## Scripts -/

/-- Whatever the users are called, the statements that create the tables, the indexes and the
foreign keys are cut from a creation script for MySQL first. -/
theorem texts_script
    {schema : Schema} (nothing : schema.OpensNothing) (oneLine : '\n' ∉ schema.name.toList) :
    (Sql.statements (script .mySql schema)).map (fun statement => statement.text ++ ";") =
      creations .mySql schema ++
        (scriptTexts (paragraph (userStatements schema)).toList).map (· ++ ";") := by
  have tables : ∀ line ∈ schema.tables.map (createTable .mySql schema), IsFragment line := by
    intro line listed
    obtain ⟨table, member, rfl⟩ := List.mem_map.mp listed
    exact isFragment_createTable nothing member
  have indexes : ∀ line ∈ schema.tables.flatMap (indexStatements .mySql schema),
      IsFragment line := by
    intro line listed
    obtain ⟨table, _, own⟩ := List.mem_flatMap.mp listed
    obtain ⟨index, _, rfl⟩ := List.mem_map.mp own
    exact isFragment_createIndex table.name index
  have keys : ∀ line ∈ schema.relationships.filterMap fun relationship =>
      foreignKey? .mySql schema relationship.toRelationshipSpec, IsFragment line := by
    intro line listed
    obtain ⟨relationship, _, key⟩ := List.mem_filterMap.mp listed
    exact isFragment_foreignKey key
  have texts :
      (Sql.statements (script .mySql schema)).map (fun statement => statement.text ++ ";") =
        (scriptTexts (script .mySql schema).toList).map (· ++ ";") := by
    rw [← Sql.statements_texts, List.map_map]
    rfl
  have lead : Invisible "\n".toList := .newline
  have tablesAndRest := texts_lines tables lead
  simp only [List.map_map, Function.comp_def] at tablesAndRest
  -- The header is a comment, and after it comes one part of the script after the other.
  rw [texts]
  unfold script
  rw [if_pos rfl, String.toList_append, String.toList_append, String.toList_append,
    String.toList_append, List.append_assoc, List.append_assoc, List.append_assoc,
    Sql.scriptTexts_invisible (Sql.invisible_header oneLine .mySql), tablesAndRest,
    texts_paragraph indexes, texts_paragraph keys, creations]
  simp only [List.append_assoc]

theorem isFragment_userStatements
    {schema : Schema} (noQuotes : ∀ user ∈ schema.users,
      '\'' ∉ user.username.toList ∧ '\'' ∉ user.host.toList) :
    ∀ line ∈ userStatements schema, IsFragment line := by
  intro line listed
  rcases List.mem_append.mp listed with created | granted
  · obtain ⟨user, member, rfl⟩ := List.mem_map.mp created
    exact isFragment_createUser (noQuotes user member).1 (noQuotes user member).2
  · obtain ⟨permission, _, grant⟩ := List.mem_filterMap.mp granted
    exact isFragment_grant grant noQuotes

/-- A creation script for MySQL is cut into the statements that create the tables, the indexes and
the foreign keys, whatever anything is called, and then the users and the grants, where no account
has a quote in it. -/
theorem statements_script
    {schema : Schema} (nothing : schema.OpensNothing) (oneLine : '\n' ∉ schema.name.toList) :
    let fragments :=
      (Sql.statements (script .mySql schema)).map fun statement => statement.text ++ ";"
    creations .mySql schema <+: fragments ∧
      ((∀ user ∈ schema.users, '\'' ∉ user.username.toList ∧ '\'' ∉ user.host.toList) →
        fragments = creations .mySql schema ++ userStatements schema) := by
  intro fragments
  have cut : fragments = _ := texts_script nothing oneLine
  refine ⟨?_, ?_⟩
  · rw [cut]
    exact List.prefix_append _ _
  · intro noQuotes
    have users := texts_paragraph (isFragment_userStatements noQuotes) []
    rw [List.append_nil, Sql.scriptTexts_nil, List.map_nil, List.append_nil] at users
    rw [cut, users]

/-- A table, its column, its index and a user have quotes, semicolons and comments in their
names. -/
theorem statements_script_odd_names :
    let odd : Table :=
      { (default : Table) with
        name := "a;--`b"
        columns := [{ id := ⟨0⟩, name := "it's", dataType := "INT", isIndexed := true }] }
    let schema : Schema :=
      { (default : Schema) with
        name := "; /* shop"
        tables := [odd]
        users := [{ id := ⟨0⟩, username := "ad;a", host := "--" }]
        permissions :=
          [{ id := ⟨0⟩, user := ⟨0⟩, table := some odd.id, privileges := [.select, .all] }] }
    schema.OpensNothing ∧ '\n' ∉ schema.name.toList ∧
      (∀ user ∈ schema.users, '\'' ∉ user.username.toList ∧ '\'' ∉ user.host.toList) ∧
        (Sql.statements (script .mySql schema)).map (fun statement => statement.text ++ ";") =
          ["CREATE TABLE `a;--``b` (\n  `it's` INT\n);",
            "CREATE INDEX `idx_a;--``b_it's` ON `a;--``b` (`it's`);",
            "CREATE USER IF NOT EXISTS 'ad;a'@'--';",
            "GRANT SELECT, ALL PRIVILEGES ON `; /* shop`.`a;--``b` TO 'ad;a'@'--';"] := by
  intro odd schema
  have nothing : schema.OpensNothing := by
    decide +kernel
  have oneLine : '\n' ∉ schema.name.toList := by
    decide
  have noQuotes : ∀ user ∈ schema.users,
      '\'' ∉ user.username.toList ∧ '\'' ∉ user.host.toList := by
    decide
  have cut := (statements_script nothing oneLine).2 noQuotes
  refine ⟨nothing, oneLine, noQuotes, cut.trans ?_⟩
  decide +kernel

/-- With a quote in the name of one user, its statement and the next one are read as one; and a
line feed in the name of a schema ends the comment that the name is in. -/
theorem statements_script_of_quote_and_line_feed :
    let quoted : Schema :=
      { (default : Schema) with
        name := "shop"
        users := [{ id := ⟨0⟩, username := "o'brien" }, { id := ⟨1⟩, username := "ada" }] }
    let broken : Schema := { (default : Schema) with name := "shop\nDROP TABLE users;" }
    quoted.OpensNothing ∧ (creations .mySql quoted ++ userStatements quoted).length = 2 ∧
      (Sql.statements (script .mySql quoted)).length = 1 ∧
    broken.OpensNothing ∧ creations .mySql broken ++ userStatements broken = [] ∧
      (Sql.statements (script .mySql broken)).map (fun statement => statement.text) =
        ["DROP TABLE users"] := by
  decide +kernel

end Ddl

end SchemaDesign
