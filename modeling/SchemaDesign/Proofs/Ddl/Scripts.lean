import SchemaDesign.Proofs.Ddl.Statements
import SchemaDesign.Proofs.Schema.Outlines

/-!
# Creation scripts that are read again

A creation script is cut into the statements it was put together from, and each of them is read as
what it was written for.
-/

namespace SchemaDesign

/-- The statement that is read for a relationship with a name and two ends. -/
def Schema.link? (schema : Schema) (relationship : RelationshipSpec) : Option Sql.Statement := do
  let name ← relationship.name
  let ((source, sourceColumn), (target, targetColumn)) ← schema.endpoints? relationship
  some (Sql.linkOf name source sourceColumn target targetColumn)

/-- The statements that are read for the tables of a schema and then for its relationships. -/
def Schema.statements (schema : Schema) : List Sql.Statement :=
  schema.tables.map (fun table => .createTable (Sql.creationOf table)) ++
    schema.relationships.filterMap fun relationship => schema.link? relationship.toRelationshipSpec

/-- A schema whose creation script says all about its tables and relationships, and which has
nothing else. -/
structure Schema.Portable (schema : Schema) : Prop where
  name : '\n' ∉ schema.name.toList
  names : schema.NamesDiffer
  columns : ∀ table ∈ schema.tables, ∀ column ∈ table.columns, column.toColumnSpec.Portable
  named : ∀ relationship ∈ schema.relationships, relationship.name.isSome
  oneToMany : ∀ relationship ∈ schema.relationships, relationship.cardinality = .oneToMany
  resolves : schema.Resolves
  marks : schema.MarksEnds
  indexes : schema.indexes = []
  constraints : schema.constraints = []
  users : schema.users = []
  permissions : schema.permissions = []

theorem Schema.link?_eq_some
    {schema : Schema} {relationship : RelationshipSpec} {statement : Sql.Statement}
    (link : schema.link? relationship = some statement) :
    ∃ name source sourceColumn target targetColumn, relationship.name = some name ∧
      schema.endpoints? relationship = some ((source, sourceColumn), (target, targetColumn)) ∧
        statement = Sql.linkOf name source sourceColumn target targetColumn := by
  obtain ⟨name, named, found⟩ := Option.bind_eq_some_iff.mp link
  obtain ⟨⟨⟨source, sourceColumn⟩, ⟨target, targetColumn⟩⟩, ends, same⟩ :=
    Option.bind_eq_some_iff.mp found
  cases same
  exact ⟨name, source, sourceColumn, target, targetColumn, named, ends, rfl⟩

theorem Schema.Portable.link?
    {schema : Schema} (portable : schema.Portable) {relationship : Relationship}
    (member : relationship ∈ schema.relationships) :
    ∃ name source sourceColumn target targetColumn, relationship.name = some name ∧
      schema.endpoints? relationship.toRelationshipSpec =
        some ((source, sourceColumn), (target, targetColumn)) ∧
      schema.link? relationship.toRelationshipSpec =
        some (Sql.linkOf name source sourceColumn target targetColumn) := by
  obtain ⟨name, named⟩ := Option.isSome_iff_exists.mp (portable.named relationship member)
  obtain ⟨⟨⟨source, sourceColumn⟩, ⟨target, targetColumn⟩⟩, ends⟩ :=
    Option.isSome_iff_exists.mp (portable.resolves relationship member)
  refine ⟨name, source, sourceColumn, target, targetColumn, named, ends, ?_⟩
  simp [Schema.link?, named, ends]

theorem Schema.Portable.length_statements {schema : Schema} (portable : schema.Portable) :
    schema.statements.length = schema.tables.length + schema.relationships.length := by
  have links : (schema.relationships.filterMap fun relationship =>
      schema.link? relationship.toRelationshipSpec).length = schema.relationships.length := by
    apply le_antisymm (List.length_filterMap_le _ _)
    by_contra fewer
    obtain ⟨relationship, member, noLink⟩ :=
      List.length_filterMap_lt_length_iff_exists.mp (not_le.mp fewer)
    obtain ⟨_, _, _, _, _, _, _, link⟩ := portable.link? member
    cases noLink.symm.trans link
  rw [Schema.statements, List.length_append, List.length_map, links]

namespace Sql

/-- What is read of the statements of a script. -/
def readScript (script : List Char) : List (Except DdlError Statement) :=
  (scriptTexts script).map Statement.ofText

theorem readScript_invisible {text : List Char} (invisible : Invisible text) (rest : List Char) :
    readScript (text ++ rest) = readScript rest := by
  rw [readScript, scriptTexts_invisible invisible, readScript]

theorem readScript_nil : readScript [] = [] := by
  rw [readScript, scriptTexts_nil]
  rfl

/-- Statements on lines of their own, with the same before each. -/
theorem readScript_lines
    {α : Type} {items : List α} {lead : String} (invisible : Invisible lead.toList)
    {lines : α → String} {statements : α → Statement}
    (reads : ∀ item ∈ items, ∃ text, lines item = text ++ ";" ∧ Reads text (statements item))
    (rest : List Char) :
    readScript
        ((String.join (items.map fun item => lead ++ lines item ++ "\n")).toList ++ rest) =
      items.map (fun item => .ok (statements item)) ++ readScript rest := by
  choose! texts written read using reads
  have solid := fun item member => And.intro (written item member) (read item member).solid
  rw [readScript, scriptTexts_lines invisible solid, List.map_append, List.map_map, readScript]
  apply congrArg (· ++ _)
  apply List.map_congr_left
  intro item member
  exact (read item member).statement

theorem invisible_header {schema : Schema} (oneLine : '\n' ∉ schema.name.toList)
    (dialect : Dialect) :
    Invisible ("-- Schema: " ++ schema.name ++ "\n" ++ "-- Dialect: " ++ dialect.displayName ++
      "\n" ++ "-- Generated by SchemaForge\n").toList := by
  have shape : ("-- Schema: " ++ schema.name ++ "\n" ++ "-- Dialect: " ++ dialect.displayName ++
      "\n" ++ "-- Generated by SchemaForge\n").toList =
      commentLine (" Schema: ".toList ++ schema.name.toList) ++
        (commentLine (" Dialect: ".toList ++ dialect.displayName.toList) ++
          commentLine " Generated by SchemaForge".toList) := by
    simp [commentLine]
  have dialectLine : '\n' ∉ " Dialect: ".toList ++ dialect.displayName.toList := by
    cases dialect with
    | mySql => decide
    | postgreSql => decide
    | sqlServer => decide
    | oracle => decide
  have schemaLine : '\n' ∉ " Schema: ".toList ++ schema.name.toList := by
    rw [List.mem_append]
    rintro (here | there)
    · exact absurd here (by decide)
    · exact oneLine there
  rw [shape]
  exact (Invisible.commentLine schemaLine).append
    ((Invisible.commentLine dialectLine).append (.commentLine (by decide)))

theorem paragraph_eq (lines : List String) (nonempty : lines ≠ []) :
    Ddl.paragraph lines = "\n" ++ String.join (lines.map fun line => "" ++ line ++ "\n") := by
  simp [Ddl.paragraph, nonempty]

section

variable {dialect : Dialect} {schema : Schema}

theorem reads_link
    (noBrackets : dialect ≠ .sqlServer) (portable : schema.Portable) {relationship : Relationship}
    (member : relationship ∈ schema.relationships) :
    ∃ line statement, Ddl.foreignKey? dialect schema relationship.toRelationshipSpec = some line ∧
      schema.link? relationship.toRelationshipSpec = some statement ∧
        ∃ text, line = text ++ ";" ∧ Reads text statement := by
  obtain ⟨name, source, sourceColumn, target, targetColumn, named, ends, link⟩ :=
    portable.link? member
  obtain ⟨text, line, reads⟩ := reads_foreignKey noBrackets named ends
  exact ⟨text ++ ";", _, line, link, text, rfl, reads⟩

theorem readScript_links (noBrackets : dialect ≠ .sqlServer) (portable : schema.Portable) :
    readScript (Ddl.paragraph (schema.relationships.filterMap fun relationship =>
        Ddl.foreignKey? dialect schema relationship.toRelationshipSpec)).toList =
      (schema.relationships.filterMap fun relationship =>
        schema.link? relationship.toRelationshipSpec).map Except.ok := by
  have written := fun relationship (member : relationship ∈ schema.relationships) =>
    reads_link noBrackets portable member
  have inhabited : Nonempty Statement := ⟨.passthrough⟩
  choose! lines statements written linked reads using written
  rw [List.filterMap_eq_map_iff_forall_eq_some.mpr written,
    List.filterMap_eq_map_iff_forall_eq_some.mpr linked]
  by_cases none : schema.relationships = []
  · rw [none]
    exact readScript_nil
  · have some : schema.relationships.map lines ≠ [] := by simpa using none
    have lead : Invisible "".toList := .nil
    have read := readScript_lines lead reads []
    rw [List.append_nil, readScript_nil, List.append_nil] at read
    rw [paragraph_eq _ some, String.toList_append, List.map_map, List.map_map,
      show "\n".toList = ['\n'] from rfl, readScript_invisible .newline]
    exact read

theorem no_indexStatements (portable : schema.Portable) :
    schema.tables.flatMap (Ddl.indexStatements dialect schema) = [] := by
  rw [List.flatMap_eq_nil_iff]
  intro table member
  have declared : schema.indexesOf table.id = [] := by
    rw [Schema.indexesOf, portable.indexes]
    rfl
  have implied : (table.columns.filter fun column => column.isIndexed && !column.isPrimaryKey) =
      [] := by
    rw [List.filter_eq_nil_iff]
    intro column columnMember
    simp [(portable.columns table member column columnMember).notIndexed]
  simp [Ddl.indexStatements, Ddl.tableIndexes, declared, implied]

theorem no_userStatements (portable : schema.Portable) : Ddl.userStatements schema = [] := by
  rw [Ddl.userStatements, portable.users, portable.permissions]
  rfl

/-- What is read of the creation script of a schema. -/
theorem readScript_script (noBrackets : dialect ≠ .sqlServer) (portable : schema.Portable) :
    readScript (Ddl.script dialect schema).toList = schema.statements.map Except.ok := by
  have creations : ∀ table ∈ schema.tables, ∃ text,
      Ddl.createTable dialect schema table = text ++ ";" ∧
        Reads text (.createTable (creationOf table)) := by
    intro table member
    apply reads_createTable noBrackets
    · rw [Schema.constraintsOf, portable.constraints]
      rfl
    · exact portable.columns table member
  have noUsers : Ddl.paragraph (if dialect = .mySql then Ddl.userStatements schema else []) =
      "" := by
    rw [no_userStatements portable, ite_self]
    rfl
  have noIndexes : Ddl.paragraph (schema.tables.flatMap (Ddl.indexStatements dialect schema)) =
      "" := by
    rw [no_indexStatements portable]
    rfl
  have lead : Invisible "\n".toList := .newline
  unfold Ddl.script
  rw [noIndexes, noUsers, String.append_empty, String.append_empty,
    String.toList_append, String.toList_append, List.append_assoc,
    readScript_invisible (invisible_header portable.name dialect),
    readScript_lines lead creations, readScript_links noBrackets portable,
    Schema.statements, List.map_append, List.map_map]
  rfl

end

end Sql

end SchemaDesign
