import SchemaDesign.Export.Format
import SchemaDesign.Proofs.Validation.Relabeling

/-!
# Exports under other identities

Every format writes names, types and texts, and looks tables, columns and users up by their
identities only.  So an export does not show which identities a schema has.
-/

namespace SchemaDesign

variable (relabel : Relabeling) (schema : Schema)

namespace Ddl

variable (dialect : Dialect)

theorem constraintClause?_relabeled (table : Table) (constraint : ConstraintSpec) :
    constraintClause? dialect (table.relabeled relabel) (constraint.relabeled relabel) =
      constraintClause? dialect table constraint := by
  have columns : (constraint.relabeled relabel).column.bind (table.relabeled relabel).column? =
      (constraint.column.bind table.column?).map (Column.relabeled relabel) := by
    cases named : constraint.column with
    | none => simp [ConstraintSpec.relabeled, named]
    | some id => simp [ConstraintSpec.relabeled, named, Table.column?_relabeled]
  simp only [constraintClause?, columns, Option.map_map]
  rfl

theorem demandsNotNull_relabeled (constraints : List Constraint) (column : Column) :
    demandsNotNull (constraints.map (Constraint.relabeled relabel)) (column.relabeled relabel) =
      demandsNotNull constraints column := by
  have about (constraint : Constraint) :
      ((constraint.relabeled relabel).column == some (relabel.apply .column column.id)) =
        (constraint.column == some column.id) := by
    rw [Constraint.relabeled, ConstraintSpec.relabeled]
    cases constraint.column with
    | none => rfl
    | some id => exact relabel.beq_apply id column.id
  rw [demandsNotNull, List.any_map, demandsNotNull]
  congr 1
  funext constraint
  exact congrArg (constraint.kind == .notNull && ·) (about constraint)

theorem tableLines_relabeled (table : Table) :
    tableLines dialect (schema.relabeled relabel) (table.relabeled relabel) =
      tableLines dialect schema table := by
  have columns (demands : List Constraint) :
      ((table.relabeled relabel).columns.map fun column =>
        columnDefinition dialect column.toColumnSpec
          (demandsNotNull (demands.map (Constraint.relabeled relabel)) column)) =
        table.columns.map fun column =>
          columnDefinition dialect column.toColumnSpec (demandsNotNull demands column) := by
    rw [Table.columns_relabeled, List.map_map]
    apply List.map_congr_left
    intro column _
    rw [Function.comp_apply, demandsNotNull_relabeled, Column.toColumnSpec_relabeled]
  have clauses (demands : List Constraint) :
      ((demands.map (Constraint.relabeled relabel)).filterMap fun constraint =>
        constraintClause? dialect (table.relabeled relabel) constraint.toConstraintSpec) =
        demands.filterMap fun constraint =>
          constraintClause? dialect table constraint.toConstraintSpec := by
    rw [List.filterMap_map]
    apply List.filterMap_congr
    intro constraint _
    exact constraintClause?_relabeled relabel dialect table constraint.toConstraintSpec
  simp only [tableLines, Table.id_relabeled, Schema.constraintsOf_relabeled, columns, clauses]

theorem createTable_relabeled (table : Table) :
    createTable dialect (schema.relabeled relabel) (table.relabeled relabel) =
      createTable dialect schema table := by
  -- The equations of definitions with long texts take long to make, so such are unfolded here.
  unfold createTable
  rw [tableLines_relabeled, Table.name_relabeled]

theorem tableIndexes_relabeled (table : Table) :
    tableIndexes (schema.relabeled relabel) (table.relabeled relabel) =
      (tableIndexes schema table).map (IndexSpec.relabeled relabel) := by
  have declared : ((schema.relabeled relabel).indexesOf (table.relabeled relabel).id).map
      Index.toIndexSpec =
        ((schema.indexesOf table.id).map Index.toIndexSpec).map (IndexSpec.relabeled relabel) := by
    rw [Table.id_relabeled, Schema.indexesOf_relabeled, List.map_map, List.map_map]
    rfl
  rw [tableIndexes, declared, Table.columns_relabeled, List.filter_map, List.map_map, tableIndexes,
    List.map_append]
  simp only [List.any_map, List.map_map]
  rfl

theorem indexStatements_relabeled (table : Table) :
    indexStatements dialect (schema.relabeled relabel) (table.relabeled relabel) =
      indexStatements dialect schema table := by
  rw [indexStatements, tableIndexes_relabeled, List.map_map]
  rfl

theorem foreignKey?_relabeled (relationship : RelationshipSpec) :
    foreignKey? dialect (schema.relabeled relabel) (relationship.relabeled relabel) =
      foreignKey? dialect schema relationship := by
  rw [foreignKey?, Schema.endpoints?_relabeled, foreignKey?]
  cases schema.endpoints? relationship with
  | none => rfl
  | some ends => rfl

theorem grant?_relabeled (permission : Permission) :
    grant? (schema.relabeled relabel) (permission.relabeled relabel) =
      grant? schema permission := by
  have object : grantObject? (schema.relabeled relabel) (permission.relabeled relabel) =
      grantObject? schema permission := by
    simp only [grantObject?, Permission.relabeled]
    cases permission.table with
    | none => rfl
    | some id =>
        simp only [Option.map_some, Schema.table?_relabeled, Option.map_map]
        rfl
  have user : (schema.relabeled relabel).user? (permission.relabeled relabel).user =
      (schema.user? permission.user).map (User.relabeled relabel) :=
    schema.user?_relabeled relabel permission.user
  simp only [grant?, object, user]
  cases schema.user? permission.user with
  | none => rfl
  | some user => rfl

theorem script_relabeled : script dialect (schema.relabeled relabel) = script dialect schema := by
  have tables := schema.map_tables_relabeled relabel
    (fun table => "\n" ++ createTable dialect (schema.relabeled relabel) table ++ "\n")
    (fun table => "\n" ++ createTable dialect schema table ++ "\n")
    fun table => by rw [createTable_relabeled]
  have indexes : (schema.relabeled relabel).tables.flatMap
      (indexStatements dialect (schema.relabeled relabel)) =
        schema.tables.flatMap (indexStatements dialect schema) := by
    rw [Schema.tables_relabeled, List.flatMap_map]
    simp only [indexStatements_relabeled]
  have foreignKeys : ((schema.relabeled relabel).relationships.filterMap fun relationship =>
      foreignKey? dialect (schema.relabeled relabel) relationship.toRelationshipSpec) =
        schema.relationships.filterMap fun relationship =>
          foreignKey? dialect schema relationship.toRelationshipSpec := by
    rw [Schema.relationships_relabeled, List.filterMap_map]
    apply List.filterMap_congr
    intro relationship _
    exact foreignKey?_relabeled relabel schema dialect relationship.toRelationshipSpec
  have users : userStatements (schema.relabeled relabel) = userStatements schema := by
    rw [userStatements, Schema.relabeled, List.map_map, List.filterMap_map, userStatements]
    congr 1
    apply List.filterMap_congr
    intro permission _
    exact grant?_relabeled relabel schema permission
  unfold script
  rw [Schema.name_relabeled, tables, indexes, foreignKeys, users]

end Ddl

namespace Export

theorem JsonSchema.required_relabeled (table : Table) :
    JsonSchema.required (table.relabeled relabel) = JsonSchema.required table := by
  rw [JsonSchema.required, Table.columns_relabeled, List.filter_map, List.map_map]
  rfl

theorem JsonSchema.columnSchema_relabeled (column : Column) :
    JsonSchema.columnSchema (column.relabeled relabel) = JsonSchema.columnSchema column := by
  unfold JsonSchema.columnSchema
  rw [Column.toColumnSpec_relabeled]

theorem JsonSchema.tableSchema_relabeled (table : Table) :
    JsonSchema.tableSchema (table.relabeled relabel) = JsonSchema.tableSchema table := by
  have columns := table.map_columns_relabeled relabel
    (fun column => (column.name, JsonSchema.columnSchema column))
    fun column => Prod.ext rfl (JsonSchema.columnSchema_relabeled relabel column)
  rw [JsonSchema.tableSchema, columns, JsonSchema.required_relabeled, JsonSchema.tableSchema]

theorem JsonSchema.relationshipSchema?_relabeled (relationship : Relationship) :
    JsonSchema.relationshipSchema? (schema.relabeled relabel) (relationship.relabeled relabel) =
      JsonSchema.relationshipSchema? schema relationship := by
  have ends := schema.endpoints?_relabeled relabel relationship.toRelationshipSpec
  rw [JsonSchema.relationshipSchema?, Relationship.relabeled, ends, JsonSchema.relationshipSchema?]
  cases schema.endpoints? relationship.toRelationshipSpec with
  | none => rfl
  | some ends => rfl

theorem JsonSchema.generate_relabeled :
    JsonSchema.generate (schema.relabeled relabel) = JsonSchema.generate schema := by
  have tables := schema.map_tables_relabeled relabel
    (fun table => (table.name, JsonSchema.tableSchema table))
    (fun table => (table.name, JsonSchema.tableSchema table))
    fun table => Prod.ext rfl (JsonSchema.tableSchema_relabeled relabel table)
  have relationships : (schema.relabeled relabel).relationships.filterMap
      (JsonSchema.relationshipSchema? (schema.relabeled relabel)) =
        schema.relationships.filterMap (JsonSchema.relationshipSchema? schema) := by
    rw [Schema.relationships_relabeled, List.filterMap_map]
    apply List.filterMap_congr
    intro relationship _
    exact JsonSchema.relationshipSchema?_relabeled relabel schema relationship
  unfold JsonSchema.generate JsonSchema.document
  rw [Schema.name_relabeled, tables, relationships]

theorem MongoDb.collection_relabeled (table : Table) :
    MongoDb.collection (schema.relabeled relabel) (table.relabeled relabel) =
      MongoDb.collection schema table := by
  have columns := table.map_columns_relabeled relabel
    (fun column => (column.name, MongoDb.columnSchema column)) fun _ => rfl
  have validator : MongoDb.collectionSchema (table.relabeled relabel) =
      MongoDb.collectionSchema table := by
    rw [MongoDb.collectionSchema, columns, JsonSchema.required_relabeled, MongoDb.collectionSchema]
  have indexes : MongoDb.collectionIndexes (schema.relabeled relabel) (table.relabeled relabel) =
      MongoDb.collectionIndexes schema table := by
    rw [MongoDb.collectionIndexes, Table.id_relabeled, Schema.indexesOf_relabeled,
      Table.columns_relabeled, List.filter_map, List.foldl_map, List.map_map]
    rfl
  unfold MongoDb.collection
  rw [validator, indexes, Table.name_relabeled]

theorem MongoDb.generate_relabeled :
    MongoDb.generate (schema.relabeled relabel) = MongoDb.generate schema := by
  have tables := schema.map_tables_relabeled relabel
    (MongoDb.collection (schema.relabeled relabel)) (MongoDb.collection schema)
    (MongoDb.collection_relabeled relabel schema)
  unfold MongoDb.generate MongoDb.header
  rw [Schema.name_relabeled, tables]

theorem TypeScript.generate_relabeled :
    TypeScript.generate (schema.relabeled relabel) = TypeScript.generate schema := by
  have tables := schema.map_tables_relabeled relabel TypeScript.interface TypeScript.interface
    fun table => by
      have columns := table.map_columns_relabeled relabel TypeScript.property fun _ => rfl
      unfold TypeScript.interface
      rw [columns, Table.name_relabeled]
  unfold TypeScript.generate
  rw [Schema.name_relabeled, tables]

theorem Prisma.model_relabeled (table : Table) :
    Prisma.model (table.relabeled relabel) = Prisma.model table := by
  have names := table.map_columns_relabeled relabel (fun column => column.name) fun _ => rfl
  have types := table.map_columns_relabeled relabel Prisma.fieldType fun _ => rfl
  have fields (nameWidth typeWidth : Nat) :=
    table.map_columns_relabeled relabel (Prisma.field nameWidth typeWidth) fun _ => rfl
  unfold Prisma.model
  dsimp only
  rw [names, types, fields, Table.name_relabeled]

theorem Prisma.generate_relabeled :
    Prisma.generate (schema.relabeled relabel) = Prisma.generate schema := by
  have tables := schema.map_tables_relabeled relabel Prisma.model Prisma.model
    (Prisma.model_relabeled relabel)
  unfold Prisma.generate
  rw [Schema.name_relabeled, tables]

end Export

/-- No format shows which identities a schema has. -/
theorem Schema.export_relabeled (format : ExportFormat) :
    (schema.relabeled relabel).export format = schema.export format := by
  cases format with
  | mySql => exact Ddl.script_relabeled relabel schema .mySql
  | postgreSql => exact Ddl.script_relabeled relabel schema .postgreSql
  | sqlServer => exact Ddl.script_relabeled relabel schema .sqlServer
  | oracle => exact Ddl.script_relabeled relabel schema .oracle
  | mongoDb => exact Export.MongoDb.generate_relabeled relabel schema
  | jsonSchema => exact Export.JsonSchema.generate_relabeled relabel schema
  | typeScript => exact Export.TypeScript.generate_relabeled relabel schema
  | prisma => exact Export.Prisma.generate_relabeled relabel schema

/-- Neither exports nor findings depend on the identities that a schema happens to have. -/
theorem Schema.results_relabeled :
    (∀ format, (schema.relabeled relabel).export format = schema.export format) ∧
      List.Forall₂ (Finding.Relabeled relabel schema) schema.validate
        (schema.relabeled relabel).validate :=
  ⟨schema.export_relabeled relabel, schema.validate_relabeled relabel⟩

/-- A relationship without a name that has lost its tables is spoken of by its identity. -/
theorem Schema.results_relabeled_shop :
    let relabel : Relabeling :=
      { apply := fun _ id => ⟨id.number + 1⟩
        injective := fun _ left right same => by
          cases left
          cases right
          simpa using same }
    let lost : Relationship :=
      { name := none
        sourceTable := ⟨1⟩
        sourceColumn := ⟨2⟩
        targetTable := ⟨3⟩
        targetColumn := ⟨4⟩
        cardinality := .oneToMany
        id := ⟨5⟩ }
    let schema : Schema := { new "shop" default with relationships := [lost] }
    (∀ format, (schema.relabeled relabel).export format = schema.export format) ∧
      List.Forall₂ (Finding.Relabeled relabel schema) schema.validate
        (schema.relabeled relabel).validate ∧
      schema.validate.length = 1 := by
  intro relabel lost schema
  obtain ⟨exports, findings⟩ := Schema.results_relabeled relabel schema
  exact ⟨exports, findings, rfl⟩

end SchemaDesign
