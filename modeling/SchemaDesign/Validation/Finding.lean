import SchemaDesign.Schema.Snapshot

/-!
# Findings

What validation has to say about a schema.  Findings inform and never prevent a change; some of
them can be fixed automatically.
-/

namespace SchemaDesign

/-- How much a finding matters. -/
inductive Severity where
  | error
  | warning
  | info
deriving DecidableEq, Repr

namespace Severity

/-- The word for a severity. -/
def text : Severity → String
  | .error => "error"
  | .warning => "warning"
  | .info => "info"

/-- All severities. -/
def all : List Severity := [.error, .warning, .info]

end Severity

/-- The rules of validation, in the order in which their findings are reported. -/
inductive Rule where
  | primaryKey
  | foreignKeyIntegrity
  | circularReference
  | namingConvention
  | missingForeignKeyIndex
  | duplicateTableName
  | duplicateColumnName
  | reservedKeyword
  | emptyTable
  | unknownDataType
deriving DecidableEq, Repr

namespace Rule

/-- The name of a rule. -/
def code : Rule → String
  | .primaryKey => "primary-key"
  | .foreignKeyIntegrity => "foreign-key-integrity"
  | .circularReference => "circular-reference"
  | .namingConvention => "naming-convention"
  | .missingForeignKeyIndex => "missing-foreign-key-index"
  | .duplicateTableName => "duplicate-table-name"
  | .duplicateColumnName => "duplicate-column-name"
  | .reservedKeyword => "reserved-keyword"
  | .emptyTable => "empty-table"
  | .unknownDataType => "unknown-data-type"

/-- All rules in the order in which they are reported. -/
def all : List Rule :=
  [.primaryKey, .foreignKeyIntegrity, .circularReference, .namingConvention,
    .missingForeignKeyIndex, .duplicateTableName, .duplicateColumnName, .reservedKeyword,
    .emptyTable, .unknownDataType]

end Rule

/-- One thing that validation has found. -/
structure Finding where
  rule : Rule
  severity : Severity
  message : String
  table : Option TableId := none
  column : Option ColumnId := none
  relationship : Option RelationshipId := none
  suggestion : Option String := none
  autoFixable : Bool := false
deriving DecidableEq, Repr

namespace Finding

/-- The line shown for a finding. -/
def text (finding : Finding) : String :=
  "[" ++ finding.severity.text ++ "] " ++ finding.message ++ " (" ++ finding.rule.code ++ ")" ++
    (match finding.suggestion with
      | some suggestion => " → " ++ suggestion
      | none => "")

/-- The JSON form of a finding, as the members of an object. -/
def members (finding : Finding) : List (String × Json) :=
  [("rule", .string finding.rule.code),
    ("severity", .string finding.severity.text),
    ("message", .string finding.message),
    ("table_id", Id.json? finding.table),
    ("column_id", Id.json? finding.column),
    ("relationship_id", Id.json? finding.relationship),
    ("suggestion", .ofString? finding.suggestion),
    ("auto_fix_available", .bool finding.autoFixable)]

/-- The finding that a document holds. -/
def ofDocument? (document : Json.Document) : Option Finding := do
  let fields ← Json.Fields.ofDocument?
    ["rule", "severity", "message", "table_id", "column_id", "relationship_id", "suggestion",
      "auto_fix_available"] document
  let rule ← fields.required "rule" (Json.Document.choice? Rule.code Rule.all)
  let severity ← fields.required "severity" (Json.Document.choice? Severity.text Severity.all)
  let message ← fields.required "message" Json.Document.string?
  let table ← fields.optional "table_id" Id.ofDocument?
  let column ← fields.optional "column_id" Id.ofDocument?
  let relationship ← fields.optional "relationship_id" Id.ofDocument?
  let suggestion ← fields.optional "suggestion" Json.Document.string?
  let autoFixable ← fields.required "auto_fix_available" Json.Document.bool?
  some { rule, severity, message, table, column, relationship, suggestion, autoFixable }

end Finding

/-- How many findings there are of each severity. -/
structure FindingStats where
  errors : Nat
  warnings : Nat
  infos : Nat
deriving DecidableEq, Repr

namespace FindingStats

/-- The counts of some findings. -/
def ofFindings (findings : List Finding) : FindingStats :=
  let count (severity : Severity) : Nat :=
    findings.countP fun finding => finding.severity == severity
  { errors := count .error, warnings := count .warning, infos := count .info }

/-- The JSON form of the counts. -/
def json (stats : FindingStats) : Json :=
  .object
    [("error_count", .nat stats.errors),
      ("warning_count", .nat stats.warnings),
      ("info_count", .nat stats.infos)]

/-- Whether there is nothing but information. -/
def isClean (stats : FindingStats) : Bool :=
  stats.errors == 0 && stats.warnings == 0

end FindingStats

end SchemaDesign
