import SchemaDesign.Command
import SchemaDesign.Main
import SchemaDesign.Schema.Demo
import SchemaDesign.Sql.Lint
import SchemaDesign.Proofs.Schema.DistinctKeys
import SchemaDesign.Proofs.Schema.Places
import SchemaDesign.Proofs.Schema.Linked
import SchemaDesign.Proofs.Schema.LinkedChanges
import SchemaDesign.Proofs.Schema.LinkedSteps
import SchemaDesign.Proofs.Schema.Consistency
import SchemaDesign.Proofs.Session.Steps
import SchemaDesign.Proofs.Validation.Scope
import SchemaDesign.Proofs.Execution.Keeps
import SchemaDesign.Proofs.Session.Findings
import SchemaDesign.Proofs.Schema.Keyed
import SchemaDesign.Proofs.Validation.Integrity
import SchemaDesign.Proofs.Sql.Constraints
import SchemaDesign.Proofs.Execution.Soundness
import SchemaDesign.Proofs.Sql.Cutting
import SchemaDesign.Proofs.Sql.Numerals
import SchemaDesign.Proofs.Sql.Spelling
import SchemaDesign.Proofs.Sql.Parentheses
import SchemaDesign.Proofs.Sql.Writing
import SchemaDesign.Proofs.Ddl.Columns
import SchemaDesign.Proofs.Ddl.Statements
import SchemaDesign.Proofs.Ddl.Scripts
import SchemaDesign.Proofs.Schema.Outlines
import SchemaDesign.Proofs.Execution.Recreation
import SchemaDesign.Proofs.Session.Independence
import SchemaDesign.Proofs.Session.Atomicity
import SchemaDesign.Proofs.Validation.Fixing
import SchemaDesign.Proofs.Export.Relabeling
import SchemaDesign.Proofs.Validation.Relabeling
import SchemaDesign.Proofs.Sql.Pieces
import SchemaDesign.Proofs.Execution.Batches
import SchemaDesign.Proofs.Execution.Attempts
import SchemaDesign.Proofs.Execution.Alterations
import SchemaDesign.Proofs.Execution.SingleSteps
import SchemaDesign.Proofs.Schema.Shapes
import SchemaDesign.Proofs.Execution.Affected
import SchemaDesign.Proofs.Ddl.ColumnSteps
import SchemaDesign.Proofs.Session.ColumnReplay
import SchemaDesign.Proofs.Ddl.Creations
import SchemaDesign.Proofs.Session.Mirroring
import SchemaDesign.Proofs.Sql.Uncut
import SchemaDesign.Proofs.Ddl.Fragments
import SchemaDesign.Proofs.Execution.Reruns
import SchemaDesign.Proofs.Validation.Coverage
import SchemaDesign.Proofs.Sql.Recognition
import SchemaDesign.Proofs.Sql.Rereading
import SchemaDesign.Proofs.Sql.PrefixedLiterals
import SchemaDesign.Proofs.Sql.VerbatimTokens
import SchemaDesign.Proofs.Sql.Rendering
import SchemaDesign.Proofs.Schema.Snapshots
import SchemaDesign.Proofs.Validation.Cycles
import SchemaDesign.Proofs.Execution.ForeignKeys
import SchemaDesign.Proofs.Execution.IndexNames
import SchemaDesign.Proofs.Execution.AddedKeys
import SchemaDesign.Proofs.Execution.ColumnClauses
import SchemaDesign.Proofs.CommandLine
import SchemaDesign.Proofs.Export.CollectionIndexes
import SchemaDesign.Proofs.Schema.Cascades
import SchemaDesign.Proofs.Validation.SuggestedNames
import SchemaDesign.Proofs.Sql.Lines
import SchemaDesign.Proofs.Sql.ExposedTokens
import SchemaDesign.Proofs.Sql.MissingSemicolons
import SchemaDesign.Proofs.Export.DanglingRelationships
import SchemaDesign.Proofs.Sql.ModifierOrder
import SchemaDesign.Proofs.Export.BaseTypes
import SchemaDesign.Proofs.Ddl.Insertions
import SchemaDesign.Proofs.Validation.DuplicateNames
import SchemaDesign.Proofs.Export.RequiredColumns
import SchemaDesign.Proofs.Schema.Grid
import SchemaDesign.Proofs.Export.QuotedLiterals
import SchemaDesign.Proofs.StoredQueries
import SchemaDesign.Proofs.Sql.StatementPlaces
import SchemaDesign.Proofs.Sql.SemicolonPlaces
import SchemaDesign.Proofs.Sql.ActionLists
import SchemaDesign.Proofs.Sql.ParenthesizedLists
import SchemaDesign.Proofs.Sql.Coordinates
import SchemaDesign.Proofs.Ddl.QuotedNames
import SchemaDesign.Proofs.SnakeCase
