import SchemaDesign.Schema.Basic

/-!
# Cycles of references

The walk along foreign keys that looks for tables that refer to themselves, directly or through
others.  A table is left for good when everything that can be reached from it has been walked.
-/

namespace SchemaDesign.Cycle

/-- What a walk has come to: the tables it has left for good, and the cycles it has met. -/
structure Progress where
  finished : List TableId
  cycles : List (List TableId)
deriving DecidableEq, Repr

/-- Whether two lists have the same elements. -/
def sameMembers (left right : List TableId) : Bool :=
  left.all right.contains && right.all left.contains

/-- Keeps a cycle unless one through the same tables is known. -/
def Progress.report (progress : Progress) (cycle : List TableId) : Progress :=
  if progress.cycles.any (sameMembers cycle) then progress
  else { progress with cycles := progress.cycles ++ [cycle] }

/-- The elements in the order in which they first come, each once. -/
def distinct : List TableId → List TableId
  | [] => []
  | id :: ids => id :: (distinct ids).filter (· != id)

/-- The tables that a table refers to, in the order of the relationships. -/
def targets (schema : Schema) (source : TableId) : List TableId :=
  distinct ((schema.relationships.filter fun relationship =>
      relationship.sourceTable == source && (schema.table? relationship.sourceTable).isSome &&
        (schema.table? relationship.targetTable).isSome).map fun relationship =>
    relationship.targetTable)

/-- Walks on from a table at the end of a path.  A target on the path closes a cycle; another one
is walked unless it has been left for good.  A path has no table twice, so the number of tables
bounds the depth of the walk. -/
def walk (targets : TableId → List TableId) : Nat → List TableId → TableId → Progress → Progress
  | 0, _, _, progress => progress
  | depth + 1, before, table, progress =>
      let path := before ++ [table]
      let walked := (targets table).foldl (fun progress target =>
        if path.contains target then progress.report (path.dropWhile (· != target))
        else if progress.finished.contains target then progress
        else walk targets depth path target progress) progress
      { walked with finished := table :: walked.finished }

/-- The cycles of a schema's foreign keys, as the tables that they pass. -/
def all (schema : Schema) : List (List TableId) :=
  let tables := schema.tables.map fun table => table.id
  let walked := tables.foldl (fun progress table =>
    if progress.finished.contains table then progress
    else walk (targets schema) tables.length [] table progress) { finished := [], cycles := [] }
  walked.cycles

end SchemaDesign.Cycle
