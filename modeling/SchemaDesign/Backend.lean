import SchemaDesign.Json.Basic

/-!
# Databases behind a design

A design may be connected to a database that runs statements and answers queries.  The database is
known by its answers alone: each depends on the requests before it, and may be a failure.
-/

namespace SchemaDesign

/-- Why a database did not do what it was asked. -/
inductive BackendError where
  /-- The request was refused, for the reason given. -/
  | refused (reason : String)
  /-- The database cannot be reached. -/
  | unavailable
deriving DecidableEq, Repr

/-- The text shown for a failure. -/
def BackendError.message : BackendError → String
  | .refused reason => "Execution failed: " ++ reason
  | .unavailable => "Execution backend is unavailable"

/-- The rows that answer a query. -/
structure QueryResult where
  columns : List String
  values : List (List Json)
deriving DecidableEq, Inhabited

/-- The JSON form of rows. -/
def QueryResult.json (result : QueryResult) : Json :=
  .object
    [("columns", .strings result.columns), ("values", .array (result.values.map .array))]

/-- What a database is asked to do. -/
inductive Request where
  /-- Run a statement that has no rows. -/
  | run (statement : String)
  /-- Answer a query with rows. -/
  | query (sql : String)
deriving DecidableEq, Repr

/-- A database: its answer to a request after others, and the requests it has had, the first one
first. -/
structure Backend where
  respond : List Request → Request → Except BackendError QueryResult
  journal : List Request := []

/-- The answer to a request, and the database after it. -/
def Backend.send (backend : Backend) (request : Request) :
    Except BackendError QueryResult × Backend :=
  (backend.respond backend.journal request,
    { backend with journal := backend.journal ++ [request] })

end SchemaDesign
