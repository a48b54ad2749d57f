import SchemaDesign.Backend
import SchemaDesign.Json.Fields
import SchemaDesign.Text.Blank

/-!
# Queries

The parts of a query that was drawn rather than written, its SQL, its answer and its JSON form.
Names, conditions and values stand in the SQL as they are given.
-/

namespace SchemaDesign

/-- How two tables are joined. -/
inductive JoinKind where
  | inner
  | left
  | right
  | fullOuter
deriving DecidableEq, Repr

namespace JoinKind

/-- The word before `JOIN`. -/
def keyword : JoinKind → String
  | .inner => "INNER"
  | .left => "LEFT"
  | .right => "RIGHT"
  | .fullOuter => "FULL OUTER"

/-- All kinds of joins. -/
def all : List JoinKind := [.inner, .left, .right, .fullOuter]

end JoinKind

/-- A table that is joined on a condition. -/
structure Join where
  kind : JoinKind
  table : String
  condition : String
deriving DecidableEq, Repr

/-- How a filter compares a column with a value. -/
inductive FilterOperator where
  | equal
  | notEqual
  | greater
  | less
  | atLeast
  | atMost
  | like
  | oneOf
  | noneOf
deriving DecidableEq, Repr

namespace FilterOperator

/-- The operator as it is written in SQL. -/
def text : FilterOperator → String
  | .equal => "="
  | .notEqual => "!="
  | .greater => ">"
  | .less => "<"
  | .atLeast => ">="
  | .atMost => "<="
  | .like => "LIKE"
  | .oneOf => "IN"
  | .noneOf => "NOT IN"

/-- All operators. -/
def all : List FilterOperator :=
  [.equal, .notEqual, .greater, .less, .atLeast, .atMost, .like, .oneOf, .noneOf]

end FilterOperator

/-- A condition on a column. -/
structure Filter where
  column : String
  operator : FilterOperator
  value : String
deriving DecidableEq, Repr

/-- The order in which rows are sorted. -/
inductive SortDirection where
  | ascending
  | descending
deriving DecidableEq, Repr

namespace SortDirection

/-- The word after the column. -/
def keyword : SortDirection → String
  | .ascending => "ASC"
  | .descending => "DESC"

/-- Both directions. -/
def all : List SortDirection := [.ascending, .descending]

end SortDirection

/-- A column that rows are sorted by. -/
structure OrderBy where
  column : String
  direction : SortDirection
deriving DecidableEq, Repr

/-- A query by its parts.  Without columns it asks for all; all of its filters hold at once. -/
structure VisualQuery where
  tables : List String := []
  columns : List String := []
  joins : List Join := []
  filters : List Filter := []
  groupBy : List String := []
  orderBy : List OrderBy := []
  limit : Option Nat := none
deriving DecidableEq, Repr

/-- Why a query has no SQL. -/
inductive QueryError where
  | noTables
deriving DecidableEq, Repr

/-- The text shown for a query without SQL. -/
def QueryError.message : QueryError → String
  | .noTables => "Query has no tables"

/-- The answer to a query: rows, or the text of an error. -/
structure QueryOutcome where
  columns : List String := []
  values : List (List Json) := []
  error : Option String := none
deriving DecidableEq

/-- The JSON form of an answer. -/
def QueryOutcome.json (outcome : QueryOutcome) : Json :=
  .object
    [("columns", .strings outcome.columns),
      ("values", .array (outcome.values.map .array)),
      ("error", .ofString? outcome.error)]

/-- A value between single quotes, as it is. -/
def inQuotes (value : String) : String :=
  "'" ++ value ++ "'"

/-- The SQL of a join. -/
def Join.sql (join : Join) : String :=
  join.kind.keyword ++ " JOIN " ++ join.table ++ " ON " ++ join.condition

/-- The values that a list names, with commas between them. -/
def listedValues (value : String) : List String :=
  (Text.split (· == ',') value.toList).map fun item => String.ofList (Text.trim item)

/-- The SQL of a filter. -/
def Filter.sql (filter : Filter) : String :=
  let value :=
    match filter.operator with
    | .oneOf | .noneOf =>
        "(" ++ ", ".intercalate ((listedValues filter.value).map inQuotes) ++ ")"
    | _ => inQuotes filter.value
  filter.column ++ " " ++ filter.operator.text ++ " " ++ value

namespace VisualQuery

/-! ## Building -/

/-- The query with one more column. -/
def select (query : VisualQuery) (column : String) : VisualQuery :=
  { query with columns := query.columns ++ [column] }

/-- The query with one more joined table. -/
def addJoin (query : VisualQuery) (join : Join) : VisualQuery :=
  { query with joins := query.joins ++ [join] }

/-- The query with one more condition. -/
def addFilter (query : VisualQuery) (filter : Filter) : VisualQuery :=
  { query with filters := query.filters ++ [filter] }

/-- The query grouped by one more column. -/
def addGroup (query : VisualQuery) (column : String) : VisualQuery :=
  { query with groupBy := query.groupBy ++ [column] }

/-- The query sorted by one more column. -/
def addOrder (query : VisualQuery) (order : OrderBy) : VisualQuery :=
  { query with orderBy := query.orderBy ++ [order] }

/-- The query for at most so many rows. -/
def atMost (query : VisualQuery) (limit : Nat) : VisualQuery :=
  { query with limit := some limit }

/-! ## SQL -/

/-- A clause of keywords and listed parts, if there are parts. -/
def clause (keywords separator : String) (parts : List String) : List String :=
  if parts.isEmpty then [] else [keywords ++ " " ++ separator.intercalate parts]

/-- The SQL of a query, which needs a table. -/
def compile (query : VisualQuery) : Except QueryError String :=
  if query.tables.isEmpty then .error .noTables
  else
    let projection :=
      if query.columns.isEmpty then "*" else ", ".intercalate query.columns
    let limit :=
      match query.limit with
      | some limit => ["LIMIT " ++ toString limit]
      | none => []
    .ok (" ".intercalate
      (["SELECT", projection, "FROM", ", ".intercalate query.tables] ++
        query.joins.map Join.sql ++
        clause "WHERE" " AND " (query.filters.map Filter.sql) ++
        clause "GROUP BY" ", " query.groupBy ++
        clause "ORDER BY" ", "
          (query.orderBy.map fun order => order.column ++ " " ++ order.direction.keyword) ++
        limit))

/-- The answer of a database to a query, and the database after it. -/
def execute (query : VisualQuery) (backend : Backend) : QueryOutcome × Backend :=
  match query.compile with
  | .error error => ({ error := some error.message }, backend)
  | .ok sql =>
      match backend.send (.query sql) with
      | (.ok result, backend) =>
          ({ columns := result.columns, values := result.values }, backend)
      | (.error error, backend) => ({ error := some error.message }, backend)

/-! ## JSON form -/

open Json (Document Fields)

/-- The JSON form of a join. -/
def joinJson (join : Join) : Json :=
  .object
    [("kind", .string join.kind.keyword), ("table", .string join.table),
      ("condition", .string join.condition)]

/-- The JSON form of a filter. -/
def filterJson (filter : Filter) : Json :=
  .object
    [("column", .string filter.column), ("operator", .string filter.operator.text),
      ("value", .string filter.value)]

/-- The JSON form of a column to sort by. -/
def orderJson (order : OrderBy) : Json :=
  .object [("column", .string order.column), ("direction", .string order.direction.keyword)]

/-- The JSON form of a query. -/
def json (query : VisualQuery) : Json :=
  .object
    [("tables", .strings query.tables),
      ("columns", .strings query.columns),
      ("joins", .array (query.joins.map joinJson)),
      ("filters", .array (query.filters.map filterJson)),
      ("group_by", .strings query.groupBy),
      ("order_by", .array (query.orderBy.map orderJson)),
      ("limit",
        match query.limit with
        | some limit => .nat limit
        | none => .null)]

/-- The join that a document holds. -/
def joinOf? (document : Document) : Option Join := do
  let fields ← Fields.ofDocument? ["kind", "table", "condition"] document
  let kind ← fields.required "kind" (Document.choice? JoinKind.keyword JoinKind.all)
  let table ← fields.required "table" Document.string?
  let condition ← fields.required "condition" Document.string?
  some { kind, table, condition }

/-- The filter that a document holds. -/
def filterOf? (document : Document) : Option Filter := do
  let fields ← Fields.ofDocument? ["column", "operator", "value"] document
  let column ← fields.required "column" Document.string?
  let operator ←
    fields.required "operator" (Document.choice? FilterOperator.text FilterOperator.all)
  let value ← fields.required "value" Document.string?
  some { column, operator, value }

/-- The column to sort by that a document holds. -/
def orderOf? (document : Document) : Option OrderBy := do
  let fields ← Fields.ofDocument? ["column", "direction"] document
  let column ← fields.required "column" Document.string?
  let direction ←
    fields.required "direction" (Document.choice? SortDirection.keyword SortDirection.all)
  some { column, direction }

/-- A limit, which may be null. -/
def limitOf? : Document → Option (Option Nat)
  | .null => some none
  | document => document.nat?.map some

/-- The query that a document holds; parts that are absent are empty. -/
def ofDocument? (document : Document) : Option VisualQuery := do
  let fields ← Fields.ofDocument?
    ["tables", "columns", "joins", "filters", "group_by", "order_by", "limit"] document
  let strings := Document.list? Document.string?
  let tables ← fields.defaulted "tables" [] strings
  let columns ← fields.defaulted "columns" [] strings
  let joins ← fields.defaulted "joins" [] (Document.list? joinOf?)
  let filters ← fields.defaulted "filters" [] (Document.list? filterOf?)
  let groupBy ← fields.defaulted "group_by" [] strings
  let orderBy ← fields.defaulted "order_by" [] (Document.list? orderOf?)
  let limit ← fields.defaulted "limit" none limitOf?
  some { tables, columns, joins, filters, groupBy, orderBy, limit }

end VisualQuery

end SchemaDesign
