import Mathlib.Data.List.Perm.Subperm
import SchemaDesign.Proofs.Json.Compact
import SchemaDesign.Proofs.Json.Records
import SchemaDesign.Query

/-!
# Queries that are stored

The JSON form of a query gives the query back, as a value and as a text.  An object that lacks some
of the parts of a query gives the query without them.
-/

namespace SchemaDesign

open Json (Document Restores Storable document)

variable (depth : Nat)

/-! ## Names of alternatives -/

theorem JoinKind.restores (kind : JoinKind) :
    Restores (Document.choice? JoinKind.keyword JoinKind.all) depth (.string kind.keyword)
      kind := by
  refine ⟨.string _, ?_⟩
  cases kind <;> rfl

theorem FilterOperator.restores (operator : FilterOperator) :
    Restores (Document.choice? FilterOperator.text FilterOperator.all) depth
      (.string operator.text) operator := by
  refine ⟨.string _, ?_⟩
  cases operator <;> rfl

theorem SortDirection.restores (direction : SortDirection) :
    Restores (Document.choice? SortDirection.keyword SortDirection.all) depth
      (.string direction.keyword) direction := by
  refine ⟨.string _, ?_⟩
  cases direction <;> rfl

namespace VisualQuery

/-! ## The parts of a query -/

theorem restores_join (join : Join) :
    Restores joinOf? (depth + 1) (joinJson join) join := by
  have kind := join.kind.restores depth
  refine Json.restores_record rfl (by decide) ?storable ?restored
  case storable => simp
  case restored => simp [List.lookup_cons, kind.restored]

theorem restores_filter (filter : Filter) :
    Restores filterOf? (depth + 1) (filterJson filter) filter := by
  have operator := filter.operator.restores depth
  refine Json.restores_record rfl (by decide) ?storable ?restored
  case storable => simp
  case restored => simp [List.lookup_cons, operator.restored]

theorem restores_order (order : OrderBy) :
    Restores orderOf? (depth + 1) (orderJson order) order := by
  have direction := order.direction.restores depth
  refine Json.restores_record rfl (by decide) ?storable ?restored
  case storable => simp
  case restored => simp [List.lookup_cons, direction.restored]

theorem restores_strings (texts : List String) :
    Restores (Document.list? Document.string?) (depth + 1) (.strings texts) texts :=
  Json.restores_array fun text _ => Json.restores_string depth text

/-- The JSON form of a limit. -/
def limitJson : Option Nat → Json
  | some limit => .nat limit
  | none => .null

theorem restores_limit {limit : Option Nat} (small : ∀ n ∈ limit, n ≤ Json.greatestInteger) :
    Restores limitOf? depth (limitJson limit) limit := by
  cases limit with
  | none => exact ⟨.null, rfl⟩
  | some n =>
      have restores := Json.restores_nat depth (small n rfl)
      refine ⟨restores.storable, ?_⟩
      have given : limitOf? (document (.nat n)) = (document (.nat n)).nat?.map some := rfl
      rw [limitJson, given, restores.restored, Option.map_some]

/-! ## Whole queries -/

variable {query : VisualQuery}

/-- The members of the JSON form of a query. -/
def members (query : VisualQuery) : List (String × Json) :=
  [("tables", .strings query.tables),
    ("columns", .strings query.columns),
    ("joins", .array (query.joins.map joinJson)),
    ("filters", .array (query.filters.map filterJson)),
    ("group_by", .strings query.groupBy),
    ("order_by", .array (query.orderBy.map orderJson)),
    ("limit", limitJson query.limit)]

theorem json_eq (query : VisualQuery) : query.json = .object query.members :=
  rfl

/-- The query with those of its parts that some names stand for.  The others are empty. -/
def only (query : VisualQuery) (names : List String) : VisualQuery where
  tables := if "tables" ∈ names then query.tables else []
  columns := if "columns" ∈ names then query.columns else []
  joins := if "joins" ∈ names then query.joins else []
  filters := if "filters" ∈ names then query.filters else []
  groupBy := if "group_by" ∈ names then query.groupBy else []
  orderBy := if "order_by" ∈ names then query.orderBy else []
  limit := if "limit" ∈ names then query.limit else none

theorem only_all (query : VisualQuery) :
    query.only (query.members.map fun member => member.1) = query :=
  rfl

/-- Some of the members of a query, in any order, give the query with these parts only. -/
theorem restores_only
    (small : ∀ n ∈ query.limit, n ≤ Json.greatestInteger) {given : List (String × Json)}
    (part : given.Subperm query.members) :
    Restores ofDocument? (depth + 3) (.object given)
      (query.only (given.map fun member => member.1)) := by
  have tables := restores_strings (depth + 1) query.tables
  have columns := restores_strings (depth + 1) query.columns
  have joins : Restores (Document.list? joinOf?) (depth + 2)
      (.array (query.joins.map joinJson)) query.joins :=
    Json.restores_array fun join _ => restores_join depth join
  have filters : Restores (Document.list? filterOf?) (depth + 2)
      (.array (query.filters.map filterJson)) query.filters :=
    Json.restores_array fun filter _ => restores_filter depth filter
  have groupBy := restores_strings (depth + 1) query.groupBy
  have orderBy : Restores (Document.list? orderOf?) (depth + 2)
      (.array (query.orderBy.map orderJson)) query.orderBy :=
    Json.restores_array fun order _ => restores_order depth order
  have limit := restores_limit (depth + 2) small
  have distinct : ["tables", "columns", "joins", "filters", "group_by", "order_by",
      "limit"].Nodup := by decide
  refine Json.restores_part part rfl distinct ?storable ?restored
  case storable =>
    simp [members, tables.storable, columns.storable, joins.storable, filters.storable,
      groupBy.storable, orderBy.storable, limit.storable]
  case restored =>
    have field {α : Type} (name : String) {json : Json} {read : Document → Option α} {value : α}
        (member : (name, json) ∈ query.members) (restores : Restores read (depth + 2) json value)
        (default : α) :=
      Json.Fields.defaulted_of_subperm part distinct member restores default
    dsimp only
    rw [field "tables" (by simp [members]) tables, field "columns" (by simp [members]) columns,
      field "joins" (by simp [members]) joins, field "filters" (by simp [members]) filters,
      field "group_by" (by simp [members]) groupBy, field "order_by" (by simp [members]) orderBy,
      field "limit" (by simp [members]) limit]
    rfl

/-- The query that a JSON text spells. -/
def ofText? (text : String) : Option VisualQuery :=
  (Document.ofText? text).bind ofDocument?

/-- A query is read from a JSON value, and from the compact and the indented text of it. -/
structure IsReadFrom (query : VisualQuery) (json : Json) : Prop where
  value : ofDocument? (document json) = some query
  compact : ofText? json.compact = some query
  pretty : ofText? json.pretty = some query

theorem isReadFrom_of_restores {json : Json} (restores : Restores ofDocument? depth json query) :
    query.IsReadFrom json where
  value := restores.restored
  compact := by
    rw [ofText?, restores.storable.ofText?_compact, Option.bind_some, restores.restored]
  pretty := by
    rw [ofText?, restores.storable.ofText?_pretty, Option.bind_some, restores.restored]

/-- A query whose limit has 64 bits is read from its JSON form, and whatever is read from there has
the SQL of the query.  An object with some members of that form, in any order, gives the query with
all other parts empty. -/
theorem stored_query_read (small : ∀ n ∈ query.limit, n ≤ Json.greatestInteger) :
    query.IsReadFrom query.json ∧
    (∀ stored : VisualQuery, stored.IsReadFrom query.json → stored.compile = query.compile) ∧
    ∀ given : List (String × Json), given.Subperm query.members →
      (query.only (given.map fun member => member.1)).IsReadFrom (.object given) := by
  have part (given : List (String × Json)) (among : given.Subperm query.members) :=
    isReadFrom_of_restores 3 (restores_only 0 small among)
  have whole : query.IsReadFrom query.json := by
    rw [json_eq]
    simpa only [only_all] using part query.members (List.Subperm.refl _)
  refine ⟨whole, fun stored read => ?_, part⟩
  have same : stored = query := Option.some.inj (read.value.symm.trans whole.value)
  rw [same]

/-- Texts that need every kind of escape, names of alternatives with blanks in them and the greatest
limit, of which the joins and the limit are stored in the other order. -/
theorem stored_query_read_shop :
    let teams : Join :=
      { kind := .fullOuter, table := "teams", condition := "teams.id = \"t\"\n\u0001é\\" }
    let query : VisualQuery :=
      { tables := ["users", ""]
        columns := ["COUNT(*)"]
        joins := [teams]
        filters := [{ column := "age", operator := .noneOf, value := "a, 'b'" }]
        groupBy := ["users.name"]
        orderBy := [{ column := "age", direction := .descending }]
        limit := some (2 ^ 64 - 1) }
    let given : List (String × Json) :=
      [("limit", .nat (2 ^ 64 - 1)), ("joins", .array [joinJson teams])]
    (∀ n ∈ query.limit, n ≤ Json.greatestInteger) ∧ given.Subperm query.members ∧
      query.IsReadFrom query.json ∧
      IsReadFrom { joins := [teams], limit := some (2 ^ 64 - 1) } (.object given) := by
  intro teams query given
  have small : ∀ n ∈ query.limit, n ≤ Json.greatestInteger := by
    intro n known
    cases known
    decide
  have sublist : [("joins", Json.array [joinJson teams]), ("limit", .nat (2 ^ 64 - 1))].Sublist
      query.members :=
    .cons _ (.cons _ (.cons_cons _ (.cons _ (.cons _ (.cons _ (.cons_cons _ .slnil))))))
  have among : given.Subperm query.members := ⟨_, .swap _ _ _, sublist⟩
  have read := stored_query_read small
  exact ⟨small, among, read.1, read.2.2 given among⟩

end VisualQuery

end SchemaDesign
