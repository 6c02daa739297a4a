import DocStore.Query.Compile

/-! # Queries

A query collects filters, an order, a projection and a limit. One-shot requests and listeners
share it; listeners have no use for the limit.
-/

namespace DocStore

inductive SortDirection where
  | ascending
  | descending
  deriving DecidableEq, Repr

namespace SortDirection

def text : SortDirection → String
  | .ascending => "asc"
  | .descending => "desc"

def wire : SortDirection → Json
  | .ascending => .number (.ofFlag true)
  | .descending => .number .minusOne

end SortDirection

/-- The fields that a result keeps, or those that it leaves out. -/
inductive Projection where
  | only (fields : List String)
  | without (fields : List String)
  deriving DecidableEq, Repr

def Projection.wire : Projection → Json
  | .only fields => .object (Members.ofPairs (fields.map fun field => (field, .flag true)))
  | .without fields => .object (Members.ofPairs (fields.map fun field => (field, .flag false)))

/-- A compiled query; absent parts are left out on the wire. -/
structure QueryParts where
  query : Option Json
  projection : Option Json
  sort : Option Json
  limit : Option UInt64
  deriving DecidableEq, Repr

/-- The parts that are present, as one object. -/
def QueryParts.wire (parts : QueryParts) : Json :=
  .object <|
    (parts.query.map fun value => ("query", value)).toList ++
    (parts.projection.map fun value => ("projection", value)).toList ++
    (parts.sort.map fun value => ("sort", value)).toList ++
    (parts.limit.map fun n => ("limit", .number (.ofUInt64 n))).toList

/-- A query under construction. -/
structure Query where
  filters : List Expression
  sorts : List (String × SortDirection)
  projection : Option Projection
  limit : Option UInt64
  deriving Repr, Inhabited

namespace Query

def everything : Query := ⟨[], [], none, none⟩

/-- Add a filter; all filters must hold. -/
def find (query : Query) (filter : Expression) : Query :=
  { query with filters := query.filters ++ [filter] }

/-- Order by a field, after the orders given before. -/
def sort (query : Query) (field : String) (direction : SortDirection) : Query :=
  { query with sorts := query.sorts ++ [(field, direction)] }

/-- Choose the fields of the results, replacing an earlier choice. -/
def project (query : Query) (projection : Projection) : Query :=
  { query with projection := some projection }

/-- Limit the number of results, replacing an earlier limit. -/
def limitTo (query : Query) (limit : UInt64) : Query :=
  { query with limit := some limit }

/-- Whether the server has to filter, order or project anything. -/
def isShaping (query : Query) : Bool :=
  !query.filters.isEmpty || !query.sorts.isEmpty || query.projection.isSome

/-- The wire form of an order: a field that is named again keeps its place and takes the last
    direction. -/
def sortWire (sorts : List (String × SortDirection)) : Json :=
  .object (Members.ofPairs (sorts.map fun (field, direction) => (field, direction.wire)))

def parts (query : Query) : Except Error QueryParts := do
  let filter ←
    if query.filters.isEmpty then pure none
    else (compile query.filters).map some
  return {
    query := filter
    projection := query.projection.map Projection.wire
    sort := if query.sorts.isEmpty then none else some (sortWire query.sorts)
    limit := query.limit
  }

end Query

end DocStore
