import DocStore.Query.Builder

/-! # Configuration of a listener

What a listener sends once its connection is open: the parts of its query that the server is to
apply. A limit is none of them.
-/

namespace DocStore

/-- The parts of a query that a listener sends. -/
structure Configuration where
  query : Option Json
  projection : Option Json
  sort : Option Json
  deriving DecidableEq, Repr

namespace Configuration

/-- The configuration of a query; there is none if the query shapes nothing. -/
def ofQuery (query : Query) : Except Error (Option Configuration) :=
  if query.isShaping then do
    let compiled ← query.parts
    return some ⟨compiled.query, compiled.projection, compiled.sort⟩
  else .ok none

/-- The parts that are present, as one object. -/
def wire (configuration : Configuration) : Json :=
  .object <|
    (configuration.query.map fun value => ("query", value)).toList ++
    (configuration.projection.map fun value => ("projection", value)).toList ++
    (configuration.sort.map fun value => ("sort", value)).toList

def text (configuration : Configuration) : String :=
  configuration.wire.text

/-- The frame that a listener of a query sends, if any. -/
def textOfQuery (query : Query) : Except Error (Option String) := do
  return (← ofQuery query).map text

end Configuration

end DocStore
