import DocStore.Operand

/-! # Query expressions

The predicates of a query as a tree. A node tests a field of the document, or, inside an element
match, the element itself; logical nodes combine other nodes.
-/

namespace DocStore

inductive Comparison where
  | eq
  | ne
  | gt
  | gte
  | lt
  | lte
  deriving DecidableEq, Repr

def Comparison.all : List Comparison := [.eq, .ne, .gt, .gte, .lt, .lte]

def Comparison.token : Comparison → String
  | .eq => "$eq"
  | .ne => "$ne"
  | .gt => "$gt"
  | .gte => "$gte"
  | .lt => "$lt"
  | .lte => "$lte"

inductive Membership where
  | isIn
  | notIn
  deriving DecidableEq, Repr

def Membership.all : List Membership := [.isIn, .notIn]

def Membership.token : Membership → String
  | .isIn => "$in"
  | .notIn => "$nin"

inductive SpatialRelation where
  | intersects
  | within
  | near
  deriving DecidableEq, Repr

def SpatialRelation.all : List SpatialRelation := [.intersects, .within, .near]

/-- The wire name of a geometric relation. Proximity has one without the mark of operators. -/
def SpatialRelation.token : SpatialRelation → String
  | .intersects => "$geoIntersects"
  | .within => "$geoWithin"
  | .near => "nearSphere"

/-- The types of geometry that a relation is defined for. -/
def SpatialRelation.accepts : SpatialRelation → GeometryType → Bool
  | .intersects, _ => true
  | .within, type => type == .polygon || type == .multiPolygon
  | .near, type => type == .point

inductive Connective where
  | and
  | or
  | nor
  deriving DecidableEq, Repr

def Connective.all : List Connective := [.and, .or, .nor]

def Connective.token : Connective → String
  | .and => "$and"
  | .or => "$or"
  | .nor => "$nor"

/-- A predicate of a query. A node without a field tests the element of an enclosing element
    match. -/
inductive Expression where
  | compare (op : Comparison) (field : Option String) (value : Operand)
  | membership (op : Membership) (field : Option String) (values : Operand)
  | presence (field : Option String) (present : Bool)
  | typeIs (field : Option String) (name : String)
  | modulo (field : Option String) (divisor remainder : Operand)
  | pattern (field : Option String) (pattern : String) (options : Option String)
  | geo (op : SpatialRelation) (field : Option String) (geometry : Operand)
      (minDistance maxDistance : Option Operand)
  | containsAll (field : Option String) (values : Operand)
  /-- Some element of an array satisfies all the subqueries. -/
  | elementMatches (field : Option String) (subqueries : List Expression)
  | sizeIs (field : Option String) (size : Operand)
  | logical (op : Connective) (children : List Expression)
  deriving Repr, Inhabited

/-- A proximity test with bounds in metres; a bound that is no finite number becomes null. -/
def Expression.nearWithin (field : Option String) (point : Operand)
    (minDistance maxDistance : Option (Option Binary64)) : Expression :=
  .geo .near field point (minDistance.map Operand.ofDouble?) (maxDistance.map Operand.ofDouble?)

end DocStore
