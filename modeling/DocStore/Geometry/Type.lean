/-! # Geometry types

The seven shapes a geometry object can have, and their names.
-/

namespace DocStore

inductive GeometryType where
  | point
  | multiPoint
  | lineString
  | multiLineString
  | polygon
  | multiPolygon
  | geometryCollection
  deriving DecidableEq, Repr

namespace GeometryType

/-- All types, in the order in which they are listed. -/
def all : List GeometryType :=
  [.point, .multiPoint, .lineString, .multiLineString, .polygon, .multiPolygon,
    .geometryCollection]

/-- The name that a geometry object's `type` member holds. -/
def name : GeometryType → String
  | .point => "Point"
  | .multiPoint => "MultiPoint"
  | .lineString => "LineString"
  | .multiLineString => "MultiLineString"
  | .polygon => "Polygon"
  | .multiPolygon => "MultiPolygon"
  | .geometryCollection => "GeometryCollection"

def ofName? (text : String) : Option GeometryType :=
  all.find? fun type => type.name == text

@[simp] theorem ofName?_name (type : GeometryType) : ofName? type.name = some type := by
  cases type <;> decide

theorem mem_all (type : GeometryType) : type ∈ all := by
  cases type <;> decide

end GeometryType

end DocStore
