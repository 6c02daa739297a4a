import DocStore.Geometry.Type
import DocStore.Json.Value

/-! # Building geometry objects

Geometry objects from coordinates. A coordinate that is infinite or no number at all is written
as null, so that the result is not a valid geometry.
-/

namespace DocStore

/-- A pair of coordinates, each finite or not. -/
abbrev Coordinates := Option Binary64 × Option Binary64

namespace Geometry

def positionValue (c : Coordinates) : Json :=
  .array [.ofDouble? c.1, .ofDouble? c.2]

def lineValue (positions : List Coordinates) : Json :=
  .array (positions.map positionValue)

def ringsValue (rings : List (List Coordinates)) : Json :=
  .array (rings.map lineValue)

/-- A geometry object with its type and its parts. -/
def ofParts (type : GeometryType) (key : String) (parts : Json) : Json :=
  .object [("type", .string type.name), (key, parts)]

def point (position : Coordinates) : Json :=
  ofParts .point "coordinates" (positionValue position)

def lineString (positions : List Coordinates) : Json :=
  ofParts .lineString "coordinates" (lineValue positions)

/-- A polygon of rings, the first being the outer one. -/
def polygon (rings : List (List Coordinates)) : Json :=
  ofParts .polygon "coordinates" (ringsValue rings)

def multiPolygon (polygons : List (List (List Coordinates))) : Json :=
  ofParts .multiPolygon "coordinates" (.array (polygons.map ringsValue))

def geometryCollection (members : List Json) : Json :=
  ofParts .geometryCollection "geometries" (.array members)

end Geometry

end DocStore
