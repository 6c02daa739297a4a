import DocStore.Schema

/-! # Schemas of geometry objects

Each type of geometry has a schema; a geometry collection refers to the definition of any
geometry. Rings are only required to be lists of positions here, since a schema cannot compare
their ends.
-/

namespace DocStore

namespace Schema

/-- A position: at least two numbers. -/
def position : Schema := .array .number 2

def line : Schema := .array position 2

/-- The rings of a polygon, of any length. -/
def rings : Schema := .array (.array position 0) 1

/-- The name under which every geometry is defined. -/
def geometryName : String := "geometry"

end Schema

namespace GeometryType

/-- The member that holds a geometry's parts. -/
def payloadKey : GeometryType → String
  | .geometryCollection => "geometries"
  | _ => "coordinates"

def payloadSchema : GeometryType → Schema
  | .point => .position
  | .multiPoint => .array .position 1
  | .lineString => .line
  | .multiLineString => .array .line 1
  | .polygon => .rings
  | .multiPolygon => .array .rings 1
  | .geometryCollection => .array (.reference Schema.geometryName) 0

/-- The schema of a geometry object of this type: its discriminator, its parts and an optional
    bounding box, and nothing else. -/
def schema (type : GeometryType) : Schema :=
  .object
    [("type", .string (some (.exactly type.name))), (type.payloadKey, type.payloadSchema),
      ("bbox", .array .number 4)]
    ["type", type.payloadKey] false

end GeometryType

/-- The definition of any geometry. -/
def Schema.geometries : Schema.Definitions :=
  [(Schema.geometryName, .oneOf (GeometryType.all.map GeometryType.schema))]

end DocStore
