import DocStore.Geometry.Catalog

/-! # Validation of geometry objects

A geometry is checked against the schema of its type first, and then every ring inside it is
checked for closure.
-/

namespace DocStore.Geometry

def typeOf (value : Json) (location : Location) : Except Error GeometryType :=
  let place := location.member "type"
  match (value.get? "type").bind Json.asString? with
  | none => .error (.schemaMismatch place .missingGeometryType)
  | some name =>
      match GeometryType.ofName? name with
      | none => .error (.schemaMismatch place (.unknownGeometryType name))
      | some type => .ok type

/-- The items of an array; any other value counts as having none. -/
def itemsOf (value : Json) : List Json :=
  value.asArray?.getD []

/-- The items of the array that a member holds; nothing there counts as no items. -/
def itemsAt (value : Json) (key : String) : List Json :=
  ((value.get? key).map itemsOf).getD []

def positionCoordinates (position : Json) : List Binary64 :=
  (itemsOf position).filterMap fun item => item.asNumber?.bind JsonNumber.toDouble?

def sameCoordinates : List Binary64 → List Binary64 → Bool
  | [], [] => true
  | x :: xs, y :: ys => x.sameNumber y && sameCoordinates xs ys
  | _, _ => false

/-- What keeps a list of positions from being a closed ring. -/
def ringFault? (positions : List Json) : Option RingFault :=
  if positions.length < 4 then some (.tooFewPositions positions.length)
  else
    let first := positionCoordinates (positions.head?.getD .null)
    let last := positionCoordinates (positions.getLast?.getD .null)
    if sameCoordinates first last then none else some .endsDiffer

def requireClosed (ring : Json) (location : Location) : Except Error Unit :=
  match ringFault? (itemsOf ring) with
  | some fault => .error (.unclosedRing location fault)
  | none => .ok ()

/-- Run a check on items in order, the first having the given index. -/
def checkEach (check : Json → Location → Except Error Unit) :
    List Json → (index : Nat) → Location → Except Error Unit
  | [], _, _ => .ok ()
  | item :: rest, index, location =>
      match check item (location.item index) with
      | .ok () => checkEach check rest (index + 1) location
      | .error e => .error e

def requireClosedPolygon (polygon : Json) (location : Location) : Except Error Unit :=
  checkEach requireClosed (itemsOf polygon) 0 location

mutual

/-- Check every ring of a geometry of the given type, in document order. -/
def requireClosedRings (type : GeometryType) (value : Json) (location : Location) :
    Except Error Unit :=
  match type with
  | .polygon =>
      checkEach requireClosed (itemsAt value "coordinates") 0 (location.member "coordinates")
  | .multiPolygon =>
      checkEach requireClosedPolygon (itemsAt value "coordinates") 0 (location.member "coordinates")
  | .geometryCollection =>
      match _h : value.get? "geometries" with
      | some (.array members) => requireClosedMembers members 0 (location.member "geometries")
      | _ => .ok ()
  | _ => .ok ()
termination_by sizeOf value
decreasing_by
  cases value with
  | object fields =>
      have := Schema.sizeOf_lt_of_lookup _h
      simp at this ⊢
      omega
  | _ => simp [Json.get?] at _h

def requireClosedMembers (members : List Json) (index : Nat) (location : Location) :
    Except Error Unit :=
  match members with
  | [] => .ok ()
  | member :: rest =>
      let place := location.item index
      match typeOf member place with
      | .error e => .error e
      | .ok type =>
          match requireClosedRings type member place with
          | .error e => .error e
          | .ok () => requireClosedMembers rest (index + 1) location
termination_by sizeOf members

end

/-- Validate a geometry object and tell its type. -/
def validate (value : Json) : Except Error GeometryType :=
  let whole := Location.whole "$"
  match typeOf value whole with
  | .error e => .error e
  | .ok type =>
      match Schema.validate Schema.geometries type.schema value whole with
      | .error e => .error e
      | .ok () =>
          match requireClosedRings type value whole with
          | .error e => .error e
          | .ok () => .ok type

end DocStore.Geometry
