import DocStore.Geometry.Validation
import DocStore.Proofs.Number.Exact
import DocStore.Proofs.Schema.Conformance

/-! # The grammar of geometry objects

What a geometry object is made of, said without schemas and checks. The grammar leaves open what
a ring is: with open rings it is what the schemas of the catalogue describe, and with closed
ones it is what validation accepts.
-/

namespace DocStore

/-- A number, or a list of such things, to any depth. -/
inductive Json.IsNumbers : Json → Prop
  | number (number : JsonNumber) : IsNumbers (.number number)
  | array {items : List Json} (all : ∀ item ∈ items, IsNumbers item) : IsNumbers (.array items)

namespace Geometry

/-- At least two numbers. -/
def IsPosition : Json → Prop :=
  Json.IsListOf 2 Json.IsNumber

/-- At least two positions. -/
def IsLine : Json → Prop :=
  Json.IsListOf 2 IsPosition

/-- Any number of positions. -/
def IsOpenRing : Json → Prop :=
  Json.IsListOf 0 IsPosition

/-- Numbers whose nearest doubles are the same number. -/
def SameNumber (left right : Json) : Prop :=
  ∃ m n x y, left = .number m ∧ right = .number n ∧ m.toDouble? = some x ∧ n.toDouble? = some y ∧
    x.signedUnits = y.signedUnits

/-- Positions of the same length with the same coordinates. -/
def SamePosition (left right : Json) : Prop :=
  ∃ xs ys, left = .array xs ∧ right = .array ys ∧ List.Forall₂ SameNumber xs ys

/-- At least four positions, of which the last is the first one again. -/
def IsClosedRing (value : Json) : Prop :=
  Json.IsListOf 4 IsPosition value ∧
    ∃ first middle last, value = .array (first :: middle ++ [last]) ∧ SamePosition first last

/-- The coordinates of each type. A collection has none. -/
def HasShape (isRing : Json → Prop) : GeometryType → Json → Prop
  | .point => IsPosition
  | .multiPoint => Json.IsListOf 1 IsPosition
  | .lineString => IsLine
  | .multiLineString => Json.IsListOf 1 IsLine
  | .polygon => Json.IsListOf 1 isRing
  | .multiPolygon => Json.IsListOf 1 (Json.IsListOf 1 isRing)
  | .geometryCollection => fun _ => False

/-- The members of a geometry object: the name of its type, its parts under their key, perhaps a
    bounding box of at least four numbers, and nothing else. -/
structure HasParts (type : GeometryType) (key : String) (members : Members) (parts : Json) :
    Prop where
  named : members.find? "type" = some (.string type.name)
  holds : members.find? key = some parts
  boxed : ∀ box, members.find? "bbox" = some box → Json.IsListOf 4 Json.IsNumber box
  nothingElse : ∀ other ∈ members.keys, other = "type" ∨ other = key ∨ other = "bbox"

theorem hasParts_pair (type : GeometryType) {key : String} (parts : Json)
    (other : "type" ≠ key ∧ "bbox" ≠ key) :
    HasParts type key [("type", .string type.name), (key, parts)] parts where
  named := rfl
  holds := by rw [Members.find?_cons_of_ne other.1, Members.find?_cons_self]
  boxed box found := by
    rw [Members.find?_cons_of_ne (by decide), Members.find?_cons_of_ne other.2.symm] at found
    cases found
  nothingElse name inside := by
    simp only [Members.keys, List.map_cons, List.map_nil, List.mem_cons, List.not_mem_nil,
      or_false] at inside
    exact inside.imp_right .inl

/-- A geometry object of a type. The parts of a collection are geometry objects themselves, each
    listed with its own type. -/
inductive IsGeometry (isRing : Json → Prop) : GeometryType → Json → Prop
  | shape {type : GeometryType} {members : Members} {parts : Json}
      (framed : HasParts type "coordinates" members parts) (shaped : HasShape isRing type parts) :
      IsGeometry isRing type (.object members)
  | collection {members : Members} {parts : List (GeometryType × Json)}
      (framed : HasParts .geometryCollection "geometries" members (.array (parts.map Prod.snd)))
      (each : ∀ part ∈ parts, IsGeometry isRing part.1 part.2) :
      IsGeometry isRing .geometryCollection (.object members)

variable {isRing : Json → Prop} {type : GeometryType} {value : Json}

theorem exists_typed_iff {good : GeometryType → Json → Prop} {items : List Json} :
    (∃ parts : List (GeometryType × Json),
        parts.map Prod.snd = items ∧ ∀ part ∈ parts, good part.1 part.2) ↔
      ∀ item ∈ items, ∃ type, good type item := by
  constructor
  · rintro ⟨parts, rfl, each⟩ item member
    obtain ⟨part, listed, rfl⟩ := List.mem_map.mp member
    exact ⟨part.1, each part listed⟩
  · intro all
    induction items with
    | nil => exact ⟨[], rfl, fun _ impossible => absurd impossible List.not_mem_nil⟩
    | cons item rest ih =>
        have ⟨⟨type, isGood⟩, later⟩ := List.forall_mem_cons.mp all
        obtain ⟨parts, rfl, each⟩ := ih later
        exact ⟨(type, item) :: parts, rfl, List.forall_mem_cons.mpr ⟨isGood, each⟩⟩

theorem isGeometry_iff_of_ne (single : type ≠ .geometryCollection) :
    IsGeometry isRing type value ↔ ∃ members parts, value = .object members ∧
      HasParts type "coordinates" members parts ∧ HasShape isRing type parts := by
  constructor
  · intro isGeometry
    cases isGeometry with
    | shape framed shaped => exact ⟨_, _, rfl, framed, shaped⟩
    | collection framed each => exact absurd rfl single
  · rintro ⟨members, parts, rfl, framed, shaped⟩
    exact .shape framed shaped

theorem isGeometry_collection_iff :
    IsGeometry isRing .geometryCollection value ↔ ∃ members items, value = .object members ∧
      HasParts .geometryCollection "geometries" members (.array items) ∧
        ∀ item ∈ items, ∃ type, IsGeometry isRing type item := by
  constructor
  · intro isGeometry
    cases isGeometry with
    | shape framed shaped => exact shaped.elim
    | collection framed each => exact ⟨_, _, rfl, framed, exists_typed_iff.mp ⟨_, rfl, each⟩⟩
  · rintro ⟨members, items, rfl, framed, each⟩
    obtain ⟨parts, rfl, typed⟩ := exists_typed_iff.mpr each
    exact .collection framed typed

/-- A geometry object says its type. -/
theorem IsGeometry.named (isGeometry : IsGeometry isRing type value) :
    value.get? "type" = some (.string type.name) := by
  cases isGeometry with
  | shape framed _ => exact framed.named
  | collection framed _ => exact framed.named

end Geometry

namespace GeometryType

theorem name_injective {first second : GeometryType} (same : first.name = second.name) :
    first = second := by
  have read := ofName?_name first
  rw [same, ofName?_name] at read
  cases read
  rfl

end GeometryType

namespace Geometry

variable {isRing : Json → Prop} {type : GeometryType} {value : Json}

/-- No value is a geometry object of two types, even by different notions of a ring. -/
theorem IsGeometry.type_unique {other : GeometryType} {isOtherRing : Json → Prop}
    (isGeometry : IsGeometry isRing type value) (isOther : IsGeometry isOtherRing other value) :
    type = other := by
  have named := isGeometry.named
  rw [isOther.named, Option.some.injEq, Json.string.injEq] at named
  exact GeometryType.name_injective named.symm

theorem isGuarded_geometries : Schema.IsGuarded Schema.geometries fun _ => 0 := by
  intro name target found
  have only : target = .oneOf (GeometryType.all.map GeometryType.schema) := by
    simp only [Schema.geometries, List.lookup_cons, List.lookup_nil] at found
    split at found <;> cases found
    rfl
  subst only
  refine ⟨Nat.zero_lt_one, fun other impossible => absurd impossible ?_⟩
  simp [GeometryType.all, GeometryType.schema, Schema.openReferences,
    Schema.openReferencesOfEach]

/-- The schema of a type asks for the members of such an object, and for what the schema of the
    parts asks of them. -/
theorem conforms_schema_iff_parts :
    Schema.Conforms Schema.geometries type.schema value ↔ ∃ members parts,
      value = .object members ∧ HasParts type type.payloadKey members parts ∧
        Schema.Conforms Schema.geometries type.payloadSchema parts := by
  constructor
  · intro conforms
    rw [GeometryType.schema] at conforms
    cases conforms with
    | @object _ _ _ members present declared each =>
        simp only [List.forall_mem_cons, Schema.conforms_exactly, Schema.conforms_array,
          Schema.conforms_number] at each present
        obtain ⟨named, shaped, boxed, -⟩ := each
        obtain ⟨hasType, hasParts, -⟩ := present
        obtain ⟨name, found⟩ := Members.mem_keys_iff.mp hasType
        obtain ⟨parts, holds⟩ := Members.mem_keys_iff.mp hasParts
        refine ⟨members, parts, rfl, ⟨?_, holds, boxed, ?_⟩, shaped parts holds⟩
        · rw [found, named name found]
        · simpa using declared rfl
  · rintro ⟨members, parts, rfl, framed, shaped⟩
    rw [GeometryType.schema, Schema.conforms_object]
    simp only [List.forall_mem_cons, Schema.conforms_exactly, Schema.conforms_array,
      Schema.conforms_number]
    refine ⟨⟨?_, ?_, by simp⟩, fun _ => by simpa using framed.nothingElse, ?_, ?_, framed.boxed,
      by simp⟩
    · exact Members.mem_keys_iff.mpr ⟨_, framed.named⟩
    · exact Members.mem_keys_iff.mpr ⟨_, framed.holds⟩
    · intro name found
      rw [framed.named] at found
      cases found
      rfl
    · intro other found
      rw [framed.holds] at found
      cases found
      exact shaped

theorem conforms_payloadSchema (single : type ≠ .geometryCollection) :
    Schema.Conforms Schema.geometries type.payloadSchema = HasShape IsOpenRing type := by
  cases type with
  | geometryCollection => exact absurd rfl single
  | _ =>
      simp only [GeometryType.payloadSchema, Schema.position, Schema.line, Schema.rings,
        Schema.conforms_array, Schema.conforms_number]
      rfl

theorem payloadKey_of_ne (single : type ≠ .geometryCollection) :
    type.payloadKey = "coordinates" := by
  cases type with
  | geometryCollection => exact absurd rfl single
  | _ => rfl

theorem conforms_reference_iff :
    Schema.Conforms Schema.geometries (.reference Schema.geometryName) value ↔
      ∃ type : GeometryType, Schema.Conforms Schema.geometries type.schema value := by
  rw [Schema.conforms_reference (show Schema.geometries.lookup Schema.geometryName =
    some (.oneOf (GeometryType.all.map GeometryType.schema)) from rfl), Schema.conforms_oneOf]
  simp [GeometryType.mem_all]

theorem sizeOf_lt_of_hasParts {members : Members} {key : String} {items : List Json} {item : Json}
    (framed : HasParts type key members (.array items)) (member : item ∈ items) :
    sizeOf item < sizeOf (Json.object members) := by
  have inside := Schema.sizeOf_lt_of_lookup framed.holds
  have listed := List.sizeOf_lt_of_mem member
  simp only [Json.array.sizeOf_spec, Json.object.sizeOf_spec] at inside ⊢
  omega

/-- The schemas of the catalogue describe the geometry objects with open rings. -/
theorem conforms_schema_iff (type : GeometryType) (value : Json) :
    Schema.Conforms Schema.geometries type.schema value ↔ IsGeometry IsOpenRing type value := by
  rw [conforms_schema_iff_parts]
  by_cases single : type = .geometryCollection
  · subst single
    rw [isGeometry_collection_iff]
    constructor
    · rintro ⟨members, parts, rfl, framed, shaped⟩
      rw [GeometryType.payloadSchema, Schema.conforms_array] at shaped
      obtain ⟨items, rfl, -, each⟩ := shaped
      refine ⟨members, items, rfl, framed, fun item member => ?_⟩
      have smaller := sizeOf_lt_of_hasParts framed member
      obtain ⟨type, conforms⟩ := conforms_reference_iff.mp (each item member)
      exact ⟨type, (conforms_schema_iff type item).mp conforms⟩
    · rintro ⟨members, items, rfl, framed, each⟩
      refine ⟨members, .array items, rfl, framed, ?_⟩
      rw [GeometryType.payloadSchema, Schema.conforms_array]
      refine ⟨items, rfl, Nat.zero_le _, fun item member => conforms_reference_iff.mpr ?_⟩
      have smaller := sizeOf_lt_of_hasParts framed member
      obtain ⟨type, isGeometry⟩ := each item member
      exact ⟨type, (conforms_schema_iff type item).mpr isGeometry⟩
  · rw [isGeometry_iff_of_ne single, payloadKey_of_ne single, conforms_payloadSchema single]
termination_by sizeOf value
decreasing_by
  all_goals subst_vars
  all_goals exact smaller

/-! ## What a geometry object holds besides geometry objects -/

theorem isNumbers_number {number : Json} (isNumber : number.IsNumber) : number.IsNumbers := by
  obtain ⟨n, rfl⟩ := isNumber
  exact .number n

theorem isNumbers_listOf {least : Nat} {good : Json → Prop}
    (numbers : ∀ item, good item → item.IsNumbers) (listed : Json.IsListOf least good value) :
    value.IsNumbers := by
  obtain ⟨items, rfl, -, each⟩ := listed
  exact .array fun item mem => numbers item (each item mem)

theorem isNumbers_position {position : Json} (isPosition : IsPosition position) :
    position.IsNumbers :=
  isNumbers_listOf (fun _ => isNumbers_number) isPosition

theorem IsClosedRing.isNumbers {ring : Json} (closed : IsClosedRing ring) : ring.IsNumbers :=
  isNumbers_listOf (fun _ => isNumbers_position) closed.1

theorem HasShape.isNumbers {parts : Json} (numbers : ∀ ring, isRing ring → ring.IsNumbers)
    (shaped : HasShape isRing type parts) : parts.IsNumbers := by
  have line (part : Json) : IsLine part → part.IsNumbers :=
    isNumbers_listOf fun _ => isNumbers_position
  cases type with
  | point => exact isNumbers_position shaped
  | multiPoint => exact isNumbers_listOf (fun _ => isNumbers_position) shaped
  | lineString => exact line parts shaped
  | multiLineString => exact isNumbers_listOf line shaped
  | polygon => exact isNumbers_listOf numbers shaped
  | multiPolygon => exact isNumbers_listOf (fun _ => isNumbers_listOf numbers) shaped
  | geometryCollection => exact shaped.elim

/-- Apart from its parts a geometry object has the name of its type and lists of numbers. -/
theorem HasParts.member_cases {key name : String} {members : Members} {parts member : Json}
    (framed : HasParts type key members parts) (found : members.find? name = some member) :
    (name = "type" ∧ member = .string type.name) ∨ (name = key ∧ member = parts) ∨
      (name = "bbox" ∧ member.IsNumbers) := by
  obtain rfl | rfl | rfl := framed.nothingElse name (Members.mem_keys_iff.mpr ⟨member, found⟩)
  · cases found.symm.trans framed.named
    exact .inl ⟨rfl, rfl⟩
  · cases found.symm.trans framed.holds
    exact .inr (.inl ⟨rfl, rfl⟩)
  · have boxed := framed.boxed member found
    exact .inr (.inr ⟨rfl, isNumbers_listOf (fun _ => isNumbers_number) boxed⟩)

end Geometry

end DocStore
