import DocStore.Json.Location
import DocStore.Proofs.Geometry.Grammar

/-! # The rings of geometry objects

Polygons have their rings at places in a value, through collections of collections. The places have
an order, that of the indices on the way. A geometry object is settled by its rings: whatever they
are beyond open ones, it is a geometry object of them.
-/

namespace DocStore

/-- Of two items the one with the smaller index is earlier. -/
inductive LocationStep.Earlier : LocationStep → LocationStep → Prop
  | item {index later : Nat} (less : index < later) : Earlier (.item index) (.item later)

/-- The order of places in a document: the first step that differs decides. -/
def Precedes : List LocationStep → List LocationStep → Prop :=
  List.Lex LocationStep.Earlier

/-- Places of which one precedes the other, or that are the same. -/
def Comparable (steps others : List LocationStep) : Prop :=
  Precedes steps others ∨ steps = others ∨ Precedes others steps

/-- No object is in a value. -/
def Json.IsFlat (value : Json) : Prop :=
  ∀ steps members, value.follow? steps ≠ some (.object members)

namespace Geometry

/-- A value says that it is of a type. -/
def IsNamed (value : Json) (type : GeometryType) : Prop :=
  value.get? "type" = some (.string type.name)

/-- The rings of the polygons that a value is made of, at the places where they are: in a polygon,
    in one of several polygons, or in a part of a collection. -/
inductive HasRing : Json → List LocationStep → Json → Prop
  | polygon {value ring : Json} {index : Nat}
      (named : IsNamed value .polygon)
      (found : value.follow? [.member "coordinates", .item index] = some ring) :
      HasRing value [.member "coordinates", .item index] ring
  | multiPolygon {value ring : Json} {polygon index : Nat}
      (named : IsNamed value .multiPolygon)
      (found : value.follow? [.member "coordinates", .item polygon, .item index] = some ring) :
      HasRing value [.member "coordinates", .item polygon, .item index] ring
  | collection {value part ring : Json} {index : Nat} {steps : List LocationStep}
      (named : IsNamed value .geometryCollection)
      (found : value.follow? [.member "geometries", .item index] = some part)
      (inside : HasRing part steps ring) :
      HasRing value (.member "geometries" :: .item index :: steps) ring

end Geometry

/-! ## Places -/

theorem Json.follow?_append (value : Json) (steps more : List LocationStep) :
    value.follow? (steps ++ more) = (value.follow? steps).bind fun part => part.follow? more := by
  induction steps generalizing value with
  | nil => rfl
  | cons step rest ih =>
      rw [List.cons_append, Json.follow?, Json.follow?, Option.bind_assoc]
      exact Option.bind_congr fun part _ => ih part

/-- Two steps lead through a list that a member holds. -/
theorem Json.follow?_member_item {members : Members} {key : String} {items : List Json}
    (holds : members.find? key = some (.array items)) (index : Nat) (steps : List LocationStep) :
    (Json.object members).follow? (.member key :: .item index :: steps) =
      items[index]?.bind fun item => item.follow? steps := by
  rw [Json.follow?, Json.step?, ← Members.find?, holds, Option.bind_some, Json.follow?, Json.step?]

theorem LocationStep.earlier_item_iff {index later : Nat} :
    Earlier (.item index) (.item later) ↔ index < later := by
  constructor
  · rintro ⟨less⟩
    exact less
  · exact .item

@[simp] theorem precedes_item_iff {index later : Nat} {steps others : List LocationStep} :
    Precedes (.item index :: steps) (.item later :: others) ↔
      index < later ∨ index = later ∧ Precedes steps others := by
  rw [Precedes, List.cons_lex_cons_iff, LocationStep.earlier_item_iff, LocationStep.item.injEq]

@[simp] theorem precedes_member_iff {name : String} {steps others : List LocationStep} :
    Precedes (.member name :: steps) (.member name :: others) ↔ Precedes steps others := by
  rw [Precedes, List.cons_lex_cons_iff, or_iff_right (by rintro ⟨⟩), and_iff_right rfl]

namespace Comparable

variable {steps others : List LocationStep}

theorem same (steps : List LocationStep) : Comparable steps steps :=
  .inr (.inl rfl)

theorem member {name : String} (comparable : Comparable steps others) :
    Comparable (.member name :: steps) (.member name :: others) := by
  rcases comparable with before | rfl | after
  · exact .inl (precedes_member_iff.mpr before)
  · exact same _
  · exact .inr (.inr (precedes_member_iff.mpr after))

theorem item {index later : Nat} (comparable : index = later → Comparable steps others) :
    Comparable (.item index :: steps) (.item later :: others) := by
  rcases Nat.lt_trichotomy index later with less | rfl | more
  · exact .inl (precedes_item_iff.mpr (.inl less))
  · rcases comparable rfl with before | rfl | after
    · exact .inl (precedes_item_iff.mpr (.inr ⟨rfl, before⟩))
    · exact same _
    · exact .inr (.inr (precedes_item_iff.mpr (.inr ⟨rfl, after⟩)))
  · exact .inr (.inr (precedes_item_iff.mpr (.inl more)))

end Comparable

namespace Geometry

variable {isRing isOtherRing : Json → Prop} {type : GeometryType} {value ring : Json}
variable {steps : List LocationStep} {members : Members} {items : List Json}

/-! ## The rings of a geometry -/

theorem follow?_item (value : Json) (index : Nat) :
    value.follow? [.item index] = (itemsOf value)[index]? := by
  cases value with
  | array items => simp [Json.follow?, Json.step?, itemsOf, Json.asArray?]
  | null | bool | number | string | object => rfl

theorem IsNamed.unique {other : GeometryType} (named : IsNamed value type)
    (otherwise : IsNamed value other) : type = other := by
  have same := named.symm.trans otherwise
  rw [Option.some.injEq, Json.string.injEq] at same
  exact GeometryType.name_injective same

theorem IsNamed.exists_object (named : IsNamed value type) :
    ∃ members, value = .object members := by
  cases value with
  | object members => exact ⟨members, rfl⟩
  | null | bool | number | string | array => cases named

theorem hasRing_polygon_iff (named : IsNamed (.object members) .polygon)
    (holds : members.find? "coordinates" = some (.array items)) :
    HasRing (.object members) steps ring ↔
      ∃ index, steps = [.member "coordinates", .item index] ∧ items[index]? = some ring := by
  constructor
  · intro ringed
    cases ringed with
    | polygon _ found =>
        rw [Json.follow?_member_item holds] at found
        exact ⟨_, rfl, by simpa [Json.follow?] using found⟩
    | multiPolygon other | collection other => cases named.unique other
  · rintro ⟨index, rfl, listed⟩
    refine .polygon named ?_
    rw [Json.follow?_member_item holds, listed]
    rfl

theorem hasRing_multiPolygon_iff (named : IsNamed (.object members) .multiPolygon)
    (holds : members.find? "coordinates" = some (.array items)) :
    HasRing (.object members) steps ring ↔ ∃ polygon part index,
      steps = [.member "coordinates", .item polygon, .item index] ∧
        items[polygon]? = some part ∧ (itemsOf part)[index]? = some ring := by
  constructor
  · intro ringed
    cases ringed with
    | @multiPolygon _ _ polygon index _ found =>
        rw [Json.follow?_member_item holds] at found
        obtain ⟨part, listed, inPart⟩ := Option.bind_eq_some_iff.mp found
        exact ⟨polygon, part, index, rfl, listed, follow?_item part index ▸ inPart⟩
    | polygon other | collection other => cases named.unique other
  · rintro ⟨polygon, part, index, rfl, listed, inPart⟩
    refine .multiPolygon named ?_
    rw [Json.follow?_member_item holds, listed, Option.bind_some, follow?_item, inPart]

theorem hasRing_collection_iff (named : IsNamed (.object members) .geometryCollection)
    (holds : members.find? "geometries" = some (.array items)) :
    HasRing (.object members) steps ring ↔ ∃ index part inner,
      steps = .member "geometries" :: .item index :: inner ∧
        items[index]? = some part ∧ HasRing part inner ring := by
  constructor
  · intro ringed
    cases ringed with
    | @collection _ part _ index inner _ found inside =>
        rw [Json.follow?_member_item holds] at found
        exact ⟨index, part, inner, rfl, by simpa [Json.follow?] using found, inside⟩
    | polygon other | multiPolygon other => cases named.unique other
  · rintro ⟨index, part, inner, rfl, listed, inside⟩
    refine .collection named ?_ inside
    rw [Json.follow?_member_item holds, listed]
    rfl

theorem HasRing.follow? (ringed : HasRing value steps ring) : value.follow? steps = some ring := by
  induction ringed with
  | polygon _ found | multiPolygon _ found => exact found
  | @collection value part ring index steps _ found _ ih =>
      have split := value.follow?_append [.member "geometries", .item index] steps
      rw [found, Option.bind_some, ih] at split
      exact split

theorem HasRing.exists_object (ringed : HasRing value steps ring) :
    ∃ members, value = .object members := by
  cases ringed with
  | polygon named | multiPolygon named | collection named => exact named.exists_object

/-- The places of the rings of a value are in a row. -/
theorem HasRing.comparable {others : List LocationStep} {other : Json}
    (ringed : HasRing value steps ring) (otherwise : HasRing value others other) :
    Comparable steps others := by
  induction ringed generalizing others with
  | polygon named _ =>
      cases otherwise with
      | polygon => exact .member (.item fun _ => .same [])
      | multiPolygon different | collection different => cases named.unique different
  | multiPolygon named _ =>
      cases otherwise with
      | multiPolygon => exact .member (.item fun _ => .item fun _ => .same [])
      | polygon different | collection different => cases named.unique different
  | collection named found inside ih =>
      cases otherwise with
      | collection _ otherFound otherInside =>
          refine .member (.item fun sameIndex => ?_)
          subst sameIndex
          cases found.symm.trans otherFound
          exact ih otherInside
      | polygon different | multiPolygon different => cases named.unique different

/-- The rings of a geometry object are what its grammar takes for rings. -/
theorem IsGeometry.isRing_of_hasRing (isGeometry : IsGeometry isRing type value)
    (ringed : HasRing value steps ring) : isRing ring := by
  induction isGeometry generalizing steps with
  | @shape type members parts framed shaped =>
      have named : IsNamed (.object members) type := framed.named
      cases type with
      | polygon =>
          obtain ⟨rings, rfl, -, each⟩ := shaped
          obtain ⟨index, -, listed⟩ := (hasRing_polygon_iff named framed.holds).mp ringed
          exact each ring (List.mem_of_getElem? listed)
      | multiPolygon =>
          obtain ⟨polygons, rfl, -, each⟩ := shaped
          obtain ⟨_, part, _, -, listed, inPart⟩ :=
            (hasRing_multiPolygon_iff named framed.holds).mp ringed
          obtain ⟨rings, rfl, -, eachOf⟩ := each part (List.mem_of_getElem? listed)
          exact eachOf ring (List.mem_of_getElem? inPart)
      | geometryCollection => exact shaped.elim
      | point | multiPoint | lineString | multiLineString =>
          cases ringed with
          | polygon other | multiPolygon other | collection other => cases named.unique other
  | @collection members parts framed each ih =>
      obtain ⟨_, part, _, -, listed, inside⟩ :=
        (hasRing_collection_iff framed.named framed.holds).mp ringed
      obtain ⟨typed, mem, rfl⟩ := List.mem_map.mp (List.mem_of_getElem? listed)
      exact ih typed mem inside

/-- A geometry object with whatever rings is one of the rings that it has. -/
theorem IsGeometry.of_rings (isGeometry : IsGeometry isOtherRing type value)
    (each : ∀ steps ring, HasRing value steps ring → isRing ring) :
    IsGeometry isRing type value := by
  induction isGeometry with
  | @shape type members parts framed shaped =>
      have named : IsNamed (.object members) type := framed.named
      refine .shape framed ?_
      cases type with
      | polygon =>
          obtain ⟨rings, rfl, enough, -⟩ := shaped
          refine ⟨rings, rfl, enough, fun ring mem => ?_⟩
          obtain ⟨index, listed⟩ := List.getElem?_of_mem mem
          exact each _ ring ((hasRing_polygon_iff named framed.holds).mpr ⟨index, rfl, listed⟩)
      | multiPolygon =>
          obtain ⟨polygons, rfl, enough, filled⟩ := shaped
          refine ⟨polygons, rfl, enough, fun polygon mem => ?_⟩
          obtain ⟨rings, rfl, some, -⟩ := filled polygon mem
          refine ⟨rings, rfl, some, fun ring memRing => ?_⟩
          obtain ⟨index, listed⟩ := List.getElem?_of_mem mem
          obtain ⟨inner, listedRing⟩ := List.getElem?_of_mem memRing
          exact each _ ring ((hasRing_multiPolygon_iff named framed.holds).mpr
            ⟨index, _, inner, rfl, listed, listedRing⟩)
      | geometryCollection => exact shaped.elim
      | point | multiPoint | lineString | multiLineString => exact shaped
  | @collection members parts framed _ ih =>
      refine .collection framed fun part mem => ih part mem fun steps ring inside => ?_
      obtain ⟨index, listed⟩ := List.getElem?_of_mem (List.mem_map_of_mem mem)
      exact each _ ring ((hasRing_collection_iff framed.named framed.holds).mpr
        ⟨index, part.2, steps, rfl, listed, inside⟩)

theorem IsGeometry.mono (weaker : ∀ ring, isRing ring → isOtherRing ring)
    (isGeometry : IsGeometry isRing type value) : IsGeometry isOtherRing type value :=
  isGeometry.of_rings fun _ ring ringed => weaker ring (isGeometry.isRing_of_hasRing ringed)

/-! ## The rings in what is no ring -/

theorem isFlat_of_no_step (single : ∀ step, value.step? step = none)
    (noObject : ∀ members, value ≠ .object members) : value.IsFlat := by
  intro steps members found
  cases steps with
  | nil => exact noObject members (Option.some.inj found)
  | cons step rest =>
      rw [Json.follow?, single] at found
      cases found

theorem isFlat_string (text : String) : (Json.string text).IsFlat :=
  isFlat_of_no_step (fun _ => rfl) nofun

/-- There are only numbers at the ends of lists of numbers. -/
theorem isFlat_of_isNumbers (numbers : value.IsNumbers) : value.IsFlat := by
  induction numbers with
  | number n => exact isFlat_of_no_step (fun _ => rfl) nofun
  | array _ ih =>
      intro steps members found
      cases steps with
      | nil => cases found
      | cons step rest =>
          obtain ⟨item, taken, inside⟩ := Option.bind_eq_some_iff.mp found
          cases step with
          | member name => cases taken
          | item index => exact ih item (List.mem_of_getElem? taken) rest members inside

/-- Apart from its parts nothing in a geometry object holds an object. -/
theorem HasParts.eq_key_of_object {key name : String} {parts member : Json}
    {way : List LocationStep} {inner : Members} (framed : HasParts type key members parts)
    (found : members.find? name = some member)
    (inside : member.follow? way = some (.object inner)) : name = key := by
  obtain ⟨-, rfl⟩ | ⟨same, -⟩ | ⟨-, numbers⟩ := framed.member_cases found
  · exact absurd inside (isFlat_string type.name way inner)
  · exact same
  · exact absurd inside (isFlat_of_isNumbers numbers way inner)

/-- Every object in a geometry object is one itself. -/
theorem IsGeometry.isGeometry_of_follow? (numbers : ∀ ring, isRing ring → ring.IsNumbers)
    (isGeometry : IsGeometry isRing type value) {way : List LocationStep}
    (found : value.follow? way = some (.object members)) :
    ∃ other, IsGeometry isRing other (.object members) := by
  induction isGeometry generalizing way with
  | shape framed shaped =>
      cases way with
      | nil =>
          cases found
          exact ⟨_, .shape framed shaped⟩
      | cons step rest =>
          obtain ⟨member, taken, inside⟩ := Option.bind_eq_some_iff.mp found
          cases step with
          | item index => cases taken
          | member name =>
              obtain rfl := framed.eq_key_of_object taken inside
              cases framed.holds.symm.trans taken
              exact absurd inside (isFlat_of_isNumbers (shaped.isNumbers numbers) rest members)
  | @collection _ parts framed each ih =>
      cases way with
      | nil =>
          cases found
          exact ⟨_, .collection framed each⟩
      | cons step rest =>
          obtain ⟨member, taken, inside⟩ := Option.bind_eq_some_iff.mp found
          cases step with
          | item index => cases taken
          | member name =>
              obtain rfl := framed.eq_key_of_object taken inside
              cases framed.holds.symm.trans taken
              cases rest with
              | nil => cases inside
              | cons next rest =>
                  obtain ⟨part, listed, deeper⟩ := Option.bind_eq_some_iff.mp inside
                  cases next with
                  | member _ => cases listed
                  | item index =>
                      obtain ⟨typed, mem, rfl⟩ := List.mem_map.mp (List.mem_of_getElem? listed)
                      exact ih typed mem deeper

end Geometry

end DocStore
