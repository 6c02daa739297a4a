import DocStore.Geometry.Builder
import DocStore.Proofs.Geometry.Closure
import DocStore.Proofs.Outcome

/-! # The ring that a validation reports

A validation that complains about a ring points at it. It is the first one that is not closed, in
the order of the places at which a value has rings.
-/

namespace DocStore.Geometry

variable {type : GeometryType} {value ring : Json} {location : Location}
variable {steps : List LocationStep}

theorem validate_eq_unclosedRing_iff {fault : RingFault} :
    validate value = .error (.unclosedRing location fault) ↔
      ∃ type, IsGeometry IsOpenRing type value ∧
        requireClosedRings type value (.whole "$") = .error (.unclosedRing location fault) := by
  constructor
  · intro told
    obtain ⟨_, valid, _⟩ | ⟨type, _, _, _, opened, _⟩ | ⟨_, _, invalid, _⟩ := validate_cases value
    · cases valid.symm.trans told
    · rw [validate_of_isGeometry opened, map_eq_error_iff] at told
      exact ⟨type, opened, told⟩
    · cases invalid.symm.trans told
  · rintro ⟨type, opened, broken⟩
    rw [validate_of_isGeometry opened, map_eq_error_iff]
    exact broken

/-- Neither of two first faults comes before the other, so that they are the same. -/
theorem IsFirstFault.unique {other : Json} {others : List LocationStep} {fault later : RingFault}
    (opened : IsOpenRing ring) (first : IsFirstFault (HasRing value) steps ring fault)
    (second : IsFirstFault (HasRing value) others other later) :
    steps = others ∧ fault = later := by
  rcases first.isRing.comparable second.isRing with before | rfl | after
  · exact absurd (second.earlier _ _ first.isRing before) first.fails.not_isClosedRing
  · have same := first.isRing.follow?.symm.trans second.isRing.follow?
    cases same
    obtain ⟨positions, rfl, -, each⟩ := opened
    have found := (ringFails_iff each).mp first.fails
    rw [(ringFails_iff each).mp second.fails] at found
    cases found
    exact ⟨rfl, rfl⟩
  · exact absurd (first.earlier _ _ second.isRing after) second.fails.not_isClosedRing

/-- A validation complains about a ring exactly where the closing of rings is all that is missing,
    and then about the first one that is not closed, by the steps to it. No value is accepted in
    which there is such a ring anywhere. -/
theorem validate_points_at_ring (value : Json) :
    (∀ location fault, validate value = .error (.unclosedRing location fault) ↔
      (∃ type, IsGeometry IsOpenRing type value) ∧
        ∃ steps ring, location = (Location.whole "$").extend steps ∧
          IsFirstFault (HasRing value) steps ring fault) ∧
    (∀ steps ring, HasRing value steps ring → value.follow? steps = some ring ∧
      ((Location.whole "$").extend steps).text =
        "$" ++ String.join (steps.map LocationStep.text)) ∧
    ∀ way part steps ring, value.follow? way = some part → HasRing part steps ring →
      ¬IsClosedRing ring → ∀ type, validate value ≠ .ok type := by
  refine ⟨fun location fault => ?_, fun steps ring ringed => ?_,
    fun way part steps ring found ringed notClosed type accepted => ?_⟩
  · rw [validate_eq_unclosedRing_iff]
    constructor
    · rintro ⟨type, opened, broken⟩
      have reports := requireClosedRings_reports opened (.whole "$")
      rw [broken] at reports
      obtain ⟨steps, ring, _, first, same⟩ := reports
      cases same
      exact ⟨⟨type, opened⟩, steps, ring, rfl, first⟩
    · rintro ⟨⟨type, opened⟩, steps, ring, rfl, first⟩
      refine ⟨type, opened, ?_⟩
      have reports := requireClosedRings_reports opened (.whole "$")
      cases checked : requireClosedRings type value (.whole "$") with
      | ok done =>
          rw [checked] at reports
          exact absurd (reports steps ring first.isRing) first.fails.not_isClosedRing
      | error error =>
          rw [checked] at reports
          obtain ⟨others, other, later, second, rfl⟩ := reports
          have isOpen : IsOpenRing ring := opened.isRing_of_hasRing first.isRing
          obtain ⟨rfl, rfl⟩ := first.unique isOpen second
          rfl
  · exact ⟨ringed.follow?, Location.text_extend _ steps⟩
  · have isGeometry := validate_eq_ok_iff.mp accepted
    obtain ⟨members, rfl⟩ := ringed.exists_object
    obtain ⟨_, isPart⟩ :=
      isGeometry.isGeometry_of_follow? (fun _ => IsClosedRing.isNumbers) found
    exact notClosed (isPart.isRing_of_hasRing ringed)

/-- An inner ring of the second of two polygons, and these in a collection in a collection. -/
theorem validate_points_at_ring_inner :
    let position (x : UInt64) : Json := .array [.number (.ofUInt64 x), .number (.ofUInt64 0)]
    let closed : Json := .array [position 0, position 1, position 2, position 0]
    let opened : Json := .array [position 0, position 1, position 2, position 3]
    let polygons : Json :=
      ofParts .multiPolygon "coordinates" (.array [.array [closed], .array [closed, opened]])
    IsFirstFault (HasRing polygons) [.member "coordinates", .item 1, .item 1] opened .endsDiffer ∧
      ∀ type, validate (geometryCollection [geometryCollection [polygons]]) ≠ .ok type := by
  intro position closed opened polygons
  let steps : List LocationStep := [.member "coordinates", .item 1, .item 1]
  have isPosition (x : UInt64) : IsPosition (position x) :=
    ⟨_, rfl, Nat.le_refl 2, by simp [Json.IsNumber]⟩
  have isRing (last : UInt64) :
      IsOpenRing (.array [position 0, position 1, position 2, position last]) :=
    ⟨_, rfl, Nat.zero_le _, by simp [isPosition]⟩
  have isPolygons : IsGeometry IsOpenRing .multiPolygon polygons := by
    refine .shape (hasParts_pair _ _ (by decide)) ⟨_, rfl, by decide, ?_⟩
    simp [Json.IsListOf, isRing, closed, opened]
  have broken : requireClosedRings .multiPolygon polygons (.whole "$") =
      .error (.unclosedRing ((Location.whole "$").extend steps) .endsDiffer) := by
    rw [requireClosedRings]
    decide +kernel
  have told := validate_eq_unclosedRing_iff.mpr ⟨_, isPolygons, broken⟩
  obtain ⟨points, -, -⟩ := validate_points_at_ring polygons
  obtain ⟨-, others, ring, same, first⟩ := (points _ _).mp told
  have sameSteps : steps = others := by simpa [Location.extend, Location.whole] using same
  subst sameSteps
  have found : polygons.follow? steps = some opened := rfl
  cases first.isRing.follow?.symm.trans found
  obtain ⟨-, -, refuses⟩ :=
    validate_points_at_ring (geometryCollection [geometryCollection [polygons]])
  exact ⟨first, refuses [.member "geometries", .item 0, .member "geometries", .item 0] polygons
    steps _ rfl first.isRing first.fails.not_isClosedRing⟩

end DocStore.Geometry
