import DocStore.Proofs.Geometry.Fault
import DocStore.Proofs.Geometry.Ring
import DocStore.Proofs.Schema.Fault

/-! # Valid geometry objects

The check of the rings goes through an object with open rings in the order of their places, and
reports the first that is not closed. With the schemas of the catalogue it follows that validation
accepts exactly the geometry objects with closed rings, and that it complains about a ring only
where everything else is right.
-/

namespace DocStore

namespace Geometry

/-- What is wrong with a ring. -/
inductive RingFails : Json → RingFault → Prop
  | tooFew {positions : List Json} (few : positions.length < 4) :
      RingFails (.array positions) (.tooFewPositions positions.length)
  | endsDiffer {positions : List Json} {first last : Json} (enough : 4 ≤ positions.length)
      (starts : positions.head? = some first) (ends : positions.getLast? = some last)
      (differ : ¬SamePosition first last) : RingFails (.array positions) .endsDiffer

/-- Among rings at their places, the first one that is not closed. -/
structure IsFirstFault (rings : List LocationStep → Json → Prop) (steps : List LocationStep)
    (ring : Json) (fault : RingFault) : Prop where
  isRing : rings steps ring
  fails : RingFails ring fault
  earlier : ∀ before other, rings before other → Precedes before steps → IsClosedRing other

variable {type : GeometryType} {value ring : Json} {location : Location}
variable {steps : List LocationStep} {items : List Json}

/-! ## Closed rings -/

theorem sameNumber_number_iff {m n : JsonNumber} {x y : Binary64} (left : m.toDouble? = some x)
    (right : n.toDouble? = some y) :
    SameNumber (.number m) (.number n) ↔ x.sameNumber y = true := by
  rw [Binary64.sameNumber_iff]
  constructor
  · rintro ⟨_, _, _, _, sameLeft, sameRight, ofLeft, ofRight, same⟩
    cases sameLeft
    cases sameRight
    rw [left] at ofLeft
    rw [right] at ofRight
    cases ofLeft
    cases ofRight
    exact same
  · intro same
    exact ⟨m, n, x, y, rfl, rfl, left, right, same⟩

theorem positionCoordinates_number {number : JsonNumber} {x : Binary64}
    (double : number.toDouble? = some x) (rest : List Json) :
    positionCoordinates (.array (.number number :: rest)) =
      x :: positionCoordinates (.array rest) := by
  simp [positionCoordinates, itemsOf, Json.asArray?, Json.asNumber?, double]

theorem sameCoordinates_iff {xs ys : List Json} (left : ∀ item ∈ xs, item.IsNumber)
    (right : ∀ item ∈ ys, item.IsNumber) :
    sameCoordinates (positionCoordinates (.array xs)) (positionCoordinates (.array ys)) = true ↔
      List.Forall₂ SameNumber xs ys := by
  induction xs generalizing ys with
  | nil =>
      cases ys with
      | nil => exact iff_of_true rfl .nil
      | cons y ys =>
          have ⟨⟨n, isNumber⟩, _⟩ := List.forall_mem_cons.mp right
          obtain ⟨double, rounded⟩ := n.exists_toDouble?
          rw [isNumber, positionCoordinates_number rounded]
          exact iff_of_false Bool.false_ne_true (fun same => by cases same)
  | cons x xs ih =>
      have ⟨⟨m, isNumber⟩, others⟩ := List.forall_mem_cons.mp left
      obtain ⟨double, rounded⟩ := m.exists_toDouble?
      rw [isNumber, positionCoordinates_number rounded]
      cases ys with
      | nil => exact iff_of_false Bool.false_ne_true (fun same => by cases same)
      | cons y ys =>
          have ⟨⟨n, isOtherNumber⟩, later⟩ := List.forall_mem_cons.mp right
          obtain ⟨other, otherRounded⟩ := n.exists_toDouble?
          rw [isOtherNumber, positionCoordinates_number otherRounded, sameCoordinates,
            Bool.and_eq_true, List.forall₂_cons, sameNumber_number_iff rounded otherRounded,
            ih others later]

theorem sameCoordinates_position_iff {left right : Json} (isLeft : IsPosition left)
    (isRight : IsPosition right) :
    sameCoordinates (positionCoordinates left) (positionCoordinates right) = true ↔
      SamePosition left right := by
  obtain ⟨xs, rfl, -, numbers⟩ := isLeft
  obtain ⟨ys, rfl, -, otherNumbers⟩ := isRight
  rw [sameCoordinates_iff numbers otherNumbers]
  constructor
  · intro same
    exact ⟨xs, ys, rfl, rfl, same⟩
  · rintro ⟨_, _, sameLeft, sameRight, same⟩
    cases sameLeft
    cases sameRight
    exact same

theorem exists_ends {positions : List Json} (long : 4 ≤ positions.length) :
    ∃ first middle last, positions = first :: middle ++ [last] := by
  match positions with
  | first :: second :: rest =>
      have split := List.dropLast_concat_getLast (List.cons_ne_nil second rest)
      exact ⟨first, _, _, congrArg (first :: ·) split.symm⟩

/-- Of enough positions the ends decide. -/
theorem ringFault?_of_enough {first last : Json} {middle : List Json}
    (enough : 4 ≤ (first :: middle ++ [last]).length) (isFirst : IsPosition first)
    (isLast : IsPosition last) :
    ringFault? (first :: middle ++ [last]) = none ∧ SamePosition first last ∨
      ringFault? (first :: middle ++ [last]) = some .endsDiffer ∧ ¬SamePosition first last := by
  have ends : (first :: middle ++ [last]).getLast? = some last := List.getLast?_concat
  have compared := sameCoordinates_position_iff isFirst isLast
  rw [ringFault?, if_neg (Nat.not_lt_of_le enough), ends]
  dsimp only [List.cons_append, List.head?_cons, Option.getD_some]
  split
  next same => exact .inl ⟨rfl, compared.mp same⟩
  next differ => exact .inr ⟨rfl, mt compared.mpr differ⟩

theorem ringFault?_eq_none_iff {positions : List Json}
    (each : ∀ position ∈ positions, IsPosition position) :
    ringFault? positions = none ↔ IsClosedRing (.array positions) := by
  by_cases few : positions.length < 4
  · rw [ringFault?, if_pos few]
    refine iff_of_false (Option.some_ne_none _) ?_
    rintro ⟨⟨_, same, enough, -⟩, -⟩
    cases same
    exact Nat.not_le_of_lt few enough
  · have enough : 4 ≤ positions.length := Nat.le_of_not_lt few
    obtain ⟨first, middle, last, rfl⟩ := exists_ends enough
    obtain ⟨none, same⟩ | ⟨some, differ⟩ :=
      ringFault?_of_enough enough (each first (by simp)) (each last (by simp))
    · exact iff_of_true none ⟨⟨_, rfl, enough, each⟩, first, middle, last, rfl, same⟩
    · rw [some]
      refine iff_of_false (Option.some_ne_none _) ?_
      rintro ⟨-, otherFirst, otherMiddle, otherLast, same, agree⟩
      rw [Json.array.injEq, List.cons_append, List.cons_append, List.cons.injEq] at same
      obtain ⟨rfl, rest⟩ := same
      obtain ⟨-, sameEnd⟩ := List.append_inj' rest rfl
      cases sameEnd
      exact differ agree

theorem ringFails_iff {positions : List Json} {fault : RingFault}
    (each : ∀ position ∈ positions, IsPosition position) :
    RingFails (.array positions) fault ↔ ringFault? positions = some fault := by
  by_cases few : positions.length < 4
  · rw [ringFault?, if_pos few, Option.some.injEq]
    constructor
    · intro fails
      cases fails with
      | tooFew => rfl
      | endsDiffer enough => exact absurd few (Nat.not_lt_of_le enough)
    · rintro rfl
      exact .tooFew few
  · have enough : 4 ≤ positions.length := Nat.le_of_not_lt few
    obtain ⟨first, middle, last, rfl⟩ := exists_ends enough
    have starts : (first :: middle ++ [last]).head? = some first := rfl
    have ends : (first :: middle ++ [last]).getLast? = some last := List.getLast?_concat
    have decided := ringFault?_of_enough enough (each first (by simp)) (each last (by simp))
    constructor
    · intro fails
      cases fails with
      | tooFew less => exact absurd less few
      | endsDiffer _ startsAt endsAt differ =>
          cases starts.symm.trans startsAt
          cases ends.symm.trans endsAt
          exact (decided.resolve_left fun closed => differ closed.2).1
    · intro found
      obtain ⟨none, -⟩ | ⟨some, differ⟩ := decided
      · cases none.symm.trans found
      · cases some.symm.trans found
        exact .endsDiffer enough starts ends differ

theorem RingFails.not_isClosedRing {fault : RingFault} (fails : RingFails ring fault) :
    ¬IsClosedRing ring := by
  intro closed
  obtain ⟨positions, rfl, -, each⟩ := closed.1
  have none := (ringFault?_eq_none_iff each).mpr closed
  rw [(ringFails_iff each).mp fails] at none
  cases none

/-! ## The check of the rings -/

theorem typeOf_eq_ok_iff :
    typeOf value location = .ok type ↔ value.get? "type" = some (.string type.name) := by
  unfold typeOf
  dsimp only
  constructor
  · intro found
    split at found
    next => cases found
    next name named =>
      obtain ⟨text, holds, isText⟩ := Option.bind_eq_some_iff.mp named
      cases text <;> cases isText
      split at found
      next => cases found
      next known =>
        cases found
        have sameName := List.find?_some known
        rw [beq_iff_eq] at sameName
        rw [holds, sameName]
  · intro named
    simp [named, Json.asString?]

theorem itemsAt_array {members : Members} {key : String} {items : List Json}
    (framed : HasParts type key members (.array items)) :
    itemsAt (.object members) key = items := by
  rw [itemsAt, show (Json.object members).get? key = some (.array items) from framed.holds]
  rfl

theorem IsClosedRing.isOpenRing {ring : Json} (closed : IsClosedRing ring) : IsOpenRing ring := by
  obtain ⟨⟨positions, rfl, -, each⟩, -⟩ := closed
  exact ⟨positions, rfl, Nat.zero_le _, each⟩

/-- What a check of rings at their places says: that all are closed, or which is the first that is
    not. -/
def Reports (rings : List LocationStep → Json → Prop) (location : Location)
    (check : Except Error Unit) : Prop :=
  match check with
  | .ok () => ∀ steps ring, rings steps ring → IsClosedRing ring
  | .error error => ∃ steps ring fault, IsFirstFault rings steps ring fault ∧
      error = .unclosedRing (location.extend steps) fault

/-- The rings that items have, at the places of the items in a list from some index on. -/
def AmongItems (rings : Json → List LocationStep → Json → Prop) (items : List Json) (start : Nat)
    (steps : List LocationStep) (ring : Json) : Prop :=
  ∃ index item inner, items[index]? = some item ∧ steps = .item (start + index) :: inner ∧
    rings item inner ring

theorem amongItems_cons_iff {rings : Json → List LocationStep → Json → Prop} {item : Json}
    {rest : List Json} {start : Nat} :
    AmongItems rings (item :: rest) start steps ring ↔
      (∃ inner, steps = .item start :: inner ∧ rings item inner ring) ∨
        AmongItems rings rest (start + 1) steps ring := by
  constructor
  · rintro ⟨index, found, inner, listed, rfl, isRing⟩
    cases index with
    | zero =>
        cases listed
        exact .inl ⟨inner, rfl, isRing⟩
    | succ index =>
        refine .inr ⟨index, found, inner, listed, ?_, isRing⟩
        rw [Nat.add_assoc, Nat.add_comm 1]
  · rintro (⟨inner, rfl, isRing⟩ | ⟨index, found, inner, listed, rfl, isRing⟩)
    · exact ⟨0, item, inner, rfl, rfl, isRing⟩
    · refine ⟨index + 1, found, inner, listed, ?_, isRing⟩
      rw [Nat.add_assoc, Nat.add_comm 1]

variable {rings others : List LocationStep → Json → Prop} {check : Except Error Unit}

theorem Reports.congr (reports : Reports rings location check)
    (same : ∀ steps ring, rings steps ring ↔ others steps ring) :
    Reports others location check := by
  have all : rings = others := funext fun steps => funext fun ring => propext (same steps ring)
  exact all ▸ reports

/-- A check of a member is one of the whole, which has its rings a step further. -/
theorem Reports.member {name : String} (reports : Reports rings (location.member name) check) :
    Reports (fun steps ring => ∃ inner, steps = .member name :: inner ∧ rings inner ring)
      location check := by
  cases check with
  | ok done =>
      rintro _ ring ⟨inner, rfl, isRing⟩
      exact reports inner ring isRing
  | error error =>
      obtain ⟨steps, ring, fault, first, rfl⟩ := reports
      refine ⟨.member name :: steps, ring, fault, ⟨⟨steps, rfl, first.isRing⟩, first.fails, ?_⟩, ?_⟩
      · rintro _ other ⟨inner, rfl, isRing⟩ before
        exact first.earlier inner other isRing (precedes_member_iff.mp before)
      · rw [Location.extend_member]

theorem requireClosed_reports (opened : IsOpenRing ring) (location : Location) :
    Reports (fun steps other => steps = [] ∧ other = ring) location
      (requireClosed ring location) := by
  obtain ⟨positions, rfl, -, each⟩ := opened
  unfold requireClosed
  rw [show itemsOf (.array positions) = positions from rfl]
  cases faulty : ringFault? positions with
  | none =>
      rintro _ _ ⟨rfl, rfl⟩
      exact (ringFault?_eq_none_iff each).mp faulty
  | some fault =>
      refine ⟨[], _, fault, ⟨⟨rfl, rfl⟩, (ringFails_iff each).mpr faulty, ?_⟩, ?_⟩
      · intro _ _ _ before
        cases before
      · rw [Location.extend_nil]

/-- A check of all items reports what it reports of the first item that has a ring to report. -/
theorem checkEach_reports {check : Json → Location → Except Error Unit}
    {rings : Json → List LocationStep → Json → Prop}
    (reports : ∀ item ∈ items, ∀ location, Reports (rings item) location (check item location))
    (start : Nat) (location : Location) :
    Reports (AmongItems rings items start) location (checkEach check items start location) := by
  induction items generalizing start with
  | nil =>
      rintro steps ring ⟨index, item, inner, listed, -⟩
      cases listed
  | cons item rest ih =>
      have ⟨here, later⟩ := List.forall_mem_cons.mp reports
      have inItem := here (location.item start)
      have inRest := ih later (start + 1)
      rw [checkEach]
      cases checked : check item (location.item start) with
      | error error =>
          rw [checked] at inItem
          obtain ⟨steps, ring, fault, first, rfl⟩ := inItem
          refine ⟨.item start :: steps, ring, fault, ⟨?_, first.fails, ?_⟩, ?_⟩
          · exact amongItems_cons_iff.mpr (.inl ⟨steps, rfl, first.isRing⟩)
          · rintro before other among precedes
            rcases amongItems_cons_iff.mp among with ⟨inner, rfl, isRing⟩ | ⟨_, _, _, _, rfl, _⟩
            · exact first.earlier inner other isRing (by simpa using precedes)
            · -- A ring of a later item does not come before.
              rw [precedes_item_iff] at precedes
              omega
          · rw [Location.extend_item]
      | ok done =>
          rw [checked] at inItem
          cases after : checkEach check rest (start + 1) location with
          | ok done =>
              rw [after] at inRest
              intro steps ring among
              rcases amongItems_cons_iff.mp among with ⟨inner, rfl, isRing⟩ | among
              · exact inItem inner ring isRing
              · exact inRest steps ring among
          | error error =>
              rw [after] at inRest
              obtain ⟨steps, ring, fault, first, rfl⟩ := inRest
              refine ⟨steps, ring, fault, ⟨?_, first.fails, ?_⟩, rfl⟩
              · exact amongItems_cons_iff.mpr (.inr first.isRing)
              · intro before other among precedes
                rcases amongItems_cons_iff.mp among with ⟨inner, rfl, isRing⟩ | among
                · exact inItem inner other isRing
                · exact first.earlier before other among precedes

theorem requireClosedPolygon_reports {polygon : Json}
    (opened : Json.IsListOf 1 IsOpenRing polygon) (location : Location) :
    Reports (AmongItems (fun ring steps other => steps = [] ∧ other = ring) (itemsOf polygon) 0)
      location (requireClosedPolygon polygon location) := by
  obtain ⟨rings, rfl, -, each⟩ := opened
  exact checkEach_reports (fun ring listed => requireClosed_reports (each ring listed)) 0 location

/-- The check of a part of a collection, which tells its own type. -/
def requireClosedPart (part : Json) (location : Location) : Except Error Unit :=
  match typeOf part location with
  | .error error => .error error
  | .ok type => requireClosedRings type part location

theorem requireClosedMembers_eq_checkEach (parts : List Json) (start : Nat) (location : Location) :
    requireClosedMembers parts start location =
      checkEach requireClosedPart parts start location := by
  induction parts generalizing start with
  | nil => rw [requireClosedMembers, checkEach]
  | cons part rest ih =>
      rw [requireClosedMembers, checkEach, requireClosedPart, ← ih (start + 1)]
      cases typeOf part (location.item start) with
      | error error => rfl
      | ok type =>
          dsimp only
          cases requireClosedRings type part (location.item start) <;> rfl

/-- For an object with open rings the check of the rings reports the first one that is not
    closed. -/
theorem requireClosedRings_reports (opened : IsGeometry IsOpenRing type value)
    (location : Location) :
    Reports (HasRing value) location (requireClosedRings type value location) := by
  induction opened generalizing location with
  | @shape type members parts framed shaped =>
      have named : IsNamed (.object members) type := framed.named
      cases type with
      | geometryCollection => exact shaped.elim
      | polygon =>
          obtain ⟨polygon, rfl, -, each⟩ := shaped
          rw [requireClosedRings, itemsAt_array framed]
          have checked := checkEach_reports
            (fun ring listed => requireClosed_reports (each ring listed)) 0
          refine (checked _).member.congr fun steps ring => ?_
          rw [hasRing_polygon_iff named framed.holds]
          simp [AmongItems]
      | multiPolygon =>
          obtain ⟨polygons, rfl, -, each⟩ := shaped
          rw [requireClosedRings, itemsAt_array framed]
          have checked := checkEach_reports
            (fun part listed => requireClosedPolygon_reports (each part listed)) 0
          refine (checked _).member.congr fun steps ring => ?_
          rw [hasRing_multiPolygon_iff named framed.holds]
          simp [AmongItems]
      | point | multiPoint | lineString | multiLineString =>
          rw [requireClosedRings.eq_def]
          intro steps ring ringed
          cases ringed with
          | polygon other | multiPolygon other | collection other => cases named.unique other
  | @collection members parts framed opened ih =>
      rw [requireClosedRings]
      have found : (Json.object members).get? "geometries" =
          some (.array (parts.map Prod.snd)) := framed.holds
      split
      next items holds =>
        rw [found] at holds
        cases holds
        rw [requireClosedMembers_eq_checkEach]
        have each (part : Json) (listed : part ∈ parts.map Prod.snd) (place : Location) :
            Reports (HasRing part) place (requireClosedPart part place) := by
          obtain ⟨typed, mem, rfl⟩ := List.mem_map.mp listed
          rw [requireClosedPart, typeOf_eq_ok_iff.mpr (opened typed mem).named]
          exact ih typed mem place
        refine (checkEach_reports each 0 _).member.congr fun steps ring => ?_
        rw [hasRing_collection_iff framed.named framed.holds]
        simp [AmongItems]
      next none => exact absurd found (none _)

/-! ## The check of the schema -/

/-- Where everything but the closing of rings is right, the check of the rings decides. -/
theorem validate_of_isGeometry (opened : IsGeometry IsOpenRing type value) :
    validate value = (requireClosedRings type value (.whole "$")).map fun _ => type := by
  have accepted : Schema.validate Schema.geometries type.schema value (.whole "$") = .ok () := by
    rw [Schema.validate_eq_ok_iff isGuarded_geometries, conforms_schema_iff]
    exact opened
  unfold validate
  dsimp only
  rw [typeOf_eq_ok_iff.mpr opened.named]
  dsimp only
  rw [accepted]
  cases requireClosedRings type value (.whole "$") <;> rfl

/-- Anything else differs from the schema. -/
theorem validate_of_not_isGeometry (other : ∀ type, ¬IsGeometry IsOpenRing type value) :
    ∃ location reason, validate value = .error (.schemaMismatch location reason) := by
  unfold validate
  dsimp only
  split
  next error untyped =>
    obtain ⟨location, reason, rfl⟩ := typeOf_error untyped
    exact ⟨location, reason, rfl⟩
  next type typed =>
    split
    next error broken =>
      obtain ⟨location, reason, rfl⟩ := Schema.validateWithin_error _ _ _ _ _ broken
      exact ⟨location, reason, rfl⟩
    next accepted =>
      rw [Schema.validate_eq_ok_iff isGuarded_geometries, conforms_schema_iff] at accepted
      exact absurd accepted (other type)

/-- The three ways in which validation can go. -/
theorem validate_cases (value : Json) :
    (∃ type, validate value = .ok type ∧ IsGeometry IsClosedRing type value) ∨
    (∃ type location fault, validate value = .error (.unclosedRing location fault) ∧
      IsGeometry IsOpenRing type value ∧ ¬IsGeometry IsClosedRing type value) ∨
    ∃ location reason, validate value = .error (.schemaMismatch location reason) ∧
      ∀ type, ¬IsGeometry IsOpenRing type value := by
  by_cases geometry : ∃ type, IsGeometry IsOpenRing type value
  · obtain ⟨type, opened⟩ := geometry
    have reports := requireClosedRings_reports opened (.whole "$")
    rw [validate_of_isGeometry opened]
    cases checked : requireClosedRings type value (.whole "$") with
    | ok done =>
        rw [checked] at reports
        exact .inl ⟨type, rfl, opened.of_rings reports⟩
    | error error =>
        rw [checked] at reports
        obtain ⟨steps, ring, fault, first, rfl⟩ := reports
        refine .inr (.inl ⟨type, _, fault, rfl, opened, fun closed => ?_⟩)
        exact first.fails.not_isClosedRing (closed.isRing_of_hasRing first.isRing)
  · rw [not_exists] at geometry
    obtain ⟨location, reason, mismatch⟩ := validate_of_not_isGeometry geometry
    exact .inr (.inr ⟨location, reason, mismatch, geometry⟩)

theorem validate_eq_ok_iff :
    validate value = .ok type ↔ IsGeometry IsClosedRing type value := by
  obtain ⟨other, valid, isGeometry⟩ | ⟨other, _, _, invalid, opened, notClosed⟩ |
    ⟨_, _, invalid, notOpen⟩ := validate_cases value
  · rw [valid, Except.ok.injEq]
    constructor
    · rintro rfl
      exact isGeometry
    · exact isGeometry.type_unique
  · rw [invalid]
    refine iff_of_false nofun fun isGeometry => ?_
    exact notClosed (opened.type_unique isGeometry ▸ isGeometry)
  · rw [invalid]
    exact iff_of_false nofun fun isGeometry =>
      notOpen type (isGeometry.mono fun _ => IsClosedRing.isOpenRing)

/-- Validation tells the type of exactly the geometry objects with closed rings. It complains about
    a ring where only the closing of rings is missing, and about a mismatch everywhere else. -/
theorem validate_iff_isGeometry (value : Json) :
    (∀ type, validate value = .ok type ↔ IsGeometry IsClosedRing type value) ∧
      ((∃ location fault, validate value = .error (.unclosedRing location fault)) ↔
        (∃ type, IsGeometry IsOpenRing type value) ∧ ¬∃ type, IsGeometry IsClosedRing type value) ∧
      ((∃ location reason, validate value = .error (.schemaMismatch location reason)) ↔
        ¬∃ type, IsGeometry IsOpenRing type value) := by
  refine ⟨fun type => validate_eq_ok_iff, ?_⟩
  simp only [← validate_eq_ok_iff]
  obtain ⟨type, valid, isGeometry⟩ | ⟨type, location, fault, invalid, opened, _⟩ |
    ⟨location, reason, invalid, notOpen⟩ := validate_cases value
  · have opened : ∃ type, IsGeometry IsOpenRing type value :=
      ⟨type, isGeometry.mono fun _ => IsClosedRing.isOpenRing⟩
    rw [valid]
    exact ⟨iff_of_false nofun fun unclosed => unclosed.2 ⟨type, rfl⟩,
      iff_of_false nofun fun notOpen => notOpen opened⟩
  · rw [invalid]
    exact ⟨iff_of_true ⟨location, fault, rfl⟩ ⟨⟨type, opened⟩, nofun⟩,
      iff_of_false nofun fun notOpen => notOpen ⟨type, opened⟩⟩
  · rw [invalid]
    exact ⟨iff_of_false nofun fun opened => not_exists.mpr notOpen opened.1,
      iff_of_true ⟨location, reason, rfl⟩ (not_exists.mpr notOpen)⟩

end DocStore.Geometry
