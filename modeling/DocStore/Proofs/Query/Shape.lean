import DocStore.Proofs.Geometry.Closure
import DocStore.Proofs.Operand.Plain
import DocStore.Proofs.Query.WireForm

/-! # Geometries as they are sent

A geometric relation checks one form of its geometry and, where it compares fields, sends another.
In a valid geometry object all texts are names of types, at any depth, so that the two forms are the
same.
-/

namespace DocStore

namespace Geometry

variable {isRing : Json → Prop} {type : GeometryType} {value : Json} {members : Members}

theorem isPlain_of_isNumbers (numbers : value.IsNumbers) : value.IsPlain := by
  induction numbers with
  | number number => exact .number number
  | array _ ih => exact .array ih

theorem startsWithDollar_name (type : GeometryType) : startsWithDollar type.name = false := by
  cases type <;> rfl

/-- A geometry object is plain if its parts are. -/
theorem HasParts.isPlain {key : String} {parts : Json} (framed : HasParts type key members parts)
    (plainKey : startsWithDollar key = false) (distinct : members.keys.Nodup)
    (plain : parts.IsPlain) : (Json.object members).IsPlain := by
  refine .object (fun name inside => ?_) (fun member mem => ?_)
  · obtain rfl | rfl | rfl := framed.nothingElse name inside
    · rfl
    · exact plainKey
    · rfl
  · obtain ⟨-, named⟩ | ⟨-, same⟩ | ⟨-, numbers⟩ :=
      framed.member_cases (Members.find?_of_mem distinct mem)
    · rw [named]
      exact .string (startsWithDollar_name type)
    · rw [same]
      exact plain
    · exact isPlain_of_isNumbers numbers

/-- Nothing in a geometry object begins like a path, at any depth of collections. -/
theorem IsGeometry.isPlain (numbers : ∀ ring, isRing ring → ring.IsNumbers)
    (isGeometry : IsGeometry isRing type value) (distinct : value.HasDistinctKeys) :
    value.IsPlain := by
  induction isGeometry with
  | shape framed shaped =>
      cases distinct with
      | object distinct _ =>
          exact framed.isPlain rfl distinct (isPlain_of_isNumbers (shaped.isNumbers numbers))
  | @collection members parts framed _ ih =>
      cases distinct with
      | object distinct all =>
          refine framed.isPlain rfl distinct (.array (List.forall_mem_map.mpr fun part mem => ?_))
          have listDistinct := all _ (Members.mem_of_find? framed.holds)
          cases listDistinct with
          | array each => exact ih part mem (each part.2 (List.mem_map_of_mem mem))

end Geometry

namespace Query

variable {op : SpatialRelation} {geometry : Operand} {shape wire : Json} {scope : Scope}
  {field own : Option String} {minDistance maxDistance : Option Operand}

/-- The wire forms of a geometric relation to a shape, with bounds that only proximity has. The
    plain form names the shape and the bounds; where a bound is a field, the shape is listed between
    the node's own field and the bounds. -/
inductive SendsShape (op : SpatialRelation) (shape : Json) (scope : Scope)
    (bounds : List (String × Operand)) : Option String → Json → Prop
  | plain {own : Option String} (placed : scope = .document → own.isSome)
      (numeric : ∀ bound ∈ bounds, op = .near ∧ bound.2.isNumber = true) :
      SendsShape op shape scope bounds own (underField own (.single op.token
        (.object (("$geometry", shape) :: bounds.map fun bound => (bound.1, bound.2.exprForm)))))
  | across {own : String} (numeric : ∀ bound ∈ bounds, op = .near ∧ bound.2.IsNumeric)
      (compares : ∃ bound ∈ bounds, bound.2.isField = true) :
      SendsShape op shape scope bounds (some own) (acrossForm (.single op.token
        (.array (fieldPath own :: shape :: bounds.map fun bound => bound.2.exprForm))))

theorem isField_of_isNumber {operand : Operand} (isNumber : operand.isNumber = true) :
    operand.isField = false := by
  cases operand with
  | number number => rfl
  | _ => cases isNumber

theorem isNumber_of_isNumeric {operand : Operand} (numeric : operand.IsNumeric)
    (notField : operand.isField = false) : operand.isNumber = true :=
  numeric.resolve_right fun isField => Bool.noConfusion (notField.symm.trans isField)

/-- The bounds alone decide between the two forms. -/
theorem SendsShape.unique {bounds : List (String × Operand)} {other : Json}
    (sends : SendsShape op shape scope bounds own wire)
    (otherwise : SendsShape op shape scope bounds own other) : wire = other := by
  cases sends with
  | plain _ numeric =>
      cases otherwise with
      | plain => rfl
      | across _ compares =>
          obtain ⟨bound, mem, isField⟩ := compares
          cases isField.symm.trans (isField_of_isNumber (numeric bound mem).2)
  | across _ compares =>
      cases otherwise with
      | across => rfl
      | plain _ numeric =>
          obtain ⟨bound, mem, isField⟩ := compares
          cases isField.symm.trans (isField_of_isNumber (numeric bound mem).2)

theorem literalGeometry_eq_ok_iff :
    literalGeometry op geometry field = .ok shape ↔
      geometry.literal? = some shape ∧ op.IsShape geometry := by
  have decides := (literalGeometry_decides op geometry field).ok_iff
  constructor
  · intro checked
    exact ⟨literal?_of_literalGeometry checked, decides.mp ⟨shape, checked⟩⟩
  · rintro ⟨literal, isShape⟩
    obtain ⟨other, checked⟩ := decides.mpr isShape
    cases literal.symm.trans (literal?_of_literalGeometry checked)
    exact checked

/-- What passes the check of geometries is plain. -/
theorem isPlain_of_literalGeometry (checked : literalGeometry op geometry field = .ok shape) :
    shape.IsPlain := by
  obtain ⟨literal, _, _, type, -, sameLiteral, valid, -⟩ := literalGeometry_eq_ok_iff.mp checked
  cases literal.symm.trans sameLiteral
  have isGeometry := Geometry.validate_eq_ok_iff.mp valid
  exact isGeometry.isPlain (fun _ => Geometry.IsClosedRing.isNumbers)
    (Operand.hasDistinctKeys_of_literal? geometry shape literal)

theorem forall_distanceBounds_iff {good : Operand → Prop} :
    (∀ bound ∈ distanceBounds minDistance maxDistance, good bound.2) ↔
      ∀ bound ∈ minDistance.toList ++ maxDistance.toList, good bound := by
  rw [← map_snd_distanceBounds, List.forall_mem_map]

theorem sendsShape_of_compileIn (literal : geometry.literal? = some shape)
    (sent : geometry.exprForm = shape)
    (compiled : compileIn scope (.geo op own geometry minDistance maxDistance) = .ok wire) :
    SendsShape op shape scope (distanceBounds minDistance maxDistance) own wire := by
  obtain ⟨⟨placed, -⟩, bounded, -⟩ := isWellFormedNode_of_compileIn compiled
  have numeric := forall_distanceBounds_iff.mpr bounded
  have notField := isField_of_literal? literal
  obtain ⟨across, name, rfl, rfl⟩ | ⟨plain, _, checked, rfl⟩ := compileIn_geo_cases compiled
  · rw [← any_isField_iff_isAcross, notField, Bool.false_or, List.any_eq_true] at across
    rw [sent, ← map_snd_distanceBounds, List.map_map]
    exact .across numeric across
  · rw [← any_isField_iff_isAcross, notField, Bool.false_or, Bool.not_eq_true,
      List.any_eq_false] at plain
    -- The node's check may blame another field, but what it returns is the same value.
    cases literal.symm.trans (literal?_of_literalGeometry checked)
    refine .plain placed fun bound mem => ?_
    obtain ⟨near, isNumeric⟩ := numeric bound mem
    exact ⟨near, isNumber_of_isNumeric isNumeric (Bool.not_eq_true _ ▸ plain bound mem)⟩

/-- A relation to a shape is compiled wherever it has a form. -/
theorem SendsShape.exists_compileIn (isShape : op.IsShape geometry)
    (sends : SendsShape op shape scope (distanceBounds minDistance maxDistance) own wire) :
    ∃ other, compileIn scope (.geo op own geometry minDistance maxDistance) = .ok other := by
  rw [compileIn, (spatialCondition_decides op own geometry minDistance maxDistance scope).ok_iff]
  have notField : geometry.isField = false := by
    obtain ⟨_, _, _, rfl, -⟩ := isShape
    rfl
  cases sends with
  | plain placed numeric =>
      have allNumbers : ∀ bound ∈ minDistance.toList ++ maxDistance.toList,
          op = .near ∧ bound.isNumber = true := forall_distanceBounds_iff.mp numeric
      refine ⟨⟨placed, ?_⟩, fun bound mem => ?_, .inr isShape⟩
      · rintro ⟨operand, mem, isField⟩
        obtain rfl | given := List.mem_cons.mp mem
        · cases isField.symm.trans notField
        · cases isField.symm.trans (isField_of_isNumber (allNumbers operand given).2)
      · exact ⟨(allNumbers bound mem).1, .inl (allNumbers bound mem).2⟩
  | across numeric _ =>
      exact ⟨⟨fun _ => rfl, fun _ => rfl⟩, forall_distanceBounds_iff.mp numeric, .inr isShape⟩

/-- A geometry is sent as it was checked. The value that the check returns is also what the
    geometry is written as inside an `$expr`, so that a node holds this very value in either form.
    At no depth does a text or a key in it begin like a path, and it comes to itself whatever values
    fields have. -/
theorem checked_geometry_is_sent (checked : literalGeometry op geometry field = .ok shape) :
    geometry.exprForm = shape ∧
    (∀ scope own minDistance maxDistance wire,
      compileIn scope (.geo op own geometry minDistance maxDistance) = .ok wire ↔
        SendsShape op shape scope (distanceBounds minDistance maxDistance) own wire) ∧
    (∀ steps text, shape.follow? steps = some (.string text) → startsWithDollar text = false) ∧
    (∀ steps (members : Members), shape.follow? steps = some (.object members) →
      ∀ key ∈ members.keys, startsWithDollar key = false) ∧
    ∀ environment, geometry.exprForm.resolve environment = shape := by
  obtain ⟨literal, isShape⟩ := literalGeometry_eq_ok_iff.mp checked
  have plain := isPlain_of_literalGeometry checked
  have sent := Operand.exprForm_of_isPlain literal plain
  refine ⟨sent, fun scope own minDistance maxDistance wire => ?_, fun steps text found => ?_,
    fun steps members found => ?_, fun environment => ?_⟩
  · constructor
    · exact sendsShape_of_compileIn literal sent
    · intro sends
      obtain ⟨other, compiled⟩ := sends.exists_compileIn isShape
      rw [sends.unique (sendsShape_of_compileIn literal sent compiled)]
      exact compiled
  · cases plain.of_follow? found with
    | string unmarked => exact unmarked
  · cases plain.of_follow? found with
    | object plainKeys _ => exact plainKeys
  · rw [sent]
    exact plain.resolve_eq (Operand.hasDistinctKeys_of_literal? geometry shape literal) environment

/-- A collection in a collection, whose type is first given as a text that looks like a path, and a
    point from which a field is at most as far as another field says. -/
theorem checked_geometry_is_sent_nested :
    let point := Operand.map [("type", .string "Point"),
      ("coordinates", .array [.number (.ofUInt64 2), .number (.ofUInt64 3)])]
    let place := Json.object [("type", .string "Point"),
      ("coordinates", .array [.number (.ofUInt64 2), .number (.ofUInt64 3)])]
    let collection (parts : List Operand) := Operand.map [("type", .string "$GeometryCollection"),
      ("geometries", .array parts), ("type", .string "GeometryCollection")]
    let region (parts : List Json) := Json.object [("type", .string "GeometryCollection"),
      ("geometries", .array parts)]
    literalGeometry .intersects (collection [point, collection [point]]) (some "spot") =
        .ok (region [place, region [place]]) ∧
      (collection [point, collection [point]]).exprForm = region [place, region [place]] ∧
      literalGeometry .near point (some "spot") = .ok place ∧
      compileIn .document (.geo .near (some "spot") point none (some (.field "reach"))) =
        .ok (acrossForm (.single "nearSphere"
          (.array [.string "$spot", place, .string "$reach"]))) := by
  intro point place collection region
  have isPlace : Geometry.IsGeometry Geometry.IsClosedRing .point place :=
    .shape (Geometry.hasParts_pair _ _ (by decide)) ⟨_, rfl, Nat.le_refl 2, by simp [Json.IsNumber]⟩
  have isRegion (parts : List (GeometryType × Json))
      (each : ∀ part ∈ parts, Geometry.IsGeometry Geometry.IsClosedRing part.1 part.2) :
      Geometry.IsGeometry Geometry.IsClosedRing .geometryCollection (region (parts.map Prod.snd)) :=
    .collection (Geometry.hasParts_pair _ _ (by decide)) each
  have inner := isRegion [(.point, place)] (by simpa using isPlace)
  have outer := isRegion [(.point, place), (.geometryCollection, region [place])]
    (by simpa using ⟨isPlace, inner⟩)
  have checked : literalGeometry .intersects (collection [point, collection [point]])
      (some "spot") = .ok (region [place, region [place]]) :=
    literalGeometry_eq_ok_iff.mpr
      ⟨rfl, _, _, _, rfl, rfl, Geometry.validate_eq_ok_iff.mpr outer, nofun, nofun⟩
  have near : literalGeometry .near point (some "spot") = .ok place :=
    literalGeometry_eq_ok_iff.mpr
      ⟨rfl, _, _, _, rfl, rfl, Geometry.validate_eq_ok_iff.mpr isPlace, nofun, fun _ => rfl⟩
  refine ⟨checked, (checked_geometry_is_sent checked).1, near, ?_⟩
  refine ((checked_geometry_is_sent near).2.1 _ _ _ _ _).mpr ?_
  exact .across (List.forall_mem_singleton.mpr ⟨rfl, .inr rfl⟩) ⟨_, List.mem_singleton_self _, rfl⟩

end Query

end DocStore
