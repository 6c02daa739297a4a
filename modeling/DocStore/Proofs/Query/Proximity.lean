import DocStore.Proofs.Query.Reading

/-! # Distance bounds of proximity tests

The plain form of a proximity test names its distance bounds. The form that compares fields lists
the bounds that are given, after the field and the geometry, so that a bound which is alone there
may be either one. This is all that gets lost.
-/

namespace DocStore.Query

variable {scope : Scope} {field : Option String} {op : SpatialRelation} {geometry : Operand}
  {minDistance maxDistance otherMin otherMax : Option Operand} {wire other : Json}

/-- Lists of what can be read back are told apart by what is written. -/
theorem eq_of_map_eq {α β : Type} {write : α → β} {read : β → Option α} {items others : List α}
    (readable : ∀ item ∈ items, read (write item) = some item)
    (otherReadable : ∀ item ∈ others, read (write item) = some item)
    (same : items.map write = others.map write) : items = others := by
  have readBack {items : List α} (readable : ∀ item ∈ items, read (write item) = some item) :
      (items.map write).map read = items.map some := by
    rw [List.map_map]
    exact List.map_congr_left readable
  refine List.map_injective_iff.mpr (Option.some_injective α) ?_
  rw [← readBack readable, ← readBack otherReadable, same]

/-- One bound each, the same, on different sides. -/
def IsSwapped (bounds others : Option Operand × Option Operand) : Prop :=
  ∃ bound, (bounds = (some bound, none) ∧ others = (none, some bound)) ∨
    (bounds = (none, some bound) ∧ others = (some bound, none))

theorem toList_append_eq_iff :
    minDistance.toList ++ maxDistance.toList = otherMin.toList ++ otherMax.toList ↔
      (minDistance, maxDistance) = (otherMin, otherMax) ∨
        IsSwapped (minDistance, maxDistance) (otherMin, otherMax) := by
  cases minDistance <;> cases maxDistance <;> cases otherMin <;> cases otherMax <;>
    simp [IsSwapped]
  all_goals exact eq_comm

/-- Two proximity tests of one field and one geometry that compare fields. Each lists the bounds
    that it is given, and they have the same form exactly if their bounds are the same, or if the
    only bound of one is its lower bound and the only bound of the other the same upper bound. -/
theorem near_across_eq_iff (across : IsAcross geometry (minDistance, maxDistance))
    (otherAcross : IsAcross geometry (otherMin, otherMax))
    (compiled : compileIn scope (.geo .near field geometry minDistance maxDistance) = .ok wire)
    (otherCompiled : compileIn scope (.geo .near field geometry otherMin otherMax) = .ok other) :
    (∃ own, field = some own ∧
      wire = acrossForm (.single "nearSphere" (.array (fieldPath own :: geometry.exprForm ::
        (minDistance.toList ++ maxDistance.toList).map Operand.exprForm)))) ∧
    (wire = other ↔ (minDistance, maxDistance) = (otherMin, otherMax) ∨
      IsSwapped (minDistance, maxDistance) (otherMin, otherMax)) := by
  obtain ⟨-, own, rfl, wireEq⟩ :=
    (compileIn_geo_cases compiled).resolve_right fun plain => plain.1 across
  obtain ⟨-, _, same, otherEq⟩ :=
    (compileIn_geo_cases otherCompiled).resolve_right fun plain => plain.1 otherAcross
  cases same
  obtain ⟨-, numeric, -⟩ := isWellFormedNode_of_compileIn compiled
  obtain ⟨-, otherNumeric, -⟩ := isWellFormedNode_of_compileIn otherCompiled
  refine ⟨⟨own, rfl, wireEq⟩, ?_⟩
  rw [← toList_append_eq_iff, wireEq, otherEq]
  constructor
  · intro equal
    refine eq_of_map_eq (fun bound mem => readNumeric_exprForm (numeric bound mem).2)
      (fun bound mem => readNumeric_exprForm (otherNumeric bound mem).2) ?_
    simpa [acrossForm, Json.single] using equal
  · intro equal
    rw [equal]

/-- Two tests that compare their field with another, one of them bounded from below only. -/
theorem near_across_eq_iff_oneBound :
    let bound := Operand.number (.ofUInt64 5)
    IsAcross (.field "home") (some bound, none) ∧
      IsAcross (.field "home") (some bound, some bound) ∧
      ∃ wire other,
        compileIn .document (.geo .near (some "spot") (.field "home") (some bound) none) =
          .ok wire ∧
        compileIn .document (.geo .near (some "spot") (.field "home") (some bound) (some bound)) =
          .ok other ∧
        wire ≠ other := by
  intro bound
  have across : IsAcross (.field "home") (some bound, none) := ⟨.field "home", .head _, rfl⟩
  have otherAcross : IsAcross (.field "home") (some bound, some bound) :=
    ⟨.field "home", .head _, rfl⟩
  have compiled : compileIn .document
      (.geo .near (some "spot") (.field "home") (some bound) none) = .ok _ := rfl
  have otherCompiled : compileIn .document
      (.geo .near (some "spot") (.field "home") (some bound) (some bound)) = .ok _ := rfl
  refine ⟨across, otherAcross, _, _, compiled, otherCompiled, ?_⟩
  have differ := (near_across_eq_iff across otherAcross compiled otherCompiled).2
  rw [Ne, differ]
  simp [IsSwapped]

/-- A lower bound and an upper bound are compiled to the same form. -/
theorem lower_bound_as_upper_bound :
    let bound := Operand.number (.ofUInt64 5)
    let wire := acrossForm (.single "nearSphere"
      (.array [.string "$spot", .string "$home", .number (.ofUInt64 5)]))
    compileIn .document (.geo .near (some "spot") (.field "home") (some bound) none) = .ok wire ∧
      compileIn .document (.geo .near (some "spot") (.field "home") none (some bound)) = .ok wire ∧
      (some bound, none) ≠ (none, some bound) := by
  refine ⟨rfl, rfl, ?_⟩
  simp

theorem distanceBounds_inj
    (same : distanceBounds minDistance maxDistance = distanceBounds otherMin otherMax) :
    (minDistance, maxDistance) = (otherMin, otherMax) := by
  cases minDistance <;> cases maxDistance <;> cases otherMin <;> cases otherMax <;>
    simp_all [distanceBounds]

/-- The distance bound that a member of a plain form stands for. -/
def readBound (member : String × Json) : Option (String × Operand) :=
  (readNumeric member.2).map fun bound => (member.1, bound)

theorem readBound_of_compileIn
    (compiled : compileIn scope (.geo op field geometry minDistance maxDistance) = .ok wire) :
    ∀ bound ∈ distanceBounds minDistance maxDistance,
      readBound (bound.1, bound.2.exprForm) = some bound := by
  obtain ⟨-, numeric, -⟩ := isWellFormedNode_of_compileIn compiled
  intro bound mem
  have given : bound.2 ∈ minDistance.toList ++ maxDistance.toList := by
    rw [← map_snd_distanceBounds]
    exact List.mem_map_of_mem mem
  rw [readBound, readNumeric_exprForm (numeric _ given).2]
  rfl

/-- The plain form says which bound is which. -/
theorem near_plain_inj (plain : ¬IsAcross geometry (minDistance, maxDistance))
    (otherPlain : ¬IsAcross geometry (otherMin, otherMax))
    (compiled : compileIn scope (.geo .near field geometry minDistance maxDistance) = .ok wire)
    (otherCompiled : compileIn scope (.geo .near field geometry otherMin otherMax) = .ok wire) :
    (minDistance, maxDistance) = (otherMin, otherMax) := by
  obtain ⟨-, shape, checked, wireEq⟩ :=
    (compileIn_geo_cases compiled).resolve_left fun across => plain across.1
  obtain ⟨-, _, sameShape, otherEq⟩ :=
    (compileIn_geo_cases otherCompiled).resolve_left fun across => otherPlain across.1
  cases checked.symm.trans sameShape
  have named : ((distanceBounds minDistance maxDistance).map fun bound =>
      (bound.1, bound.2.exprForm)) =
      (distanceBounds otherMin otherMax).map fun bound => (bound.1, bound.2.exprForm) := by
    have same := wireEq.symm.trans otherEq
    cases field <;> simpa [underField, Json.single] using same
  exact distanceBounds_inj (eq_of_map_eq (readBound_of_compileIn compiled)
    (readBound_of_compileIn otherCompiled) named)

end DocStore.Query
