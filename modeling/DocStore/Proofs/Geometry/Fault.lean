import DocStore.Geometry.Validation

/-! # What a validator complains about

A schema only ever reports mismatches, and the validation of a geometry mismatches or rings that
are not closed. Both are faults of the caller's own input.
-/

namespace DocStore

/-- Whether an error says that a value differs from its schema. -/
def Error.IsMismatch (error : Error) : Prop :=
  ∃ location mismatch, error = .schemaMismatch location mismatch

/-- Whether an error says that a ring is not closed. -/
def Error.IsRingFault (error : Error) : Prop :=
  ∃ location fault, error = .unclosedRing location fault

namespace Schema

theorem mismatch_error {location : Location} {reason : Mismatch} {error : Error}
    (failed : mismatch location reason = .error error) : error.IsMismatch := by
  cases failed
  exact ⟨location, reason, rfl⟩

mutual

theorem validateWithin_error (definitions : Definitions) (hops : Nat) (schema : Schema)
    (value : Json) (location : Location) {error : Error}
    (failed : validateWithin definitions hops schema value location = .error error) :
    error.IsMismatch := by
  rw [validateWithin.eq_def] at failed
  split at failed
  next properties required additional =>
    split at failed
    next members =>
      split at failed
      · exact mismatch_error failed
      · split at failed
        · exact mismatch_error failed
        · exact validateProperties_error definitions properties members location failed
    next => exact mismatch_error failed
  next items least =>
    split at failed
    next values =>
      split at failed
      · exact mismatch_error failed
      · exact validateItems_error definitions items values 0 location failed
    next => exact mismatch_error failed
  next =>
    split at failed
    · cases failed
    · exact mismatch_error failed
  next =>
    split at failed
    · cases failed
    · exact mismatch_error failed
  next =>
    split at failed
    · split at failed
      · cases failed
      · split at failed
        · cases failed
        · exact mismatch_error failed
    · exact mismatch_error failed
  next name =>
    split at failed
    next hops target found =>
      exact validateWithin_error definitions hops target value location failed
    next => exact mismatch_error failed
termination_by (sizeOf value, hops, sizeOf schema)

theorem validateProperties_error (definitions : Definitions)
    (properties : List (String × Schema)) (members : Members) (location : Location)
    {error : Error}
    (failed : validateProperties definitions properties members location = .error error) :
    error.IsMismatch := by
  cases properties with
  | nil =>
      rw [validateProperties] at failed
      cases failed
  | cons property rest =>
      obtain ⟨name, schema⟩ := property
      rw [validateProperties] at failed
      split at failed
      next value found =>
        have smaller := sizeOf_lt_of_lookup found
        split at failed
        next => exact validateProperties_error definitions rest members location failed
        next reason broken =>
          cases failed
          exact validateWithin_error definitions definitions.length schema value _ broken
      next => exact validateProperties_error definitions rest members location failed
termination_by (sizeOf members, 0, sizeOf properties)

theorem validateItems_error (definitions : Definitions) (schema : Schema) (values : List Json)
    (index : Nat) (location : Location) {error : Error}
    (failed : validateItems definitions schema values index location = .error error) :
    error.IsMismatch := by
  cases values with
  | nil =>
      rw [validateItems] at failed
      cases failed
  | cons value rest =>
      rw [validateItems] at failed
      split at failed
      next => exact validateItems_error definitions schema rest (index + 1) location failed
      next reason broken =>
        cases failed
        exact validateWithin_error definitions definitions.length schema value _ broken
termination_by (sizeOf values, 0, 0)

end

end Schema

namespace Geometry

theorem typeOf_error {value : Json} {location : Location} {error : Error}
    (failed : typeOf value location = .error error) : error.IsMismatch := by
  unfold typeOf at failed
  split at failed
  · cases failed
    exact ⟨_, _, rfl⟩
  · split at failed
    · cases failed
      exact ⟨_, _, rfl⟩
    · cases failed

theorem requireClosed_error {ring : Json} {location : Location} {error : Error}
    (failed : requireClosed ring location = .error error) : error.IsRingFault := by
  unfold requireClosed at failed
  split at failed
  · cases failed
    exact ⟨_, _, rfl⟩
  · cases failed

theorem checkEach_error {check : Json → Location → Except Error Unit} {blame : Error → Prop}
    (blamed : ∀ item location error, check item location = .error error → blame error)
    {items : List Json} {index : Nat} {location : Location} {error : Error}
    (failed : checkEach check items index location = .error error) : blame error := by
  induction items generalizing index with
  | nil => cases failed
  | cons item rest ih =>
      rw [checkEach] at failed
      split at failed
      next => exact ih failed
      next reason broken =>
        cases failed
        exact blamed item _ _ broken

theorem requireClosedPolygon_error {polygon : Json} {location : Location} {error : Error}
    (failed : requireClosedPolygon polygon location = .error error) : error.IsRingFault :=
  checkEach_error (fun _ _ _ => requireClosed_error) failed

mutual

theorem requireClosedRings_error (type : GeometryType) (value : Json) (location : Location)
    {error : Error} (failed : requireClosedRings type value location = .error error) :
    error.IsMismatch ∨ error.IsRingFault := by
  rw [requireClosedRings.eq_def] at failed
  split at failed
  next => exact .inr (checkEach_error (fun _ _ _ => requireClosed_error) failed)
  next => exact .inr (checkEach_error (fun _ _ _ => requireClosedPolygon_error) failed)
  next =>
    split at failed
    next members found =>
      have smaller : sizeOf members < sizeOf value := by
        cases value with
        | object fields =>
            have := Schema.sizeOf_lt_of_lookup found
            simp only [Json.array.sizeOf_spec, Json.object.sizeOf_spec] at this ⊢
            omega
        | _ => cases found
      exact requireClosedMembers_error members 0 _ failed
    next => cases failed
  next => cases failed
termination_by sizeOf value

theorem requireClosedMembers_error (members : List Json) (index : Nat) (location : Location)
    {error : Error} (failed : requireClosedMembers members index location = .error error) :
    error.IsMismatch ∨ error.IsRingFault := by
  cases members with
  | nil =>
      rw [requireClosedMembers] at failed
      cases failed
  | cons member rest =>
      rw [requireClosedMembers] at failed
      split at failed
      next reason untyped =>
        cases failed
        exact .inl (typeOf_error untyped)
      next type typed =>
        split at failed
        next reason broken =>
          cases failed
          exact requireClosedRings_error type member _ broken
        next => exact requireClosedMembers_error rest (index + 1) location failed
termination_by sizeOf members

end

/-- A geometry is refused for a mismatch or for a ring. -/
theorem validate_error {value : Json} {error : Error} (failed : validate value = .error error) :
    error.IsMismatch ∨ error.IsRingFault := by
  unfold validate at failed
  dsimp only at failed
  split at failed
  next reason untyped =>
    cases failed
    exact .inl (typeOf_error untyped)
  next type typed =>
    split at failed
    next reason broken =>
      cases failed
      exact .inl (Schema.validateWithin_error _ _ _ _ _ broken)
    next =>
      split at failed
      next reason broken =>
        cases failed
        exact requireClosedRings_error type value _ broken
      next => cases failed

theorem validate_inputFault {value : Json} {error : Error}
    (failed : validate value = .error error) : error.isInputFault = true := by
  rcases validate_error failed with ⟨_, _, rfl⟩ | ⟨_, _, rfl⟩ <;> rfl

end Geometry

end DocStore
