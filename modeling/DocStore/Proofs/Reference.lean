import DocStore.Reference

/-! # Valid references

What the constructors promise about every reference: it has segments, each of them is one, and
their number goes with the kind.
-/

namespace DocStore

theorem isSegment_iff {text : String} :
    isSegment text = true ↔ text.toList ≠ [] ∧ '/' ∉ text.toList := by
  simp [isSegment]

theorem segmentsFault?_eq_none_iff {segments : List String} :
    segmentsFault? segments = none ↔
      segments ≠ [] ∧ ∀ segment ∈ segments, isSegment segment = true := by
  unfold segmentsFault?
  cases segments with
  | nil => simp
  | cons first rest =>
      rw [if_neg (by simp)]
      split
      next position found =>
        obtain ⟨inside, empty, -⟩ := List.findIdx?_eq_some_iff_getElem.mp found
        constructor
        · intro impossible
          cases impossible
        · rintro ⟨-, all⟩
          have filled := all _ (List.getElem_mem inside)
          simp only [isSegment, empty, Bool.not_true, Bool.false_and, Bool.false_eq_true] at filled
      next filled =>
        simp only [List.findIdx?_eq_none_iff, Option.map_eq_none_iff] at filled ⊢
        simp only [isSegment, Bool.and_eq_true, Bool.not_eq_true', ne_eq, reduceCtorEq,
          not_false_eq_true, true_and]
        constructor
        · intro free segment member
          exact ⟨filled segment member, free segment member⟩
        · intro all segment member
          exact (all segment member).2

/-- What the constructors of references accept. -/
structure Reference.IsValid (reference : Reference) : Prop where
  filled : reference.segments ≠ []
  segments : ∀ segment ∈ reference.segments, isSegment segment = true
  parity : reference.segments.length % 2 = 0 ↔ reference.isDocument = true

theorem DocumentReference.ofSegments_eq_ok_iff {segments : List String} {database : String}
    {document : DocumentReference} :
    ofSegments segments database = .ok document ↔
      document = ⟨segments, database⟩ ∧ (Reference.document document).IsValid := by
  unfold ofSegments
  dsimp only
  constructor
  · intro made
    split at made
    next => cases made
    next free =>
      obtain ⟨filled, all⟩ := segmentsFault?_eq_none_iff.mp free
      split at made
      next even =>
        cases made
        exact ⟨rfl, filled, all, iff_of_true even rfl⟩
      next => cases made
  · rintro ⟨rfl, valid⟩
    have free : segmentsFault? segments = none :=
      segmentsFault?_eq_none_iff.mpr ⟨valid.filled, valid.segments⟩
    have even : segments.length % 2 = 0 := valid.parity.mpr rfl
    rw [free]
    exact if_pos even

theorem CollectionReference.ofSegments_eq_ok_iff {segments : List String} {database : String}
    {collection : CollectionReference} :
    ofSegments segments database = .ok collection ↔
      collection = ⟨segments, database⟩ ∧ (Reference.collection collection).IsValid := by
  unfold ofSegments
  dsimp only
  constructor
  · intro made
    split at made
    next => cases made
    next free =>
      obtain ⟨filled, all⟩ := segmentsFault?_eq_none_iff.mp free
      split at made
      next odd =>
        cases made
        refine ⟨rfl, filled, all, iff_of_false ?_ Bool.false_ne_true⟩
        change ¬segments.length % 2 = 0
        omega
      next => cases made
  · rintro ⟨rfl, valid⟩
    have odd : segments.length % 2 = 1 := by
      have notEven : ¬segments.length % 2 = 0 :=
        fun even => Bool.false_ne_true (valid.parity.mp even)
      omega
    have free : segmentsFault? segments = none :=
      segmentsFault?_eq_none_iff.mpr ⟨valid.filled, valid.segments⟩
    rw [free]
    exact if_pos odd

theorem childFault?_eq_none_iff {id : String} : childFault? id = none ↔ isSegment id = true := by
  rw [isSegment_iff, childFault?]
  cases id.toList <;> simp

theorem CollectionReference.document_eq_ok_iff {collection : CollectionReference} {id : String}
    {document : DocumentReference} :
    collection.document id = .ok document ↔
      isSegment id = true ∧ document = ⟨collection.segments ++ [id], collection.database⟩ := by
  rw [CollectionReference.document, ← childFault?_eq_none_iff]
  cases childFault? id with
  | some fault => simp
  | none => simp [eq_comm]

end DocStore
