import DocStore.Proofs.Outcome
import DocStore.Proofs.Reference.Path

/-! # Parents and children

A valid reference is a root collection, or the child of a valid reference of the other kind. This
one case distinction is behind all that is said of parents: to take the parent undoes taking a
child, and as many parents as there are further segments lead to a root collection.
-/

namespace DocStore.Reference

variable {reference : Reference} {id : String}

/-- The reference of the other kind that has one more segment. -/
def descend (reference : Reference) (id : String) : Reference :=
  match reference with
  | .document parent => .collection ⟨parent.segments ++ [id], parent.database⟩
  | .collection parent => .document ⟨parent.segments ++ [id], parent.database⟩

@[simp] theorem segments_descend (reference : Reference) (id : String) :
    (reference.descend id).segments = reference.segments ++ [id] := by
  cases reference <;> rfl

@[simp] theorem database_descend (reference : Reference) (id : String) :
    (reference.descend id).database = reference.database := by
  cases reference <;> rfl

@[simp] theorem isDocument_descend (reference : Reference) (id : String) :
    (reference.descend id).isDocument = !reference.isDocument := by
  cases reference <;> rfl

@[simp] theorem id_descend (reference : Reference) (id : String) :
    (reference.descend id).id = id := by
  cases reference <;>
    simp [descend, Reference.id, DocumentReference.id, CollectionReference.id]

/-- A collection that is in no document. -/
def IsRoot (reference : Reference) : Prop :=
  reference.isDocument = false ∧ reference.segments.length = 1

theorem IsValid.two_le_length (valid : reference.IsValid) (notRoot : ¬reference.IsRoot) :
    2 ≤ reference.segments.length := by
  have filled := List.length_pos_of_ne_nil valid.filled
  have parity := valid.parity
  cases kind : reference.isDocument with
  | true =>
      have even := parity.mpr kind
      omega
  | false =>
      have notOne : reference.segments.length ≠ 1 := fun one => notRoot ⟨kind, one⟩
      omega

theorem IsValid.descend (valid : reference.IsValid) (legal : isSegment id = true) :
    (reference.descend id).IsValid where
  filled := by simp
  segments := by
    rw [segments_descend]
    intro segment member
    rcases List.mem_append.mp member with before | last
    · exact valid.segments segment before
    · rw [List.mem_singleton.mp last]
      exact legal
  parity := by
    have parity := valid.parity
    rw [segments_descend, isDocument_descend, List.length_append, List.length_singleton]
    cases kind : reference.isDocument <;> rw [kind] at parity <;> simp at parity ⊢ <;> omega

/-- A valid reference is a root collection or has a valid reference above it. -/
theorem IsValid.isRoot_or_descend (valid : reference.IsValid) :
    reference.IsRoot ∨
      ∃ (parent : Reference) (id : String),
        parent.IsValid ∧ isSegment id = true ∧ reference = parent.descend id := by
  by_cases root : reference.IsRoot
  · exact .inl root
  have long := valid.two_le_length root
  obtain ⟨before, last, split⟩ := (List.eq_nil_or_concat' reference.segments).resolve_left
    valid.filled
  have filled : before ≠ [] := by
    rintro rfl
    rw [split] at long
    simp at long
  have allSegments := valid.segments
  rw [split] at allSegments
  obtain ⟨all, lastLegal⟩ := List.forall_mem_append.mp allSegments
  have parity := valid.parity
  rw [split, List.length_append, List.length_singleton] at parity
  refine .inr ?_
  cases reference with
  | document document =>
      obtain ⟨segments, database⟩ := document
      cases split
      refine ⟨.collection ⟨before, database⟩, last, ⟨filled, all, iff_of_false ?_ nofun⟩,
        lastLegal last (by simp), rfl⟩
      have even := parity.mpr rfl
      change ¬before.length % 2 = 0
      omega
  | collection collection =>
      obtain ⟨segments, database⟩ := collection
      cases split
      refine ⟨.document ⟨before, database⟩, last, ⟨filled, all, iff_of_true ?_ rfl⟩,
        lastLegal last (by simp), rfl⟩
      have odd : ¬(before.length + 1) % 2 = 0 := fun even => nomatch parity.mp even
      change before.length % 2 = 0
      omega

theorem child_eq_ok_iff {child : Reference} :
    reference.child id = .ok child ↔ isSegment id = true ∧ child = reference.descend id := by
  rw [← childFault?_eq_none_iff]
  cases reference with
  | document parent =>
      rw [Reference.child, DocumentReference.collection, map_eq_ok_iff]
      cases childFault? id <;> simp [descend, eq_comm]
  | collection parent =>
      rw [Reference.child, CollectionReference.document, map_eq_ok_iff]
      cases childFault? id <;> simp [descend, eq_comm]

theorem parent_descend (valid : reference.IsValid) :
    (reference.descend id).parent = some reference := by
  cases reference with
  | document document =>
      have long : 2 ≤ document.segments.length := valid.two_le_length (fun root => nomatch root.1)
      have notShort : ¬(document.segments ++ [id]).length < 3 := by
        rw [List.length_append, List.length_singleton]
        omega
      simp only [descend, Reference.parent, CollectionReference.parent, if_neg notShort,
        List.dropLast_concat, Option.map_some]
  | collection collection =>
      simp only [descend, Reference.parent, DocumentReference.parent, List.dropLast_concat]

theorem parent_eq_none_of_isRoot (root : reference.IsRoot) : reference.parent = none := by
  obtain ⟨kind, one⟩ := root
  cases reference with
  | document document => cases kind
  | collection collection =>
      have short : collection.segments.length < 3 := by
        change collection.segments.length = 1 at one
        omega
      rw [Reference.parent, CollectionReference.parent, if_pos short, Option.map_none]

theorem parent_eq_none_iff (valid : reference.IsValid) :
    reference.parent = none ↔ reference.IsRoot := by
  constructor
  · intro orphan
    rcases valid.isRoot_or_descend with root | ⟨parent, id, parentValid, -, rfl⟩
    · exact root
    · rw [parent_descend parentValid] at orphan
      cases orphan
  · exact parent_eq_none_of_isRoot

/-- The parent of a valid reference is valid, and the reference is its child. -/
theorem parent_eq_some {parent : Reference} (valid : reference.IsValid)
    (found : reference.parent = some parent) :
    parent.IsValid ∧ isSegment reference.id = true ∧ reference = parent.descend reference.id := by
  rcases valid.isRoot_or_descend with root | ⟨above, id, aboveValid, legal, rfl⟩
  · rw [parent_eq_none_of_isRoot root] at found
    cases found
  · rw [parent_descend aboveValid] at found
    cases found
    rw [id_descend]
    exact ⟨aboveValid, legal, rfl⟩

/-- The reference after taking the parent a number of times. -/
def ancestor (reference : Reference) : (steps : Nat) → Option Reference
  | 0 => some reference
  | steps + 1 => reference.parent.bind fun parent => parent.ancestor steps

theorem exists_root_ancestor_iff (valid : reference.IsValid) (steps : Nat) :
    (∃ root, reference.ancestor steps = some root ∧ root.IsRoot) ↔
      steps + 1 = reference.segments.length := by
  induction steps generalizing reference with
  | zero =>
      simp only [ancestor, Option.some.injEq, exists_eq_left', Nat.zero_add]
      constructor
      · intro root
        exact root.2.symm
      · intro one
        by_contra notRoot
        have long := valid.two_le_length notRoot
        omega
  | succ steps ih =>
      rcases valid.isRoot_or_descend with root | ⟨parent, id, parentValid, -, rfl⟩
      · rw [ancestor, parent_eq_none_of_isRoot root, root.2]
        simp
      · rw [ancestor, parent_descend parentValid, Option.bind_some, ih parentValid,
          segments_descend, List.length_append, List.length_singleton, Nat.add_right_cancel_iff]

end DocStore.Reference
