import DocStore.Proofs.Outcome
import DocStore.Proofs.Reference
import DocStore.Proofs.Text.Split

/-! # Paths of references

Segments and the path that is written for them determine each other. So a reference is read from a
path exactly when it is a valid one whose path this is, and a path is refused only for being empty
or having an empty part.
-/

namespace DocStore

/-- A path with a slash at one of its ends, or with two in a row. -/
def HasEmptyPart (path : String) : Prop :=
  path.toList.head? = some '/' ∨ path.toList.getLast? = some '/' ∨ ['/', '/'] <:+: path.toList

theorem joinSegments_splitText (path : String) : joinSegments (splitText '/' path) = path := by
  rw [joinSegments, splitText, List.map_map]
  simp only [Function.comp_def, String.toList_ofList, List.map_id']
  rw [intercalate_splitChars, String.ofList_toList]

theorem splitText_joinSegments {segments : List String} (filled : segments ≠ [])
    (all : ∀ segment ∈ segments, isSegment segment = true) :
    splitText '/' (joinSegments segments) = segments := by
  have notNil : segments.map String.toList ≠ [] := by
    intro empty
    exact filled (List.map_eq_nil_iff.mp empty)
  have free : ∀ part ∈ segments.map String.toList, '/' ∉ part := by
    intro part member
    obtain ⟨segment, inside, rfl⟩ := List.mem_map.mp member
    exact (isSegment_iff.mp (all segment inside)).2
  rw [joinSegments, splitText, String.toList_ofList, splitChars_intercalate notNil free,
    List.map_map]
  simp only [Function.comp_def, String.ofList_toList, List.map_id']

/-- The path of a child is written behind that of what it is in. -/
theorem joinSegments_concat {segments : List String} (filled : segments ≠ []) (id : String) :
    joinSegments (segments ++ [id]) = joinSegments segments ++ "/" ++ id := by
  have written : ∀ names : List String, names ≠ [] →
      ['/'].intercalate ((names ++ [id]).map String.toList) =
        ['/'].intercalate (names.map String.toList) ++ ['/'] ++ id.toList := by
    intro names filled
    induction names with
    | nil => exact absurd rfl filled
    | cons first rest ih =>
        cases rest with
        | nil => simp
        | cons second others =>
            have later := ih (List.cons_ne_nil second others)
            simp only [List.cons_append, List.map_cons, List.intercalate_cons_cons] at later ⊢
            rw [later]
            simp only [List.append_assoc]
  rw [joinSegments, joinSegments, written segments filled, String.ofList_append,
    String.ofList_append, String.ofList_toList]

theorem forall_isSegment_splitText_iff {path : String} :
    (∀ segment ∈ splitText '/' path, isSegment segment = true) ↔
      path ≠ "" ∧ ¬HasEmptyPart path := by
  have parts : (∀ segment ∈ splitText '/' path, isSegment segment = true) ↔
      [] ∉ splitChars '/' path.toList := by
    simp only [splitText, List.forall_mem_map, isSegment_iff, String.toList_ofList]
    constructor
    · intro all empty
      exact (all [] empty).1 rfl
    · intro filled part member
      exact ⟨fun empty => filled (empty ▸ member), free_of_mem_splitChars member⟩
  rw [parts, nil_mem_splitChars_iff, String.toList_eq_nil_iff, not_or]
  rfl

theorem pathSegments_eq_ok_iff {path : String} {segments : List String} :
    pathSegments path = .ok segments ↔
      (segments ≠ [] ∧ ∀ segment ∈ segments, isSegment segment = true) ∧
        joinSegments segments = path := by
  unfold pathSegments
  dsimp only
  constructor
  · intro read
    split at read
    next => cases read
    next =>
      split at read
      next => cases read
      next free =>
        cases read
        exact ⟨segmentsFault?_eq_none_iff.mp free, joinSegments_splitText path⟩
  · rintro ⟨⟨filled, all⟩, rfl⟩
    have split := splitText_joinSegments filled all
    have named : ¬(joinSegments segments).toList.isEmpty = true := by
      have legal := forall_isSegment_splitText_iff.mp (split.symm ▸ all)
      simpa using legal.1
    rw [if_neg named, split, segmentsFault?_eq_none_iff.mpr ⟨filled, all⟩]

namespace Reference

/-- What is read from a path is the one valid reference that has it. -/
theorem parse_eq_ok_iff {path database : String} {reference : Reference} :
    parse path database = .ok reference ↔
      reference.IsValid ∧ reference.database = database ∧ reference.path = path := by
  unfold parse
  rw [bind_eq_ok_iff]
  constructor
  · rintro ⟨segments, read, made⟩
    obtain ⟨-, joined⟩ := pathSegments_eq_ok_iff.mp read
    split at made
    next =>
      obtain ⟨document, found, same⟩ := bind_eq_ok_iff.mp made
      cases same
      obtain ⟨rfl, valid⟩ := DocumentReference.ofSegments_eq_ok_iff.mp found
      exact ⟨valid, rfl, joined⟩
    next =>
      obtain ⟨collection, found, same⟩ := bind_eq_ok_iff.mp made
      cases same
      obtain ⟨rfl, valid⟩ := CollectionReference.ofSegments_eq_ok_iff.mp found
      exact ⟨valid, rfl, joined⟩
  · rintro ⟨valid, rfl, rfl⟩
    refine ⟨reference.segments, pathSegments_eq_ok_iff.mpr
      ⟨⟨valid.filled, valid.segments⟩, rfl⟩, ?_⟩
    cases reference with
    | document document =>
        have made := DocumentReference.ofSegments_eq_ok_iff.mpr ⟨rfl, valid⟩
        rw [if_pos (valid.parity.mpr rfl)]
        exact bind_eq_ok_iff.mpr ⟨document, made, rfl⟩
    | collection collection =>
        have made := CollectionReference.ofSegments_eq_ok_iff.mpr ⟨rfl, valid⟩
        rw [if_neg fun even => Bool.false_ne_true (valid.parity.mp even)]
        exact bind_eq_ok_iff.mpr ⟨collection, made, rfl⟩

/-- A valid reference of any kind for segments that a path may have. -/
theorem exists_isValid {segments : List String} (filled : segments ≠ [])
    (all : ∀ segment ∈ segments, isSegment segment = true) (database : String) :
    ∃ reference : Reference,
      reference.IsValid ∧ reference.database = database ∧ reference.segments = segments := by
  by_cases even : segments.length % 2 = 0
  · exact ⟨.document ⟨segments, database⟩, ⟨filled, all, iff_of_true even rfl⟩, rfl, rfl⟩
  · exact ⟨.collection ⟨segments, database⟩, ⟨filled, all, iff_of_false even Bool.false_ne_true⟩,
      rfl, rfl⟩

theorem exists_parse_iff {path database : String} :
    (∃ reference, parse path database = .ok reference) ↔ path ≠ "" ∧ ¬HasEmptyPart path := by
  rw [← forall_isSegment_splitText_iff]
  constructor
  · rintro ⟨reference, read⟩
    obtain ⟨valid, -, rfl⟩ := parse_eq_ok_iff.mp read
    rw [path, splitText_joinSegments valid.filled valid.segments]
    exact valid.segments
  · intro all
    have filled : splitText '/' path ≠ [] := by
      rw [splitText, splitChars_eq_splitOn]
      exact fun empty => List.splitOn_ne_nil '/' _ (List.map_eq_nil_iff.mp empty)
    obtain ⟨reference, valid, inside, same⟩ := exists_isValid filled all database
    refine ⟨reference, parse_eq_ok_iff.mpr ⟨valid, inside, ?_⟩⟩
    rw [Reference.path, same, joinSegments_splitText]

end Reference

end DocStore
