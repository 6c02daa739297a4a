import DocStore.Proofs.Reference.Family

/-! # References that can be reached

What a caller can get hold of: a reference is constructed from a path or from segments, and from
there leads to children, parents and new documents in any order. Children and parents are made
without the checks of the constructors, so that what these ensure is an invariant of the whole way.
-/

namespace DocStore

theorem slash_ne_hexDigit {n : Nat} (small : n < 16) : hexDigit n ≠ '/' := by
  intro same
  have value := hexValue?_hexDigit small
  rw [same] at value
  cases value

theorem slash_notMem_hexDigits (count n : Nat) : '/' ∉ hexDigits count n := by
  induction count generalizing n with
  | zero => exact List.not_mem_nil
  | succ count ih =>
      have last : hexDigit (n % 16) ≠ '/' := slash_ne_hexDigit (Nat.mod_lt n (by decide))
      simp only [hexDigits, List.mem_append, List.mem_singleton, not_or]
      exact ⟨ih (n / 16), last.symm⟩

/-- Whatever the random bits are, a fresh id can be a segment. -/
theorem isSegment_generatedId (random : Nat) : isSegment (generatedId random) = true := by
  rw [isSegment_iff, generatedId, String.toList_ofList]
  constructor
  · intro empty
    have count := congrArg List.length empty
    simp at count
  · intro slash
    rcases List.mem_or_eq_of_mem_set slash with inside | variant
    · rcases List.mem_or_eq_of_mem_set inside with digit | version
      · exact slash_notMem_hexDigits _ _ digit
      · exact absurd version (by decide)
    · exact slash_ne_hexDigit (by omega) variant.symm

/-- The references of a database that a caller can come to. -/
inductive Reachable (database : String) : Reference → Prop where
  | parsed {path : String} {reference : Reference}
      (read : Reference.parse path database = .ok reference) : Reachable database reference
  | documentOfPath {path : String} {document : DocumentReference}
      (read : DocumentReference.parse path database = .ok document) :
      Reachable database (.document document)
  | documentOfSegments {segments : List String} {document : DocumentReference}
      (made : DocumentReference.ofSegments segments database = .ok document) :
      Reachable database (.document document)
  | collectionOfPath {path : String} {collection : CollectionReference}
      (read : CollectionReference.parse path database = .ok collection) :
      Reachable database (.collection collection)
  | collectionOfSegments {segments : List String} {collection : CollectionReference}
      (made : CollectionReference.ofSegments segments database = .ok collection) :
      Reachable database (.collection collection)
  | child {reference child : Reference} {id : String} (reached : Reachable database reference)
      (made : reference.child id = .ok child) : Reachable database child
  | collection {document : DocumentReference} {collection : CollectionReference} {id : String}
      (reached : Reachable database (.document document))
      (made : document.collection id = .ok collection) : Reachable database (.collection collection)
  | document {collection : CollectionReference} {document : DocumentReference} {id : String}
      (reached : Reachable database (.collection collection))
      (made : collection.document id = .ok document) : Reachable database (.document document)
  | newDocument {collection : CollectionReference} (random : Nat)
      (reached : Reachable database (.collection collection)) :
      Reachable database (.document (collection.newDocument random))
  | parent {reference parent : Reference} (reached : Reachable database reference)
      (found : reference.parent = some parent) : Reachable database parent
  | parentOfDocument {document : DocumentReference}
      (reached : Reachable database (.document document)) :
      Reachable database (.collection document.parent)
  | parentOfCollection {collection : CollectionReference} {document : DocumentReference}
      (reached : Reachable database (.collection collection))
      (found : collection.parent = some document) : Reachable database (.document document)

namespace Reference

variable {database : String} {reference : Reference}

/-- A valid reference of a database. -/
structure IsValidIn (database : String) (reference : Reference) : Prop where
  valid : reference.IsValid
  inside : reference.database = database

theorem IsValidIn.child {child : Reference} {id : String} (good : reference.IsValidIn database)
    (made : reference.child id = .ok child) : child.IsValidIn database := by
  obtain ⟨legal, rfl⟩ := child_eq_ok_iff.mp made
  exact ⟨good.valid.descend legal, by rw [database_descend, good.inside]⟩

theorem IsValidIn.parent {parent : Reference} (good : reference.IsValidIn database)
    (found : reference.parent = some parent) : parent.IsValidIn database := by
  obtain ⟨valid, -, same⟩ := parent_eq_some good.valid found
  refine ⟨valid, ?_⟩
  have inside := good.inside
  rwa [same, database_descend] at inside

theorem isValidIn_of_documentSegments {segments : List String} {document : DocumentReference}
    (made : DocumentReference.ofSegments segments database = .ok document) :
    (Reference.document document).IsValidIn database := by
  obtain ⟨rfl, valid⟩ := DocumentReference.ofSegments_eq_ok_iff.mp made
  exact ⟨valid, rfl⟩

theorem isValidIn_of_collectionSegments {segments : List String} {collection : CollectionReference}
    (made : CollectionReference.ofSegments segments database = .ok collection) :
    (Reference.collection collection).IsValidIn database := by
  obtain ⟨rfl, valid⟩ := CollectionReference.ofSegments_eq_ok_iff.mp made
  exact ⟨valid, rfl⟩

/-- The invariant of every reference that can be reached. -/
theorem isValidIn_of_reachable (reached : Reachable database reference) :
    reference.IsValidIn database := by
  induction reached with
  | parsed read =>
      obtain ⟨valid, inside, -⟩ := parse_eq_ok_iff.mp read
      exact ⟨valid, inside⟩
  | documentOfPath read =>
      obtain ⟨segments, -, made⟩ := bind_eq_ok_iff.mp read
      exact isValidIn_of_documentSegments made
  | documentOfSegments made => exact isValidIn_of_documentSegments made
  | collectionOfPath read =>
      obtain ⟨segments, -, made⟩ := bind_eq_ok_iff.mp read
      exact isValidIn_of_collectionSegments made
  | collectionOfSegments made => exact isValidIn_of_collectionSegments made
  | child _ made ih => exact ih.child made
  | collection _ made ih => exact ih.child (map_eq_ok_iff.mpr ⟨_, made, rfl⟩)
  | document _ made ih => exact ih.child (map_eq_ok_iff.mpr ⟨_, made, rfl⟩)
  | newDocument random _ ih =>
      exact ih.child (child_eq_ok_iff.mpr ⟨isSegment_generatedId random, rfl⟩)
  | parent _ found ih => exact ih.parent found
  | parentOfDocument _ ih => exact ih.parent rfl
  | parentOfCollection _ found ih => exact ih.parent (congrArg (Option.map _) found)

/-- Every reference that can be reached is a valid one of its database and is read back from its
    path; and a path is read unless it is empty or has an empty part, as a reference with this
    path. -/
theorem reachable_parse_path (database : String) :
    (∀ reference, Reachable database reference →
      reference.IsValid ∧ reference.database = database ∧
        parse reference.path reference.database = .ok reference) ∧
      ∀ path,
        ((∃ reference, parse path database = .ok reference) ↔ path ≠ "" ∧ ¬HasEmptyPart path) ∧
          ∀ reference, parse path database = .ok reference → reference.path = path := by
  constructor
  · intro reference reached
    obtain ⟨valid, inside⟩ := isValidIn_of_reachable reached
    exact ⟨valid, inside, parse_eq_ok_iff.mpr ⟨valid, rfl, rfl⟩⟩
  · intro path
    refine ⟨exists_parse_iff, ?_⟩
    intro reference read
    exact (parse_eq_ok_iff.mp read).2.2

theorem reachable_parse_path_newDocument :
    Reachable "main" (.document (CollectionReference.newDocument ⟨["users"], "main"⟩ 7)) ∧
      parse "users/00000000000040008000000000000007" "main" =
        .ok (.document (CollectionReference.newDocument ⟨["users"], "main"⟩ 7)) := by
  have root : Reachable "main" (.collection ⟨["users"], "main"⟩) :=
    @Reachable.parsed "main" "users" _ (by decide)
  have reached := root.newDocument 7
  have path : Reference.path (.document (CollectionReference.newDocument ⟨["users"], "main"⟩ 7)) =
      "users/00000000000040008000000000000007" := by decide
  obtain ⟨-, -, read⟩ := (reachable_parse_path "main").1 _ reached
  rw [path] at read
  exact ⟨reached, read⟩

/-- What a child says of the reference it is in. -/
structure IsChildOf (parent : Reference) (id : String) (child : Reference) : Prop where
  kind : child.isDocument = !parent.isDocument
  path : child.path = parent.path ++ "/" ++ id
  named : child.id = id
  inside : child.database = parent.database
  upward : child.parent = some parent

theorem IsValid.isChildOf_descend {id : String} (valid : reference.IsValid) :
    IsChildOf reference id (reference.descend id) where
  kind := isDocument_descend reference id
  path := by rw [path, segments_descend, joinSegments_concat valid.filled, path]
  named := id_descend reference id
  inside := database_descend reference id
  upward := parent_descend valid

/-- To take a child and to take the parent undo each other, and the parents of a reference end
    with a root collection. The references of one kind do as those of either kind. -/
theorem reachable_child_parent (reached : Reachable database reference) :
    (∀ id,
        ((∃ child, reference.child id = .ok child) ↔ id ≠ "" ∧ '/' ∉ id.toList) ∧
          ∀ child, reference.child id = .ok child → IsChildOf reference id child) ∧
      (reference.parent = none ↔ reference.IsRoot) ∧
      (∀ parent, reference.parent = some parent → parent.child reference.id = .ok reference) ∧
      (∀ steps, (∃ root, reference.ancestor steps = some root ∧ root.IsRoot) ↔
        steps + 1 = reference.segments.length) ∧
      match reference with
      | .document own =>
          (∀ id, reference.child id = (own.collection id).map .collection) ∧
            reference.parent = some (.collection own.parent)
      | .collection own =>
          (∀ id, reference.child id = (own.document id).map .document) ∧
            reference.parent = own.parent.map .document := by
  have valid := (isValidIn_of_reachable reached).valid
  refine ⟨?_, parent_eq_none_iff valid, ?_, exists_root_ancestor_iff valid, ?_⟩
  · intro id
    have legal : isSegment id = true ↔ id ≠ "" ∧ '/' ∉ id.toList := by
      rw [isSegment_iff, ne_eq, String.toList_eq_nil_iff]
    constructor
    · rw [← legal]
      constructor
      · rintro ⟨child, made⟩
        exact (child_eq_ok_iff.mp made).1
      · intro isLegal
        exact ⟨_, child_eq_ok_iff.mpr ⟨isLegal, rfl⟩⟩
    · intro child made
      obtain ⟨-, rfl⟩ := child_eq_ok_iff.mp made
      exact valid.isChildOf_descend
  · intro parent found
    obtain ⟨-, legal, same⟩ := parent_eq_some valid found
    exact child_eq_ok_iff.mpr ⟨legal, same⟩
  · cases reference with
    | document own => exact ⟨fun _ => rfl, rfl⟩
    | collection own => exact ⟨fun _ => rfl, rfl⟩

theorem reachable_child_parent_subcollection :
    Reachable "main" (.collection ⟨["users", "ada", "posts"], "main"⟩) ∧
      IsChildOf (.collection ⟨["users", "ada", "posts"], "main"⟩) "p 1"
        (.document ⟨["users", "ada", "posts", "p 1"], "main"⟩) ∧
      ∃ root, ancestor (.collection ⟨["users", "ada", "posts"], "main"⟩) 2 = some root ∧
        root.IsRoot := by
  have reached : Reachable "main" (.collection ⟨["users", "ada", "posts"], "main"⟩) :=
    @Reachable.parsed "main" "users/ada/posts" _ (by decide)
  obtain ⟨children, -, -, ancestors, -⟩ := reachable_child_parent reached
  exact ⟨reached, (children "p 1").2 _ (by decide), (ancestors 2).mpr rfl⟩

end Reference

end DocStore
