import DocStore.Proofs.Frame.Scope

/-! # Faults of frames

A text that is no frame, or whose frame lacks what it has to say, is malformed data. A listener on a
collection has one more fault: an id that is a text but no segment of a path is found by the check
of references, and counts as a fault of the caller's own input.
-/

namespace DocStore

/-- An object on the wire whose id is a text, but none for a document of a collection. -/
inductive IsMisnamed : Json → ReferenceFault → Prop where
  | empty {members : Members} (found : members.find? idKey = some (.string "")) :
      IsMisnamed (.object members) .emptyChild
  | slashed {members : Members} {id : String} (found : members.find? idKey = some (.string id))
      (slash : '/' ∈ id.toList) : IsMisnamed (.object members) (.slashInChild id)

namespace Frame

/-- The documents that a frame delivers. -/
def delivered (frame : Frame) : List Json :=
  match frame.operation with
  | .initial => frame.documents.getD []
  | .update => frame.document.toList
  | .delete => []

/-- The first of a frame's documents that is not identified is misnamed. -/
def IsMisnamed (frame : Frame) (fault : ReferenceFault) : Prop :=
  ∃ before value after, frame.delivered = before ++ value :: after ∧
    (∀ item ∈ before, IsIdentified item) ∧ DocStore.IsMisnamed value fault

end Frame

theorem childFault?_eq_some_iff {id : String} {fault : ReferenceFault} :
    childFault? id = some fault ↔
      id = "" ∧ fault = .emptyChild ∨ '/' ∈ id.toList ∧ fault = .slashInChild id := by
  rw [childFault?]
  split
  next empty =>
      obtain rfl : id = "" := by simpa using empty
      simp [eq_comm]
  next filled =>
      have notEmpty : id ≠ "" := by simpa using filled
      split
      next slash =>
          have inside : '/' ∈ id.toList := by simpa using slash
          simp only [notEmpty, inside, false_and, true_and, false_or, Option.some.injEq, eq_comm]
      next flat =>
          have outside : '/' ∉ id.toList := by simpa using flat
          simp [notEmpty, outside]

theorem isMisnamed_iff {members : Members} {fault : ReferenceFault} :
    IsMisnamed (.object members) fault ↔
      ∃ id, (members.find? idKey).bind idText? = some id ∧ childFault? id = some fault := by
  constructor
  · intro misnamed
    cases misnamed with
    | empty found => exact ⟨"", by rw [found]; rfl, rfl⟩
    | slashed found slash =>
        exact ⟨_, by rw [found]; rfl, childFault?_eq_some_iff.mpr (.inr ⟨slash, rfl⟩)⟩
  · rintro ⟨id, given, wrong⟩
    obtain ⟨idValue, found, given⟩ := Option.bind_eq_some_iff.mp given
    cases idValue with
    | string text =>
        cases given
        obtain ⟨rfl, rfl⟩ | ⟨slash, rfl⟩ := childFault?_eq_some_iff.mp wrong
        · exact .empty found
        · exact .slashed found slash
    | number value =>
        cases given
        rw [childFault?_eq_none_iff.mpr value.isSegment_text] at wrong
        cases wrong
    | null | bool | array | object => cases given

theorem detachId_eq_error {value : Json} {error : Error} (failed : detachId value = .error error) :
    ∃ fault, error = .serialization fault := by
  cases value with
  | object => cases failed
  | null | bool | number | string | array =>
      cases failed
      exact ⟨_, rfl⟩

namespace Document

variable {collection : CollectionReference} {value : Json} {error : Error}

theorem ofWire_eq_error {reference : DocumentReference}
    (failed : ofWire reference value = .error error) : ∃ fault, error = .serialization fault := by
  obtain failed | ⟨_, _, impossible⟩ := bind_eq_error_iff.mp failed
  · exact detachId_eq_error failed
  · cases impossible

/-- A document that a collection does not take is malformed data, or misnamed. -/
theorem ofWireIn_eq_error (failed : ofWireIn collection value = .error error) :
    (∃ fault, error = .serialization fault) ∨
      ∃ fault, IsMisnamed value fault ∧ error = .invalidReference collection.path fault := by
  obtain failed | ⟨found, detached, failed⟩ := bind_eq_error_iff.mp failed
  · exact .inl (detachId_eq_error failed)
  · obtain ⟨members, rfl, rfl⟩ := detachId_eq_ok_iff.mp detached
    dsimp only at failed
    split at failed
    next =>
        cases failed
        exact .inl ⟨_, rfl⟩
    next id given =>
        obtain refused | ⟨_, _, impossible⟩ := bind_eq_error_iff.mp failed
        · rw [CollectionReference.document] at refused
          split at refused
          next fault wrong =>
              cases refused
              exact .inr ⟨fault, isMisnamed_iff.mpr ⟨id, given, wrong⟩, rfl⟩
          next => cases refused
        · cases impossible

theorem ofWireIn_of_isMisnamed {fault : ReferenceFault} (misnamed : IsMisnamed value fault) :
    ofWireIn collection value = .error (.invalidReference collection.path fault) := by
  obtain ⟨members, rfl⟩ : ∃ members, value = .object members := by cases misnamed <;> exact ⟨_, rfl⟩
  obtain ⟨id, given, wrong⟩ := isMisnamed_iff.mp misnamed
  refine bind_eq_error_iff.mpr (.inr ⟨_, detachId_eq_ok_iff.mpr ⟨members, rfl, rfl⟩, ?_⟩)
  rw [given]
  refine bind_eq_error_iff.mpr (.inl ?_)
  rw [CollectionReference.document, wrong]

end Document

namespace Frame

variable {frame : Frame} {collection : CollectionReference} {error : Error}

theorem interpret_collection_eq_error (distinct : frame.HasDistinctKeys)
    (failed : frame.interpret (.collection collection) = .error error) :
    (∃ fault, error = .serialization fault) ∨
      ∃ fault, frame.IsMisnamed fault ∧ error = .invalidReference collection.path fault := by
  rw [interpret.eq_def] at failed
  cases kind : frame.operation with
  | initial =>
      rw [kind] at failed
      obtain failed | ⟨_, _, impossible⟩ := bind_eq_error_iff.mp failed
      · obtain failed | ⟨_, _, impossible⟩ := bind_eq_error_iff.mp failed
        · obtain ⟨before, value, after, split, passed, failed⟩ := mapM_eq_error_iff.mp failed
          refine (Document.ofWireIn_eq_error failed).imp_right ?_
          rintro ⟨fault, misnamed, rfl⟩
          have isDelivered : frame.delivered = before ++ value :: after := by
            rw [delivered, kind, ← split]
          refine ⟨fault, ⟨before, value, after, isDelivered, ?_, misnamed⟩, rfl⟩
          intro item inside
          obtain ⟨document, made⟩ := passed item inside
          have itemDistinct := distinct.documents item (by simp [split, inside])
          rw [Document.ofWireIn_eq_ok_iff itemDistinct] at made
          exact (exists_isDocumentOf_iff collection).mp ⟨document, made⟩
        · cases impossible
      · cases impossible
  | update =>
      rw [kind] at failed
      dsimp only at failed
      split at failed
      next =>
          cases failed
          exact .inl ⟨_, rfl⟩
      next value given =>
          obtain failed | ⟨_, _, impossible⟩ := bind_eq_error_iff.mp failed
          · refine (Document.ofWireIn_eq_error failed).imp_right ?_
            rintro ⟨fault, misnamed, rfl⟩
            have isDelivered : frame.delivered = [value] := by
              rw [delivered, kind, given]
              rfl
            exact ⟨fault, ⟨[], value, [], isDelivered, List.forall_mem_nil _, misnamed⟩, rfl⟩
          · cases impossible
  | delete =>
      rw [kind] at failed
      dsimp only at failed
      split at failed
      next => cases failed
      next =>
          cases failed
          exact .inl ⟨_, rfl⟩

theorem interpret_of_isMisnamed {fault : ReferenceFault} (distinct : frame.HasDistinctKeys)
    (misnamed : frame.IsMisnamed fault) :
    frame.interpret (.collection collection) =
      .error (.invalidReference collection.path fault) := by
  obtain ⟨before, value, after, split, identified, misnamed⟩ := misnamed
  have failed : Document.ofWireIn collection value =
      .error (.invalidReference collection.path fault) :=
    Document.ofWireIn_of_isMisnamed misnamed
  rw [delivered] at split
  rw [interpret.eq_def]
  cases kind : frame.operation with
  | initial =>
      rw [kind] at split
      have passed : ∀ item ∈ before,
          ∃ document, Document.ofWireIn collection item = .ok document := by
        intro item inside
        have itemDistinct := distinct.documents item (by simp [split, inside])
        simp only [Document.ofWireIn_eq_ok_iff itemDistinct]
        exact (exists_isDocumentOf_iff collection).mpr (identified item inside)
      have stopped : Collection.ofItems collection (frame.documents.getD []) =
          .error (.invalidReference collection.path fault) :=
        bind_eq_error_iff.mpr
          (.inl (mapM_eq_error_iff.mpr ⟨before, value, after, split, passed, failed⟩))
      exact bind_eq_error_iff.mpr (.inl stopped)
  | update =>
      rw [kind] at split
      cases given : frame.document with
      | none => simp [given] at split
      | some only =>
          obtain ⟨rfl, rfl, rfl⟩ : before = [] ∧ value = only ∧ after = [] := by
            cases before <;> simp_all
          exact bind_eq_error_iff.mpr (.inl failed)
  | delete =>
      rw [kind] at split
      simp at split

theorem interpret_document_eq_error {reference : DocumentReference}
    (failed : frame.interpret (.document reference) = .error error) :
    ∃ fault, error = .serialization fault := by
  rw [interpret.eq_def] at failed
  cases kind : frame.operation with
  | initial =>
      rw [kind] at failed
      obtain failed | ⟨_, _, impossible⟩ := bind_eq_error_iff.mp failed
      · unfold initialDocument at failed
        split at failed
        next => cases failed
        next value given => exact Document.ofWire_eq_error (map_eq_error_iff.mp failed)
      · cases impossible
  | update =>
      rw [kind] at failed
      dsimp only at failed
      split at failed
      next =>
          cases failed
          exact ⟨_, rfl⟩
      next value given =>
          obtain failed | ⟨_, _, impossible⟩ := bind_eq_error_iff.mp failed
          · exact Document.ofWire_eq_error failed
          · cases impossible
  | delete =>
      rw [kind] at failed
      cases failed

end Frame

namespace FrameMeaning

/-- Which texts are malformed data and nothing else: all of them for a listener on a document, and
    for one on a collection those without a misnamed document. Such a document is blamed on the
    caller. -/
theorem ofText_error (text : String) (scope : Reference) :
    ((∀ error, ofText text scope = .error error → ∃ fault, error = .serialization fault) ↔
      ∀ collection frame fault, scope = .collection collection →
        Frame.ofText? text = some frame → ¬ frame.IsMisnamed fault) ∧
    ∀ collection frame fault, Frame.ofText? text = some frame → frame.IsMisnamed fault →
      ofText text (.collection collection) =
        .error (.invalidReference collection.path fault) := by
  have blamed (collection : CollectionReference) (frame : Frame) (fault : ReferenceFault)
      (read : Frame.ofText? text = some frame) (misnamed : frame.IsMisnamed fault) :
      ofText text (.collection collection) = .error (.invalidReference collection.path fault) := by
    have distinct := Frame.hasDistinctKeys_of_ofText? read
    exact (ofText_of_frame read _).trans (Frame.interpret_of_isMisnamed distinct misnamed)
  refine ⟨⟨?_, ?_⟩, blamed⟩
  · rintro malformed collection frame fault rfl read misnamed
    obtain ⟨other, impossible⟩ := malformed _ (blamed collection frame fault read misnamed)
    cases impossible
  · intro named error failed
    obtain ⟨frame, read⟩ | ⟨message, details, reported⟩ | ⟨fault, malformed⟩ :=
      ofText_cases text scope
    · rw [ofText_of_frame read] at failed
      cases scope with
      | document reference => exact Frame.interpret_document_eq_error failed
      | collection collection =>
          have distinct := Frame.hasDistinctKeys_of_ofText? read
          refine (Frame.interpret_collection_eq_error distinct failed).resolve_right ?_
          rintro ⟨fault, misnamed, -⟩
          exact named collection frame fault rfl read misnamed
    · cases reported.symm.trans failed
    · cases malformed.symm.trans failed
      exact ⟨fault, rfl⟩

/-- An update of a document whose id is empty. -/
theorem ofText_error_emptyId :
    ofText "\x7b\"operationType\":\"update\",\"document\":\x7b\"_id\":\"\"\x7d\x7d"
        (.collection ⟨["users"], "main"⟩) =
      .error (.invalidReference "users" .emptyChild) := by
  have misnamed : IsMisnamed (.object [("_id", .string "")]) .emptyChild := .empty rfl
  refine (ofText_error _ (.collection ⟨["users"], "main"⟩)).2 ⟨["users"], "main"⟩
    ⟨.update, some (.object [("_id", .string "")]), none, none, none⟩ _ ?_
    ⟨[], _, [], rfl, List.forall_mem_nil _, misnamed⟩
  decide +kernel

/-- What the server sends is blamed on the caller: an initial state with a slash in an id. -/
theorem ofText_blames_caller :
    ∃ error,
      ofText "\x7b\"operationType\":\"initial\",\"documents\":[\x7b\"_id\":\"a/b\"\x7d]\x7d"
          (.collection ⟨["users"], "main"⟩) = .error error ∧
        error.isInputFault = true ∧ ∀ fault, error ≠ .serialization fault := by
  refine ⟨.invalidReference "users" (.slashInChild "a/b"), ?_, rfl, nofun⟩
  decide +kernel

end FrameMeaning

end DocStore
