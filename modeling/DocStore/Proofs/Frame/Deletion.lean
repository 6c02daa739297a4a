import DocStore.Proofs.Frame.Fault

/-! # The ids that a listener is told

A listener on a collection learns of documents by their references, and of deletions by an id. The
id of a document that was told of is one under which the collection has that document. The id of a
deletion is passed on as it was sent, so that it may be one that no document of the collection has.
-/

namespace DocStore

/-- A document is in the collection under its own id. -/
theorem IsDocumentOf.found {collection : CollectionReference} {value : Json} {document : Document}
    (isDocument : IsDocumentOf collection value document) :
    collection.document document.id = .ok document.reference := by
  obtain ⟨members, idValue, id, -, -, gives, reference, -⟩ := isDocument
  have segment : isSegment id = true := (givesId_iff.mp gives).2
  have same : document.id = id := by
    simp [Document.id, DocumentReference.id, reference]
  exact CollectionReference.document_eq_ok_iff.mpr ⟨same ▸ segment, same ▸ reference⟩

theorem found_of_documents {collection : CollectionReference} {items : List Json}
    {documents : List Document} (all : List.Forall₂ (IsDocumentOf collection) items documents) :
    ∀ document ∈ documents, collection.document document.id = .ok document.reference := by
  induction all with
  | nil => exact nofun
  | cons first _ ih => exact List.forall_mem_cons.mpr ⟨first.found, ih⟩

namespace Frame

variable {frame : Frame} {collection : CollectionReference} {fault : ReferenceFault} {id : String}

/-- A deletion under a text that is no id: the frame's name, or the id of its document if it has no
    name. -/
inductive MisnamesDeleted (frame : Frame) : ReferenceFault → Prop where
  | emptyName (named : frame.name = some "") : MisnamesDeleted frame .emptyChild
  | slashedName {name : String} (named : frame.name = some name) (slash : '/' ∈ name.toList) :
      MisnamesDeleted frame (.slashInChild name)
  | document {value : Json} {fault : ReferenceFault} (unnamed : frame.name = none)
      (given : frame.document = some value) (misnamed : DocStore.IsMisnamed value fault) :
      MisnamesDeleted frame fault

theorem deletedId?_of_named {name : String} (named : frame.name = some name) :
    frame.deletedId? = some name := by
  rw [deletedId?, named, Option.some_or]

theorem deletedId?_of_unnamed (unnamed : frame.name = none) :
    frame.deletedId? = some id ↔ ∃ members, frame.document = some (.object members) ∧
      (Members.find? members idKey).bind idText? = some id := by
  rw [deletedId?, unnamed, Option.none_or]
  cases frame.document with
  | none => simp
  | some value => cases value <;> simp [Json.get?, Members.find?]

theorem misnamesDeleted_iff :
    frame.MisnamesDeleted fault ↔
      ∃ id, frame.deletedId? = some id ∧ childFault? id = some fault := by
  constructor
  · intro misnames
    cases misnames with
    | emptyName named => exact ⟨"", deletedId?_of_named named, rfl⟩
    | slashedName named slash =>
        exact ⟨_, deletedId?_of_named named, childFault?_eq_some_iff.mpr (.inr ⟨slash, rfl⟩)⟩
    | @document value _ unnamed given misnamed =>
        obtain ⟨members, rfl⟩ : ∃ members, value = .object members := by
          cases misnamed <;> exact ⟨_, rfl⟩
        obtain ⟨id, found, wrong⟩ := isMisnamed_iff.mp misnamed
        exact ⟨id, (deletedId?_of_unnamed unnamed).mpr ⟨members, given, found⟩, wrong⟩
  · rintro ⟨id, told, wrong⟩
    cases named : frame.name with
    | some name =>
        rw [deletedId?_of_named named] at told
        cases told
        obtain ⟨rfl, rfl⟩ | ⟨slash, rfl⟩ := childFault?_eq_some_iff.mp wrong
        · exact .emptyName named
        · exact .slashedName named slash
    | none =>
        obtain ⟨members, given, found⟩ := (deletedId?_of_unnamed named).mp told
        exact .document named given (isMisnamed_iff.mpr ⟨id, found, wrong⟩)

theorem interpret_delete_collection (deletes : frame.operation = .delete)
    (told : frame.deletedId? = some id) :
    frame.interpret (.collection collection) = .ok (.event (.delete id)) := by
  rw [interpret.eq_def, deletes]
  dsimp only
  rw [told]

/-- Only a deletion tells of one, under the id that it gives. -/
theorem deletes_of_interpret (distinct : frame.HasDistinctKeys)
    (told : frame.interpret (.collection collection) = .ok (.event (.delete id))) :
    frame.operation = .delete ∧ frame.deletedId? = some id := by
  cases kind : frame.operation with
  | initial =>
      obtain ⟨documents, other, -⟩ := (interpret_initial_collection kind distinct).mp told
      cases other
  | update =>
      obtain ⟨value, document, -, -, other⟩ := (interpret_update_collection kind distinct).mp told
      cases other
  | delete =>
      rw [interpret.eq_def, kind] at told
      dsimp only at told
      split at told
      next given =>
          cases told
          exact ⟨rfl, given⟩
      next => cases told

theorem found_of_interpret {event : ListenerEvent} {document : Document}
    (distinct : frame.HasDistinctKeys)
    (told : frame.interpret (.collection collection) = .ok (.event event))
    (inside : document ∈ event.documents) :
    collection.document document.id = .ok document.reference := by
  cases kind : frame.operation with
  | initial =>
      obtain ⟨documents, same, all⟩ := (interpret_initial_collection kind distinct).mp told
      cases same
      exact found_of_documents all document inside
  | update =>
      obtain ⟨value, only, -, isDocument, same⟩ :=
        (interpret_update_collection kind distinct).mp told
      cases same
      cases List.mem_singleton.mp inside
      exact isDocument.found
  | delete =>
      rw [interpret.eq_def, kind] at told
      dsimp only at told
      split at told
      next =>
          cases told
          cases inside
      next => cases told

end Frame

namespace FrameMeaning

theorem exists_frame_of_event {text : String} {scope : Reference} {event : ListenerEvent}
    (told : ofText text scope = .ok (.event event)) :
    ∃ frame, Frame.ofText? text = some frame ∧ frame.interpret scope = .ok (.event event) :=
  exists_frame_of_ok told fun _ _ impossible => by cases impossible

/-- Which of the ids that a listener on a collection is told can be used there. Each document is
    found under its own id. A deletion can be matched with such a document exactly when its frame
    does not misname it: otherwise the id is passed on all the same, and the collection refuses
    it. -/
theorem told_ids_usable_iff (text : String) (collection : CollectionReference) :
    (∀ event, ofText text (.collection collection) = .ok (.event event) →
      ∀ document ∈ event.documents,
        collection.document document.id = .ok document.reference) ∧
    ((∀ id, ofText text (.collection collection) = .ok (.event (.delete id)) →
        ∃ reference, collection.document id = .ok reference) ↔
      ∀ frame fault, Frame.ofText? text = some frame → frame.operation = .delete →
        ¬ frame.MisnamesDeleted fault) ∧
    ∀ frame fault, Frame.ofText? text = some frame → frame.operation = .delete →
      frame.MisnamesDeleted fault →
        ∃ id, ofText text (.collection collection) = .ok (.event (.delete id)) ∧
          collection.document id = .error (.invalidReference collection.path fault) := by
  have refused (frame : Frame) (fault : ReferenceFault) (read : Frame.ofText? text = some frame)
      (deletes : frame.operation = .delete) (misnames : frame.MisnamesDeleted fault) :
      ∃ id, ofText text (.collection collection) = .ok (.event (.delete id)) ∧
        collection.document id = .error (.invalidReference collection.path fault) := by
    obtain ⟨id, given, wrong⟩ := Frame.misnamesDeleted_iff.mp misnames
    have reported : ofText text (.collection collection) = .ok (.event (.delete id)) :=
      (ofText_of_frame read _).trans (Frame.interpret_delete_collection deletes given)
    refine ⟨id, reported, ?_⟩
    rw [CollectionReference.document, wrong]
  refine ⟨fun event told document inside => ?_, ⟨?_, ?_⟩, refused⟩
  · obtain ⟨frame, read, told⟩ := exists_frame_of_event told
    exact Frame.found_of_interpret (Frame.hasDistinctKeys_of_ofText? read) told inside
  · intro usable frame fault read deletes misnames
    obtain ⟨id, told, wrong⟩ := refused frame fault read deletes misnames
    obtain ⟨reference, accepted⟩ := usable id told
    cases wrong.symm.trans accepted
  · intro named id told
    obtain ⟨frame, read, told⟩ := exists_frame_of_event told
    obtain ⟨deletes, given⟩ :=
      Frame.deletes_of_interpret (Frame.hasDistinctKeys_of_ofText? read) told
    have right : childFault? id = none := by
      refine Option.eq_none_iff_forall_ne_some.mpr fun fault wrong => ?_
      exact named frame fault read deletes (Frame.misnamesDeleted_iff.mpr ⟨id, given, wrong⟩)
    exact ⟨_, CollectionReference.document_eq_ok_iff.mpr ⟨childFault?_eq_none_iff.mp right, rfl⟩⟩

/-- The id of a deleted document that is empty is passed on, and refused. -/
theorem told_ids_usable_iff_emptyId :
    let text := "\x7b\"operationType\":\"delete\",\"document\":\x7b\"_id\":\"\"\x7d\x7d"
    let users : CollectionReference := ⟨["users"], "main"⟩
    ∃ id, ofText text (.collection users) = .ok (.event (.delete id)) ∧
      users.document id = .error (.invalidReference users.path .emptyChild) := by
  intro text users
  have read : Frame.ofText? text =
      some ⟨.delete, some (.object [("_id", .string "")]), none, none, none⟩ := by decide +kernel
  exact (told_ids_usable_iff text users).2.2 _ _ read rfl (.document rfl rfl (.empty rfl))

/-- A deletion is told under an id with a slash, which is refused for a document. -/
theorem deletion_under_slashed_name :
    let users : CollectionReference := ⟨["users"], "main"⟩
    ofText "\x7b\"operationType\":\"delete\",\"name\":\"a/b\"\x7d" (.collection users) =
        .ok (.event (.delete "a/b")) ∧
      ∀ reference, users.document "a/b" ≠ .ok reference := by
  refine ⟨by decide +kernel, fun reference accepted => ?_⟩
  cases (CollectionReference.document_eq_ok_iff.mp accepted).1

end FrameMeaning

end DocStore
