import DocStore.Frame
import DocStore.Proofs.Json.Distinct
import DocStore.Proofs.Number.Text
import DocStore.Proofs.Outcome

/-! # Frames in a listener's scope

Whatever the server sends, a listener is told of documents in its own scope only: a listener on a
collection of documents of that collection, which their ids name, and a listener on a document of
that document, whatever its id. The fields of a document are those that were sent, in their order,
without the id.
-/

namespace DocStore

/-- The frame of a text that reports no error of the server. -/
def Frame.ofText? (text : String) : Option Frame := do
  let value ← Json.parse? text
  if (reportedError? value).isSome then none else ofJson? value

/-- The documents that an event hands out. -/
def ListenerEvent.documents : ListenerEvent → List Document
  | .initialCollection collection => collection.documents
  | .initialDocument document => document.toList
  | .update document _ _ => [document]
  | .delete _ => []

/-- The id that a value gives to a document of a collection. A number gives its digits, and a text
    itself, if it can be a segment of a path. -/
inductive GivesId : Json → String → Prop where
  | number (value : JsonNumber) : GivesId (.number value) (String.ofList value.text)
  | string {text : String} (filled : text ≠ "") (flat : '/' ∉ text.toList) :
      GivesId (.string text) text

/-- An object whose member for the id gives one. -/
def IsIdentified (value : Json) : Prop :=
  ∃ members idValue id, value = .object members ∧ Members.find? members idKey = some idValue ∧
    GivesId idValue id

/-- The document of a collection that an object on the wire stands for: its id makes its reference,
    and its other members are the fields. -/
def IsDocumentOf (collection : CollectionReference) (value : Json) (document : Document) : Prop :=
  ∃ members idValue id, value = .object members ∧ Members.find? members idKey = some idValue ∧
    GivesId idValue id ∧
    document.reference = ⟨collection.segments ++ [id], collection.database⟩ ∧
    document.fields = members.filter fun member => member.1 ≠ idKey

/-- The state of a document that an object on the wire stands for: the reference is known, whatever
    the object's id, and its other members are the fields. -/
def IsStateOf (reference : DocumentReference) (value : Json) (document : Document) : Prop :=
  ∃ members, value = .object members ∧ document.reference = reference ∧
    document.fields = members.filter fun member => member.1 ≠ idKey

theorem givesId_iff {value : Json} {id : String} :
    GivesId value id ↔ idText? value = some id ∧ isSegment id = true := by
  cases value with
  | string text =>
      constructor
      · intro gives
        cases gives with
        | string filled flat => exact ⟨rfl, isSegment_iff.mpr ⟨by simpa using filled, flat⟩⟩
      · rintro ⟨same, segment⟩
        cases same
        obtain ⟨filled, flat⟩ := isSegment_iff.mp segment
        exact .string (by simpa using filled) flat
  | number value =>
      constructor
      · intro gives
        cases gives
        exact ⟨rfl, value.isSegment_text⟩
      · rintro ⟨same, -⟩
        cases same
        exact .number value
  | null | bool | array | object =>
      constructor
      · intro gives
        cases gives
      · rintro ⟨impossible, -⟩
        cases impossible

theorem detachId_eq_ok_iff {value : Json} {found : Option String × Members} :
    detachId value = .ok found ↔
      ∃ members, value = .object members ∧
        found = ((Members.find? members idKey).bind idText?, Members.erase members idKey) := by
  cases value with
  | object members => simp [detachId, eq_comm]
  | _ => simp [detachId]

namespace Document

theorem ofWire_eq_ok_iff {reference : DocumentReference} {value : Json} {document : Document} :
    ofWire reference value = .ok document ↔
      ∃ members, value = .object members ∧ document = ⟨reference, Members.erase members idKey⟩ := by
  simp only [ofWire, bind_eq_ok_iff, detachId_eq_ok_iff]
  constructor
  · rintro ⟨_, ⟨members, rfl, rfl⟩, made⟩
    cases made
    exact ⟨members, rfl, rfl⟩
  · rintro ⟨members, rfl, rfl⟩
    exact ⟨_, ⟨members, rfl, rfl⟩, rfl⟩

theorem ofWire_eq_ok_iff_isStateOf {reference : DocumentReference} {value : Json}
    {document : Document} (distinct : value.HasDistinctKeys) :
    ofWire reference value = .ok document ↔ IsStateOf reference value document := by
  rw [ofWire_eq_ok_iff]
  -- Only the first member of the id's key is removed; distinct keys make it the only one.
  constructor
  · rintro ⟨members, rfl, rfl⟩
    cases distinct with
    | object different => exact ⟨members, rfl, rfl, Members.erase_eq_filter different idKey⟩
  · rintro ⟨members, rfl, same, fields⟩
    cases distinct with
    | object different =>
        refine ⟨members, rfl, ?_⟩
        rw [Members.erase_eq_filter different, ← fields, ← same]

/-- A listener on a collection is told of a document exactly when the object is identified. -/
theorem ofWireIn_eq_ok_iff {collection : CollectionReference} {value : Json} {document : Document}
    (distinct : value.HasDistinctKeys) :
    ofWireIn collection value = .ok document ↔ IsDocumentOf collection value document := by
  simp only [ofWireIn, bind_eq_ok_iff, detachId_eq_ok_iff, IsDocumentOf, givesId_iff]
  constructor
  · rintro ⟨_, ⟨members, rfl, rfl⟩, made⟩
    cases distinct with
    | object different =>
        split at made
        next => cases made
        next id given =>
            obtain ⟨reference, accepted, made⟩ := bind_eq_ok_iff.mp made
            obtain ⟨segment, rfl⟩ := CollectionReference.document_eq_ok_iff.mp accepted
            obtain ⟨idValue, found, given⟩ := Option.bind_eq_some_iff.mp given
            cases made
            exact ⟨members, idValue, id, rfl, found, ⟨given, segment⟩, rfl,
              Members.erase_eq_filter different idKey⟩
  · rintro ⟨members, idValue, id, rfl, found, ⟨given, segment⟩, reference, fields⟩
    cases distinct with
    | object different =>
        refine ⟨_, ⟨members, rfl, rfl⟩, ?_⟩
        rw [found, Option.bind_some, given, Members.erase_eq_filter different]
        refine bind_eq_ok_iff.mpr
          ⟨_, CollectionReference.document_eq_ok_iff.mpr ⟨segment, rfl⟩, ?_⟩
        rw [← reference, ← fields]
        rfl

end Document

theorem IsStateOf.idKey_notMem {reference : DocumentReference} {value : Json} {document : Document}
    (isState : IsStateOf reference value document) : idKey ∉ Members.keys document.fields := by
  obtain ⟨members, -, -, fields⟩ := isState
  rw [fields]
  simp [Members.keys]

theorem IsStateOf.reference_eq {reference : DocumentReference} {value : Json} {document : Document}
    (isState : IsStateOf reference value document) : document.reference = reference := by
  obtain ⟨members, -, same, -⟩ := isState
  exact same

theorem exists_isDocumentOf_iff (collection : CollectionReference) {value : Json} :
    (∃ document, IsDocumentOf collection value document) ↔ IsIdentified value := by
  constructor
  · rintro ⟨document, members, idValue, id, same, found, gives, -⟩
    exact ⟨members, idValue, id, same, found, gives⟩
  · rintro ⟨members, idValue, id, same, found, gives⟩
    exact ⟨⟨_, _⟩, members, idValue, id, same, found, gives, rfl, rfl⟩

theorem exists_documents_iff (collection : CollectionReference) {items : List Json} :
    (∃ documents, List.Forall₂ (IsDocumentOf collection) items documents) ↔
      ∀ item ∈ items, IsIdentified item := by
  simp only [exists_forall₂_iff, exists_isDocumentOf_iff]

theorem Collection.ofItems_eq_ok_iff {reference : CollectionReference} {items : List Json}
    {collection : Collection} (distinct : ∀ item ∈ items, item.HasDistinctKeys) :
    ofItems reference items = .ok collection ↔
      ∃ documents, collection = ⟨reference, documents⟩ ∧
        List.Forall₂ (IsDocumentOf reference) items documents := by
  have each (documents : List Document) :
      List.Forall₂ (fun item document => Document.ofWireIn reference item = .ok document) items
        documents ↔ List.Forall₂ (IsDocumentOf reference) items documents := by
    induction items generalizing documents with
    | nil => simp
    | cons item rest ih =>
        obtain ⟨first, later⟩ := List.forall_mem_cons.mp distinct
        simp only [List.forall₂_cons_left_iff, Document.ofWireIn_eq_ok_iff first, ih later]
  simp only [ofItems, bind_eq_ok_iff, mapM_eq_ok_iff, each]
  constructor
  · rintro ⟨documents, all, made⟩
    cases made
    exact ⟨documents, rfl, all⟩
  · rintro ⟨documents, rfl, all⟩
    exact ⟨documents, all, rfl⟩

namespace Frame

variable {frame : Frame} {text : String}

/-- No object in a frame's documents has a key twice. -/
structure HasDistinctKeys (frame : Frame) : Prop where
  document : ∀ value, frame.document = some value → value.HasDistinctKeys
  documents : ∀ item ∈ frame.documents.getD [], item.HasDistinctKeys

theorem optionalMember?_eq_some_iff {members : Members} {name : String} {value : Json} :
    optionalMember? members name = some value ↔
      members.find? name = some value ∧ value ≠ .null := by
  unfold optionalMember?
  split
  next isNull => simp [isNull, eq_comm]
  next absent => simp [absent]
  next other found =>
      rw [found, Option.some.injEq]
      exact ⟨fun same => ⟨same, same ▸ other⟩, And.left⟩

theorem hasDistinctKeys_of_member {names : List String} {value found : Json} {members : Members}
    {name : String} (distinct : value.HasDistinctKeys)
    (read : recordMembers? names value = some members)
    (asked : optionalMember? members name = some found) : found.HasDistinctKeys := by
  have inside : (name, found) ∈ members :=
    Members.mem_of_find? (optionalMember?_eq_some_iff.mp asked).1
  cases distinct with
  | object _ all =>
      cases read
      exact all _ inside
  | array all =>
      rw [recordMembers?] at read
      split at read
      next =>
          cases read
          exact all found (List.of_mem_zip inside).2
      next => cases read
  | null | bool | number | string => cases read

theorem hasDistinctKeys_of_ofJson? {value : Json} (distinct : value.HasDistinctKeys)
    (read : ofJson? value = some frame) : frame.HasDistinctKeys := by
  unfold ofJson? at read
  obtain ⟨members, readMembers, read⟩ := Option.bind_eq_some_iff.mp read
  obtain ⟨operation, readOperation, read⟩ := Option.bind_eq_some_iff.mp read
  obtain ⟨name, readName, read⟩ := Option.bind_eq_some_iff.mp read
  obtain ⟨documents, readDocuments, read⟩ := Option.bind_eq_some_iff.mp read
  obtain ⟨change, readChange, read⟩ := Option.bind_eq_some_iff.mp read
  cases read
  refine ⟨fun value asked => hasDistinctKeys_of_member distinct readMembers asked, ?_⟩
  cases asked : optionalMember? members "documents" with
  | none =>
      rw [asked] at readDocuments
      cases readDocuments
      exact nofun
  | some found =>
      have foundDistinct := hasDistinctKeys_of_member distinct readMembers asked
      rw [asked] at readDocuments
      cases foundDistinct with
      | array all =>
          cases readDocuments
          exact all
      | null | bool | number | string | object => cases readDocuments

theorem hasDistinctKeys_of_ofText? (read : ofText? text = some frame) : frame.HasDistinctKeys := by
  obtain ⟨value, parsed, read⟩ := Option.bind_eq_some_iff.mp read
  have distinct := Json.hasDistinctKeys_of_parse? parsed
  split at read
  next => cases read
  next => exact hasDistinctKeys_of_ofJson? distinct read

end Frame

namespace FrameMeaning

theorem ofText_of_frame {text : String} {frame : Frame} (read : Frame.ofText? text = some frame)
    (scope : Reference) : ofText text scope = frame.interpret scope := by
  obtain ⟨value, parsed, read⟩ := Option.bind_eq_some_iff.mp read
  split at read
  next => cases read
  next unreported =>
      rw [Bool.not_eq_true, Option.isSome_eq_false_iff, Option.isNone_iff_eq_none] at unreported
      rw [ofText, parsed]
      dsimp only
      rw [ofJson, unreported]
      dsimp only
      rw [read]

/-- What a text means is what its frame means, an error of the server, or that it is malformed. -/
theorem ofText_cases (text : String) (scope : Reference) :
    (∃ frame, Frame.ofText? text = some frame) ∨
      (∃ message details, ofText text scope = .ok (.serverError message details)) ∨
      ∃ fault, ofText text scope = .error (.serialization fault) := by
  unfold ofText Frame.ofText?
  cases Json.parse? text with
  | none => exact .inr (.inr ⟨.malformedText, rfl⟩)
  | some value =>
      cases reported : reportedError? value with
      | some error => exact .inr (.inl ⟨serverMessage error, error, by simp [ofJson, reported]⟩)
      | none =>
          cases read : Frame.ofJson? value with
          | none => exact .inr (.inr ⟨.malformedFrame, by simp [ofJson, reported, read]⟩)
          | some frame => exact .inl ⟨frame, by simp [reported, read]⟩

theorem exists_frame_of_ok {text : String} {scope : Reference} {meaning : FrameMeaning}
    (told : ofText text scope = .ok meaning)
    (unreported : ∀ message details, meaning ≠ .serverError message details) :
    ∃ frame, Frame.ofText? text = some frame ∧ frame.interpret scope = .ok meaning := by
  obtain ⟨frame, read⟩ | ⟨message, details, other⟩ | ⟨fault, other⟩ := ofText_cases text scope
  · exact ⟨frame, read, (ofText_of_frame read scope).symm.trans told⟩
  · cases other.symm.trans told
    exact absurd rfl (unreported message details)
  · cases other.symm.trans told

end FrameMeaning

namespace Frame

variable {frame : Frame} {meaning : FrameMeaning} {collection : CollectionReference}

theorem interpret_initial_collection (initial : frame.operation = .initial)
    (distinct : frame.HasDistinctKeys) :
    frame.interpret (.collection collection) = .ok meaning ↔
      ∃ documents, meaning = .event (.initialCollection ⟨collection, documents⟩) ∧
        List.Forall₂ (IsDocumentOf collection) (frame.documents.getD []) documents := by
  simp only [interpret, initial, bind_eq_ok_iff, Collection.ofItems_eq_ok_iff distinct.documents]
  constructor
  · rintro ⟨_, ⟨documents, rfl, all⟩, made⟩
    cases made
    exact ⟨documents, rfl, all⟩
  · rintro ⟨documents, rfl, all⟩
    exact ⟨_, ⟨documents, rfl, all⟩, rfl⟩

/-- An update is read where its document is. -/
theorem interpret_update (update : frame.operation = .update) (scope : Reference) :
    frame.interpret scope = .ok meaning ↔
      ∃ value document, frame.document = some value ∧
        Document.ofWireUnder scope value = .ok document ∧
        meaning = .event (.update document (frame.change.getD .unknown).updatedNames
          (frame.change.getD .unknown).removed) := by
  rw [interpret.eq_def, update]
  cases given : frame.document with
  | none => cases scope <;> simp
  | some value =>
      simp only [bind_eq_ok_iff]
      constructor
      · rintro ⟨document, made, same⟩
        cases same
        exact ⟨value, document, rfl, made, rfl⟩
      · rintro ⟨_, document, same, made, rfl⟩
        cases same
        exact ⟨document, made, rfl⟩

theorem interpret_update_collection (update : frame.operation = .update)
    (distinct : frame.HasDistinctKeys) :
    frame.interpret (.collection collection) = .ok meaning ↔
      ∃ value document, frame.document = some value ∧ IsDocumentOf collection value document ∧
        meaning = .event (.update document (frame.change.getD .unknown).updatedNames
          (frame.change.getD .unknown).removed) := by
  refine (interpret_update update _).trans (exists₂_congr fun value document => ?_)
  refine and_congr_right fun given => and_congr_left' ?_
  exact Document.ofWireIn_eq_ok_iff (distinct.document value given)

variable {reference : DocumentReference}

theorem interpret_update_document (update : frame.operation = .update)
    (distinct : frame.HasDistinctKeys) :
    frame.interpret (.document reference) = .ok meaning ↔
      ∃ value document, frame.document = some value ∧ IsStateOf reference value document ∧
        meaning = .event (.update document (frame.change.getD .unknown).updatedNames
          (frame.change.getD .unknown).removed) := by
  refine (interpret_update update _).trans (exists₂_congr fun value document => ?_)
  refine and_congr_right fun given => and_congr_left' ?_
  exact Document.ofWire_eq_ok_iff_isStateOf (distinct.document value given)

theorem initialDocument_eq_ok_iff (distinct : frame.HasDistinctKeys) {state : Option Document} :
    frame.initialDocument reference = .ok state ↔
      Option.Rel (IsStateOf reference) frame.document state := by
  unfold initialDocument
  cases given : frame.document with
  | none =>
      constructor
      · intro made
        cases made
        exact .none
      · intro related
        cases related
        rfl
  | some value =>
      have read (document : Document) :
          Document.ofWire reference value = .ok document ↔ IsStateOf reference value document :=
        Document.ofWire_eq_ok_iff_isStateOf (distinct.document value given)
      simp only [map_eq_ok_iff, read]
      constructor
      · rintro ⟨document, isState, rfl⟩
        exact .some isState
      · intro related
        cases related with
        | some isState => exact ⟨_, isState, rfl⟩

theorem interpret_initial_document (initial : frame.operation = .initial)
    (distinct : frame.HasDistinctKeys) :
    frame.interpret (.document reference) = .ok meaning ↔
      ∃ state, meaning = .event (.initialDocument state) ∧
        Option.Rel (IsStateOf reference) frame.document state := by
  simp only [interpret, initial, bind_eq_ok_iff, initialDocument_eq_ok_iff distinct]
  constructor
  · rintro ⟨state, related, made⟩
    cases made
    exact ⟨state, rfl, related⟩
  · rintro ⟨state, rfl, related⟩
    exact ⟨state, related, rfl⟩

/-- A listener on a collection is told of no single document's state, and every deletion. -/
theorem interpret_collection (distinct : frame.HasDistinctKeys)
    (told : frame.interpret (.collection collection) = .ok meaning) :
    ∃ event, meaning = .event event ∧ ∀ document, event ≠ .initialDocument document := by
  cases kind : frame.operation with
  | initial =>
      obtain ⟨documents, rfl, -⟩ := (interpret_initial_collection kind distinct).mp told
      exact ⟨_, rfl, nofun⟩
  | update =>
      obtain ⟨value, document, -, -, rfl⟩ := (interpret_update_collection kind distinct).mp told
      exact ⟨_, rfl, nofun⟩
  | delete =>
      rw [interpret.eq_def, kind] at told
      dsimp only at told
      split at told
      next id given =>
          cases told
          exact ⟨_, rfl, nofun⟩
      next => cases told

/-- A listener on a document is told of that document, if the frame is no deletion. -/
theorem interpret_document (distinct : frame.HasDistinctKeys)
    (told : frame.interpret (.document reference) = .ok meaning) :
    meaning = .ignoredDelete reference ∨
      ∃ event, meaning = .event event ∧
        ((∃ document, event = .initialDocument document) ∨
          ∃ document changed removed, event = .update document changed removed) ∧
        ∀ document ∈ event.documents,
          ∃ value, frame.document = some value ∧ IsStateOf reference value document := by
  cases kind : frame.operation with
  | initial =>
      obtain ⟨state, rfl, related⟩ := (interpret_initial_document kind distinct).mp told
      refine .inr ⟨_, rfl, .inl ⟨_, rfl⟩, fun document inside => ?_⟩
      generalize given : frame.document = sent at related
      cases related with
      | none => cases inside
      | some isState =>
          cases List.mem_singleton.mp inside
          exact ⟨_, rfl, isState⟩
  | update =>
      obtain ⟨value, document, given, isState, rfl⟩ :=
        (interpret_update_document kind distinct).mp told
      exact .inr ⟨_, rfl, .inr ⟨_, _, _, rfl⟩,
        List.forall_mem_singleton.mpr ⟨value, given, isState⟩⟩
  | delete =>
      rw [interpret.eq_def, kind] at told
      cases told
      exact .inl rfl

/-- A frame has its operation and its documents from the members of its text; a null document
    counts as none. -/
theorem members_of_ofText? {text : String} {members : Members}
    (parsed : Json.parse? text = some (.object members)) (read : ofText? text = some frame) :
    (members.find? "operationType").bind Operation.ofJson? = some frame.operation ∧
    (∀ value, frame.document = some value ↔
      members.find? "document" = some value ∧ value ≠ .null) ∧
    frame.documents = (members.find? "documents").bind Json.asArray? := by
  obtain ⟨value, parsedSo, read⟩ := Option.bind_eq_some_iff.mp read
  cases parsed.symm.trans parsedSo
  split at read
  next => cases read
  next =>
      unfold ofJson? at read
      obtain ⟨_, same, read⟩ := Option.bind_eq_some_iff.mp read
      cases same
      obtain ⟨operation, readOperation, read⟩ := Option.bind_eq_some_iff.mp read
      obtain ⟨name, -, read⟩ := Option.bind_eq_some_iff.mp read
      obtain ⟨documents, readDocuments, read⟩ := Option.bind_eq_some_iff.mp read
      obtain ⟨change, -, read⟩ := Option.bind_eq_some_iff.mp read
      cases read
      refine ⟨readOperation, fun value => optionalMember?_eq_some_iff, ?_⟩
      dsimp only
      unfold optionalMember? at readDocuments
      split at readDocuments
      next found =>
          cases readDocuments
          rw [found]
          rfl
      next absent =>
          cases readDocuments
          rw [absent]
          rfl
      next value other found =>
          rw [found]
          obtain ⟨items, isArray, same⟩ := Option.map_eq_some_iff.mp readDocuments
          exact same.symm.trans isArray.symm

/-- An object that says nothing but that it is initial, and its documents, is a frame. -/
theorem ofText?_of_plain {text : String} {members : Members} {items : List Json}
    (parsed : Json.parse? text = some (.object members))
    (plain : ∀ key ∈ members.keys, key = "operationType" ∨ key = "documents")
    (initial : (members.find? "operationType").bind Operation.ofJson? = some .initial)
    (given : members.find? "documents" = some (.array items)) :
    ofText? text = some ⟨.initial, none, none, some items, none⟩ := by
  have absent (key : String) (other : key ≠ "operationType" ∧ key ≠ "documents") :
      members.find? key = none := by
    rw [Members.find?_eq_none_iff]
    intro inside
    obtain same | same := plain key inside
    · exact other.1 same
    · exact other.2 same
  have unreported : reportedError? (.object members) = none := by
    have none : members.lookup "error" = none := absent "error" (by decide)
    simp [reportedError?, Json.get?, none]
  simp [ofText?, parsed, unreported, ofJson?, recordMembers?, initial, optionalMember?, given,
    absent, readOptional?, Json.asArray?]

end Frame

namespace FrameMeaning

/-- What a listener on a collection makes of a text. -/
structure StaysInCollection (text : String) (collection : CollectionReference) : Prop where
  noDocument : ∀ document,
    ofText text (.collection collection) ≠ .ok (.event (.initialDocument document))
  notIgnored : ∀ listener, ofText text (.collection collection) ≠ .ok (.ignoredDelete listener)
  /-- The initial state is read if all its documents are identified, and it consists of them. -/
  initial : ∀ frame, Frame.ofText? text = some frame → frame.operation = .initial →
    ((∃ event, ofText text (.collection collection) = .ok (.event event)) ↔
      ∀ item ∈ frame.documents.getD [], IsIdentified item) ∧
    ∀ event, ofText text (.collection collection) = .ok (.event event) →
      ∃ documents, event = .initialCollection ⟨collection, documents⟩ ∧
        List.Forall₂ (IsDocumentOf collection) (frame.documents.getD []) documents
  /-- An update is read if its document is there and identified. -/
  update : ∀ frame, Frame.ofText? text = some frame → frame.operation = .update →
    ((∃ event, ofText text (.collection collection) = .ok (.event event)) ↔
      ∃ value, frame.document = some value ∧ IsIdentified value) ∧
    ∀ event, ofText text (.collection collection) = .ok (.event event) →
      ∃ value document changed removed, frame.document = some value ∧
        IsDocumentOf collection value document ∧ event = .update document changed removed

/-- What a listener on a document makes of a text. -/
structure StaysInDocument (text : String) (reference : DocumentReference) : Prop where
  noCollection : ∀ collection,
    ofText text (.document reference) ≠ .ok (.event (.initialCollection collection))
  noDelete : ∀ id, ofText text (.document reference) ≠ .ok (.event (.delete id))
  /-- The initial state is read if it is an object or absent, and it is that object's. -/
  initial : ∀ frame, Frame.ofText? text = some frame → frame.operation = .initial →
    ∀ event, ofText text (.document reference) = .ok (.event event) ↔
      ∃ state, event = .initialDocument state ∧
        Option.Rel (IsStateOf reference) frame.document state
  /-- An update is read if its document is an object. -/
  update : ∀ frame, Frame.ofText? text = some frame → frame.operation = .update →
    ∀ event, ofText text (.document reference) = .ok (.event event) ↔
      ∃ value document, frame.document = some value ∧ IsStateOf reference value document ∧
        event = .update document (frame.change.getD .unknown).updatedNames
          (frame.change.getD .unknown).removed
  documents : ∀ event, ofText text (.document reference) = .ok (.event event) →
    ∀ document ∈ event.documents,
      document.reference = reference ∧ idKey ∉ Members.keys document.fields

theorem staysInCollection (text : String) (collection : CollectionReference) :
    StaysInCollection text collection where
  noDocument document told := by
    obtain ⟨frame, read, told⟩ := exists_frame_of_ok told nofun
    have distinct := Frame.hasDistinctKeys_of_ofText? read
    obtain ⟨event, same, other⟩ := Frame.interpret_collection distinct told
    cases same
    exact other document rfl
  notIgnored listener told := by
    obtain ⟨frame, read, told⟩ := exists_frame_of_ok told nofun
    have distinct := Frame.hasDistinctKeys_of_ofText? read
    obtain ⟨event, impossible, -⟩ := Frame.interpret_collection distinct told
    cases impossible
  initial frame read kind := by
    have distinct := Frame.hasDistinctKeys_of_ofText? read
    have told (meaning : FrameMeaning) :
        frame.interpret (.collection collection) = .ok meaning ↔ _ :=
      Frame.interpret_initial_collection kind distinct
    simp only [ofText_of_frame read, told]
    constructor
    · rw [← exists_documents_iff collection]
      constructor
      · rintro ⟨_, documents, -, all⟩
        exact ⟨documents, all⟩
      · rintro ⟨documents, all⟩
        exact ⟨_, documents, rfl, all⟩
    · rintro event ⟨documents, same, all⟩
      cases same
      exact ⟨documents, rfl, all⟩
  update frame read kind := by
    have distinct := Frame.hasDistinctKeys_of_ofText? read
    have told (meaning : FrameMeaning) :
        frame.interpret (.collection collection) = .ok meaning ↔ _ :=
      Frame.interpret_update_collection kind distinct
    simp only [ofText_of_frame read, told]
    constructor
    · simp only [← exists_isDocumentOf_iff collection]
      constructor
      · rintro ⟨_, value, document, given, isDocument, -⟩
        exact ⟨value, given, document, isDocument⟩
      · rintro ⟨value, given, document, isDocument⟩
        exact ⟨_, value, document, given, isDocument, rfl⟩
    · rintro event ⟨value, document, given, isDocument, same⟩
      cases same
      exact ⟨value, document, _, _, given, isDocument, rfl⟩

theorem staysInDocument (text : String) (reference : DocumentReference) :
    StaysInDocument text reference := by
  have own (event : ListenerEvent) (told : ofText text (.document reference) = .ok (.event event)) :
      ((∃ document, event = .initialDocument document) ∨
        ∃ document changed removed, event = .update document changed removed) ∧
      ∀ document ∈ event.documents, ∃ value, IsStateOf reference value document := by
    obtain ⟨frame, read, told⟩ := exists_frame_of_ok told nofun
    have distinct := Frame.hasDistinctKeys_of_ofText? read
    obtain impossible | ⟨_, same, kinds, documents⟩ := Frame.interpret_document distinct told
    · cases impossible
    · cases same
      refine ⟨kinds, fun document inside => ?_⟩
      obtain ⟨value, -, isState⟩ := documents document inside
      exact ⟨value, isState⟩
  exact {
    noCollection := fun collection told => by
      obtain ⟨_, impossible⟩ | ⟨_, _, _, impossible⟩ := (own _ told).1 <;> cases impossible
    noDelete := fun id told => by
      obtain ⟨_, impossible⟩ | ⟨_, _, _, impossible⟩ := (own _ told).1 <;> cases impossible
    initial := fun frame read kind event => by
      have distinct := Frame.hasDistinctKeys_of_ofText? read
      rw [ofText_of_frame read, Frame.interpret_initial_document kind distinct]
      simp only [FrameMeaning.event.injEq]
    update := fun frame read kind event => by
      have distinct := Frame.hasDistinctKeys_of_ofText? read
      rw [ofText_of_frame read, Frame.interpret_update_document kind distinct]
      simp only [FrameMeaning.event.injEq]
    documents := fun event told document inside => by
      obtain ⟨value, isState⟩ := (own event told).2 document inside
      exact ⟨isState.reference_eq, isState.idKey_notMem⟩ }

/-- Documents stay in the listener's scope, whatever text the server sends, and keep the fields
    that they have among the members of an object. A plain frame of an initial state is read as
    one. -/
theorem ofText_staysInScope (text : String) :
    (∀ collection, StaysInCollection text collection) ∧
      (∀ reference, StaysInDocument text reference) ∧
      (∀ members frame, Json.parse? text = some (.object members) →
        Frame.ofText? text = some frame →
        (Members.find? members "operationType").bind Operation.ofJson? = some frame.operation ∧
        (∀ value, frame.document = some value ↔
          Members.find? members "document" = some value ∧ value ≠ .null) ∧
        frame.documents = (Members.find? members "documents").bind Json.asArray?) ∧
      ∀ members items, Json.parse? text = some (.object members) →
        (∀ key ∈ Members.keys members, key = "operationType" ∨ key = "documents") →
        (Members.find? members "operationType").bind Operation.ofJson? = some .initial →
        Members.find? members "documents" = some (.array items) →
        Frame.ofText? text = some ⟨.initial, none, none, some items, none⟩ :=
  ⟨staysInCollection text, staysInDocument text, fun _ _ => Frame.members_of_ofText?,
    fun _ _ => Frame.ofText?_of_plain⟩

/-- A collection with one document. -/
theorem ofText_staysInScope_plain :
    let text := "\x7b\"operationType\":\"initial\"," ++
      "\"documents\":[\x7b\"_id\":\"a\",\"b\":true\x7d]\x7d"
    ofText text (.collection ⟨["users"], "main"⟩) =
      .ok (.event (.initialCollection ⟨⟨["users"], "main"⟩,
        [⟨⟨["users", "a"], "main"⟩, [("b", .bool true)]⟩]⟩)) := by
  intro text
  obtain ⟨collections, -, -, plain⟩ := ofText_staysInScope text
  have parsed : Json.parse? text = some (.object [("operationType", .string "initial"),
      ("documents", .array [.object [("_id", .string "a"), ("b", .bool true)]])]) := by
    decide +kernel
  have read := plain _ _ parsed (by decide) rfl rfl
  obtain ⟨readable, consists⟩ := (collections ⟨["users"], "main"⟩).initial _ read rfl
  have identified : IsIdentified (.object [("_id", .string "a"), ("b", .bool true)]) :=
    ⟨_, _, "a", rfl, rfl, .string (by decide) (by decide)⟩
  obtain ⟨event, told⟩ := readable.mpr (List.forall_mem_singleton.mpr identified)
  obtain ⟨documents, rfl, all⟩ := consists event told
  obtain ⟨⟨reference, fields⟩, rest, isDocument, none, rfl⟩ := List.forall₂_cons_left_iff.mp all
  cases none
  obtain ⟨_, _, _, same, found, gives, sameReference, sameFields⟩ := isDocument
  cases same
  cases found
  cases gives
  cases sameReference
  cases sameFields
  exact told

end FrameMeaning

end DocStore
