import DocStore.Proofs.Frame.Scope

/-! # Listening and reading

The initial state that a listener is told, and what a one-shot read returns, are decoded alike: the
same documents give the same snapshot or the same error, whichever of the two they come by.
-/

namespace DocStore

/-- A text that is an object: it reports an initial state, and has at most one more member, which
    has this name. -/
structure IsInitialState (text name : String) (members : Members) : Prop where
  parsed : Json.parse? text = some (.object members)
  plain : ∀ key ∈ members.keys, key = "operationType" ∨ key = name
  initial : (members.find? "operationType").bind Operation.ofJson? = some .initial

theorem Frame.readOptional?_none {α : Type} (read? : Json → Option α) :
    readOptional? read? none = some none :=
  rfl

namespace IsInitialState

variable {text name : String} {members : Members}

theorem find?_eq_none (state : IsInitialState text name members) {key : String}
    (notOperation : key ≠ "operationType") (other : key ≠ name) : members.find? key = none := by
  rw [Members.find?_eq_none_iff]
  intro inside
  obtain same | same := state.plain key inside
  · exact notOperation same
  · exact other same

theorem optionalMember?_eq_none (state : IsInitialState text name members) {key : String}
    (notOperation : key ≠ "operationType") (other : key ≠ name) :
    optionalMember? members key = none := by
  rw [optionalMember?, state.find?_eq_none notOperation other]

/-- A text without an error is what its frame means, or it is malformed. -/
theorem ofText_eq (state : IsInitialState text name members) (quiet : "error" ≠ name)
    (scope : Reference) :
    FrameMeaning.ofText text scope =
      match Frame.ofJson? (.object members) with
      | some frame => frame.interpret scope
      | none => .error (.serialization .malformedFrame) := by
  have unreported : reportedError? (.object members) = none := by
    have absent : members.lookup "error" = none := state.find?_eq_none (by decide) quiet
    rw [reportedError?, Json.get?, absent]
  cases read : Frame.ofJson? (.object members) <;>
    simp only [FrameMeaning.ofText, state.parsed, FrameMeaning.ofJson, unreported, read]

/-- The frame of a collection's initial state, which is none if its documents are no list. -/
theorem ofJson?_documents (state : IsInitialState text "documents" members) :
    Frame.ofJson? (.object members) =
      (Frame.readOptional? Json.asArray? (optionalMember? members "documents")).map
        fun documents => ⟨.initial, none, none, documents, none⟩ := by
  have document : optionalMember? members "document" = none :=
    state.optionalMember?_eq_none (by decide) (by decide)
  have named : optionalMember? members "name" = none :=
    state.optionalMember?_eq_none (by decide) (by decide)
  have change : optionalMember? members "change" = none :=
    state.optionalMember?_eq_none (by decide) (by decide)
  simp only [Frame.ofJson?, recordMembers?, state.initial, document, named, change,
    Frame.readOptional?_none, Option.bind_eq_bind, Option.bind_some]
  exact (Option.map_eq_bind ..).symm

/-- The frame of a document's initial state. -/
theorem ofJson?_document (state : IsInitialState text "document" members) :
    Frame.ofJson? (.object members) =
      some ⟨.initial, optionalMember? members "document", none, none, none⟩ := by
  have named : optionalMember? members "name" = none :=
    state.optionalMember?_eq_none (by decide) (by decide)
  have documents : optionalMember? members "documents" = none :=
    state.optionalMember?_eq_none (by decide) (by decide)
  have change : optionalMember? members "change" = none :=
    state.optionalMember?_eq_none (by decide) (by decide)
  simp only [Frame.ofJson?, recordMembers?, state.initial, named, documents, change,
    Frame.readOptional?_none, Option.bind_eq_bind, Option.bind_some]
  rfl

/-- What a listener on a collection is told, by what the member for the documents is. -/
theorem ofText_documents (state : IsInitialState text "documents" members)
    (collection : CollectionReference) :
    FrameMeaning.ofText text (.collection collection) =
      match members.find? "documents" with
      | none | some .null => .ok (.event (.initialCollection ⟨collection, []⟩))
      | some (.array items) =>
          (Collection.ofItems collection items).map fun found => .event (.initialCollection found)
      | some _ => .error (.serialization .malformedFrame) := by
  rw [state.ofText_eq (by decide), state.ofJson?_documents, optionalMember?]
  cases members.find? "documents" with
  | none => rfl
  | some documents =>
      cases documents with
      | array items =>
          simp only [Frame.readOptional?, Json.asArray?, Option.map_some, Frame.interpret,
            Option.getD_some]
          cases Collection.ofItems collection items <;> rfl
      | null | bool | number | string | object => rfl

/-- What a listener on a document is told of an object. -/
theorem ofText_document (state : IsInitialState text "document" members) {fields : Members}
    (given : members.find? "document" = some (.object fields)) (reference : DocumentReference) :
    FrameMeaning.ofText text (.document reference) =
      (Document.ofWire reference (.object fields)).map fun found =>
        .event (.initialDocument (some found)) := by
  rw [state.ofText_eq (by decide), state.ofJson?_document, optionalMember?, given]
  rfl

end IsInitialState

namespace Collection

variable {reference : CollectionReference} {members : Members}

theorem ofWire_of_listed {items : List Json}
    (listed : members.find? "documents" = some (.array items)) :
    ofWire reference (.object members) = ofWire reference (.array items) := by
  simp only [ofWire, listed]

theorem ofWire_of_unlisted
    (unlisted : members.find? "documents" = none ∨ members.find? "documents" = some .null) :
    ofWire reference (.object members) = .ok ⟨reference, []⟩ := by
  rw [ofWire]
  obtain missing | null := unlisted
  · rw [missing]
    rfl
  · rw [null]
    rfl

theorem ofWire_of_unlistable {value : Json} (given : members.find? "documents" = some value)
    (notNull : value ≠ .null) (notArray : ∀ items, value ≠ .array items) :
    ofWire reference (.object members) =
      .error (.serialization (.documentsNotArray value.kind)) := by
  rw [ofWire, given]
  cases value with
  | null => exact absurd rfl notNull
  | array items => exact absurd rfl (notArray items)
  | bool | number | string | object => rfl

end Collection

/-- A listener's initial state and a read agree. They make the same snapshot of the same documents,
    or fail with the same error, whether a read gets these as a list or as the member of an object.
    They take absent documents for none, and refuse any that are no list. On a document's object
    both succeed, with the same document. -/
theorem initialState_agrees_with_read :
    (∀ (collection : CollectionReference) (items : List Json),
      (∀ members, Members.find? members "documents" = some (.array items) →
        Collection.ofWire collection (.object members) =
          Collection.ofWire collection (.array items)) ∧
      ∀ text members, IsInitialState text "documents" members →
        Members.find? members "documents" = some (.array items) →
        FrameMeaning.ofText text (.collection collection) =
          (Collection.ofWire collection (.array items)).map fun found =>
            .event (.initialCollection found)) ∧
    (∀ (collection : CollectionReference) (members : Members),
      members.find? "documents" = none ∨ members.find? "documents" = some .null →
        Collection.ofWire collection (.object members) = .ok ⟨collection, []⟩ ∧
        ∀ text, IsInitialState text "documents" members →
          FrameMeaning.ofText text (.collection collection) =
            .ok (.event (.initialCollection ⟨collection, []⟩))) ∧
    (∀ (collection : CollectionReference) (members : Members) (value : Json),
      members.find? "documents" = some value → value ≠ .null → (∀ items, value ≠ .array items) →
        (∃ fault, Collection.ofWire collection (.object members) =
          .error (.serialization fault)) ∧
        ∀ text, IsInitialState text "documents" members →
          ∃ fault, FrameMeaning.ofText text (.collection collection) =
            .error (.serialization fault)) ∧
    ∀ (reference : DocumentReference) (fields : Members), ∃ document,
      Document.ofWire reference (.object fields) = .ok document ∧
      ∀ text members, IsInitialState text "document" members →
        Members.find? members "document" = some (.object fields) →
        FrameMeaning.ofText text (.document reference) =
          .ok (.event (.initialDocument (some document))) := by
  refine ⟨fun collection items => ⟨fun members listed => ?_, fun text members state listed => ?_⟩,
    fun collection members unlisted => ⟨?_, fun text state => ?_⟩,
    fun collection members value given notNull notArray => ⟨?_, fun text state => ?_⟩,
    fun reference fields => ⟨_, rfl, fun text members state given => ?_⟩⟩
  · exact Collection.ofWire_of_listed listed
  · rw [state.ofText_documents, listed]
    rfl
  · exact Collection.ofWire_of_unlisted unlisted
  · rw [state.ofText_documents]
    obtain missing | null := unlisted
    · rw [missing]
    · rw [null]
  · exact ⟨_, Collection.ofWire_of_unlistable given notNull notArray⟩
  · rw [state.ofText_documents, given]
    cases value with
    | null => exact absurd rfl notNull
    | array items => exact absurd rfl (notArray items)
    | bool | number | string | object => exact ⟨_, rfl⟩
  · exact state.ofText_document given reference

/-- One document, whose id comes last, by a frame, by an object and by a list. -/
theorem initialState_agrees_with_read_oneDocument :
    let text := "\x7b\"documents\":[\x7b\"b\":true,\"_id\":\"a\"\x7d]," ++
      "\"operationType\":\"initial\"\x7d"
    let items := [Json.object [("b", .bool true), ("_id", .string "a")]]
    let users : CollectionReference := ⟨["users"], "main"⟩
    let found : Collection := ⟨users, [⟨⟨["users", "a"], "main"⟩, [("b", .bool true)]⟩]⟩
    Collection.ofWire users (.array items) = .ok found ∧
      Collection.ofWire users (.object [("next", .null), ("documents", .array items)]) = .ok found ∧
      FrameMeaning.ofText text (.collection users) = .ok (.event (.initialCollection found)) := by
  intro text items users found
  have parsed : Json.parse? text = some (.object [("documents", .array [.object [("b", .bool true),
      ("_id", .string "a")]]), ("operationType", .string "initial")]) := by decide +kernel
  have state : IsInitialState text "documents"
      [("documents", .array items), ("operationType", .string "initial")] :=
    ⟨parsed, by decide, rfl⟩
  have read : Collection.ofWire users (.array items) = .ok found := rfl
  obtain ⟨alike, told⟩ := initialState_agrees_with_read.1 users items
  refine ⟨read, ?_, ?_⟩
  · exact (alike _ rfl).trans read
  · rw [told text _ state rfl, read]
    rfl

end DocStore
