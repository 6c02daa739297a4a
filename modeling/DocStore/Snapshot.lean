import DocStore.Operand
import DocStore.Reference

/-! # Snapshots

Documents and collections as the server last reported them. A document's id is in its reference
and not among its fields. The decoders here are shared by one-shot reads and listeners.
-/

namespace DocStore

/-- A document and its fields, without the id. -/
structure Document where
  reference : DocumentReference
  fields : Members
  deriving DecidableEq, Repr

structure Collection where
  reference : CollectionReference
  documents : List Document
  deriving DecidableEq, Repr

/-- The member of a document on the wire that holds its id. -/
def idKey : String := "_id"

/-- The id that a value stands for: a string, or the digits of a number. -/
def idText? : Json → Option String
  | .string text => some text
  | .number value => some (String.ofList value.text)
  | _ => none

/-- Split a document on the wire into its id, if it has one, and its fields. -/
def detachId : Json → Except Error (Option String × Members)
  | .object members =>
      .ok ((Members.find? members idKey).bind idText?, Members.erase members idKey)
  | other => .error (.serialization (.documentNotObject other.kind))

namespace Document

/-- The last segment of the document's path. -/
def id (document : Document) : String :=
  document.reference.id

/-- The field at a dotted path, which leads through objects only. -/
def get? (document : Document) (path : String) : Option Json :=
  match splitText '.' path with
  | [] => none
  | first :: rest =>
      rest.foldl (fun current part => current.bind fun value => value.get? part)
        (document.fields.lookup first)

/-- The fields as integers between `-2 ^ 63` and `2 ^ 63 - 1`, in the order of their names. -/
def integers (document : Document) : Except Error (List (String × Int)) := do
  let pairs ← document.fields.mapM fun (key, value) =>
    match value.asNumber?.bind JsonNumber.toSigned? with
    | some n => .ok (key, n)
    | none => .error (.serialization (.integerExpected key))
  return pairs.mergeSort fun a b => a.1 ≤ b.1

/-- The document of a known reference; the id on the wire is ignored. -/
def ofWire (reference : DocumentReference) (value : Json) : Except Error Document := do
  let (_, fields) ← detachId value
  return ⟨reference, fields⟩

/-- A document of a collection. The id on the wire makes its reference, so there must be one. -/
def ofWireIn (collection : CollectionReference) (value : Json) : Except Error Document := do
  let (id, fields) ← detachId value
  match id with
  | none => .error (.serialization (.missingId collection.path))
  | some id => return ⟨← collection.document id, fields⟩

/-- A document under a reference: the document itself, or one of the collection. -/
def ofWireUnder (scope : Reference) (value : Json) : Except Error Document :=
  match scope with
  | .document reference => ofWire reference value
  | .collection reference => ofWireIn reference value

end Document

namespace Collection

/-- The collection with the given documents on the wire. -/
def ofItems (reference : CollectionReference) (items : List Json) : Except Error Collection := do
  return ⟨reference, ← items.mapM (Document.ofWireIn reference)⟩

/-- The collection of a response: a list of documents, or an object that has one as its member
    `documents`, nothing there being an empty list. -/
def ofWire (reference : CollectionReference) (value : Json) : Except Error Collection :=
  match value with
  | .array items => ofItems reference items
  | .object members =>
      match Members.find? members "documents" with
      | some (.array items) => ofItems reference items
      | some .null | none => ofItems reference []
      | some other => .error (.serialization (.documentsNotArray other.kind))
  | other => .error (.serialization (.collectionBody other.kind))

end Collection

end DocStore
