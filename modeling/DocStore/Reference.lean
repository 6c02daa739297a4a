import DocStore.Error
import DocStore.Text.Digit
import DocStore.Text.Split

/-! # References to documents and collections

A reference is a list of non-empty path segments in a database. Collections have an odd number
of segments and documents an even one, so that a child of either is of the other kind.
-/

namespace DocStore

/-- The segments written one after the other with a slash between them. -/
def joinSegments (segments : List String) : String :=
  String.ofList (['/'].intercalate (segments.map String.toList))

/-- Whether a text can be a segment of a path: it has characters, and no slash among them. -/
def isSegment (text : String) : Bool :=
  !text.toList.isEmpty && !text.toList.contains '/'

/-- What makes a list of segments no path, empty segments being looked for before slashes. -/
def segmentsFault? (segments : List String) : Option ReferenceFault :=
  if segments.isEmpty then some .emptyPath
  else
    match segments.findIdx? fun segment => segment.toList.isEmpty with
    | some position => some (.emptySegment position)
    | none =>
        (segments.findIdx? fun segment => segment.toList.contains '/').map .slashInSegment

/-- What makes a text no id of a child. -/
def childFault? (id : String) : Option ReferenceFault :=
  if id.toList.isEmpty then some .emptyChild
  else if id.toList.contains '/' then some (.slashInChild id)
  else none

/-- The segments of a path. -/
def pathSegments (path : String) : Except Error (List String) :=
  if path.toList.isEmpty then .error (.invalidReference path .emptyPath)
  else
    let segments := splitText '/' path
    match segmentsFault? segments with
    | some fault => .error (.invalidReference path fault)
    | none => .ok segments

/-- The number of values of a generated id's random part. -/
def generatedIdRange : Nat := 1 <<< 128

/-- A fresh id from 128 random bits: 32 hexadecimal digits, of which the 13th is the version
    digit 4 and the 17th carries the variant bits 10. -/
def generatedId (random : Nat) : String :=
  let digits := hexDigits 32 (random % generatedIdRange)
  let variant := hexDigit (8 + random >>> 60 % 4)
  String.ofList ((digits.set 12 '4').set 16 variant)

/-- A document: an even number of segments in a database. -/
structure DocumentReference where
  segments : List String
  database : String
  deriving DecidableEq, Repr

/-- A collection: an odd number of segments in a database. -/
structure CollectionReference where
  segments : List String
  database : String
  deriving DecidableEq, Repr

namespace DocumentReference

def ofSegments (segments : List String) (database : String) : Except Error DocumentReference :=
  let path := joinSegments segments
  match segmentsFault? segments with
  | some fault => .error (.invalidReference path fault)
  | none =>
      if segments.length % 2 = 0 then .ok ⟨segments, database⟩
      else .error (.invalidReference path (.oddDocumentPath segments.length))

/-- The document of a path such as `users/alice`. -/
def parse (path database : String) : Except Error DocumentReference := do
  ofSegments (← pathSegments path) database

/-- The last segment. -/
def id (document : DocumentReference) : String :=
  document.segments.getLast?.getD ""

def path (document : DocumentReference) : String :=
  joinSegments document.segments

def parent (document : DocumentReference) : CollectionReference :=
  ⟨document.segments.dropLast, document.database⟩

def collection (document : DocumentReference) (id : String) :
    Except Error CollectionReference :=
  match childFault? id with
  | some fault => .error (.invalidReference document.path fault)
  | none => .ok ⟨document.segments ++ [id], document.database⟩

end DocumentReference

namespace CollectionReference

def ofSegments (segments : List String) (database : String) :
    Except Error CollectionReference :=
  let path := joinSegments segments
  match segmentsFault? segments with
  | some fault => .error (.invalidReference path fault)
  | none =>
      if segments.length % 2 = 1 then .ok ⟨segments, database⟩
      else .error (.invalidReference path (.evenCollectionPath segments.length))

/-- The collection of a path such as `users` or `users/alice/posts`. -/
def parse (path database : String) : Except Error CollectionReference := do
  ofSegments (← pathSegments path) database

def id (collection : CollectionReference) : String :=
  collection.segments.getLast?.getD ""

def path (collection : CollectionReference) : String :=
  joinSegments collection.segments

/-- The document that a collection is in; a collection of one segment is in none. -/
def parent (collection : CollectionReference) : Option DocumentReference :=
  if collection.segments.length < 3 then none
  else some ⟨collection.segments.dropLast, collection.database⟩

def document (collection : CollectionReference) (id : String) :
    Except Error DocumentReference :=
  match childFault? id with
  | some fault => .error (.invalidReference collection.path fault)
  | none => .ok ⟨collection.segments ++ [id], collection.database⟩

/-- A document of a collection under a fresh id. -/
def newDocument (collection : CollectionReference) (random : Nat) : DocumentReference :=
  ⟨collection.segments ++ [generatedId random], collection.database⟩

end CollectionReference

inductive Reference where
  | document (reference : DocumentReference)
  | collection (reference : CollectionReference)
  deriving DecidableEq, Repr

namespace Reference

/-- The reference of a path, its kind decided by the number of segments. -/
def parse (path database : String) : Except Error Reference := do
  let segments ← pathSegments path
  if segments.length % 2 = 0 then
    return .document (← DocumentReference.ofSegments segments database)
  else
    return .collection (← CollectionReference.ofSegments segments database)

def segments : Reference → List String
  | .document reference => reference.segments
  | .collection reference => reference.segments

def database : Reference → String
  | .document reference => reference.database
  | .collection reference => reference.database

def id : Reference → String
  | .document reference => reference.id
  | .collection reference => reference.id

def path (reference : Reference) : String :=
  joinSegments reference.segments

def isDocument : Reference → Bool
  | .document _ => true
  | .collection _ => false

def parent : Reference → Option Reference
  | .document reference => some (.collection reference.parent)
  | .collection reference => reference.parent.map .document

/-- The child with this id, which is of the other kind. -/
def child (reference : Reference) (id : String) : Except Error Reference :=
  match reference with
  | .document parent => (parent.collection id).map .collection
  | .collection parent => (parent.document id).map .document

end Reference

end DocStore
