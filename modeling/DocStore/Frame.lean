import DocStore.Json.Parser
import DocStore.Snapshot

/-! # Frames

What a listener receives. A frame reports an error of the server, or a change: the initial
state, an update or a deletion. What it means depends on whether the listener is on a collection
or on one document.
-/

namespace DocStore

/-- The kinds of change that a frame reports. -/
inductive Operation where
  | initial
  | update
  | delete
  deriving DecidableEq, Repr

def Operation.name : Operation → String
  | .initial => "initial"
  | .update => "update"
  | .delete => "delete"

def Operation.ofName? : String → Option Operation
  | "initial" => some .initial
  | "update" => some .update
  | "delete" => some .delete
  | _ => none

/-- Which fields an update touched. -/
structure Change where
  updated : Option Json
  removed : List String
  deriving DecidableEq, Repr

/-- The change that nothing is known about. -/
def Change.unknown : Change := ⟨none, []⟩

/-- A frame that reports a change. -/
structure Frame where
  operation : Operation
  document : Option Json
  name : Option String
  documents : Option (List Json)
  change : Option Change
  deriving DecidableEq, Repr

/-- What happened to what a listener is on. -/
inductive ListenerEvent where
  /-- All documents of a collection. -/
  | initialCollection (collection : Collection)
  /-- The state of a document, which may not exist. -/
  | initialDocument (document : Option Document)
  | update (document : Document) (changed removed : List String)
  | delete (id : String)
  deriving DecidableEq, Repr

/-- What a frame amounts to for a listener. -/
inductive FrameMeaning where
  | event (event : ListenerEvent)
  | serverError (message : String) (details : Json)
  /-- A deletion, which means nothing to a listener on one document. -/
  | ignoredDelete (listener : DocumentReference)
  deriving DecidableEq, Repr

def ignoredDeleteText (listener : DocumentReference) : String :=
  "delete frame on document listener '" ++ listener.path ++ "'"

/-- The members of a record: those of an object by their names, or those of an array by their
    position. An array must not have more items than the record has members. -/
def recordMembers? (names : List String) : Json → Option Members
  | .object members => some members
  | .array items => if items.length ≤ names.length then some (names.zip items) else none
  | _ => none

/-- A member that may be absent or null. -/
def optionalMember? (members : Members) (name : String) : Option Json :=
  match Members.find? members name with
  | some .null | none => none
  | some value => some value

def strings? : List Json → Option (List String)
  | [] => some []
  | item :: rest =>
      match item.asString?, strings? rest with
      | some text, some texts => some (text :: texts)
      | _, _ => none

namespace Operation

/-- The kind of change that a member says: its name, or an object whose only member has that name
    and is null. -/
def ofJson? : Json → Option Operation
  | .string name => ofName? name
  | .object [(name, .null)] => ofName? name
  | _ => none

end Operation

namespace Change

/-- The names of a change's members, in order. -/
def memberNames : List String := ["updatedFields", "removedFields"]

def ofJson? (value : Json) : Option Change := do
  let members ← recordMembers? memberNames value
  let removed ←
    match Members.find? members "removedFields" with
    | none => some []
    | some (.array items) => strings? items
    | some _ => none
  return ⟨optionalMember? members "updatedFields", removed⟩

/-- The names of the updated fields, which are given as an object or as a list; list items that
    are no strings are left out. -/
def updatedNames (change : Change) : List String :=
  match change.updated with
  | some (.object members) => Members.keys members
  | some (.array items) => items.filterMap Json.asString?
  | _ => []

end Change

namespace Frame

/-- The names of a frame's members, in order. -/
def memberNames : List String := ["operationType", "document", "name", "documents", "change"]

/-- Read a member that may be absent or null; `none` if it is there and unreadable. -/
def readOptional? {α : Type} (read? : Json → Option α) : Option Json → Option (Option α)
  | none => some none
  | some value => (read? value).map some

/-- Read a frame. Members that no frame has are ignored. -/
def ofJson? (value : Json) : Option Frame := do
  let members ← recordMembers? memberNames value
  let operation ← (Members.find? members "operationType").bind Operation.ofJson?
  let name ← readOptional? Json.asString? (optionalMember? members "name")
  let documents ← readOptional? Json.asArray? (optionalMember? members "documents")
  let change ← readOptional? Change.ofJson? (optionalMember? members "change")
  return ⟨operation, optionalMember? members "document", name, documents, change⟩

/-- The document of a frame's initial state, if there is one. -/
def initialDocument (frame : Frame) (scope : DocumentReference) :
    Except Error (Option Document) :=
  match frame.document with
  | none => .ok none
  | some value => (Document.ofWire scope value).map some

/-- The id of the document that was deleted: the frame's name, or the id of its document. -/
def deletedId? (frame : Frame) : Option String :=
  frame.name.or ((frame.document.bind fun document => document.get? idKey).bind idText?)

def interpret (frame : Frame) (scope : Reference) : Except Error FrameMeaning :=
  match frame.operation, scope with
  | .initial, .collection reference => do
      let collection ← Collection.ofItems reference (frame.documents.getD [])
      return .event (.initialCollection collection)
  | .initial, .document reference => do
      return .event (.initialDocument (← frame.initialDocument reference))
  | .update, scope =>
      match frame.document with
      | none => .error (.serialization .updateWithoutDocument)
      | some value => do
          let document ← Document.ofWireUnder scope value
          let change := frame.change.getD .unknown
          return .event (.update document change.updatedNames change.removed)
  | .delete, .collection _ =>
      match frame.deletedId? with
      | some id => .ok (.event (.delete id))
      | none => .error (.serialization .deleteWithoutName)
  | .delete, .document reference => .ok (.ignoredDelete reference)

end Frame

/-- The error that a value has among its members; a null one counts as none. -/
def reportedError? (value : Json) : Option Json :=
  match value.get? "error" with
  | some .null | none => none
  | some error => some error

/-- The message of an error of the server: the text itself, the object's member `message`, or else
    the error's own JSON text. -/
def serverMessage (error : Json) : String :=
  match error with
  | .string text => text
  | other => ((other.get? "message").bind Json.asString?).getD other.text

def FrameMeaning.ofJson (value : Json) (scope : Reference) : Except Error FrameMeaning :=
  match reportedError? value with
  | some error => .ok (.serverError (serverMessage error) error)
  | none =>
      match Frame.ofJson? value with
      | some frame => frame.interpret scope
      | none => .error (.serialization .malformedFrame)

def FrameMeaning.ofText (text : String) (scope : Reference) : Except Error FrameMeaning :=
  match Json.parse? text with
  | some value => FrameMeaning.ofJson value scope
  | none => .error (.serialization .malformedText)

end DocStore
