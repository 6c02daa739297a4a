import DocStore.Authorization
import DocStore.Url.Type

/-! # Connections

An open connection as the messages of its peer, and the events that a listener takes from them:
a frame for each message with a text, and at last one close.
-/

namespace DocStore

/-- What the peer of a connection does. -/
inductive PeerMessage where
  | text (text : String)
  | binary (bytes : List UInt8)
  | ping (bytes : List UInt8)
  | pong (bytes : List UInt8)
  /-- A close with its code and reason, if it has a status. -/
  | close (status : Option (Nat × String))
  /-- A violation of the protocol, or a connection that breaks. -/
  | fault (reason : String)
  /-- The end of the stream without a close. -/
  | ended
  deriving DecidableEq, Repr

/-- What a listener is told by an open connection. -/
inductive ConnectionEvent where
  | frame (text : String)
  | closed (abnormal : Bool) (reason : String)
  deriving DecidableEq, Repr

def normalClose : Nat := 1000

namespace ConnectionEvent

/-- The event of a message. Bytes that are no text, and messages that only keep a connection
    alive, have none. -/
def ofMessage? : PeerMessage → Option ConnectionEvent
  | .text text => some (.frame text)
  | .binary bytes => (Url.textOfBytes? bytes).map .frame
  | .ping _ | .pong _ => none
  | .close none => some (.closed false "closed without status")
  | .close (some (code, reason)) =>
      some (.closed (code != normalClose) (toString code ++ ": " ++ reason))
  | .fault reason => some (.closed true reason)
  | .ended => some (.closed true "stream ended without close frame")

/-- Whether an event is a close, after which there are no more. -/
def isClose : ConnectionEvent → Bool
  | .frame _ => false
  | .closed _ _ => true

/-- The events of a connection, up to the first close. A stream without a close ends. -/
def ofMessages : List PeerMessage → List ConnectionEvent
  | [] => (ofMessage? .ended).toList
  | message :: rest =>
      match ofMessage? message with
      | none => ofMessages rest
      | some event => if event.isClose then [event] else event :: ofMessages rest

end ConnectionEvent

/-- What a client asks for when it opens a connection. -/
structure Handshake where
  url : Url
  headers : List (String × String)
  deriving DecidableEq, Repr

/-- The handshake for a URL, the token going to a header. -/
def Handshake.make (url : Url) (token : Option String) : Except Error Handshake := do
  return ⟨url, ← Authorization.tokenHeaders token⟩

/-- Open a connection for which a handshake was made. The peer accepts it or says why not. -/
def Handshake.connect (handshake : Handshake) (peer : Handshake → Except String Unit) :
    Except Error Unit :=
  (peer handshake).mapError .webSocket

end DocStore
