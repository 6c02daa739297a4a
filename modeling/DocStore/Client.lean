import DocStore.Endpoint

/-! # Clients

A client is bound to one database behind one base URL. It reads its token from a source that may
give a different one each time.
-/

namespace DocStore

/-- A source of tokens: the answer to each reading, the first having the number zero. -/
abbrev TokenSource := Nat → Option String

namespace TokenSource

def fixed (token : Option String) : TokenSource := fun _ => token

/-- The source that gives the answers of a list in turn and then repeats the last one; no
    answers mean that there never is a token. -/
def rotating (tokens : List (Option String)) : TokenSource := fun reading =>
  (tokens[min reading (tokens.length - 1)]?).join

end TokenSource

/-- What a client is made from. Times are in milliseconds. -/
structure ClientSettings where
  baseUrl : String
  databaseId : String
  /-- Where to listen, in place of the base URL. -/
  realtimeUrl : Option String
  /-- What requests without a token name in its place. -/
  projectName : Option String
  authToken : Option String
  autoReconnect : Bool
  /-- The length of one unit of waiting between connection attempts. -/
  backoffUnit : Nat
  timeout : Nat
  /-- A source of tokens, in place of the one token. -/
  tokens : Option TokenSource

namespace ClientSettings

/-- The settings of a client that sets nothing else. -/
def ofBase (baseUrl databaseId : String) : ClientSettings :=
  ⟨baseUrl, databaseId, none, none, none, true, 1000, 30000, none⟩

def tokenSource (settings : ClientSettings) : TokenSource :=
  settings.tokens.getD (.fixed settings.authToken)

/-- The scheme for listening that goes with a scheme for requests. -/
def realtimeScheme? : String → Option String
  | "https" | "wss" => some "wss"
  | "http" | "ws" => some "ws"
  | _ => none

/-- The URL under which a client listens: the one that is set, or else the base URL with the
    scheme for listening. -/
def resolveRealtime (settings : ClientSettings) : Except Error Url :=
  match settings.realtimeUrl with
  | some text => Url.parse text
  | none => do
      let base ← Url.parse settings.baseUrl
      match realtimeScheme? base.scheme with
      | some scheme => return { base with scheme := scheme }
      | none => .error (.config (.realtimeScheme base.scheme))

end ClientSettings

/-- A client whose URLs have been read. -/
structure Client where
  settings : ClientSettings
  baseUrl : Url
  realtimeUrl : Url

namespace Client

def create (settings : ClientSettings) : Except Error Client :=
  if settings.databaseId.toList.isEmpty then .error (.config .emptyDatabaseId)
  else do
    let baseUrl ← Url.parse settings.baseUrl
    let realtimeUrl ← settings.resolveRealtime
    return ⟨settings, baseUrl, realtimeUrl⟩

def databaseId (client : Client) : String :=
  client.settings.databaseId

def document (client : Client) (path : String) : Except Error DocumentReference :=
  DocumentReference.parse path client.databaseId

def collection (client : Client) (path : String) : Except Error CollectionReference :=
  CollectionReference.parse path client.databaseId

end Client

end DocStore
