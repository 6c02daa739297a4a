import DocStore.Authorization
import DocStore.Client
import DocStore.Update

/-! # Requests

One-shot requests. A draft has all of a request but the token, and is made first: whatever can go
wrong with the caller's own input is found before a token is read.
-/

namespace DocStore

inductive Method where
  | get
  | put
  | post
  | delete
  deriving DecidableEq, Repr

def Method.text : Method → String
  | .get => "GET"
  | .put => "PUT"
  | .post => "POST"
  | .delete => "DELETE"

/-- A request as it is sent. Header names are in lower case. -/
structure Request where
  method : Method
  url : Url
  headers : List (String × String)
  body : Option String
  deriving DecidableEq, Repr

/-- A request without its token. -/
structure RequestDraft where
  method : Method
  url : Url
  /-- What is added to the URL's query. -/
  pairs : List (String × String)
  headers : List (String × String)
  body : Option String
  deriving DecidableEq, Repr

namespace Url

/-- The user and the password of a URL; escapes that are no text make them none. -/
def credentials? (url : Url) : Option (String × String) := do
  let authority ← url.authority
  let username ← textOfBytes? (unescape authority.username.toList)
  let password := textOfBytes? (unescape authority.password.toList)
  if username.toList.isEmpty && (authority.password.toList.isEmpty || password.isNone) then none
  else some (username, password.getD "")

def withoutCredentials (url : Url) : Url :=
  { url with authority := url.authority.map fun authority =>
      { authority with username := "", password := "" } }

end Url

namespace RequestDraft

/-- The request of a draft. Without a token it names its project instead. A user and a password in
    the URL move to a header. -/
def complete (draft : RequestDraft) (token projectName : Option String) :
    Except Error Request := do
  let tokenHeader ← Authorization.tokenHeaders token
  if draft.url.host?.isNone then .error (.http .noHost)
  else
    let project := if token.isSome then none else projectName
    let url := draft.url.addPairs
      ((project.map fun name => ("projectName", name)).toList ++ draft.pairs)
    let (url, userHeader) :=
      match draft.url.credentials? with
      | some (username, password) =>
          (url.withoutCredentials, [Authorization.basic username password])
      | none => (url, [])
    return ⟨draft.method, url, userHeader ++ tokenHeader ++ draft.headers, draft.body⟩

def jsonHeader : String × String := ("content-type", "application/json")

/-- The header that makes an update of a request that would otherwise create something. -/
def updateHeader : String × String := ("x-http-method-override", "PATCH")

/-- A request for what a reference names. -/
def plain (base : Url) (method : Method) (reference : Reference) : Except Error RequestDraft := do
  return ⟨method, ← base.resource reference, [], [], none⟩

def queryPairs (compiled : QueryParts) : List (String × String) :=
  (compiled.query.map fun value => ("query", value.text)).toList ++
  (compiled.sort.map fun value => ("sort", value.text)).toList ++
  (compiled.projection.map fun value => ("projection", value.text)).toList ++
  (compiled.limit.map fun n => ("limit", toString n.toNat)).toList

def query (base : Url) (collection : CollectionReference) (query : Query) :
    Except Error RequestDraft := do
  let compiled ← query.parts
  let url ← base.resource (.collection collection)
  return ⟨.get, url, queryPairs compiled, [], none⟩

/-- A request that stores a document, which must be an object. -/
def store (base : Url) (document : DocumentReference) (data : Json) :
    Except Error RequestDraft :=
  match data with
  | .object _ => do
      let url ← base.resource (.document document)
      return ⟨.put, url, [], [jsonHeader], some data.text⟩
  | other => .error (.serialization (.documentBody other.kind))

/-- A request that updates a document; there is none if the update changes nothing. -/
def update (base : Url) (document : DocumentReference) (update : Update) :
    Except Error (Option RequestDraft) := do
  let compiled ← update.compile
  if compiled = .object [] then return none
  else
    let url ← base.resource (.document document)
    return some ⟨.post, url, [], [updateHeader, jsonHeader], some compiled.text⟩

end RequestDraft

end DocStore
