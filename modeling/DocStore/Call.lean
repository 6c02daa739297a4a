import DocStore.Request
import DocStore.Response
import DocStore.Snapshot

/-! # One-shot calls

The calls that a client makes, each of at most one request. A call is drafted, completed with one
reading of the token, sent, and its response interpreted.
-/

namespace DocStore

/-- A one-shot call. -/
inductive Call where
  | getDocument (document : DocumentReference)
  | getCollection (collection : CollectionReference)
  | query (collection : CollectionReference) (selection : Query)
  | setDocument (document : DocumentReference) (data : Json)
  /-- Store a document under an id made from these random bits. -/
  | addDocument (collection : CollectionReference) (data : Json) (random : Nat)
  | updateDocument (document : DocumentReference) (update : Update)
  | deleteDocument (document : DocumentReference)

/-- What a call gives if it succeeds. -/
inductive Outcome where
  | document (document : Option Document)
  | collection (collection : Collection)
  | added (document : DocumentReference)
  | done
  deriving DecidableEq, Repr

namespace Call

/-- The request that a call makes, but for its token; `none` if there is nothing to send. -/
def draft (call : Call) (base : Url) : Except Error (Option RequestDraft) :=
  match call with
  | .getDocument document => (RequestDraft.plain base .get (.document document)).map some
  | .getCollection collection => (RequestDraft.plain base .get (.collection collection)).map some
  | .query collection selection =>
      (RequestDraft.query base collection selection).map some
  | .setDocument document data => (RequestDraft.store base document data).map some
  | .addDocument collection data random =>
      (RequestDraft.store base (collection.newDocument random) data).map some
  | .updateDocument document update => RequestDraft.update base document update
  | .deleteDocument document => (RequestDraft.plain base .delete (.document document)).map some

/-- What a call gives when its write has succeeded. -/
def written : Call → Outcome
  | .addDocument collection _ random => .added (collection.newDocument random)
  | _ => .done

/-- What a call makes of a response with success. -/
def success (call : Call) (response : Response) : Except Error Outcome :=
  match call with
  | .getDocument document => do
      return .document (some (← Document.ofWire document (← response.json)))
  | .getCollection collection | .query collection _ => do
      return .collection (← Collection.ofWire collection (← response.json))
  | call => .ok call.written

/-- What a call makes of a response without success: a document that is not found does not
    exist. -/
def failed (call : Call) (response : Response) : Except Error Outcome :=
  match call with
  | .getDocument _ =>
      if response.status = 404 then .ok (.document none) else .error response.failure
  | _ => .error response.failure

def interpret (call : Call) (response : Option Response) : Except Error Outcome :=
  match response with
  | none => .error (.http .noResponse)
  | some response => if response.isSuccess then call.success response else call.failed response

end Call

/-- What became of a call. -/
structure CallReport where
  request : Option Request
  result : Except Error Outcome
  /-- The number of tokens that the client has read since it was made. -/
  tokensRead : Nat

/-- Make a call with a client that has read some number of tokens before. The server answers each
    request with a response or not at all. -/
def Client.perform (client : Client) (call : Call) (server : Request → Option Response)
    (tokensRead : Nat) : CallReport :=
  match call.draft client.baseUrl with
  | .error error => ⟨none, .error error, tokensRead⟩
  | .ok none => ⟨none, .ok call.written, tokensRead⟩
  | .ok (some draft) =>
      let token := client.settings.tokenSource tokensRead
      match draft.complete token client.settings.projectName with
      | .error error => ⟨none, .error error, tokensRead + 1⟩
      | .ok request => ⟨some request, call.interpret (server request), tokensRead + 1⟩

end DocStore
