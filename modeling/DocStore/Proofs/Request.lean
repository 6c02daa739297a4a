import DocStore.Call
import DocStore.Proofs.Endpoint
import DocStore.Proofs.Outcome
import DocStore.Proofs.Url.Form

/-! # What requests and listeners carry in their URLs

A draft becomes a request when its token may stand in a header and its URL has a host. The request
then carries that token and no other, and its query says what the base URL's query says, then the
project of a request without a token, then the draft's own pairs.
-/

namespace DocStore

namespace Authorization

/-- There is no token, or all its characters may stand in a header. -/
def IsAccepted (token : Option String) : Prop :=
  ∀ text ∈ token, text.toList.all isHeaderChar = true

instance : DecidablePred IsAccepted := fun token =>
  inferInstanceAs (Decidable (∀ text ∈ token, text.toList.all isHeaderChar = true))

theorem tokenHeaders_of_isAccepted {token : Option String} (accepted : IsAccepted token) :
    tokenHeaders token =
      .ok (token.toList.map fun text => (headerName, "Bearer " ++ text)) := by
  cases token with
  | none => rfl
  | some text =>
      rw [tokenHeaders, bearer, if_pos (accepted text rfl)]
      rfl

theorem tokenHeaders_of_not_isAccepted {token : Option String} (refused : ¬IsAccepted token) :
    tokenHeaders token = .error (.config .invalidToken) := by
  cases token with
  | none => exact absurd nofun refused
  | some text =>
      have notAll : ¬text.toList.all isHeaderChar = true := by
        intro all
        refine refused fun other same => ?_
        cases same
        exact all
      rw [tokenHeaders, bearer, if_neg notAll]
      rfl

/-- The token in a header, if it is one that carries a token. -/
def token? (header : String × String) : Option String :=
  if header.1 = headerName then ("Bearer ".toList.isPrefixOf? header.2.toList).map String.ofList
  else none

theorem token?_bearer (text : String) : token? (headerName, "Bearer " ++ text) = some text := by
  simp [token?]

theorem token?_basic (username password : String) : token? (basic username password) = none := by
  simp [token?, basic, List.isPrefixOf?]

theorem token?_of_ne {header : String × String} (other : header.1 ≠ headerName) :
    token? header = none :=
  if_neg other

end Authorization

def Request.tokens (request : Request) : List String :=
  request.headers.filterMap Authorization.token?

namespace Url

/-- The pair that names the project of whoever has no token. -/
def projectPair (token projectName : Option String) : List (String × String) :=
  match token with
  | some _ => []
  | none => (projectName.map fun name => ("projectName", name)).toList

/-- The URL without who asks and what is asked. -/
def place (url : Url) : Url :=
  { url.withoutCredentials with query := none }

theorem place_withoutCredentials (url : Url) :
    url.withoutCredentials.place = url.place := by
  obtain ⟨_, authority, _, _, _⟩ := url
  cases authority <;> rfl

theorem place_addPairs (url : Url) (pairs : List (String × String)) :
    (url.addPairs pairs).place = url.place := by
  unfold addPairs
  split <;> rfl

/-- What is reached under a base URL, which then has segments, differs from it in the path only. -/
theorem segments_of_endpoint {base url : Url} {service : String} {reference : Reference}
    (reached : base.endpoint service reference = .ok url) :
    ∃ names more, base.path = .segments names ∧ url = { base with path := .segments more } := by
  unfold endpoint append? at reached
  cases path : base.path with
  | rootless text =>
      rw [path] at reached
      cases reached
  | segments names =>
      rw [path] at reached
      cases reached
      exact ⟨names, _, rfl, rfl⟩

theorem exists_endpoint {base : Url} {names : List String} (segmented : base.path = .segments names)
    (service : String) (reference : Reference) :
    ∃ url, base.endpoint service reference = .ok url := by
  rw [endpoint, append?, segmented]
  exact ⟨_, rfl⟩

theorem pairs_of_endpoint {base url : Url} {service : String} {reference : Reference}
    (reached : base.endpoint service reference = .ok url) :
    url.pairs = base.pairs ∧ url.host? = base.host? := by
  obtain ⟨_, _, -, rfl⟩ := segments_of_endpoint reached
  exact ⟨rfl, rfl⟩

end Url

namespace RequestDraft

/-- What a request has of its draft, and what is added to it. -/
structure IsCompletedBy (draft : RequestDraft) (token projectName : Option String)
    (request : Request) : Prop where
  method : request.method = draft.method
  body : request.body = draft.body
  place : request.url.place = draft.url.place
  pairs : request.url.pairs =
    draft.url.pairs ++ (Url.projectPair token projectName ++ draft.pairs)
  headers : draft.headers <:+ request.headers
  tokens : (∀ header ∈ draft.headers, header.1 ≠ Authorization.headerName) →
    request.tokens = token.toList

/-- All that can become of a draft. -/
inductive Completion (draft : RequestDraft) (token projectName : Option String) :
    Except Error Request → Prop where
  | refused (refusal : ¬Authorization.IsAccepted token) :
      Completion draft token projectName (.error (.config .invalidToken))
  | unhosted (accepted : Authorization.IsAccepted token) (hostless : draft.url.host? = none) :
      Completion draft token projectName (.error (.http .noHost))
  | made (accepted : Authorization.IsAccepted token) {host : Url.Host}
      (hosted : draft.url.host? = some host) {request : Request}
      (completed : draft.IsCompletedBy token projectName request) :
      Completion draft token projectName (.ok request)

theorem tokens_of_headers {token : Option String} {headers own : List (String × String)}
    (quiet : ∀ header ∈ headers, Authorization.token? header = none)
    (ownQuiet : ∀ header ∈ own, Authorization.token? header = none) :
    (headers ++ (token.toList.map fun text => (Authorization.headerName, "Bearer " ++ text)) ++
      own).filterMap Authorization.token? = token.toList := by
  rw [List.filterMap_append, List.filterMap_append, List.filterMap_eq_nil_iff.mpr quiet,
    List.filterMap_eq_nil_iff.mpr ownQuiet, List.filterMap_map, List.nil_append, List.append_nil]
  simp [Authorization.token?_bearer]

theorem complete_completion (draft : RequestDraft) (token projectName : Option String) :
    draft.Completion token projectName (draft.complete token projectName) := by
  by_cases accepted : Authorization.IsAccepted token
  · rw [complete, Authorization.tokenHeaders_of_isAccepted accepted]
    have pairs : ((if token.isSome then none else projectName).map
        fun name => ("projectName", name)).toList = Url.projectPair token projectName := by
      cases token <;> rfl
    cases host : draft.url.host? with
    | none => exact .unhosted accepted host
    | some _ =>
        cases credentials : draft.url.credentials? with
        | none =>
            refine .made accepted host ⟨rfl, rfl, Url.place_addPairs _ _, ?_,
              List.suffix_append _ _, fun unmarked => ?_⟩
            · rw [← pairs, ← Url.pairs_addPairs]
            · exact tokens_of_headers nofun fun header own =>
                Authorization.token?_of_ne (unmarked header own)
        | some user =>
            refine .made accepted host ⟨rfl, rfl, ?_, ?_, List.suffix_append _ _,
              fun unmarked => ?_⟩
            · exact (Url.place_withoutCredentials _).trans (Url.place_addPairs _ _)
            · rw [← pairs, ← Url.pairs_addPairs]
              rfl
            · refine tokens_of_headers (List.forall_mem_singleton.mpr ?_) fun header own =>
                Authorization.token?_of_ne (unmarked header own)
              exact Authorization.token?_basic user.1 user.2
  · rw [complete, Authorization.tokenHeaders_of_not_isAccepted accepted]
    exact .refused accepted

end RequestDraft

namespace Query

/-- The request for the documents of a collection that a query selects. -/
def request (query : Query) (base : Url) (collection : CollectionReference)
    (token projectName : Option String) : Except Error Request := do
  (← RequestDraft.query base collection query).complete token projectName

variable {query : Query} {base : Url} {collection : CollectionReference}
  {token projectName : Option String} {compiled : QueryParts}

theorem draft_eq_ok_iff {draft : RequestDraft} :
    RequestDraft.query base collection query = .ok draft ↔
      ∃ compiled url, query.parts = .ok compiled ∧
        base.resource (.collection collection) = .ok url ∧
        draft = ⟨.get, url, RequestDraft.queryPairs compiled, [], none⟩ := by
  rw [RequestDraft.query, bind_eq_ok_iff]
  simp only [bind_pure_eq_ok_iff, exists_and_left]

/-- A request that is made asks for no more than the base URL, the token and the query say. -/
theorem request_eq_ok {request : Request}
    (made : query.request base collection token projectName = .ok request) :
    ∃ compiled, query.parts = .ok compiled ∧ request.method = .get ∧ request.body = none ∧
      request.url.pairs =
        base.pairs ++ (Url.projectPair token projectName ++ RequestDraft.queryPairs compiled) := by
  obtain ⟨draft, drafted, completes⟩ := bind_eq_ok_iff.mp made
  obtain ⟨compiled, url, compiles, reached, rfl⟩ := draft_eq_ok_iff.mp drafted
  have all := RequestDraft.complete_completion
    ⟨.get, url, RequestDraft.queryPairs compiled, [], none⟩ token projectName
  rw [completes] at all
  cases all with
  | made _ _ completed =>
      refine ⟨compiled, compiles, completed.method, completed.body, ?_⟩
      rw [completed.pairs, (Url.pairs_of_endpoint reached).1]

/-- What a call sends, if anything, is this request. -/
theorem perform_query (client : Client) (query : Query) (collection : CollectionReference)
    (server : Request → Option Response) (tokensRead : Nat) :
    (client.perform (.query collection query) server tokensRead).request =
      (query.request client.baseUrl collection (client.settings.tokenSource tokensRead)
        client.settings.projectName).toOption := by
  dsimp only [Client.perform, Call.draft, request]
  cases RequestDraft.query client.baseUrl collection query with
  | error error => rfl
  | ok draft =>
      dsimp only [Except.map, bind, Except.bind]
      cases draft.complete (client.settings.tokenSource tokensRead) client.settings.projectName <;>
        rfl

/-- A query that compiles is written into a URL without loss: after the pairs of the base URL and
    the project of a request without a token, the query's parts are read back as their texts. And
    the URL under which a reference is listened to has the listener's pairs only. -/
theorem pairs_read_back {base : Url} {names : List String} (segmented : base.path = .segments names)
    (collection : CollectionReference) {query : Query} {compiled : QueryParts}
    (compiles : query.parts = .ok compiled) {token : Option String}
    (accepted : Authorization.IsAccepted token) (projectName : Option String) :
    (match base.host? with
      | none => query.request base collection token projectName = .error (.http .noHost)
      | some _ => ∃ request, query.request base collection token projectName = .ok request ∧
          request.url.pairs = base.pairs ++ (Url.projectPair token projectName ++
            ((compiled.query.map fun value => ("query", value.text)).toList ++
              (compiled.sort.map fun value => ("sort", value.text)).toList ++
              (compiled.projection.map fun value => ("projection", value.text)).toList ++
              (compiled.limit.map fun n => ("limit", toString n.toNat)).toList))) ∧
      ∀ (reference : Reference) (initialFullResult willQuery : Bool) (named : Option String),
        ∃ url, base.listening reference initialFullResult named willQuery = .ok url ∧
          url.pairs = [("initialFullResult", if initialFullResult then "true" else "false")] ++
            (named.map fun name => ("projectName", name)).toList ++
            if willQuery then [("willQuery", "true")] else [] := by
  constructor
  · obtain ⟨url, reached⟩ := Url.exists_endpoint segmented resourceSegment (.collection collection)
    have drafted : RequestDraft.query base collection query =
        .ok ⟨.get, url, RequestDraft.queryPairs compiled, [], none⟩ :=
      draft_eq_ok_iff.mpr ⟨compiled, url, compiles, reached, rfl⟩
    have all := RequestDraft.complete_completion
      ⟨.get, url, RequestDraft.queryPairs compiled, [], none⟩ token projectName
    obtain ⟨samePairs, sameHost⟩ := Url.pairs_of_endpoint reached
    rw [request, drafted, ← sameHost, ← samePairs]
    dsimp only [bind, Except.bind]
    generalize RequestDraft.complete _ token projectName = outcome at all ⊢
    cases all with
    | refused refusal => exact absurd accepted refusal
    | unhosted _ hostless =>
        rw [show url.host? = none from hostless]
    | made _ hosted completed =>
        rw [show url.host? = some _ from hosted]
        exact ⟨_, rfl, completed.pairs⟩
  · intro reference initialFullResult willQuery named
    obtain ⟨url, reached⟩ := Url.exists_endpoint segmented listenSegment reference
    refine ⟨_, bind_eq_ok_iff.mpr ⟨url, reached, rfl⟩, ?_⟩
    rw [Url.pairs_withPairs]
    rfl

/-- A filter for a text of reserved characters, behind a base URL that has pairs of its own. -/
theorem pairs_read_back_reserved :
    let base := { Url.loopback with query := some "a=1&a=%26+" }
    let query := (Query.everything.find
      (.compare .eq (some "name") (.string "a&b=c+d%23#é"))).limitTo 10
    let filter := Json.single "name" (.single "$eq" (.string "a&b=c+d%23#é"))
    base.path = .segments ["api", ""] ∧ query.parts = .ok ⟨some filter, none, none, some 10⟩ ∧
      Authorization.IsAccepted none ∧
      ∃ request, query.request base ⟨["users"], "main"⟩ none (some "p=q") = .ok request ∧
        request.url.pairs = [("a", "1"), ("a", "& "), ("projectName", "p=q"),
          ("query", "\x7b\"name\":\x7b\"$eq\":\"a&b=c+d%23#é\"\x7d\x7d"), ("limit", "10")] := by
  intro base query filter
  have segmented : base.path = .segments ["api", ""] := rfl
  have compiles : query.parts = .ok ⟨some filter, none, none, some 10⟩ := rfl
  have accepted : Authorization.IsAccepted none := nofun
  obtain ⟨request, made, read⟩ :=
    (pairs_read_back segmented ⟨["users"], "main"⟩ compiles accepted (some "p=q")).1
  refine ⟨segmented, compiles, accepted, request, made, read.trans ?_⟩
  decide

end Query

end DocStore
