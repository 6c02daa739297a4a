import DocStore.Proofs.Call
import DocStore.Proofs.Update.Partition

/-! # What calls come to

A call sends nothing when something is wrong with its input, with its URL or with the token, in
this order, and then fails with that error; an update of no operations sends nothing and succeeds.
Any other call sends one request, and what is answered decides its result.
-/

namespace DocStore

theorem Members.insert_ne_nil (members : Members) (key : String) (value : Json) :
    members.insert key value ≠ [] := by
  cases members with
  | nil => exact List.cons_ne_nil _ _
  | cons member rest =>
      rw [Members.insert]
      split <;> exact List.cons_ne_nil _ _

namespace Update

theorem addToGroup_ne_nil (groups : Members) (field : String) (op : FieldOperation)
    (compiled : Json) : addToGroup groups field op compiled ≠ [] := by
  unfold addToGroup
  split
  case h_5 found =>
      rintro rfl
      cases found
  all_goals exact groups.insert_ne_nil _ _

/-- Each operation of an update is sent, so that there is nothing to send only if there are no
    operations. -/
theorem compile_eq_empty_iff {update : Update} :
    update.compile = .ok (.object []) ↔ update = [] := by
  constructor
  · intro compiled
    obtain ⟨groups, compiledInto, empty⟩ := map_eq_ok_iff.mp compiled
    obtain ⟨entries, same, folded⟩ := compileInto_eq_ok_iff.mp compiledInto
    cases entries using List.reverseRec with
    | nil => exact same.symm
    | append_singleton earlier last =>
        rw [Json.object.inj empty, List.foldl_concat] at folded
        exact (addToGroup_ne_nil _ _ _ _ folded).elim
  · rintro rfl
    rfl

end Update

theorem RequestDraft.store_of_other {data : Json} (other : ∀ members, data ≠ .object members)
    (base : Url) (document : DocumentReference) :
    RequestDraft.store base document data = .error (.serialization (.documentBody data.kind)) := by
  cases data with
  | object members => exact absurd rfl (other members)
  | null | bool | number | string | array => rfl

namespace Call

/-- The error that a call's own input is, before anything else is looked at. -/
def HasInputError (call : Call) (error : Error) : Prop :=
  match call with
  | .query _ selection => selection.parts = .error error
  | .updateDocument _ update => update.compile = .error error
  | .setDocument _ data | .addDocument _ data _ =>
      (∀ members, data ≠ .object members) ∧ error = .serialization (.documentBody data.kind)
  | .getDocument _ | .getCollection _ | .deleteDocument _ => False

/-- The call is an update of no operations. -/
def IsIdle : Call → Prop
  | .updateDocument _ update => update = []
  | .getDocument _ | .getCollection _ | .query _ _ | .setDocument _ _ | .addDocument _ _ _
  | .deleteDocument _ => False

/-- What a call reads or writes. -/
def reference : Call → Reference
  | .getDocument document | .setDocument document _ | .updateDocument document _
  | .deleteDocument document => .document document
  | .getCollection collection | .query collection _ => .collection collection
  | .addDocument collection _ random => .document (collection.newDocument random)

/-- The method of a call's request. -/
def method : Call → Method
  | .getDocument _ | .getCollection _ | .query _ _ => .get
  | .setDocument _ _ | .addDocument _ _ _ => .put
  | .updateDocument _ _ => .post
  | .deleteDocument _ => .delete

/-- What a call's request says about its body. -/
def headers : Call → List (String × String)
  | .setDocument _ _ | .addDocument _ _ _ => [("content-type", "application/json")]
  | .updateDocument _ _ =>
      [("x-http-method-override", "PATCH"), ("content-type", "application/json")]
  | .getDocument _ | .getCollection _ | .query _ _ | .deleteDocument _ => []

/-- What a call has to say in the query of its URL. -/
def HasPairs (call : Call) (pairs : List (String × String)) : Prop :=
  match call with
  | .query _ selection =>
      ∃ compiled, selection.parts = .ok compiled ∧ pairs = RequestDraft.queryPairs compiled
  | .getDocument _ | .getCollection _ | .setDocument _ _ | .addDocument _ _ _
  | .updateDocument _ _ | .deleteDocument _ => pairs = []

def HasBody (call : Call) (body : Option String) : Prop :=
  match call with
  | .setDocument _ data | .addDocument _ data _ => body = some data.text
  | .updateDocument _ update =>
      ∃ compiled, update.compile = .ok compiled ∧ body = some compiled.text
  | .getDocument _ | .getCollection _ | .query _ _ | .deleteDocument _ => body = none

/-- A draft of what a call has to say at a URL. -/
structure IsDraftedAs (call : Call) (url : Url) (draft : RequestDraft) : Prop where
  method : draft.method = call.method
  url : draft.url = url
  pairs : call.HasPairs draft.pairs
  headers : draft.headers = call.headers
  body : call.HasBody draft.body

/-- The request of a call at a URL, with an answer of the source of tokens. -/
structure IsSentAs (call : Call) (url : Url) (token projectName : Option String)
    (request : Request) : Prop where
  method : request.method = call.method
  place : request.url.place = url.place
  pairs : ∃ own, call.HasPairs own ∧
    request.url.pairs = url.pairs ++ (Url.projectPair token projectName ++ own)
  headers : call.headers <:+ request.headers
  tokens : request.tokens = token.toList
  body : call.HasBody request.body

/-- How a call decodes the body of a response, if it is one that reads. -/
def decoder? : Call → Option (Json → Except Error Outcome)
  | .getDocument document =>
      some fun value => (Document.ofWire document value).map fun read => .document (some read)
  | .getCollection collection | .query collection _ =>
      some fun value => (Collection.ofWire collection value).map .collection
  | .setDocument _ _ | .addDocument _ _ _ | .updateDocument _ _ | .deleteDocument _ => none

def IsGetDocument : Call → Prop
  | .getDocument _ => True
  | .getCollection _ | .query _ _ | .setDocument _ _ | .addDocument _ _ _ | .updateDocument _ _
  | .deleteDocument _ => False

variable {call : Call} {base url : Url} {error : Error}

/-! ## The draft of a call -/

theorem draft_of_inputError (fails : call.HasInputError error) :
    call.draft base = .error error := by
  cases call with
  | getDocument | getCollection | deleteDocument => exact fails.elim
  | query collection selection =>
      rw [draft, RequestDraft.query, show selection.parts = .error error from fails]
      rfl
  | updateDocument document update =>
      rw [draft, RequestDraft.update, show update.compile = .error error from fails]
      rfl
  | setDocument document data =>
      obtain ⟨other, rfl⟩ := fails
      rw [draft, RequestDraft.store_of_other other]
      rfl
  | addDocument collection data random =>
      obtain ⟨other, rfl⟩ := fails
      rw [draft, RequestDraft.store_of_other other]
      rfl

theorem draft_of_isIdle (idle : call.IsIdle) : call.draft base = .ok none := by
  cases call with
  | updateDocument document update =>
      cases idle
      rfl
  | getDocument | getCollection | query | setDocument | addDocument | deleteDocument =>
      exact idle.elim

theorem map_some_bind_pure {check : Except Error Url} {make : Url → RequestDraft} :
    (do return make (← check) : Except Error RequestDraft).map some =
      check.map fun url => some (make url) := by
  cases check <;> rfl

/-- A call with nothing wrong about its input, and something to send, is drafted for its URL. -/
theorem draft_of_valid (valid : ∀ error, ¬call.HasInputError error) (busy : ¬call.IsIdle)
    (base : Url) :
    ∃ make : Url → RequestDraft, (∀ url, call.IsDraftedAs url (make url)) ∧
      call.draft base = (base.resource call.reference).map fun url => some (make url) := by
  have isObject {data : Json}
      (fine : ¬((∀ members, data ≠ .object members) ∧
        Error.serialization (.documentBody data.kind) = .serialization (.documentBody data.kind))) :
      ∃ members, data = .object members := by
    by_contra other
    exact fine ⟨fun members same => other ⟨members, same⟩, rfl⟩
  cases call with
  | getDocument | getCollection | deleteDocument =>
      exact ⟨fun url => ⟨_, url, [], [], none⟩, fun _ => ⟨rfl, rfl, rfl, rfl, rfl⟩,
        map_some_bind_pure⟩
  | query collection selection =>
      cases compiles : selection.parts with
      | error error => exact absurd compiles (valid error)
      | ok compiled =>
          refine ⟨fun url => ⟨.get, url, RequestDraft.queryPairs compiled, [], none⟩,
            fun _ => ⟨rfl, rfl, ⟨compiled, compiles, rfl⟩, rfl, rfl⟩, ?_⟩
          rw [draft, RequestDraft.query, compiles]
          exact map_some_bind_pure
  | setDocument document data =>
      obtain ⟨members, rfl⟩ := isObject (valid _)
      exact ⟨fun url => ⟨.put, url, [], _, _⟩, fun _ => ⟨rfl, rfl, rfl, rfl, rfl⟩,
        map_some_bind_pure⟩
  | addDocument collection data random =>
      obtain ⟨members, rfl⟩ := isObject (valid _)
      exact ⟨fun url => ⟨.put, url, [], _, _⟩, fun _ => ⟨rfl, rfl, rfl, rfl, rfl⟩,
        map_some_bind_pure⟩
  | updateDocument document update =>
      cases compiles : update.compile with
      | error error => exact absurd compiles (valid error)
      | ok compiled =>
          have changes : compiled ≠ .object [] := by
            rintro rfl
            exact busy (Update.compile_eq_empty_iff.mp compiles)
          refine ⟨fun url => ⟨.post, url, [], [RequestDraft.updateHeader, RequestDraft.jsonHeader],
            some compiled.text⟩, fun _ => ⟨rfl, rfl, rfl, rfl, compiled, compiles, rfl⟩, ?_⟩
          rw [draft, RequestDraft.update, compiles]
          dsimp only [bind, Except.bind]
          rw [if_neg changes, reference]
          cases base.resource (.document document) <;> rfl

theorem IsDraftedAs.isSentAs {draft : RequestDraft} {token projectName : Option String}
    {request : Request} (drafts : call.IsDraftedAs url draft)
    (completed : draft.IsCompletedBy token projectName request) :
    call.IsSentAs url token projectName request where
  method := completed.method.trans drafts.method
  place := by rw [completed.place, drafts.url]
  pairs := ⟨draft.pairs, drafts.pairs, by rw [completed.pairs, drafts.url]⟩
  headers := drafts.headers ▸ completed.headers
  tokens := by
    refine completed.tokens fun header own => ?_
    rw [drafts.headers] at own
    have unmarked : ∀ header ∈ call.headers, header.1 ≠ Authorization.headerName := by
      cases call <;> simp [Call.headers, Authorization.headerName]
    exact unmarked header own
  body := completed.body ▸ drafts.body

theorem isIdle_of_draft (nothing : call.draft base = .ok none) : call.IsIdle := by
  by_contra busy
  obtain ⟨error, fails⟩ | valid := em (∃ error, call.HasInputError error)
  · cases nothing.symm.trans (draft_of_inputError fails)
  · obtain ⟨make, -, drafted⟩ := draft_of_valid (not_exists.mp valid) busy base
    rw [drafted] at nothing
    cases reached : base.resource call.reference <;> (rw [reached] at nothing; cases nothing)

/-! ## The response to a call -/

/-- What a call makes of what is answered to its request. -/
inductive IsAnswered (call : Call) : Option Response → Except Error Outcome → Prop where
  | unanswered : IsAnswered call none (.error (.http .noResponse))
  | missing {response : Response} (gets : call.IsGetDocument) (status : response.status = 404) :
      IsAnswered call (some response) (.ok (.document none))
  | failed {response : Response} (outside : response.status < 200 ∨ 300 ≤ response.status)
      (other : ¬(call.IsGetDocument ∧ response.status = 404)) :
      IsAnswered call (some response)
        (.error (.transport response.status (failureMessage response.status response.body)))
  | unreadable {response : Response} (inside : 200 ≤ response.status ∧ response.status < 300)
      {decode : Json → Except Error Outcome} (reads : call.decoder? = some decode)
      (malformed : Json.parse? response.body = none) :
      IsAnswered call (some response) (.error (.http .malformedBody))
  | read {response : Response} (inside : 200 ≤ response.status ∧ response.status < 300)
      {decode : Json → Except Error Outcome} (reads : call.decoder? = some decode)
      {value : Json} (parsed : Json.parse? response.body = some value) :
      IsAnswered call (some response) (decode value)
  | written {response : Response} (inside : 200 ≤ response.status ∧ response.status < 300)
      (writes : call.decoder? = none) : IsAnswered call (some response) (.ok call.written)

/-- A response with success is decoded, or nothing of it is looked at. -/
theorem isAnswered_success {response : Response}
    (inside : 200 ≤ response.status ∧ response.status < 300) :
    call.IsAnswered (some response) (call.success response) := by
  cases reads : call.decoder? with
  | none =>
      have succeeds : call.success response = .ok call.written := by
        cases call with
        | setDocument | addDocument | updateDocument | deleteDocument => rfl
        | getDocument | getCollection | query => cases reads
      exact succeeds ▸ .written inside reads
  | some decode =>
      have succeeds : call.success response = response.json >>= decode := by
        cases call with
        | setDocument | addDocument | updateDocument | deleteDocument => cases reads
        | getDocument document =>
            cases reads
            rw [success]
            cases response.json with
            | error error => rfl
            | ok value => cases Document.ofWire document value <;> rfl
        | getCollection collection | query collection =>
            cases reads
            rw [success]
            cases response.json with
            | error error => rfl
            | ok value => cases Collection.ofWire collection value <;> rfl
      rw [succeeds, Response.json]
      cases parsed : Json.parse? response.body with
      | none => exact .unreadable inside reads parsed
      | some value => exact .read inside reads parsed

theorem isAnswered_interpret (call : Call) (response : Option Response) :
    call.IsAnswered response (call.interpret response) := by
  cases response with
  | none => exact .unanswered
  | some response =>
      have isSuccess_iff : response.isSuccess = true ↔
          200 ≤ response.status ∧ response.status < 300 := by
        simp [Response.isSuccess]
      rw [interpret]
      split
      next success => exact isAnswered_success (isSuccess_iff.mp success)
      next failure =>
          rw [isSuccess_iff] at failure
          have outside : response.status < 200 ∨ 300 ≤ response.status := by omega
          cases call with
          | getDocument document =>
              rw [failed]
              split
              next notFound => exact .missing trivial notFound
              next found => exact .failed outside fun missing => found missing.2
          | getCollection | query | setDocument | addDocument | updateDocument | deleteDocument =>
              exact .failed outside fun missing => missing.1

theorem outcome_of_decoder {decode : Json → Except Error Outcome}
    (reads : call.decoder? = some decode) {value : Json} {outcome : Outcome}
    (decoded : decode value = .ok outcome) :
    (∃ document, outcome = .document (some document)) ∨
      ∃ collection, outcome = .collection collection := by
  cases call with
  | setDocument | addDocument | updateDocument | deleteDocument => cases reads
  | getDocument =>
      cases reads
      obtain ⟨document, -, rfl⟩ := map_eq_ok_iff.mp decoded
      exact .inl ⟨document, rfl⟩
  | getCollection | query =>
      cases reads
      obtain ⟨collection, -, rfl⟩ := map_eq_ok_iff.mp decoded
      exact .inr ⟨collection, rfl⟩

theorem parent_newDocument (collection : CollectionReference) (random : Nat) :
    (collection.newDocument random).parent = collection := by
  rw [CollectionReference.newDocument, DocumentReference.parent, List.dropLast_concat]

theorem written_eq_added {document : DocumentReference} (adds : call.written = .added document) :
    ∃ collection data random, call = .addDocument collection data random ∧
      document.parent = collection := by
  cases call with
  | addDocument collection data random =>
      cases adds
      exact ⟨collection, data, random, rfl, parent_newDocument collection random⟩
  | getDocument | getCollection | query | setDocument | updateDocument | deleteDocument =>
      cases adds

theorem written_ne_document (call : Call) (document : Option Document) :
    call.written ≠ .document document := by
  cases call <;> nofun

variable {response : Option Response} {result : Except Error Outcome}

theorem IsAnswered.missing_iff (answered : call.IsAnswered response result) :
    result = .ok (.document none) ↔
      call.IsGetDocument ∧ ∃ answer, response = some answer ∧ answer.status = 404 := by
  cases answered with
  | missing gets status => exact iff_of_true rfl ⟨gets, _, rfl, status⟩
  | unanswered => exact iff_of_false nofun nofun
  | failed outside other =>
      refine iff_of_false nofun ?_
      rintro ⟨gets, answer, same, status⟩
      cases same
      exact other ⟨gets, status⟩
  | unreadable inside =>
      refine iff_of_false nofun ?_
      rintro ⟨-, answer, same, status⟩
      cases same
      omega
  | read inside reads =>
      refine iff_of_false (fun decoded => ?_) ?_
      · obtain ⟨_, impossible⟩ | ⟨_, impossible⟩ := outcome_of_decoder reads decoded <;>
          cases impossible
      · rintro ⟨-, answer, same, status⟩
        cases same
        omega
  | written inside =>
      refine iff_of_false (fun same => written_ne_document call none (Except.ok.inj same)) ?_
      rintro ⟨-, answer, same, status⟩
      cases same
      omega

/-- A document has been added only if the response says so, and it is in the collection. -/
theorem IsAnswered.added {document : DocumentReference}
    (answered : call.IsAnswered response (.ok (.added document))) :
    (∃ collection data random, call = .addDocument collection data random ∧
      document.parent = collection) ∧
    ∃ answer, response = some answer ∧ 200 ≤ answer.status ∧ answer.status < 300 := by
  generalize adds : (Except.ok (.added document) : Except Error Outcome) = result at answered
  cases answered with
  | unanswered | missing | failed | unreadable => cases adds
  | read inside reads =>
      obtain ⟨_, impossible⟩ | ⟨_, impossible⟩ := outcome_of_decoder reads adds.symm <;>
        cases impossible
  | written inside => exact ⟨written_eq_added (Except.ok.inj adds).symm, _, rfl, inside⟩

end Call

/-! ## The whole call -/

/-- No request was made, and the call came to this. -/
def CallReport.IsUnsent (report : CallReport) (result : Except Error Outcome) : Prop :=
  report.request = none ∧ report.result = result

namespace Client

variable {client : Client} {call : Call}

theorem isUnsent_of_error {error : Error} (fails : call.draft client.baseUrl = .error error)
    (server : Request → Option Response) (tokensRead : Nat) :
    (client.perform call server tokensRead).IsUnsent (.error error) := by
  rw [perform, fails]
  exact ⟨rfl, rfl⟩

theorem isUnsent_of_idle (idle : call.IsIdle) (server : Request → Option Response)
    (tokensRead : Nat) : (client.perform call server tokensRead).IsUnsent (.ok .done) := by
  rw [perform, Call.draft_of_isIdle idle]
  cases call with
  | updateDocument => exact ⟨rfl, rfl⟩
  | getDocument | getCollection | query | setDocument | addDocument | deleteDocument =>
      exact idle.elim

theorem perform_of_drafted {draft : RequestDraft}
    (drafted : call.draft client.baseUrl = .ok (some draft)) (server : Request → Option Response)
    (tokensRead : Nat) :
    client.perform call server tokensRead =
      match draft.complete (client.settings.tokenSource tokensRead) client.settings.projectName with
      | .error error => ⟨none, .error error, tokensRead + 1⟩
      | .ok request => ⟨some request, call.interpret (server request), tokensRead + 1⟩ := by
  cases completed : draft.complete (client.settings.tokenSource tokensRead)
      client.settings.projectName <;>
    simp only [perform, drafted, completed]

/-- Without a request a call gives nothing. With one, it makes of it what is answered. -/
theorem perform_result (client : Client) (call : Call) (server : Request → Option Response)
    (tokensRead : Nat) :
    let report := client.perform call server tokensRead
    (report.request = none ∧ ∀ outcome, report.result = .ok outcome → outcome = .done) ∨
      ∃ request, report.request = some request ∧
        report.result = call.interpret (server request) := by
  intro report
  cases drafted : call.draft client.baseUrl with
  | error error =>
      obtain ⟨unsent, fails⟩ := isUnsent_of_error drafted server tokensRead
      exact .inl ⟨unsent, fun outcome succeeds => nomatch fails.symm.trans succeeds⟩
  | ok draft =>
      cases draft with
      | none =>
          obtain ⟨unsent, done⟩ :=
            isUnsent_of_idle (Call.isIdle_of_draft drafted) server tokensRead
          refine .inl ⟨unsent, fun outcome succeeds => ?_⟩
          cases done.symm.trans succeeds
          rfl
      | some draft =>
          have performed := perform_of_drafted drafted server tokensRead
          split at performed
          next => exact .inl ⟨congrArg (·.request) performed, fun outcome succeeds =>
            nomatch (congrArg (·.result) performed).symm.trans succeeds⟩
          next request _ =>
            exact .inr ⟨request, congrArg (·.request) performed, congrArg (·.result) performed⟩

/-- What a server would do about other requests makes no difference. -/
theorem perform_congr {server other : Request → Option Response} {tokensRead : Nat}
    (same : ∀ request ∈ (client.perform call server tokensRead).request,
      other request = server request) :
    client.perform call other tokensRead = client.perform call server tokensRead := by
  unfold perform at same ⊢
  split
  next => rfl
  next => rfl
  next draft drafted =>
      rw [drafted] at same
      dsimp only at same ⊢
      split
      next => rfl
      next request completed =>
          rw [completed] at same
          rw [same request rfl]

/-- A call that can be drafted is, unless it has nothing to send. -/
theorem exists_draft_of_canDraft (drafts : client.CanDraft call) (busy : ¬call.IsIdle) :
    ∃ draft, call.draft client.baseUrl = .ok (some draft) := by
  obtain ⟨compiles, names, segmented⟩ := drafts
  have valid (error : Error) : ¬call.HasInputError error := by
    refine fun fails => compiles ?_
    cases call with
    | getDocument | getCollection | deleteDocument => exact fails
    | query | updateDocument => exact ⟨error, fails⟩
    | setDocument | addDocument => exact fails.1
  obtain ⟨make, -, drafted⟩ := Call.draft_of_valid valid busy client.baseUrl
  obtain ⟨url, reached⟩ := Url.exists_endpoint segmented resourceSegment call.reference
  rw [Url.resource, reached] at drafted
  exact ⟨make url, drafted⟩

variable {server : Request → Option Response} {tokensRead : Nat}

/-- What stands in the way of a call that could be drafted is the token, or else a URL that no
    request can be sent to. -/
theorem perform_of_resource (valid : ∀ error, ¬call.HasInputError error) (busy : ¬call.IsIdle)
    {url : Url} (reached : client.baseUrl.resource call.reference = .ok url) :
    let report := client.perform call server tokensRead
    let token := client.settings.tokenSource tokensRead
    (¬Authorization.IsAccepted token → report.IsUnsent (.error (.config .invalidToken))) ∧
      (Authorization.IsAccepted token → url.host? = none →
        report.IsUnsent (.error (.http .noHost))) ∧
      (Authorization.IsAccepted token → url.host? ≠ none →
        ∃ request, report.request = some request ∧
          call.IsSentAs url token client.settings.projectName request ∧
          call.IsAnswered (server request) report.result) := by
  intro report token
  obtain ⟨make, drafts, drafted⟩ := Call.draft_of_valid valid busy client.baseUrl
  rw [reached] at drafted
  have performed : report = _ := perform_of_drafted drafted server tokensRead
  have completes := (make url).complete_completion token client.settings.projectName
  generalize (make url).complete token client.settings.projectName = completed
    at completes performed
  rw [performed]
  cases completes with
  | refused refusal =>
      exact ⟨fun _ => ⟨rfl, rfl⟩, fun accepted => absurd accepted refusal,
        fun accepted => absurd accepted refusal⟩
  | unhosted accepted hostless =>
      rw [(drafts url).url] at hostless
      exact ⟨fun refusal => absurd accepted refusal, fun _ _ => ⟨rfl, rfl⟩,
        fun _ hosted => absurd hostless hosted⟩
  | made accepted hosted completed =>
      rw [(drafts url).url] at hosted
      exact ⟨fun refusal => absurd accepted refusal,
        fun _ hostless => absurd (hosted.symm.trans hostless) nofun,
        fun _ _ => ⟨_, rfl, (drafts url).isSentAs completed, Call.isAnswered_interpret call _⟩⟩

/-- A call sends at most one request. It sends none, and fails with that error, if its input is
    wrong, its URL cannot be made or no header can carry the token, the first of these counting;
    it sends none and succeeds if it is an update of no operations. Any other call sends one, which
    says all that the call has to say, and each response decides its result. A document counts as
    missing exactly when its status is 404, and one counts as added only after a response with
    success. -/
theorem perform_exchange (client : Client) (call : Call) (server : Request → Option Response)
    (tokensRead : Nat) :
    let report := client.perform call server tokensRead
    let token := client.settings.tokenSource tokensRead
    (∀ error, call.HasInputError error → report.IsUnsent (.error error)) ∧
    (call.IsIdle → report.IsUnsent (.ok .done)) ∧
    ((∀ error, ¬call.HasInputError error) → ¬call.IsIdle →
      (∀ error, client.baseUrl.resource call.reference = .error error →
        report.IsUnsent (.error error)) ∧
      ∀ url, client.baseUrl.resource call.reference = .ok url →
        (¬Authorization.IsAccepted token → report.IsUnsent (.error (.config .invalidToken))) ∧
        (Authorization.IsAccepted token → url.host? = none →
          report.IsUnsent (.error (.http .noHost))) ∧
        (Authorization.IsAccepted token → url.host? ≠ none →
          ∃ request, report.request = some request ∧
            call.IsSentAs url token client.settings.projectName request ∧
            call.IsAnswered (server request) report.result)) ∧
    (∀ other, (∀ request ∈ report.request, other request = server request) →
      client.perform call other tokensRead = report) ∧
    (report.result = .ok (.document none) ↔ call.IsGetDocument ∧
      ∃ request answer, report.request = some request ∧ server request = some answer ∧
        answer.status = 404) ∧
    (∀ document, report.result = .ok (.added document) →
      (∃ collection data random, call = .addDocument collection data random ∧
        document.parent = collection) ∧
      ∃ request answer, report.request = some request ∧ server request = some answer ∧
        200 ≤ answer.status ∧ answer.status < 300) := by
  intro report token
  have result := perform_result client call server tokensRead
  refine ⟨fun error fails => isUnsent_of_error (Call.draft_of_inputError fails) server tokensRead,
    fun idle => isUnsent_of_idle idle server tokensRead,
    fun valid busy => ⟨fun error unreached => ?_, fun url reached =>
      perform_of_resource valid busy reached⟩,
    fun other same => perform_congr same, ?_, fun document adds => ?_⟩
  · obtain ⟨make, -, drafted⟩ := Call.draft_of_valid valid busy client.baseUrl
    rw [unreached] at drafted
    exact isUnsent_of_error drafted server tokensRead
  · obtain ⟨unsent, quiet⟩ | ⟨request, sent, answered⟩ := result
    · refine iff_of_false (fun missing => nomatch quiet _ missing) ?_
      rintro ⟨-, request, answer, sent, -⟩
      cases unsent.symm.trans sent
    · have decided := (Call.isAnswered_interpret call (server request)).missing_iff
      rw [show report.result = _ from answered, decided, show report.request = _ from sent]
      simp
  · obtain ⟨-, quiet⟩ | ⟨request, sent, answered⟩ := result
    · cases quiet _ adds
    · have added := Call.isAnswered_interpret call (server request)
      rw [← answered, show (client.perform call server tokensRead).result = _ from adds] at added
      obtain ⟨adding, answer, response, inside⟩ := added.added
      exact ⟨adding, request, answer, sent, response, inside⟩

/-- A document is added with a token that a header can carry, and the body of the response is no
    JSON. -/
theorem perform_exchange_added :
    let client : Client := ⟨{ ClientSettings.ofBase "http://[::1]/api/" "main" with
      authToken := some "secret" }, Url.loopback, { Url.loopback with scheme := "ws" }⟩
    let users : CollectionReference := ⟨["users"], "main"⟩
    let call := Call.addDocument users (.single "name" (.string "a")) 7
    let server : Request → Option Response := fun _ => some ⟨201, "created"⟩
    (∀ error, ¬call.HasInputError error) ∧ ¬call.IsIdle ∧
      (∃ request, (client.perform call server 0).request = some request ∧
        request.method = .put ∧ request.tokens = ["secret"] ∧
        request.body = some "\x7b\"name\":\"a\"\x7d") ∧
      (client.perform call server 0).result = .ok (.added (users.newDocument 7)) ∧
      (users.newDocument 7).parent = users := by
  intro client users call server
  have valid : ∀ error, ¬call.HasInputError error := fun error fails => fails.1 _ rfl
  have busy : ¬call.IsIdle := id
  obtain ⟨url, reached⟩ : ∃ url, client.baseUrl.resource call.reference = .ok url := ⟨_, rfl⟩
  have hosted : url.host? ≠ none := by
    rw [(Url.pairs_of_endpoint reached).2]
    decide
  obtain ⟨-, -, sends, -, -, adds⟩ := perform_exchange client call server 0
  obtain ⟨-, reaches⟩ := sends valid busy
  obtain ⟨-, -, succeeds⟩ := reaches url reached
  obtain ⟨request, sent, content, answered⟩ := succeeds (by decide) hosted
  have result : (client.perform call server 0).result = .ok (.added (users.newDocument 7)) := by
    generalize (client.perform call server 0).result = result at answered
    cases answered with
    | written => rfl
    | missing gets => exact gets.elim
    | failed outside => exact absurd outside (by decide)
    | unreadable _ reads | read _ reads => cases reads
  obtain ⟨⟨collection, data, random, same, parent⟩, -⟩ := adds _ result
  obtain ⟨rfl, -, -⟩ := Call.addDocument.inj same
  have body : request.body = some "\x7b\"name\":\"a\"\x7d" := by
    rw [content.body]
    rfl
  exact ⟨valid, busy, ⟨request, sent, content.method, content.tokens, body⟩, result, parent⟩

end Client

end DocStore
