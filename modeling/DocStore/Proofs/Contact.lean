import DocStore.Proofs.Exchange
import DocStore.Proofs.Session

/-! # Which databases a client contacts

A client listens within its own database only. Its one-shot calls do not look at the database that
the client is bound to: each goes to the database of its reference. So a session stays in the
client's database as far as its calls do.
-/

namespace DocStore

namespace Url

/-- References with literal texts are told apart by where they are read and written. -/
theorem texts_eq_of_place_eq {base url other : Url} {reference second : Reference}
    (reached : base.resource reference = .ok url) (secondReached : base.resource second = .ok other)
    (literal : reference.IsLiteral) (secondLiteral : second.IsLiteral)
    (same : url.place = other.place) : reference.texts = second.texts := by
  obtain ⟨names, -, segmented, -⟩ := segments_of_endpoint reached
  rw [resource_eq segmented] at reached secondReached
  cases reached
  cases secondReached
  have samePath := congrArg Url.path same
  exact eq_of_foldl_pushSegment_eq (isStarted_resourcePath names) literal secondLiteral
    (Path.segments.inj samePath)

end Url

namespace Client

/-- The client bound to another database. -/
def boundTo (client : Client) (database : String) : Client :=
  { client with settings := { client.settings with databaseId := database } }

/-- The database that a client is bound to has no part in its calls. -/
theorem perform_boundTo (client : Client) (database : String) (call : Call)
    (server : Request → Option Response) (tokensRead : Nat) :
    (client.boundTo database).perform call server tokensRead =
      client.perform call server tokensRead := by
  unfold perform
  rfl

variable {client : Client} {call : Call}

theorem place_of_perform {server : Request → Option Response} {tokensRead : Nat} {request : Request}
    (sent : (client.perform call server tokensRead).request = some request) :
    ∃ target, client.baseUrl.resource call.reference = .ok target ∧
      request.url.place = target.place := by
  have unsent {result : Except Error Outcome}
      (none : (client.perform call server tokensRead).IsUnsent result) : False := by
    cases sent.symm.trans none.1
  have valid (error : Error) : ¬call.HasInputError error := fun fails =>
    unsent (isUnsent_of_error (Call.draft_of_inputError fails) server tokensRead)
  have busy : ¬call.IsIdle := fun idle => unsent (isUnsent_of_idle idle server tokensRead)
  obtain ⟨make, drafts, drafted⟩ := Call.draft_of_valid valid busy client.baseUrl
  cases reached : client.baseUrl.resource call.reference with
  | error error =>
      rw [reached] at drafted
      exact (unsent (isUnsent_of_error drafted server tokensRead)).elim
  | ok target =>
      rw [reached] at drafted
      rw [perform_of_drafted drafted] at sent
      have completes := (make target).complete_completion
        (client.settings.tokenSource tokensRead) client.settings.projectName
      generalize (make target).complete _ _ = completed at completes sent
      cases completes with
      | refused | unhosted => cases sent
      | made _ _ completed =>
          cases sent
          exact ⟨target, rfl, ((drafts target).isSentAs completed).place⟩

theorem exists_request_of_perform {names : List String} {server : Request → Option Response}
    {tokensRead : Nat} (valid : ∀ error, ¬call.HasInputError error) (busy : ¬call.IsIdle)
    (accepted : Authorization.IsAccepted (client.settings.tokenSource tokensRead))
    (hosted : client.baseUrl.host? ≠ none) (segmented : client.baseUrl.path = .segments names) :
    ∃ request, (client.perform call server tokensRead).request = some request := by
  obtain ⟨target, reached⟩ := Url.exists_endpoint segmented resourceSegment call.reference
  have targetHosted : target.host? ≠ none := by
    rwa [(Url.pairs_of_endpoint reached).2]
  obtain ⟨-, -, sends⟩ := perform_of_resource valid busy reached
  obtain ⟨request, sent, -⟩ := sends accepted targetHosted
  exact ⟨request, sent⟩

theorem place_ne_of_perform {server : Request → Option Response} {tokensRead : Nat}
    {request : Request} (sent : (client.perform call server tokensRead).request = some request)
    (literal : call.reference.IsLiteral) {own : Reference} (ownLiteral : own.IsLiteral)
    (foreign : call.reference.database ≠ own.database) {target : Url}
    (reached : client.baseUrl.resource own = .ok target) : request.url.place ≠ target.place := by
  intro same
  obtain ⟨other, otherReached, otherSame⟩ := place_of_perform sent
  have texts := Url.texts_eq_of_place_eq otherReached reached literal ownLiteral
    (otherSame.symm.trans same)
  exact foreign (List.cons.inj texts).1

theorem listen_of_foreign {reference : Reference} (foreign : reference.database ≠ client.databaseId)
    (settings : ListenerSettings) :
    client.listen reference settings = .error (.invalidReference reference.path
      (.foreignDatabase reference.database client.databaseId)) :=
  if_pos foreign

theorem database_of_listen {reference : Reference} {settings : ListenerSettings}
    {listener : Listener} (listens : client.listen reference settings = .ok listener) :
    listener.reference.database = client.databaseId := by
  by_cases own : reference.database = client.databaseId
  · obtain ⟨configuration, -, rfl⟩ := listen_eq_ok listens
    exact own
  · rw [listen_of_foreign own] at listens
    cases listens

end Client

namespace Session

/-- A request or an attempt to connect, with what it is made for. -/
inductive Contact where
  | request (call : Call) (request : Request)
  | attempt (listener : Listener) (url : Url)

namespace Contact

def reference : Contact → Reference
  | .request call _ => call.reference
  | .attempt listener _ => listener.reference

def url : Contact → Url
  | .request _ sent => sent.url
  | .attempt _ tried => tried

/-- Where the client reaches what the contact is made for. -/
def target (client : Client) : Contact → Except Error Url
  | .request call _ => client.baseUrl.resource call.reference
  | .attempt listener _ => client.realtimeUrl.endpoint listenSegment listener.reference

end Contact

/-- The contacts that are made with an answer of the source of tokens. -/
def contactsOf (listeners : List Listener) : Taking → List Contact
  | .request call made => made.toList.map (.request call)
  | .attempts index made =>
      listeners[index]?.toList.flatMap fun listener =>
        made.map fun attempt => .attempt listener attempt.1

/-- All contacts that are made while acts are done with a new client. -/
def contacts (client : Client) (acts : List Act) : List Contact :=
  let ran := initial.run client acts
  ran.2.flatMap (contactsOf ran.1.listeners)

variable {client : Client}

theorem exists_perform_of_mem_run {session : Session} {acts : List Act} {call : Call}
    {made : Option Request} (taken : .request call made ∈ (session.run client acts).2) :
    ∃ server tokensRead, made = (client.perform call server tokensRead).request := by
  induction acts generalizing session with
  | nil => cases taken
  | cons first rest ih =>
      rw [run, List.mem_append] at taken
      obtain now | later := taken
      · cases first with
        | call performed response =>
            rw [step, Session.call] at now
            split at now
            next => cases now
            next =>
                cases List.mem_singleton.mp now
                exact ⟨_, _, rfl⟩
        | listen reference settings =>
            rw [step, Session.listen] at now
            split at now <;> cases now
        | signal index signal =>
            rw [step, Session.signal] at now
            split at now
            next => cases now
            next =>
                dsimp only at now
                split at now
                next => cases now
                next => cases List.mem_singleton.mp now
        | stop | drop => cases now
      · exact ih later

/-- A contact is made for a call that sends a request, or for a subscription of the client. -/
theorem contact_cases {acts : List Act} {contact : Contact}
    (made : contact ∈ contacts client acts) :
    (∃ call request, contact = .request call request ∧
      Taking.request call (some request) ∈ (initial.run client acts).2) ∨
    ∃ listener url answer, contact = .attempt listener url ∧ IsListenerOf client listener ∧
      listener.url answer = .ok url := by
  obtain ⟨taking, taken, inTaking⟩ := List.mem_flatMap.mp made
  cases taking with
  | request call made =>
      obtain ⟨request, isMade, rfl⟩ := List.mem_map.mp inTaking
      cases Option.mem_toList.mp isMade
      exact .inl ⟨call, request, rfl, taken⟩
  | attempts index made =>
      obtain ⟨listener, subscribed, inAttempts⟩ := List.mem_flatMap.mp inTaking
      rw [Option.mem_toList] at subscribed
      obtain ⟨attempt, attempted, rfl⟩ := List.mem_map.mp inAttempts
      obtain ⟨-, listens, -, takes⟩ := progress_run client initial acts
      obtain ⟨number, found⟩ := List.mem_iff_getElem?.mp taken
      have isListener := listens (List.forall_mem_nil _) listener (List.mem_of_getElem? subscribed)
      cases takes number _ found with
      | attempt subscribedSo foundUrl =>
          cases subscribed.symm.trans subscribedSo
          cases List.mem_singleton.mp attempted
          exact .inr ⟨listener, _, _, rfl, isListener, foundUrl⟩
      | unaddressed => cases attempted

theorem mem_contacts_of_sent {acts : List Act} {call : Call} {request : Request}
    (sent : Taking.request call (some request) ∈ (initial.run client acts).2) :
    .request call request ∈ contacts client acts :=
  List.mem_flatMap.mpr ⟨_, sent, List.mem_map_of_mem (Option.mem_toList.mpr rfl)⟩

theorem sent_of_mem_contacts {acts : List Act} {call : Call} {request : Request}
    (made : .request call request ∈ contacts client acts) :
    Taking.request call (some request) ∈ (initial.run client acts).2 := by
  obtain ⟨_, _, same, sent⟩ | ⟨_, _, _, impossible, -⟩ := contact_cases made
  · cases same
    exact sent
  · cases impossible

theorem database_of_attempt {acts : List Act} {listener : Listener} {url : Url}
    (made : .attempt listener url ∈ contacts client acts) :
    listener.reference.database = client.databaseId := by
  obtain ⟨_, _, impossible, -⟩ | ⟨_, _, _, same, ⟨reference, settings, listens⟩, -⟩ :=
    contact_cases made
  · cases impossible
  · cases same
    exact Client.database_of_listen listens

theorem step_of_foreign {reference : Reference} (foreign : reference.database ≠ client.databaseId)
    (settings : ListenerSettings) (session : Session) :
    session.step client (.listen reference settings) = (session, []) := by
  rw [step, Session.listen, Client.listen_of_foreign foreign]

theorem place_of_mem_contacts {acts : List Act} {contact : Contact}
    (made : contact ∈ contacts client acts) :
    ∃ target, contact.target client = .ok target ∧ contact.url.place = target.place := by
  obtain ⟨call, request, rfl, sent⟩ | ⟨listener, url, answer, rfl, listens, found⟩ :=
    contact_cases made
  · obtain ⟨server, tokensRead, same⟩ := exists_perform_of_mem_run sent
    exact Client.place_of_perform same.symm
  · obtain ⟨target, reached, rfl⟩ := Listener.url_eq_ok_iff.mp found
    rw [listens.eq.1] at reached
    exact ⟨target, reached, rfl⟩

/-- To listen to a reference of another database is refused, and nothing comes of it. A one-shot
    call does what it would do with a client of its reference's database: unless something else
    stands in its way it sends its request, and not to a place of the client's own database. So each
    contact is with the database of its reference, the subscriptions stay in the client's database,
    and the session does exactly if every call that sends a request has its reference there. -/
theorem contacts_stay_iff (client : Client) (acts : List Act) :
    (∀ reference settings, reference.database ≠ client.databaseId →
      client.listen reference settings = .error (.invalidReference reference.path
        (.foreignDatabase reference.database client.databaseId)) ∧
      ∀ session : Session, session.step client (.listen reference settings) = (session, [])) ∧
    (∀ call server tokensRead,
      (client.boundTo call.reference.database).perform call server tokensRead =
        client.perform call server tokensRead ∧
      ((∀ error, ¬call.HasInputError error) → ¬call.IsIdle →
        Authorization.IsAccepted (client.settings.tokenSource tokensRead) →
        client.baseUrl.host? ≠ none → (∃ names, client.baseUrl.path = .segments names) →
        ∃ request, (client.perform call server tokensRead).request = some request) ∧
      ∀ request, (client.perform call server tokensRead).request = some request →
        call.reference.IsLiteral → call.reference.database ≠ client.databaseId →
        ∀ own : Reference, own.IsLiteral → own.database = client.databaseId →
          ∀ target, client.baseUrl.resource own = .ok target →
            request.url.place ≠ target.place) ∧
    (∀ contact ∈ contacts client acts,
      (∃ target, contact.target client = .ok target ∧ contact.url.place = target.place) ∧
      ∀ listener url, contact = .attempt listener url →
        listener.reference.database = client.databaseId) ∧
    ((∀ contact ∈ contacts client acts, contact.reference.database = client.databaseId) ↔
      ∀ call request, Taking.request call (some request) ∈ (initial.run client acts).2 →
        call.reference.database = client.databaseId) := by
  refine ⟨fun reference settings foreign => ?_, fun call server tokensRead => ?_,
    fun contact made => ?_, ?_⟩
  · exact ⟨Client.listen_of_foreign foreign settings, step_of_foreign foreign settings⟩
  · refine ⟨client.perform_boundTo call.reference.database call server tokensRead, ?_, ?_⟩
    · rintro valid busy accepted hosted ⟨names, segmented⟩
      exact Client.exists_request_of_perform valid busy accepted hosted segmented
    · intro request sent literal foreign own ownLiteral isOwn target reached
      exact Client.place_ne_of_perform sent literal ownLiteral (isOwn ▸ foreign) reached
  · refine ⟨place_of_mem_contacts made, fun listener url same => ?_⟩
    cases same
    exact database_of_attempt made
  · constructor
    · exact fun stay call request sent => stay _ (mem_contacts_of_sent sent)
    · intro stay contact made
      cases contact with
      | request call request => exact stay call request (sent_of_mem_contacts made)
      | attempt listener url => exact database_of_attempt made

/-- A document of another database is deleted. -/
theorem foreign_document_deleted :
    let client : Client := ⟨.ofBase "http://[::1]/api/" "main", Url.loopback,
      { Url.loopback with scheme := "ws" }⟩
    let call := Call.deleteDocument ⟨["users", "a"], "other"⟩
    let report := client.perform call (fun _ => some ⟨200, ""⟩) 0
    let url := { Url.loopback with path := .segments ["api", "databases", "other", "users", "a"] }
    call.reference.database ≠ client.databaseId ∧ report.result = .ok .done ∧
      report.request = some ⟨.delete, url, [], none⟩ ∧
      url.text = "http://[::1]/api/databases/other/users/a" := by
  intro client call report url
  have drafted : call.draft client.baseUrl = .ok (some ⟨.delete, url, [], [], none⟩) := by decide
  have performed : report = _ := Client.perform_of_drafted drafted _ 0
  have completed : RequestDraft.complete ⟨.delete, url, [], [], none⟩ none none =
      .ok ⟨.delete, url, [], none⟩ := rfl
  have read : client.settings.tokenSource 0 = none := rfl
  rw [read, show client.settings.projectName = none from rfl, completed] at performed
  have written : url.text = "http://[::1]/api/databases/other/users/a" := by decide
  rw [performed]
  exact ⟨by decide, rfl, rfl, written⟩

end Session

end DocStore
