import DocStore.Proofs.Exchange
import DocStore.Proofs.Listen

/-! # The tokens of a client

One source of tokens serves the one-shot calls of a client and the connection attempts of all its
subscriptions, in whatever order these come. Each request and each attempt takes the next answer of
the source, and no answer is taken twice or left out.
-/

namespace DocStore

/-- What a client has under way: its subscriptions, in the order in which they began. -/
structure Session where
  /-- The number of answers that the source of tokens has given. -/
  tokensRead : Nat
  subscriptions : List (Listener × Engine)

/-- What is done with a client, and what happens to a subscription of some index. -/
inductive Act where
  | call (call : Call) (response : Option Response)
  | listen (reference : Reference) (settings : ListenerSettings)
  | signal (index : Nat) (signal : Signal)
  | stop (index : Nat)
  | drop (index : Nat)

/-- What takes an answer of the source of tokens. -/
inductive Taking where
  /-- A call, with the request that it makes. -/
  | request (call : Call) (made : Option Request)
  /-- A subscription that goes to connect, with the attempts that it makes. -/
  | attempts (index : Nat) (made : List (Url × Option String))

namespace Session

def initial : Session := ⟨0, []⟩

def listeners (session : Session) : List Listener :=
  session.subscriptions.map Prod.fst

/-- Make a call. It takes an answer unless it reads none and makes no request. -/
def call (session : Session) (client : Client) (call : Call) (response : Option Response) :
    Session × List Taking :=
  let report := client.perform call (fun _ => response) session.tokensRead
  ({ session with tokensRead := report.tokensRead },
    if report.request = none ∧ report.tokensRead = session.tokensRead then []
    else [.request call report.request])

def listen (session : Session) (client : Client) (reference : Reference)
    (settings : ListenerSettings) : Session × List Taking :=
  match client.listen reference settings with
  | .error _ => (session, [])
  | .ok listener =>
      ({ session with subscriptions := session.subscriptions ++ [(listener, .initial)] }, [])

/-- Let a subscription go on. It takes an answer unless it reads none and does not connect. -/
def signal (session : Session) (client : Client) (index : Nat) (signal : Signal) :
    Session × List Taking :=
  match session.subscriptions[index]? with
  | none => (session, [])
  | some (listener, engine) =>
      let stepped := engine.step listener (client.settings.tokenSource session.tokensRead) signal
      let attempts := attemptsOf stepped.2
      (⟨session.tokensRead + readingsOf stepped.2,
          session.subscriptions.set index (listener, stepped.1)⟩,
        if readingsOf stepped.2 = 0 ∧ .connecting ∉ statesOf stepped.2 ∧ attempts = [] then []
        else [.attempts index attempts])

def change (session : Session) (index : Nat) (act : Engine → Engine) : Session :=
  { session with subscriptions := session.subscriptions.modify index fun (listener, engine) =>
      (listener, act engine) }

def step (session : Session) (client : Client) : Act → Session × List Taking
  | .call call response => session.call client call response
  | .listen reference settings => session.listen client reference settings
  | .signal index signal => session.signal client index signal
  | .stop index => (session.change index Engine.stop, [])
  | .drop index => (session.change index Engine.drop, [])

def run (client : Client) (session : Session) : List Act → Session × List Taking
  | [] => (session, [])
  | first :: rest =>
      let stepped := session.step client first
      let later := run client stepped.1 rest
      (later.1, stepped.2 ++ later.2)

end Session

/-- What takes an answer uses this answer and no other. -/
inductive Taking.Takes (client : Client) (listeners : List Listener) (answer : Option String) :
    Taking → Prop where
  | request {call : Call} {request : Request}
      (carries : request.Carries answer client.settings.projectName client.baseUrl) :
      Takes client listeners answer (.request call (some request))
  | refused {call : Call} (refuses : client.Refuses answer) :
      Takes client listeners answer (.request call none)
  | attempt {index : Nat} {listener : Listener} {url : Url}
      (subscribed : listeners[index]? = some listener) (found : listener.url answer = .ok url) :
      Takes client listeners answer (.attempts index [(url, answer)])
  | unaddressed {index : Nat} {listener : Listener} {error : Error}
      (subscribed : listeners[index]? = some listener)
      (failed : listener.url answer = .error error) :
      Takes client listeners answer (.attempts index [])

theorem Taking.Takes.mono {client : Client} {listeners more : List Listener}
    {answer : Option String} {taking : Taking} (grows : listeners <+: more)
    (takes : taking.Takes client listeners answer) : taking.Takes client more answer := by
  have stays {index : Nat} {listener : Listener} (subscribed : listeners[index]? = some listener) :
      more[index]? = some listener := by
    obtain ⟨within, rfl⟩ := List.getElem?_eq_some_iff.mp subscribed
    exact List.prefix_iff_getElem?.mp grows index within
  cases takes with
  | request carries => exact .request carries
  | refused refuses => exact .refused refuses
  | attempt subscribed found => exact .attempt (stays subscribed) found
  | unaddressed subscribed failed => exact .unaddressed (stays subscribed) failed

namespace Session

open Engine

def IsListenerOf (client : Client) (listener : Listener) : Prop :=
  ∃ reference settings, client.listen reference settings = .ok listener

/-- What holds of a session that goes on, and of what takes answers meanwhile. -/
structure Progress (client : Client) (session next : Session) (takings : List Taking) : Prop where
  grows : session.listeners <+: next.listeners
  listens : (∀ listener ∈ session.listeners, IsListenerOf client listener) →
    ∀ listener ∈ next.listeners, IsListenerOf client listener
  reads : next.tokensRead = session.tokensRead + takings.length
  takes : ∀ (number : Nat) (taking : Taking), takings[number]? = some taking →
    taking.Takes client next.listeners
      (client.settings.tokenSource (session.tokensRead + number))

variable {client : Client} {session middle next : Session} {takings later : List Taking}

theorem Progress.append (begins : Progress client session middle takings)
    (continues : Progress client middle next later) :
    Progress client session next (takings ++ later) where
  grows := begins.grows.trans continues.grows
  listens := continues.listens ∘ begins.listens
  reads := by rw [continues.reads, begins.reads, List.length_append, Nat.add_assoc]
  takes number taking found := by
    rw [List.getElem?_append] at found
    split at found
    next => exact (begins.takes number taking found).mono continues.grows
    next beyond =>
        -- The later answers are numbered from where the first ones end.
        have taken := continues.takes _ taking found
        rw [begins.reads] at taken
        convert taken using 2
        omega

theorem progress_of_same (same : next.listeners = session.listeners)
    (unread : next.tokensRead = session.tokensRead) : Progress client session next [] where
  grows := same ▸ List.prefix_rfl
  listens all := same ▸ all
  reads := unread
  takes _ _ found := nomatch found

theorem progress_of_taking {taking : Taking} (same : next.listeners = session.listeners)
    (read : next.tokensRead = session.tokensRead + 1)
    (takes : taking.Takes client session.listeners
      (client.settings.tokenSource session.tokensRead)) :
    Progress client session next [taking] where
  grows := same ▸ List.prefix_rfl
  listens all := same ▸ all
  reads := read
  takes number other found := by
    rw [List.getElem?_singleton, Option.ite_none_right_eq_some] at found
    obtain ⟨rfl, sameTaking⟩ := found
    cases sameTaking
    exact same ▸ takes

theorem listeners_change (session : Session) (index : Nat) (act : Engine → Engine) :
    (session.change index act).listeners = session.listeners := by
  refine List.ext_getElem? fun other => ?_
  simp only [listeners, change, List.getElem?_map, List.getElem?_modify]
  cases session.subscriptions[other]? with
  | none => rfl
  | some subscription =>
      dsimp only [Option.map_eq_map, Option.map_some]
      split <;> rfl

theorem progress_call (session : Session) (client : Client) (call : Call)
    (response : Option Response) :
    Progress client session (session.call client call response).1
      (session.call client call response).2 := by
  have performs := client.performs call (fun _ => response) session.tokensRead
  unfold Session.call
  generalize client.perform call _ session.tokensRead = report at performs ⊢
  dsimp only
  cases performs with
  | unread =>
      rw [if_pos ⟨rfl, rfl⟩]
      exact progress_of_same rfl rfl
  | refused _ refuses =>
      rw [if_neg fun same => Nat.succ_ne_self _ same.2]
      exact progress_of_taking rfl rfl (.refused refuses)
  | sent _ carries =>
      rw [if_neg fun same => Nat.succ_ne_self _ same.2]
      exact progress_of_taking rfl rfl (.request carries)

theorem progress_listen (session : Session) (client : Client) (reference : Reference)
    (settings : ListenerSettings) :
    Progress client session (session.listen client reference settings).1
      (session.listen client reference settings).2 := by
  unfold Session.listen
  split
  next => exact progress_of_same rfl rfl
  next listener made =>
      exact {
        grows := ⟨[listener], by simp [listeners]⟩
        listens := fun all other mem => by
          rw [listeners, List.map_append, List.mem_append] at mem
          obtain before | new := mem
          · exact all other before
          · cases List.mem_singleton.mp new
            exact ⟨reference, settings, made⟩
        reads := rfl
        takes := fun _ _ found => nomatch found }

theorem progress_signal (session : Session) (client : Client) (index : Nat) (signal : Signal) :
    Progress client session (session.signal client index signal).1
      (session.signal client index signal).2 := by
  unfold Session.signal
  split
  next => exact progress_of_same rfl rfl
  next listener engine subscribed =>
      have listening : session.listeners[index]? = some listener := by
        rw [listeners, List.getElem?_map, subscribed]
        rfl
      have same (next : Engine) :
          (session.subscriptions.set index (listener, next)).map Prod.fst = session.listeners := by
        obtain ⟨within, found⟩ := List.getElem?_eq_some_iff.mp listening
        rw [List.map_set, ← found]
        exact List.set_getElem_self within
      have uses := tokenUse_step engine listener
        (client.settings.tokenSource session.tokensRead) signal
      generalize engine.step listener _ signal = stepped at uses ⊢
      dsimp only
      cases uses with
      | unread readings unstarted attempts =>
          rw [if_pos ⟨readings, unstarted, attempts⟩]
          exact progress_of_same (same _) (by rw [readings]; rfl)
      | connected found readings started attempts =>
          rw [if_neg fun none => none.2.1 started, attempts]
          exact progress_of_taking (same _) (by rw [readings]) (.attempt listening found)
      | unaddressed failed readings started attempts =>
          rw [if_neg fun none => none.2.1 started, attempts]
          exact progress_of_taking (same _) (by rw [readings]) (.unaddressed listening failed)

theorem progress_step (session : Session) (client : Client) (act : Act) :
    Progress client session (session.step client act).1 (session.step client act).2 := by
  cases act with
  | call call response => exact progress_call session client call response
  | listen reference settings => exact progress_listen session client reference settings
  | signal index signal => exact progress_signal session client index signal
  | stop | drop => exact progress_of_same (listeners_change ..) rfl

theorem progress_run (client : Client) (session : Session) (acts : List Act) :
    Progress client session (session.run client acts).1 (session.run client acts).2 := by
  induction acts generalizing session with
  | nil => exact progress_of_same rfl rfl
  | cons first rest ih => exact (progress_step session client first).append (ih _)

/-! ## What takes the answers -/

theorem step_of_not_canDraft {call : Call} (undrafted : ¬client.CanDraft call)
    (response : Option Response) (session : Session) :
    session.step client (.call call response) = (session, []) := by
  have performs := client.performs call (fun _ => response) session.tokensRead
  rw [step, Session.call]
  generalize client.perform call _ session.tokensRead = report at performs ⊢
  cases performs with
  | unread => rw [if_pos ⟨rfl, rfl⟩]
  | refused drafts | sent drafts => exact absurd drafts undrafted

theorem exists_taking_of_canDraft {call : Call} (drafts : client.CanDraft call)
    (busy : ¬call.IsIdle) (response : Option Response) (session : Session) :
    ∃ made, (session.step client (.call call response)).2 = [.request call made] := by
  obtain ⟨draft, drafted⟩ := client.exists_draft_of_canDraft drafts busy
  rw [step, Session.call, Client.perform_of_drafted drafted]
  split <;> simp

theorem step_of_uncompiled {settings : ListenerSettings} {error : Error}
    (failed : settings.query.parts = .error error) (reference : Reference) (session : Session) :
    session.step client (.listen reference settings) = (session, []) := by
  rw [step, Session.listen]
  split
  next => rfl
  next listener listens =>
      obtain ⟨configuration, made, -⟩ := Client.listen_eq_ok listens
      rw [Configuration.textOfQuery_eq_error_iff.mpr failed] at made
      cases made

variable {listeners : List Listener}

theorem IsListenerOf.eq {listener : Listener} (listens : IsListenerOf client listener) :
    listener.baseUrl = client.realtimeUrl ∧ listener.projectName = client.settings.projectName := by
  obtain ⟨reference, settings, made⟩ := listens
  obtain ⟨configuration, -, rfl⟩ := Client.listen_eq_ok made
  exact ⟨rfl, rfl⟩

theorem no_attempts_of_rootless (listen : ∀ listener ∈ listeners, IsListenerOf client listener)
    {text : String} (rootless : client.realtimeUrl.path = .rootless text) {index : Nat}
    {made : List (Url × Option String)} {answer : Option String}
    (takes : (Taking.attempts index made).Takes client listeners answer) : made = [] := by
  cases takes with
  | attempt subscribed found =>
      obtain ⟨_, reached, -⟩ := Listener.url_eq_ok_iff.mp found
      rw [(listen _ (List.mem_of_getElem? subscribed)).eq.1] at reached
      obtain ⟨_, _, segmented, -⟩ := Url.segments_of_endpoint reached
      cases segmented.symm.trans rootless
  | unaddressed => rfl

/-- The attempts of one subscription differ in the answer and the pair that goes with it. -/
theorem exists_target (listen : ∀ listener ∈ listeners, IsListenerOf client listener)
    {names : List String} (segmented : client.realtimeUrl.path = .segments names) (index : Nat) :
    ∃ (target : Url) (initialFullResult willQuery : Bool), ∀ made answer,
      (Taking.attempts index made).Takes client listeners answer →
        made = [(target.withPairs
          (("initialFullResult", if initialFullResult then "true" else "false") ::
            (Url.projectPair answer client.settings.projectName ++
              if willQuery then [("willQuery", "true")] else [])), answer)] := by
  cases subscribed : listeners[index]? with
  | none =>
      -- There is no such subscription, so that any target will do.
      refine ⟨client.realtimeUrl, false, false, fun made answer takes => ?_⟩
      cases takes with
      | attempt subscribedSo | unaddressed subscribedSo => cases subscribed.symm.trans subscribedSo
  | some listener =>
      obtain ⟨sameBase, sameProject⟩ := (listen listener (List.mem_of_getElem? subscribed)).eq
      obtain ⟨target, reached⟩ :=
        Url.exists_endpoint segmented listenSegment listener.reference
      rw [← sameBase] at reached
      refine ⟨target, listener.initialFullResult, listener.willQuery, fun made answer takes => ?_⟩
      cases takes with
      | attempt subscribedSo found =>
          cases subscribed.symm.trans subscribedSo
          obtain ⟨_, reachedSo, rfl⟩ := Listener.url_eq_ok_iff.mp found
          cases reached.symm.trans reachedSo
          rw [sameProject]
      | unaddressed subscribedSo failed =>
          cases subscribed.symm.trans subscribedSo
          cases reached.symm.trans (Listener.url_eq_error_iff.mp failed)

/-- The answers of the source are taken in turn, one by each request that is built and by each
    attempt to connect, however calls and subscriptions interleave. Each uses its own answer: the
    token, or else the project in the URL. Apart from that, all attempts of one subscription have
    the same URL. Calls that fail before there is a URL take no answer, and any other takes one if
    it has something to send. Nor does listening with a query that does not compile take one. -/
theorem answers_taken_in_turn (client : Client) (acts : List Act) :
    let answer := client.settings.tokenSource
    let project := client.settings.projectName
    let ran := initial.run client acts
    ran.1.tokensRead = ran.2.length ∧
      (∀ (number : Nat) call made, ran.2[number]? = some (.request call made) →
        match made with
        | none => client.Refuses (answer number)
        | some request => request.Carries (answer number) project client.baseUrl) ∧
      (∀ index, match client.realtimeUrl.path with
        | .rootless _ => ∀ (number : Nat) made,
            ran.2[number]? = some (.attempts index made) → made = []
        | .segments _ => ∃ (target : Url) (initialFullResult willQuery : Bool),
            ∀ (number : Nat) made, ran.2[number]? = some (.attempts index made) →
              made = [(target.withPairs
                (("initialFullResult", if initialFullResult then "true" else "false") ::
                  (Url.projectPair (answer number) project ++
                    if willQuery then [("willQuery", "true")] else [])), answer number)]) ∧
      ∀ session : Session,
        (∀ call response, ¬client.CanDraft call →
          session.step client (.call call response) = (session, [])) ∧
        (∀ call response, client.CanDraft call → ¬call.IsIdle →
          ∃ made, (session.step client (.call call response)).2 = [.request call made]) ∧
        ∀ reference settings error, settings.query.parts = .error error →
          session.step client (.listen reference settings) = (session, []) := by
  intro answer project ran
  obtain ⟨-, listens, reads, takes⟩ := progress_run client initial acts
  have listen := listens (List.forall_mem_nil _)
  have unread : initial.tokensRead = 0 := rfl
  simp only [unread, Nat.zero_add] at reads takes
  refine ⟨reads, fun number call made found => ?_, fun index => ?_, fun session => ⟨?_, ?_, ?_⟩⟩
  · cases takes number _ found with
    | request carries => exact carries
    | refused refuses => exact refuses
  · cases path : client.realtimeUrl.path with
    | rootless text =>
        exact fun number made found => no_attempts_of_rootless listen path (takes number _ found)
    | segments names =>
        obtain ⟨target, initialFullResult, willQuery, all⟩ := exists_target listen path index
        exact ⟨target, initialFullResult, willQuery, fun number made found =>
          all made _ (takes number _ found)⟩
  · exact fun call response undrafted => step_of_not_canDraft undrafted response session
  · exact fun call response drafts busy => exists_taking_of_canDraft drafts busy response session
  · exact fun reference settings error failed => step_of_uncompiled failed reference session

/-- A request with the first answer and an attempt with the second, which is none. -/
example :
    let client : Client := ⟨{ ClientSettings.ofBase "http://[::1]" "main" with
        projectName := some "shop", tokens := some (.rotating [some "secret", none]) },
      Url.loopback, { Url.loopback with scheme := "ws" }⟩
    let acts := [Act.listen (.collection ⟨["users"], "main"⟩) ⟨false, .everything, none⟩,
      .call (.getDocument ⟨["users", "a"], "main"⟩) none, .signal 0 .begin]
    ((initial.run client acts).2.map fun
      | .request _ made => made.toList.map fun request => (request.url.text, request.tokens)
      | .attempts _ made => made.map fun (url, token) => (url.text, token.toList)) =
    [[("http://[::1]/api/databases/main/users/a", ["secret"])],
      [("ws://[::1]/api/databases:listen/main/users?initialFullResult=false&projectName=shop",
        [])]] := by
  decide +kernel

end Session

end DocStore
