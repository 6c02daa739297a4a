import DocStore.Proofs.Query.Parts
import DocStore.Proofs.Subscription.Attempt
import DocStore.Proofs.Subscription.Traffic

/-! # What listeners announce and send

A query that leaves the server something to apply makes a configuration. Its listener announces
the configuration in the URL of each attempt, and sends it over each connection that opens.
-/

namespace DocStore

namespace Configuration

variable {query : Query} {error : Error} {configuration : Option String}

theorem textOfQuery_eq_error_iff :
    textOfQuery query = .error error ↔ query.parts = .error error := by
  rw [textOfQuery, bind_eq_error_iff, ← Query.configuration_eq_error_iff]
  exact or_iff_left nofun

theorem textOfQuery_eq_ok (found : textOfQuery query = .ok configuration) :
    (query.isShaping = false ∧ configuration = none) ∨
      (query.isShaping = true ∧ ∃ compiled, query.parts = .ok compiled ∧
        configuration = some (text ⟨compiled.query, compiled.projection, compiled.sort⟩)) := by
  obtain ⟨made, wanted, rfl⟩ := bind_pure_eq_ok_iff.mp found
  cases made with
  | none => exact .inl ⟨Query.configuration_eq_none_iff.mp wanted, rfl⟩
  | some made =>
      obtain ⟨shaping, compiled, compiles, rfl⟩ := Query.configuration_eq_some_iff.mp wanted
      exact .inr ⟨shaping, compiled, compiles, rfl⟩

end Configuration

namespace Listener

variable {listener : Listener} {token : Option String} {url : Url}

/-- The pairs of an attempt's URL are the only thing in it that depends on the token. -/
theorem url_eq_ok_iff :
    listener.url token = .ok url ↔
      ∃ target, listener.baseUrl.endpoint listenSegment listener.reference = .ok target ∧
        url = target.withPairs
          (("initialFullResult", if listener.initialFullResult then "true" else "false") ::
            (Url.projectPair token listener.projectName ++
              if listener.willQuery then [("willQuery", "true")] else [])) := by
  rw [Listener.url, Url.listening, bind_pure_eq_ok_iff]
  cases token <;> rfl

theorem willQuery_mem_pairs_iff (found : listener.url token = .ok url) :
    ("willQuery", "true") ∈ url.pairs ↔ listener.willQuery = true := by
  obtain ⟨target, -, rfl⟩ := url_eq_ok_iff.mp found
  rw [Url.pairs_withPairs]
  cases token <;> cases listener.projectName <;> simp [Url.projectPair]

end Listener

namespace Client

def listener (client : Client) (reference : Reference) (settings : ListenerSettings)
    (configuration : Option String) : Listener where
  reference := reference
  baseUrl := client.realtimeUrl
  initialFullResult := settings.initialFullResult
  configuration := configuration
  projectName := client.settings.projectName
  autoReconnect := settings.autoReconnect.getD client.settings.autoReconnect
  backoffUnit := client.settings.backoffUnit

variable {client : Client} {reference : Reference} {settings : ListenerSettings}

theorem listen_of_own (own : reference.database = client.databaseId) :
    client.listen reference settings = do
      return client.listener reference settings (← Configuration.textOfQuery settings.query) := by
  rw [listen, if_neg (not_not_intro own)]
  rfl

theorem listen_eq_ok {listener : Listener}
    (listens : client.listen reference settings = .ok listener) :
    ∃ configuration, Configuration.textOfQuery settings.query = .ok configuration ∧
      listener = client.listener reference settings configuration := by
  by_cases own : reference.database = client.databaseId
  · rw [listen_of_own own, bind_pure_eq_ok_iff] at listens
    exact listens
  · rw [listen, if_pos own] at listens
    cases listens

open Engine Traffic

/-- To listen to a reference of the client's own database fails as the query does. Otherwise there
    is a configuration if the query has a filter, an order or a projection. Whatever happens then,
    each attempt announces it in its URL, and over each connection that opens it is sent once,
    before anything is taken, while nothing else is ever sent. If it cannot be sent, the connection
    gives the caller nothing and counts as lost. -/
theorem configuration_once_per_connection (client : Client) {reference : Reference}
    (own : reference.database = client.databaseId) (settings : ListenerSettings) :
    (∀ error, client.listen reference settings = .error error ↔
      settings.query.parts = .error error) ∧
    ∀ listener, client.listen reference settings = .ok listener →
      let query := settings.query
      let shapes := query.filters ≠ [] ∨ query.sorts ≠ [] ∨ query.projection ≠ none
      (shapes → ∃ compiled, query.parts = .ok compiled ∧ listener.configuration =
        some (Configuration.text ⟨compiled.query, compiled.projection, compiled.sort⟩)) ∧
      (¬shapes → listener.configuration = none) ∧
      ∀ moves,
        (∀ url token, (url, token) ∈ attemptsOf (initial.run listener moves).2 →
          (("willQuery", "true") ∈ url.pairs ↔ shapes)) ∧
        IsExchange listener.configuration (initial.traffic listener moves) ∧
        ((initial.run listener moves).1.phase = .configuring →
          (initial.run listener moves).1.LosesUnsent listener) := by
  constructor
  · intro error
    rw [listen_of_own own, bind_eq_error_iff, ← Configuration.textOfQuery_eq_error_iff]
    exact or_iff_left nofun
  · intro listener listens query shapes
    obtain ⟨configuration, made, rfl⟩ := listen_eq_ok listens
    have shapes_iff : query.isShaping = true ↔ shapes := Query.isShaping_iff
    have nothingOpen : initial.HasOpened := fun holds => nomatch holds
    have stated := Configuration.textOfQuery_eq_ok made
    refine ⟨fun shaping => ?_, fun quiet => ?_, fun moves => ⟨fun url token attempted => ?_,
      isExchange_run _ moves, fun waits => losesUnsent waits (hasOpened_run nothingOpen moves)⟩⟩
    · obtain ⟨quiet, -⟩ | ⟨-, compiled, compiles, rfl⟩ := stated
      · cases quiet.symm.trans (shapes_iff.mpr shaping)
      · exact ⟨compiled, compiles, rfl⟩
    · obtain ⟨-, rfl⟩ | ⟨shaping, -⟩ := stated
      · rfl
      · exact absurd (shapes_iff.mp shaping) quiet
    · rw [← shapes_iff,
        Listener.willQuery_mem_pairs_iff (url_of_mem_attemptsOf_run attempted)]
      obtain ⟨quiet, rfl⟩ | ⟨shaping, compiled, -, rfl⟩ := stated
      · exact iff_of_false nofun (by rw [quiet]; nofun)
      · exact iff_of_true rfl shaping

/-- A filter is announced, and sent again when it could not be sent over the first connection. -/
theorem configuration_once_per_connection_filtered :
    let client : Client := ⟨.ofBase "http://[::1]/api/" "main", Url.loopback,
      { Url.loopback with scheme := "ws" }⟩
    let users : Reference := .collection ⟨["users"], "main"⟩
    let query := Query.everything.find (.compare .eq (some "name") (.string "a"))
    let text := "\x7b\"query\":\x7b\"name\":\x7b\"$eq\":\"a\"\x7d\x7d\x7d"
    let moves := [.begin, .opened, .sendFailed (.connectionFailed "broken"), .connectionClosed,
      .elapsed, .opened, .sent].map (.signal none)
    users.database = client.databaseId ∧
      ∃ listener, client.listen users ⟨true, query, none⟩ = .ok listener ∧
        listener.configuration = some text ∧
        (attemptsOf (initial.run listener moves).2).length = 2 ∧
        (∀ url token, (url, token) ∈ attemptsOf (initial.run listener moves).2 →
          ("willQuery", "true") ∈ url.pairs) ∧
        IsExchange (some text) (initial.traffic listener moves) := by
  intro client users query text moves
  have own : users.database = client.databaseId := rfl
  obtain ⟨-, conversations⟩ := configuration_once_per_connection client own ⟨true, query, none⟩
  obtain ⟨-, -, passes⟩ := conversations _ rfl
  obtain ⟨announced, exchange, -⟩ := passes moves
  refine ⟨own, _, rfl, rfl, rfl, fun url token attempted => ?_, exchange⟩
  exact (announced url token attempted).mpr (.inl nofun)

end Client

end DocStore
