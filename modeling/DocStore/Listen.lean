import DocStore.Client
import DocStore.Configuration

/-! # Listening

What a client checks before it listens, and everything that a subscription needs to open its
connection again and again.
-/

namespace DocStore

/-- How to listen. -/
structure ListenerSettings where
  /-- Whether the server sends the full state first. -/
  initialFullResult : Bool
  query : Query
  /-- Whether to connect again, in place of the client's setting. -/
  autoReconnect : Option Bool

/-- What a subscription listens to, and how. Times are in milliseconds. -/
structure Listener where
  reference : Reference
  baseUrl : Url
  initialFullResult : Bool
  /-- The frame that is sent on every connection before anything is received. -/
  configuration : Option String
  projectName : Option String
  autoReconnect : Bool
  backoffUnit : Nat

namespace Listener

/-- Whether the server is told to wait for a configuration. -/
def willQuery (listener : Listener) : Bool :=
  listener.configuration.isSome

/-- The URL of a connection attempt. The project is named when there is no token. -/
def url (listener : Listener) (token : Option String) : Except Error Url :=
  let projectName := if token.isSome then none else listener.projectName
  listener.baseUrl.listening listener.reference listener.initialFullResult projectName
    listener.willQuery

end Listener

/-- Prepare a subscription to what a reference of the client's own database names. -/
def Client.listen (client : Client) (reference : Reference) (settings : ListenerSettings) :
    Except Error Listener :=
  if reference.database ≠ client.databaseId then
    .error (.invalidReference reference.path
      (.foreignDatabase reference.database client.databaseId))
  else do
    let configuration ← Configuration.textOfQuery settings.query
    return {
      reference := reference
      baseUrl := client.realtimeUrl
      initialFullResult := settings.initialFullResult
      configuration := configuration
      projectName := client.settings.projectName
      autoReconnect := settings.autoReconnect.getD client.settings.autoReconnect
      backoffUnit := client.settings.backoffUnit
    }

end DocStore
