import DocStore.Proofs.Subscription.Cancellation
import DocStore.Proofs.Subscription.Delivery
import DocStore.Proofs.Url.Encoding

/-! # What a peer's messages come to

A listener waits for the next event of its connection, and messages without one are passed over. Up
to the first message that ends the connection, each text is a frame; then there is one close. The
subscription passes the frames on and does about the close what its listener asks for, whatever
else it is told meanwhile.
-/

namespace DocStore

namespace Url

/-- Only bytes in UTF-8 are a text, and then they are the bytes of that text. -/
theorem textOfBytes?_eq_some_iff {bytes : List UInt8} {text : String} :
    textOfBytes? bytes = some text ↔ bytes = text.toUTF8.data.toList := by
  rw [textOfBytes?, String.fromUTF8?, Option.dite_none_right_eq_some, String.toUTF8_eq_toByteArray]
  constructor
  · rintro ⟨valid, read⟩
    rw [← Option.some.inj read, String.fromUTF8]
  · rintro rfl
    exact ⟨text.isValidUTF8, congrArg some (String.toByteArray_inj.mp rfl)⟩

end Url

namespace PeerMessage

/-- The text that a message carries. -/
def text? : PeerMessage → Option String
  | .text content => some content
  | .binary bytes => Url.textOfBytes? bytes
  | .ping _ | .pong _ | .close _ | .fault _ | .ended => none

/-- Whether a message ends its connection. -/
def isTerminal : PeerMessage → Bool
  | .close _ | .fault _ | .ended => true
  | .text _ | .binary _ | .ping _ | .pong _ => false

def isNormalClose : PeerMessage → Bool
  | .close none => true
  | .close (some (code, _)) => code == normalClose
  | .text _ | .binary _ | .ping _ | .pong _ | .fault _ | .ended => false

/-- The texts that come before a connection is ended. -/
def texts (messages : List PeerMessage) : List String :=
  (messages.takeWhile fun message => !message.isTerminal).filterMap text?

/-- The first message that ends a connection. Where there is none, the stream ends after the last
    message. -/
def terminal (messages : List PeerMessage) : PeerMessage :=
  (messages.find? isTerminal).getD .ended

variable {message : PeerMessage} {rest : List PeerMessage}

theorem texts_cons_of_open (stays : message.isTerminal = false) :
    texts (message :: rest) = message.text?.toList ++ texts rest := by
  cases given : message.text? <;> simp [texts, stays, given]

theorem terminal_cons_of_open (stays : message.isTerminal = false) :
    terminal (message :: rest) = terminal rest := by
  simp [terminal, stays]

theorem texts_cons_of_terminal (ends : message.isTerminal = true) :
    texts (message :: rest) = [] := by
  simp [texts, ends]

theorem terminal_cons_of_terminal (ends : message.isTerminal = true) :
    terminal (message :: rest) = message := by
  simp [terminal, ends]

theorem isTerminal_terminal (messages : List PeerMessage) :
    (terminal messages).isTerminal = true := by
  unfold terminal
  cases found : messages.find? isTerminal with
  | none => rfl
  | some message => exact List.find?_some found

end PeerMessage

namespace ConnectionEvent

open PeerMessage

/-- Wait for the next event, and for what the peer does after it. -/
def receive : List PeerMessage → ConnectionEvent × List PeerMessage
  | [] => (.closed true "stream ended without close frame", [])
  | message :: rest =>
      match ofMessage? message with
      | some event => (event, rest)
      | none => receive rest

/-- The events for which a listener waits one after the other, so many times. -/
def receiveTimes : Nat → List PeerMessage → List ConnectionEvent
  | 0, _ => []
  | times + 1, messages => (receive messages).1 :: receiveTimes times (receive messages).2

variable {message : PeerMessage} {messages : List PeerMessage}

theorem ofMessage?_of_open (stays : message.isTerminal = false) :
    ofMessage? message = message.text?.map .frame := by
  cases message with
  | text | binary | ping | pong => rfl
  | close | fault | ended => cases stays

theorem exists_ofMessage?_of_terminal (ends : message.isTerminal = true) :
    ∃ reason, ofMessage? message = some (.closed (!message.isNormalClose) reason) := by
  cases message with
  | text | binary | ping | pong => cases ends
  | fault | ended => exact ⟨_, rfl⟩
  | close status =>
      cases status with
      | none => exact ⟨_, rfl⟩
      | some => exact ⟨_, rfl⟩

/-- All events of a connection are those for which a listener waits until it is told of a close. -/
theorem ofMessages_eq_receive (messages : List PeerMessage) :
    ofMessages messages =
      if (receive messages).1.isClose then [(receive messages).1]
      else (receive messages).1 :: ofMessages (receive messages).2 := by
  induction messages with
  | nil => rfl
  | cons message rest ih =>
      cases given : ofMessage? message with
      | none => simpa only [ofMessages, receive, given] using ih
      | some event => simp only [ofMessages, receive, given]

/-- Before a connection is ended, each text is a frame. Then there is the close. -/
theorem ofMessages_eq {reason : String}
    (ends : ofMessage? (terminal messages) =
      some (.closed (!(terminal messages).isNormalClose) reason)) :
    ofMessages messages =
      (texts messages).map .frame ++ [.closed (!(terminal messages).isNormalClose) reason] := by
  induction messages with
  | nil =>
      have ended : terminal [] = .ended := rfl
      rw [ended] at ends ⊢
      simp [ofMessages, ends, texts]
  | cons message rest ih =>
      cases terminates : message.isTerminal with
      | true =>
          rw [terminal_cons_of_terminal terminates] at ends ⊢
          rw [ofMessages, ends, texts_cons_of_terminal terminates]
          rfl
      | false =>
          rw [terminal_cons_of_open terminates] at ends ⊢
          rw [ofMessages, ofMessage?_of_open terminates, texts_cons_of_open terminates]
          cases message.text? with
          | none => exact ih ends
          | some text => exact congrArg (_ :: ·) (ih ends)

/-- To wait as often as there are events gives all of them. -/
theorem receiveTimes_eq_ofMessages (messages : List PeerMessage) :
    receiveTimes (ofMessages messages).length messages = ofMessages messages := by
  generalize many : (ofMessages messages).length = times
  induction times generalizing messages with
  | zero => exact (List.length_eq_zero_iff.mp many).symm
  | succ times ih =>
      rw [ofMessages_eq_receive] at many ⊢
      rw [receiveTimes]
      split at many
      next close =>
        cases many
        rw [if_pos close]
        rfl
      next frame =>
        rw [if_neg frame, ih _ (Nat.succ.inj many)]

end ConnectionEvent

/-- The event of a connection that an engine is told of. -/
def Move.event? : Move → Option ConnectionEvent
  | .signal _ (.received event) => some event
  | .signal _ _ | .stop | .drop => none

namespace Engine

variable {engine : Engine} {listener : Listener} {moves : List Move}

theorem caller_run (wanted : ∀ move ∈ moves, move.isSignal = true) :
    (engine.run listener moves).1.caller = engine.caller := by
  induction moves generalizing engine with
  | nil => rfl
  | cons first rest ih =>
      obtain ⟨isSignal, restWanted⟩ := List.forall_mem_cons.mp wanted
      rw [run_cons_fst, ih restWanted]
      cases first with
      | signal token signal => exact caller_step ..
      | stop => cases isSignal
      | drop => cases isSignal

/-- Frames are passed on and change nothing of an engine. Besides them it takes no notice of
    anything but the close, as long as its caller listens. -/
theorem run_frames {texts : List String} (listening : engine.caller = .listening)
    (streaming : engine.phase = .streaming) (wanted : ∀ move ∈ moves, move.isSignal = true)
    (framed : moves.filterMap Move.event? = texts.map .frame) :
    engine.run listener moves =
      (engine, (texts.filterMap (frameItem? listener.reference)).map .deliver) := by
  induction moves generalizing texts with
  | nil =>
      rw [List.map_eq_nil_iff.mp framed.symm]
      rfl
  | cons first rest ih =>
      obtain ⟨isSignal, restWanted⟩ := List.forall_mem_cons.mp wanted
      cases first with
      | stop => cases isSignal
      | drop => cases isSignal
      | signal token signal =>
          cases told : Move.event? (.signal token signal) with
          | none =>
              rw [List.filterMap_cons_none told] at framed
              have deaf : engine.phase.awaits signal = false := by
                rw [streaming]
                cases signal with
                | received event => cases told
                | _ => rfl
              have moved : engine.move listener (.signal token signal) = (engine, []) :=
                step_of_deaf deaf (.inr (isUnwanted_of_listening listening))
              exact run_cons moved (ih restWanted framed)
          | some event =>
              rw [List.filterMap_cons_some told] at framed
              obtain ⟨text, others, rfl, rfl, framedThen⟩ := List.map_eq_cons_iff.mp framed.symm
              have moved : engine.move listener (.signal token signal) =
                  (engine, (frameItem? listener.reference text).toList.map .deliver) := by
                cases signal with
                | received event =>
                    cases told
                    rw [move, step.eq_def, streaming]
                    exact handFrame_of_listening listening text
                | _ => cases told
              refine (run_cons moved (ih restWanted framedThen.symm)).trans ?_
              cases given : frameItem? listener.reference text <;> simp [given]

/-- An engine that waits for its next attempt does not complete without one. -/
theorem phase_run_ne_completed (waits : engine.phase = .waiting)
    (found : ∀ token, ∃ url, listener.url token = .ok url)
    (unattempted : attemptsOf (engine.run listener moves).2 = []) :
    (engine.run listener moves).1.phase ≠ .closed .completed := by
  induction moves generalizing engine with
  | nil =>
      intro completed
      cases waits.symm.trans completed
  | cons first rest ih =>
      rw [run, attemptsOf_append, List.append_eq_nil_iff] at unattempted
      obtain ⟨quiet, quietThen⟩ := unattempted
      rw [run_cons_fst]
      cases first with
      | stop => exact ih ((phase_stop engine).trans waits) quietThen
      | drop => exact ih waits quietThen
      | signal token signal =>
          -- Whoever waits is woken by the timer or by a stop, and only the timer leads on.
          have stopped {last : Engine} (ended : last.phase = .closed .stopped) :
              (last.run listener rest).1.phase ≠ .closed .completed := by
            intro completed
            cases (run_of_closed listener ended rest).2.symm.trans completed
          have reacts := step_reaction listener token engine signal
          rw [Engine.move] at quiet quietThen ⊢
          generalize engine.step listener token signal = stepped at reacts quiet quietThen ⊢
          cases reacts with
          | elapsed =>
              cases unwanted : engine.isUnwanted with
              | true =>
                  rw [attempt_of_unwanted unwanted]
                  exact stopped rfl
              | false =>
                  obtain ⟨url, addressed⟩ := found token
                  rw [attempt, unwanted, addressed] at quiet
                  cases quiet
          | cancelled => exact stopped rfl
          | unheard => exact ih waits quietThen
          | begun impossible | configuring _ impossible | unconfigured impossible
          | refused _ impossible | sent impossible | sendFailed _ impossible
          | abandoned _ impossible | framed _ impossible | completed _ impossible
          | lost _ impossible | left impossible | leaving impossible =>
              cases waits.symm.trans impossible

/-- What a stream has come to, of which these texts were read: the engine after the close, and what
    it has done since it began to read. -/
structure StreamsTo (listener : Listener) (texts : List String) (normal : Bool) (reason : String)
    (ended : Engine × List Effect) : Prop where
  items : itemsOf ended.2 = texts.filterMap (frameItem? listener.reference)
  attempts : attemptsOf ended.2 = []
  completes (later : List Move) :
    (ended.1.run listener later).1.phase = .closed .completed ∧
      attemptsOf (ended.1.run listener later).2 = [] ↔ normal = true
  disconnects (abnormal : normal = false) (once : listener.autoReconnect = false)
    (later : List Move) :
    (ended.1.run listener later).1.phase = .closed (.disconnected reason) ∧
      attemptsOf (ended.1.run listener later).2 = []
  reconnects (abnormal : normal = false) (persists : listener.autoReconnect = true)
    (token : Option String) :
    ended.1.phase = .waiting ∧ ∃ url, listener.url token = .ok url ∧
      attemptsOf (ended.1.step listener token .elapsed).2 = [(url, token)]

/-- The close of a connection decides what becomes of its subscription. -/
theorem streamsTo_afterClose (listening : engine.caller = .listening)
    (opened : engine.everOpened = true) (found : ∀ token, ∃ url, listener.url token = .ok url)
    (normal : Bool) (reason : String) :
    StreamsTo listener [] normal reason (engine.afterClose listener (!normal) reason) := by
  cases normal with
  | true =>
      have completes : engine.afterClose listener (!true) reason = engine.finish .completed := rfl
      have closed : (engine.finish .completed).1.phase = .closed .completed := rfl
      have ended := run_of_closed listener closed
      rw [completes]
      exact ⟨rfl, rfl,
        fun later => iff_of_true ⟨(ended later).2, congrArg attemptsOf (ended later).1⟩ rfl,
        fun abnormal => Bool.noConfusion abnormal, fun abnormal => Bool.noConfusion abnormal⟩
  | false =>
      cases persists : listener.autoReconnect with
      | false =>
          have lost : engine.afterClose listener (!false) reason =
              engine.finish (.disconnected reason) := by
            simp [afterClose, lose, opened, persists]
          have closed : (engine.finish (.disconnected reason)).1.phase =
              .closed (.disconnected reason) := rfl
          have ended := run_of_closed listener closed
          rw [lost]
          refine ⟨rfl, rfl, fun later => iff_of_false ?_ Bool.false_ne_true,
            fun _ _ later => ⟨(ended later).2, congrArg attemptsOf (ended later).1⟩,
            fun _ again => ?_⟩
          · rintro ⟨completed, -⟩
            cases (ended later).2.symm.trans completed
          · cases persists.symm.trans again
      | true =>
          let waiting : Engine := { engine with phase := .waiting, losses := engine.losses + 1 }
          have lost : engine.afterClose listener (!false) reason = (waiting, [.enter .reconnecting,
              .sleep (listener.backoffUnit * delayUnits engine.losses)]) := by
            simp [afterClose, lose, opened, persists, waiting]
          rw [lost]
          refine ⟨rfl, rfl, fun later => iff_of_false ?_ Bool.false_ne_true, fun _ once => ?_,
            fun _ _ token => ⟨rfl, ?_⟩⟩
          · rintro ⟨completed, unattempted⟩
            exact phase_run_ne_completed rfl found unattempted completed
          · cases persists.symm.trans once
          · obtain ⟨url, addressed⟩ := found token
            have listens : waiting.caller = .listening := listening
            have again : waiting.step listener token .elapsed = _ :=
              attempt_of_listening listens token
            rw [addressed] at again
            exact ⟨url, addressed, congrArg (attemptsOf ·.2) again⟩

/-- The texts that were read before the close are delivered. -/
theorem StreamsTo.behind {normal : Bool} {reason : String} {ended : Engine × List Effect}
    (closed : StreamsTo listener [] normal reason ended) (texts : List String) :
    StreamsTo listener texts normal reason
      (ended.1, (texts.filterMap (frameItem? listener.reference)).map .deliver ++ ended.2) where
  items := by
    rw [itemsOf_append, itemsOf_map_deliver, closed.items]
    exact List.append_nil _
  attempts := by
    rw [attemptsOf_append, closed.attempts, List.append_nil]
    simp [attemptsOf, List.filterMap_map, Function.comp_def]
  completes := closed.completes
  disconnects := closed.disconnects
  reconnects := closed.reconnects

/-- What is read from an open connection decides what becomes of its subscription. -/
theorem streamsTo_run {texts : List String} {normal : Bool} {reason : String}
    {token : Option String} (listening : engine.caller = .listening)
    (streaming : engine.phase = .streaming) (opened : engine.everOpened = true)
    (found : ∀ token, ∃ url, listener.url token = .ok url)
    (wanted : ∀ move ∈ moves, move.isSignal = true)
    (framed : moves.filterMap Move.event? = texts.map .frame) :
    StreamsTo listener texts normal reason
      (engine.run listener (moves ++ [.signal token (.received (.closed (!normal) reason))])) := by
  have closes : engine.run listener [.signal token (.received (.closed (!normal) reason))] =
      engine.afterClose listener (!normal) reason := by
    rw [run_singleton, move, step.eq_def, streaming]
    cases normal <;> rfl
  rw [run_append (run_frames listening streaming wanted framed) closes]
  exact (streamsTo_afterClose listening opened found normal reason).behind texts

/-- A connection that is read from stands open, and its listener has a URL. -/
theorem Account.opened_of_streaming {heard : List Signal} {effects : List Effect}
    (account : Account listener engine heard effects) (streaming : engine.phase = .streaming) :
    engine.everOpened = true ∧ ∀ token, ∃ url, listener.url token = .ok url := by
  cases account with
  | idle impossible | connecting impossible | failed impossible =>
      cases streaming.symm.trans impossible
  | opened later opened found since =>
      exact ⟨opened, fun token => Listener.exists_url_of_exists_url ⟨_, found⟩⟩

/-- From what a peer sends to the outcome of a subscription. Waiting for the events of a connection
    gives a frame for each text that comes before the connection is ended, also for one in bytes,
    and then one close, which is a normal one if so the peer has closed it. Whenever a subscription
    that is not stopped reads from the connection, it delivers what these texts mean and ends at a
    normal close. After any other it disconnects, or reconnects if it is asked to. -/
theorem messages_to_outcome (messages : List PeerMessage) :
    let texts := PeerMessage.texts messages
    let normal := (PeerMessage.terminal messages).isNormalClose
    (∀ bytes text, (PeerMessage.binary bytes).text? = some text ↔
      bytes = text.toUTF8.data.toList) ∧
    ∃ reason,
      let close := ConnectionEvent.closed (!normal) reason
      ConnectionEvent.ofMessage? (PeerMessage.terminal messages) = some close ∧
      ConnectionEvent.receiveTimes (texts.length + 1) messages = texts.map .frame ++ [close] ∧
      ConnectionEvent.ofMessages messages = texts.map .frame ++ [close] ∧
      ∀ listener before during token,
        (∀ move ∈ before, move.isSignal = true) →
        (initial.run listener before).1.phase = .streaming →
        (∀ move ∈ during, move.isSignal = true) →
        during.filterMap Move.event? = texts.map .frame →
        StreamsTo listener texts normal reason
          ((initial.run listener before).1.run listener
            (during ++ [.signal token (.received close)])) := by
  intro texts normal
  obtain ⟨reason, ends⟩ :=
    ConnectionEvent.exists_ofMessage?_of_terminal (PeerMessage.isTerminal_terminal messages)
  have all := ConnectionEvent.ofMessages_eq ends
  have many : (ConnectionEvent.ofMessages messages).length = texts.length + 1 := by
    rw [all, List.length_append, List.length_map, List.length_singleton]
  refine ⟨fun bytes text => Url.textOfBytes?_eq_some_iff, reason, ends, ?_, all, ?_⟩
  · rw [← many, ConnectionEvent.receiveTimes_eq_ofMessages, all]
  · intro listener before during token wantedBefore streaming wanted framed
    have idle : Account listener initial [] [] := .idle rfl rfl
    obtain ⟨opened, found⟩ :=
      (account_run rfl idle before wantedBefore).opened_of_streaming streaming
    exact streamsTo_run (caller_run wantedBefore) streaming opened found wanted framed

/-- A peer that sends a text in bytes and leaves without a status. Between its messages the
    listener is told of other things. -/
theorem messages_to_outcome_leftWithoutStatus :
    let messages :=
      [.ping [1], .binary [0x68, 0xC3, 0xA9], .binary [0xFF], .close none, .text "late"]
    let before := [Move.signal none .begin, .signal none .opened]
    let during := [Move.signal none .cancelled, .signal none (.received (.frame "hé"))]
    PeerMessage.texts messages = ["hé"] ∧
      (initial.run persistentListener before).1.phase = .streaming ∧
      StreamsTo persistentListener ["hé"] true "closed without status"
        ((initial.run persistentListener before).1.run persistentListener
          (during ++ [.signal none (.received (.closed false "closed without status"))])) := by
  intro messages before during
  have texts : PeerMessage.texts messages = ["hé"] := by decide
  have streaming : (initial.run persistentListener before).1.phase = .streaming := rfl
  obtain ⟨-, reason, ends, -, -, streams⟩ := messages_to_outcome messages
  have outcome := streams persistentListener before during none (by decide) streaming (by decide)
    (by rw [texts]; rfl)
  rw [texts] at outcome
  cases ends
  exact ⟨texts, streaming, outcome⟩

end Engine

end DocStore
