import DocStore.Frame
import DocStore.Proofs.Json.Members
import DocStore.Proofs.Text.Trim
import DocStore.Response

/-! # What a response without success says

The message is stated in the body: by its member `error`, or by the whole where there is none. A
body that states none is quoted, and a blank one gives way to the reason of the status. In a frame a
null error counts as none. In a response it does not: it hides a message that stands beside it.
-/

namespace DocStore

/-- What a value says as an error: the text that it is, or that of its member `message`. -/
inductive States : Json → String → Prop
  | text (text : String) : States (.string text) text
  | member {members : Members} {text : String}
      (found : members.find? "message" = some (.string text)) : States (.object members) text

/-- The error of a body: its member `error` as in a frame, where a null one counts as none, or else
    the whole. -/
def errorOf (value : Json) : Json :=
  (reportedError? value).getD value

/-- What is quoted of a body: its first 200 characters without blanks around, or the reason of the
    status if there are only blanks. -/
inductive IsQuotation (status : Nat) (body : String) : String → Prop
  | visible {inner : List Char} (trimmed : IsTrimmed isBlank body.toList inner)
      (filled : inner ≠ []) : IsQuotation status body (String.ofList (inner.take 200))
  | blank (trimmed : IsTrimmed isBlank body.toList []) : IsQuotation status body (reason status)

/-- The message of a response: what the error of its body states, or else a quotation. -/
inductive IsMessage (status : Nat) (body : String) : String → Prop
  | stated {value : Json} {text : String} (parsed : Json.parse? body = some value)
      (states : States (errorOf value) text) : IsMessage status body text
  | quoted {text : String} (silent : ∀ value, Json.parse? body = some value →
        ∀ text, ¬ States (errorOf value) text) (quotation : IsQuotation status body text) :
      IsMessage status body text

/-- A body states a message beside a null error. -/
def HidesMessage (body text : String) : Prop :=
  ∃ members : Members, Json.parse? body = some (.object members) ∧
    members.find? "error" = some .null ∧ members.find? "message" = some (.string text)

variable {status : Nat} {body text : String} {value : Json} {members : Members}

theorem isQuotation_iff : IsQuotation status body text ↔ text = bodyMessage status body := by
  unfold bodyMessage
  dsimp only
  constructor
  · intro quotation
    cases quotation with
    | visible trimmed filled =>
        rw [trimmed.trimWhere_eq, if_neg (by simpa using filled)]
        rfl
    | blank trimmed =>
        rw [trimmed.trimWhere_eq]
        rfl
  · rintro rfl
    have trimmed := isTrimmed_trimWhere isBlank body.toList
    split
    next none =>
        rw [List.isEmpty_iff.mp none] at trimmed
        exact .blank trimmed
    next some => exact .visible trimmed (by simpa using some)

theorem messageIn?_eq_some_iff :
    messageIn? value = some text ↔ States ((value.get? "error").getD value) text := by
  unfold messageIn?
  generalize (value.get? "error").getD value = part
  cases part with
  | string own =>
      constructor
      · intro same
        cases same
        exact .text text
      · intro states
        cases states
        rfl
  | object members =>
      dsimp only
      rw [Option.bind_eq_some_iff]
      constructor
      · rintro ⟨message, found, isText⟩
        cases message <;> cases isText
        exact .member found
      · intro states
        cases states with
        | member found => exact ⟨_, found, rfl⟩
  | null | bool | number | array => exact ⟨nofun, nofun⟩

theorem failureMessage_of_states (parsed : Json.parse? body = some value)
    (states : States ((value.get? "error").getD value) text) :
    failureMessage status body = text := by
  rw [failureMessage, parsed, Option.bind_some, messageIn?_eq_some_iff.mpr states, Option.getD_some]

theorem isQuotation_of_silent
    (silent : ∀ value, Json.parse? body = some value →
      ∀ text, ¬ States ((value.get? "error").getD value) text) :
    IsQuotation status body (failureMessage status body) := by
  have none : (Json.parse? body).bind messageIn? = none := by
    rw [Option.bind_eq_none_iff]
    intro value parsed
    rw [Option.eq_none_iff_forall_ne_some]
    exact fun text stated => silent value parsed text (messageIn?_eq_some_iff.mp stated)
  rw [isQuotation_iff, failureMessage, none, Option.getD_none]

theorem errorOf_of_ne_null (other : value.get? "error" ≠ some .null) :
    errorOf value = (value.get? "error").getD value := by
  have reported : reportedError? value = value.get? "error" := by
    unfold reportedError?
    split
    next null => exact absurd null other
    next none => exact none.symm
    next found => exact found.symm
  rw [errorOf, reported]

theorem errorOf_of_null (null : value.get? "error" = some .null) : errorOf value = value := by
  have unreported : reportedError? value = none := by rw [reportedError?, null]
  rw [errorOf, unreported, Option.getD_none]

/-- A body with a null error is quoted, whatever else is in it. -/
theorem isQuotation_of_null (parsed : Json.parse? body = some value)
    (null : value.get? "error" = some .null) :
    IsQuotation status body (failureMessage status body) := by
  refine isQuotation_of_silent fun other parsedAs text states => ?_
  cases parsed.symm.trans parsedAs
  rw [null] at states
  cases states

theorem HidesMessage.isQuotation (hides : HidesMessage body text) :
    IsQuotation status body (failureMessage status body) := by
  obtain ⟨members, parsed, null, -⟩ := hides
  exact isQuotation_of_null parsed null

theorem isMessage_of_no_null
    (other : ∀ value, Json.parse? body = some value → value.get? "error" ≠ some .null) :
    IsMessage status body (failureMessage status body) := by
  by_cases stated : ∃ value text, Json.parse? body = some value ∧
      States ((value.get? "error").getD value) text
  · obtain ⟨value, text, parsed, states⟩ := stated
    rw [failureMessage_of_states parsed states]
    exact .stated parsed (errorOf_of_ne_null (other value parsed) ▸ states)
  · push Not at stated
    have silent (value : Json) (parsed : Json.parse? body = some value) (text : String) :
        ¬ States ((value.get? "error").getD value) text := stated value text parsed
    refine .quoted (fun value parsed text => ?_) (isQuotation_of_silent silent)
    rw [errorOf_of_ne_null (other value parsed)]
    exact silent value parsed text

theorem states_of_null (null : members.find? "error" = some .null) :
    States (errorOf (.object members)) text ↔ members.find? "message" = some (.string text) := by
  have none : errorOf (.object members) = .object members := errorOf_of_null null
  rw [none]
  constructor
  · intro states
    cases states with
    | member found => exact found
  · exact .member

theorem isMessage_of_null (parsed : Json.parse? body = some (.object members))
    (null : members.find? "error" = some .null) :
    IsMessage status body (failureMessage status body) ↔
      ∀ text, members.find? "message" = some (.string text) → IsQuotation status body text := by
  have quotation : IsQuotation status body (failureMessage status body) :=
    isQuotation_of_null parsed null
  constructor
  · intro isMessage text found
    cases isMessage with
    | stated parsedAs states =>
        cases parsed.symm.trans parsedAs
        rw [states_of_null null, found] at states
        cases states
        exact quotation
    | quoted silent _ => exact absurd ((states_of_null null).mpr found) (silent _ parsed text)
  · intro hidden
    by_cases stated : ∃ text, members.find? "message" = some (.string text)
    · obtain ⟨text, found⟩ := stated
      have same :=
        (isQuotation_iff.mp quotation).trans (isQuotation_iff.mp (hidden text found)).symm
      rw [same]
      exact .stated parsed ((states_of_null null).mpr found)
    · refine .quoted (fun value parsedAs text states => ?_) quotation
      cases parsed.symm.trans parsedAs
      exact stated ⟨text, (states_of_null null).mp states⟩

/-! ## A null error in frames and responses -/

/-- An object without an error, and one with a null error in addition, at whatever place. -/
structure AddsNullError (members others : Members) : Prop where
  absent : members.find? "error" = none
  null : others.find? "error" = some .null
  same : ∀ key ≠ "error", others.find? key = members.find? key

/-- A frame is read from its own members only. -/
theorem Frame.ofJson?_of_same {others : Members}
    (same : ∀ name ∈ memberNames, others.find? name = members.find? name) :
    ofJson? (.object others) = ofJson? (.object members) := by
  simp only [memberNames, List.forall_mem_cons] at same
  obtain ⟨operation, document, name, documents, change, -⟩ := same
  simp only [ofJson?, recordMembers?, Option.bind_eq_bind, Option.bind_some, optionalMember?,
    operation, document, name, documents, change]

/-- For a listener a null error makes no difference. -/
theorem AddsNullError.ofJson_eq {others : Members} (adds : AddsNullError members others)
    (scope : Reference) :
    FrameMeaning.ofJson (.object others) scope = FrameMeaning.ofJson (.object members) scope := by
  have absent : reportedError? (.object members) = none := by
    rw [reportedError?, show (Json.object members).get? "error" = none from adds.absent]
  have null : reportedError? (.object others) = none := by
    rw [reportedError?, show (Json.object others).get? "error" = some .null from adds.null]
  have frame : Frame.ofJson? (.object others) = Frame.ofJson? (.object members) := by
    refine Frame.ofJson?_of_same fun name read => adds.same name ?_
    rintro rfl
    exact absurd read (by decide)
  rw [FrameMeaning.ofJson, FrameMeaning.ofJson, absent, null, frame]

/-- When the message of a response is the one that its body states. It is, unless a null error hides
    it: such a body is quoted instead. To a frame the null error makes no difference, but a response
    with a message loses it to the null error, unless the body's quotation is the message itself. -/
theorem failureMessage_isMessage_iff (status : Nat) (body : String) :
    (IsMessage status body (failureMessage status body) ↔
      ∀ text, HidesMessage body text → IsQuotation status body text) ∧
    (∀ text, HidesMessage body text → IsQuotation status body (failureMessage status body)) ∧
    ∀ (members others : Members) (other : String), Json.parse? body = some (.object members) →
      Json.parse? other = some (.object others) → AddsNullError members others →
        (∀ scope, FrameMeaning.ofText other scope = FrameMeaning.ofText body scope) ∧
        ∀ text, members.find? "message" = some (.string text) →
          failureMessage status body = text ∧
          (failureMessage status other = failureMessage status body ↔
            IsQuotation status other text) := by
  refine ⟨⟨fun isMessage text hides => ?_, fun shown => ?_⟩, fun text hides => hides.isQuotation,
    fun members others other parsed parsedOther adds => ⟨fun scope => ?_, fun text found => ?_⟩⟩
  · obtain ⟨members, parsed, null, found⟩ := hides
    exact (isMessage_of_null parsed null).mp isMessage text found
  · by_cases hides : ∃ members : Members, Json.parse? body = some (.object members) ∧
        members.find? "error" = some .null
    · obtain ⟨members, parsed, null⟩ := hides
      exact (isMessage_of_null parsed null).mpr fun text found =>
        shown text ⟨members, parsed, null, found⟩
    · refine isMessage_of_no_null fun value parsed null => ?_
      cases value with
      | object members => exact hides ⟨members, parsed, null⟩
      | null | bool | number | string | array => cases null
  · rw [FrameMeaning.ofText, FrameMeaning.ofText, parsed, parsedOther]
    exact adds.ofJson_eq scope
  · have stated : failureMessage status body = text := by
      refine failureMessage_of_states parsed ?_
      rw [show (Json.object members).get? "error" = none from adds.absent]
      exact .member found
    have quotation : IsQuotation status other (failureMessage status other) :=
      isQuotation_of_null parsedOther adds.null
    refine ⟨stated, fun same => ?_, fun asQuoted => ?_⟩
    · exact stated ▸ same ▸ quotation
    · rw [stated, isQuotation_iff.mp quotation, isQuotation_iff.mp asQuoted]

/-- A null error in front of a message: the body is quoted. -/
theorem failureMessage_isMessage_iff_nullFirst :
    let body := "\x7b\"message\":\"denied\"\x7d"
    let other := "\x7b\"error\":null,\"message\":\"denied\"\x7d"
    failureMessage 403 body = "denied" ∧
      IsQuotation 403 other (failureMessage 403 other) := by
  intro body other
  have parsed : Json.parse? body = some (.object [("message", .string "denied")]) := by
    decide +kernel
  have parsedOther : Json.parse? other =
      some (.object [("error", .null), ("message", .string "denied")]) := by decide +kernel
  have adds : AddsNullError [("message", .string "denied")]
      [("error", .null), ("message", .string "denied")] :=
    ⟨rfl, rfl, fun key other => Members.find?_cons_of_ne other.symm _ _⟩
  obtain ⟨-, -, added⟩ := failureMessage_isMessage_iff 403 body
  obtain ⟨-, quoted, -⟩ := failureMessage_isMessage_iff 403 other
  exact ⟨((added _ _ _ parsed parsedOther adds).2 _ rfl).1,
    quoted "denied" ⟨_, parsedOther, rfl, rfl⟩⟩

/-- The same message with and without a null error: with it the whole body is the message. -/
theorem message_lost_to_null_error :
    failureMessage 403 "\x7b\"message\":\"denied\"\x7d" = "denied" ∧
      failureMessage 403 "\x7b\"message\":\"denied\",\"error\":null\x7d" ≠ "denied" := by
  decide +kernel

end DocStore
