import DocStore.Proofs.Request

/-! # What calls send

A call drafts its request before it reads a token, so that one whose input cannot be compiled, or
whose URL cannot be built, reads none. Any other that has something to send reads one, and its
request carries this one.
-/

namespace DocStore

theorem RequestDraft.key_of_mem_queryPairs {compiled : QueryParts} {pair : String × String}
    (mem : pair ∈ queryPairs compiled) : pair.1 ∈ ["query", "sort", "projection", "limit"] := by
  simp only [queryPairs, List.mem_append, Option.mem_toList, Option.map_eq_some_iff] at mem
  obtain ((⟨_, -, rfl⟩ | ⟨_, -, rfl⟩) | ⟨_, -, rfl⟩) | ⟨_, -, rfl⟩ := mem <;> simp

namespace Call

/-- The input of a call cannot be written for the server. -/
def IsUncompilable : Call → Prop
  | .query _ selection => ∃ error, selection.parts = .error error
  | .updateDocument _ update => ∃ error, update.compile = .error error
  | .setDocument _ data | .addDocument _ data _ => ∀ members, data ≠ .object members
  | .getDocument _ | .getCollection _ | .deleteDocument _ => False

structure IsDrafted (call : Call) (base : Url) (draft : RequestDraft) : Prop where
  compiles : ¬call.IsUncompilable
  segmented : ∃ names, base.path = .segments names
  basePairs : draft.url.pairs = base.pairs
  baseHost : draft.url.host? = base.host?
  unnamed : ∀ pair ∈ draft.pairs, pair.1 ≠ "projectName"
  unauthorized : ∀ header ∈ draft.headers, header.1 ≠ Authorization.headerName

variable {call : Call} {base : Url} {draft : RequestDraft}

theorem isDrafted_of_resource {reference : Reference} {url : Url}
    (reached : base.resource reference = .ok url) (compiles : ¬call.IsUncompilable)
    {pairs headers : List (String × String)} (unnamed : ∀ pair ∈ pairs, pair.1 ≠ "projectName")
    (unauthorized : ∀ header ∈ headers, header.1 ≠ Authorization.headerName) (method : Method)
    (body : Option String) : call.IsDrafted base ⟨method, url, pairs, headers, body⟩ where
  compiles := compiles
  segmented := (Url.segments_of_endpoint reached).imp fun _ ⟨_, segmented, _⟩ => segmented
  basePairs := (Url.pairs_of_endpoint reached).1
  baseHost := (Url.pairs_of_endpoint reached).2
  unnamed := unnamed
  unauthorized := unauthorized

theorem isDrafted_of_plain {method : Method} {reference : Reference}
    (compiles : ¬call.IsUncompilable)
    (drafted : RequestDraft.plain base method reference = .ok draft) :
    call.IsDrafted base draft := by
  obtain ⟨url, reached, rfl⟩ := bind_pure_eq_ok_iff.mp drafted
  exact isDrafted_of_resource reached compiles (List.forall_mem_nil _) (List.forall_mem_nil _)
    method none

theorem isDrafted_of_store {document : DocumentReference} {data : Json}
    (uncompilable : call.IsUncompilable → ∀ members, data ≠ .object members)
    (drafted : RequestDraft.store base document data = .ok draft) :
    call.IsDrafted base draft := by
  cases data with
  | object members =>
      obtain ⟨url, reached, rfl⟩ := bind_pure_eq_ok_iff.mp drafted
      exact isDrafted_of_resource reached (fun fails => uncompilable fails members rfl)
        (List.forall_mem_nil _) (by decide) .put _
  | null | bool | number | string | array => cases drafted

theorem isDrafted_of_query {collection : CollectionReference} {selection : Query}
    (drafted : RequestDraft.query base collection selection = .ok draft) :
    (Call.query collection selection).IsDrafted base draft := by
  obtain ⟨compiled, url, compiles, reached, rfl⟩ := Query.draft_eq_ok_iff.mp drafted
  refine isDrafted_of_resource reached (fun fails => ?_) (fun pair mem => ?_)
    (List.forall_mem_nil _) .get none
  · obtain ⟨error, failed⟩ := fails
    cases compiles.symm.trans failed
  · exact ne_of_mem_of_not_mem (RequestDraft.key_of_mem_queryPairs mem) (by decide)

theorem isDrafted_of_update {document : DocumentReference} {update : Update}
    (drafted : RequestDraft.update base document update = .ok (some draft)) :
    (Call.updateDocument document update).IsDrafted base draft := by
  obtain ⟨compiled, compiles, kept⟩ := bind_eq_ok_iff.mp drafted
  split at kept
  next => cases kept
  next =>
      obtain ⟨url, reached, made⟩ := bind_pure_eq_ok_iff.mp kept
      cases made
      refine isDrafted_of_resource reached (fun fails => ?_) (List.forall_mem_nil _) (by decide)
        .post _
      obtain ⟨error, failed⟩ := fails
      cases compiles.symm.trans failed

theorem isDrafted (drafted : call.draft base = .ok (some draft)) : call.IsDrafted base draft := by
  have ok_of_map {check : Except Error RequestDraft} (mapped : check.map some = .ok (some draft)) :
      check = .ok draft := by
    obtain ⟨_, found, same⟩ := map_eq_ok_iff.mp mapped
    cases same
    exact found
  cases call with
  | getDocument | getCollection | deleteDocument =>
      exact isDrafted_of_plain id (ok_of_map drafted)
  | query => exact isDrafted_of_query (ok_of_map drafted)
  | setDocument | addDocument => exact isDrafted_of_store id (ok_of_map drafted)
  | updateDocument => exact isDrafted_of_update drafted

end Call

/-! ## The token of a request -/

/-- A request carries an answer of the source of tokens: a token as such, and for none the project
    among the pairs that are added to those of the base URL. -/
structure Request.Carries (request : Request) (answer projectName : Option String) (base : Url) :
    Prop where
  tokens : request.tokens = answer.toList
  pairs : ∃ own, request.url.pairs = base.pairs ++ (Url.projectPair answer projectName ++ own) ∧
    ∀ pair ∈ own, pair.1 ≠ "projectName"

def Client.Refuses (client : Client) (answer : Option String) : Prop :=
  ¬Authorization.IsAccepted answer ∨ client.baseUrl.host? = none

/-- A call can be written down, and the client's base URL leads to the server's resources. -/
def Client.CanDraft (client : Client) (call : Call) : Prop :=
  ¬call.IsUncompilable ∧ ∃ names, client.baseUrl.path = .segments names

/-- What a call may come to, with the next answer of the source of tokens. -/
inductive Client.Performs (client : Client) (call : Call) (answer : Option String)
    (before : Nat) : CallReport → Prop where
  | unread (result : Except Error Outcome) :
      Performs client call answer before ⟨none, result, before⟩
  | refused (drafts : client.CanDraft call) (refuses : client.Refuses answer) (error : Error) :
      Performs client call answer before ⟨none, .error error, before + 1⟩
  | sent (drafts : client.CanDraft call) {request : Request}
      (carries : request.Carries answer client.settings.projectName client.baseUrl)
      (result : Except Error Outcome) :
      Performs client call answer before ⟨some request, result, before + 1⟩

theorem Client.performs (client : Client) (call : Call) (server : Request → Option Response)
    (tokensRead : Nat) :
    client.Performs call (client.settings.tokenSource tokensRead) tokensRead
      (client.perform call server tokensRead) := by
  unfold perform
  split
  next => exact .unread _
  next => exact .unread _
  next draft drafted =>
      have isDrafted := Call.isDrafted drafted
      have drafts : client.CanDraft call := ⟨isDrafted.compiles, isDrafted.segmented⟩
      have completes := draft.complete_completion (client.settings.tokenSource tokensRead)
        client.settings.projectName
      dsimp only
      generalize draft.complete _ client.settings.projectName = completed at completes ⊢
      cases completes with
      | refused refusal => exact .refused drafts (.inl refusal) _
      | unhosted _ hostless => exact .refused drafts (.inr (isDrafted.baseHost ▸ hostless)) _
      | made _ _ completed =>
          refine .sent drafts ⟨completed.tokens isDrafted.unauthorized, draft.pairs, ?_,
            isDrafted.unnamed⟩ _
          rw [completed.pairs, isDrafted.basePairs]

end DocStore
