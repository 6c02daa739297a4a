import DocStore.Proofs.Json.Members
import DocStore.Proofs.Outcome
import DocStore.Proofs.Update.Assignment

/-! # The wire form as a partition

The wire form of an update sorts its fields into groups, one for each token of an operation. The
groups stand in the order of their first field and the fields of a group in the order of the
update, so that the form is a function of the compiled operations that does not mention how it
is built up.
-/

namespace DocStore.Update

/-- A field with its operation and what that compiles to. -/
structure Entry where
  field : String
  op : FieldOperation
  value : Json
  compiled : op.compile field = .ok value

def Entry.assignment (entry : Entry) : Assignment :=
  (entry.field, entry.op)

def Entry.token (entry : Entry) : String :=
  entry.op.token

/-- The error of the first operation that does not compile. -/
def firstError? (update : Update) : Option Error :=
  update.findSome? fun assignment =>
    match assignment.2.compile assignment.1 with
    | .error e => some e
    | .ok _ => none

/-- The tokens of entries, in the order of their first entry. -/
def tokens (entries : List Entry) : List String :=
  (entries.map Entry.token).eraseDups

def ofToken (entries : List Entry) (token : String) : List Entry :=
  entries.filter fun entry => entry.token == token

/-- The group of a token: a list of the fields for removals, and otherwise each field with its
    value. -/
def group (token : String) (own : List Entry) : Json :=
  if token = "$unset" then .array (own.map fun entry => .string entry.field)
  else .object (own.map fun entry => (entry.field, entry.value))

def partition (entries : List Entry) : Members :=
  (tokens entries).map fun token => (token, group token (ofToken entries token))

/-- A field that a group names, and what the group says of it. -/
structure Occurrence where
  token : String
  name : Json
  value : Json

/-- The occurrences in a group. An element of a list is all that the group says of it. -/
def occurrencesIn (token : String) : Json → List Occurrence
  | .array names => names.map fun name => ⟨token, name, name⟩
  | .object fields => fields.map fun field => ⟨token, .string field.1, field.2⟩
  | _ => []

def occurrences (groups : Members) : List Occurrence :=
  groups.flatMap fun member => occurrencesIn member.1 member.2

/-- How an entry occurs on the wire. -/
def Entry.occurrence (entry : Entry) : Occurrence :=
  ⟨entry.token, .string entry.field, entry.value⟩

/-! ## Compiling -/

def addEntry (groups : Members) (entry : Entry) : Members :=
  addToGroup groups entry.field entry.op entry.value

theorem compileInto_eq_error_iff {update : Update} {groups : Members} {e : Error} :
    compileInto groups update = .error e ↔ firstError? update = some e := by
  induction update generalizing groups with
  | nil => exact ⟨nofun, nofun⟩
  | cons assignment rest ih =>
      obtain ⟨field, op⟩ := assignment
      rw [compileInto, firstError?, List.findSome?_cons]
      cases op.compile field with
      | error e' => simp [bind, Except.bind]
      | ok value => exact ih

theorem compileInto_eq_ok_iff {update : Update} {groups result : Members} :
    compileInto groups update = .ok result ↔
      ∃ entries : List Entry, entries.map Entry.assignment = update ∧
        entries.foldl addEntry groups = result := by
  induction update generalizing groups with
  | nil => simp [compileInto]
  | cons assignment rest ih =>
      obtain ⟨field, op⟩ := assignment
      rw [compileInto, bind_eq_ok_iff]
      constructor
      · rintro ⟨value, compiled, later⟩
        obtain ⟨entries, same, folded⟩ := ih.mp later
        exact ⟨⟨field, op, value, compiled⟩ :: entries, by rw [List.map_cons, same]; rfl, folded⟩
      · rintro ⟨entries, same, folded⟩
        obtain ⟨⟨_, _, value, compiled⟩, others, rfl, own, rest⟩ := List.map_eq_cons_iff.mp same
        cases own
        exact ⟨value, compiled, ih.mpr ⟨others, rest, folded⟩⟩

/-! ## Grouping -/

theorem token_eq_unset_iff {op : FieldOperation} : op.token = "$unset" ↔ op = .unset := by
  cases op <;> simp [FieldOperation.token]

theorem Entry.value_of_removal {entry : Entry} (removal : entry.token = "$unset") :
    entry.value = .string entry.field := by
  obtain ⟨field, op, value, compiled⟩ := entry
  cases token_eq_unset_iff.mp removal
  cases compiled
  rfl

section Joining

variable {groups : Members} {field : String} {op : FieldOperation} {value : Json}

theorem addToGroup_unset_of_absent (absent : groups.find? "$unset" = none) :
    addToGroup groups field .unset value = groups.insert "$unset" (.array [value]) := by
  simp only [addToGroup, FieldOperation.token, absent]

theorem addToGroup_unset_of_present {names : List Json}
    (present : groups.find? "$unset" = some (.array names)) :
    addToGroup groups field .unset value = groups.insert "$unset" (.array (names ++ [value])) := by
  simp only [addToGroup, FieldOperation.token, present]

theorem addToGroup_of_absent (other : op ≠ .unset) (absent : groups.find? op.token = none) :
    addToGroup groups field op value = groups.insert op.token (.single field value) := by
  cases op <;> first | exact absurd rfl other | simp only [addToGroup, absent]

theorem addToGroup_of_present {fields : Members} (other : op ≠ .unset)
    (present : groups.find? op.token = some (.object fields)) :
    addToGroup groups field op value =
      groups.insert op.token (.object (Members.insert fields field value)) := by
  cases op <;> first | exact absurd rfl other | simp only [addToGroup, present]

end Joining

theorem addEntry_of_absent {groups : Members} {entry : Entry}
    (absent : groups.find? entry.token = none) :
    addEntry groups entry = groups.insert entry.token (group entry.token [entry]) := by
  by_cases removal : entry.token = "$unset"
  · rw [removal] at absent
    rw [addEntry, token_eq_unset_iff.mp removal, addToGroup_unset_of_absent absent, removal,
      entry.value_of_removal removal]
    rfl
  · have other : entry.op ≠ .unset := fun same => removal (token_eq_unset_iff.mpr same)
    rw [addEntry, addToGroup_of_absent other absent, group, if_neg removal]
    rfl

theorem addEntry_of_present {groups : Members} {entry : Entry} {own : List Entry}
    (present : groups.find? entry.token = some (group entry.token own))
    (new : entry.field ∉ own.map Entry.field) :
    addEntry groups entry = groups.insert entry.token (group entry.token (own ++ [entry])) := by
  by_cases removal : entry.token = "$unset"
  · rw [removal, group, if_pos rfl] at present
    rw [addEntry, token_eq_unset_iff.mp removal, addToGroup_unset_of_present present, removal,
      entry.value_of_removal removal, group, if_pos rfl, List.map_append]
    rfl
  · have other : entry.op ≠ .unset := fun same => removal (token_eq_unset_iff.mpr same)
    rw [group, if_neg removal] at present
    have absent : entry.field ∉ Members.keys (own.map fun entry => (entry.field, entry.value)) := by
      simpa [Members.keys, List.map_map, Function.comp_def] using new
    rw [addEntry, addToGroup_of_present other present, Members.insert_of_absent absent, group,
      if_neg removal, List.map_append]
    rfl

theorem mem_tokens {entries : List Entry} {token : String} :
    token ∈ tokens entries ↔ ∃ entry ∈ entries, entry.token = token := by
  simp [tokens, List.mem_eraseDups]

theorem nodup_tokens (entries : List Entry) : (tokens entries).Nodup :=
  nodup_eraseDups _

theorem ofToken_concat_self (entries : List Entry) (entry : Entry) :
    ofToken (entries ++ [entry]) entry.token = ofToken entries entry.token ++ [entry] := by
  simp [ofToken]

theorem ofToken_concat_of_ne {entry : Entry} {token : String} (different : token ≠ entry.token)
    (entries : List Entry) : ofToken (entries ++ [entry]) token = ofToken entries token := by
  simp [ofToken, Ne.symm different]

theorem ofToken_eq_nil {entries : List Entry} {token : String} (absent : token ∉ tokens entries) :
    ofToken entries token = [] := by
  rw [ofToken, List.filter_eq_nil_iff]
  intro entry mem own
  exact absent (mem_tokens.mpr ⟨entry, mem, by simpa using own⟩)

theorem keys_partition (entries : List Entry) : (partition entries).keys = tokens entries :=
  Members.keys_tabulated (tokens entries) fun token => group token (ofToken entries token)

/-- The groups of one more entry are the groups of the others with it in its place. -/
theorem addEntry_partition {entries : List Entry} {entry : Entry}
    (new : entry.field ∉ entries.map Entry.field) :
    addEntry (partition entries) entry = partition (entries ++ [entry]) := by
  -- the other groups stay as they are
  have others : ∀ token ∈ tokens entries, token ≠ entry.token →
      group token (ofToken (entries ++ [entry]) token) = group token (ofToken entries token) :=
    fun token _ different => by rw [ofToken_concat_of_ne different]
  by_cases present : entry.token ∈ tokens entries
  · have order : tokens (entries ++ [entry]) = tokens entries := by
      rw [tokens, List.map_append]
      exact eraseDups_concat_of_mem (List.mem_eraseDups.mp present)
    have found : (partition entries).find? entry.token =
        some (group entry.token (ofToken entries entry.token)) :=
      Members.find?_tabulated present _
    -- so that the entry does not replace another one of its group
    have newInGroup : entry.field ∉ (ofToken entries entry.token).map Entry.field :=
      fun mem => new ((List.filter_sublist.map Entry.field).subset mem)
    rw [addEntry_of_present found newInGroup, partition,
      Members.insert_tabulated (nodup_tokens entries) present, partition, order]
    refine List.map_congr_left fun token mem => ?_
    by_cases same : token = entry.token
    · rw [if_pos same, same, ofToken_concat_self]
    · rw [if_neg same, others token mem same]
  · have order : tokens (entries ++ [entry]) = tokens entries ++ [entry.token] := by
      rw [tokens, List.map_append]
      exact eraseDups_concat_of_not_mem fun mem => present (List.mem_eraseDups.mpr mem)
    have missing : entry.token ∉ (partition entries).keys := by
      rwa [keys_partition]
    rw [addEntry_of_absent (Members.find?_eq_none_iff.mpr missing),
      Members.insert_of_absent missing, partition, partition, order, List.map_append]
    congr 1
    · refine List.map_congr_left fun token mem => ?_
      rw [others token mem fun same => present (same ▸ mem)]
    · rw [List.map_singleton, ofToken_concat_self, ofToken_eq_nil present, List.nil_append]

theorem foldl_addEntry_eq_partition {entries : List Entry}
    (distinct : (entries.map Entry.field).Nodup) :
    entries.foldl addEntry [] = partition entries := by
  induction entries using List.reverseRecOn with
  | nil => rfl
  | append_singleton entries entry ih =>
      obtain ⟨distinctBefore, -, apart⟩ := List.nodup_append.mp (List.map_append ▸ distinct)
      have new : entry.field ∉ entries.map Entry.field :=
        fun mem => apart _ mem _ (List.mem_singleton_self _) rfl
      rw [List.foldl_append, ih distinctBefore]
      exact addEntry_partition new

/-! ## Occurrences -/

theorem occurrencesIn_group {token : String} {own : List Entry}
    (alike : ∀ entry ∈ own, entry.token = token) :
    occurrencesIn token (group token own) = own.map Entry.occurrence := by
  by_cases removal : token = "$unset"
  · rw [group, if_pos removal, occurrencesIn, List.map_map]
    refine List.map_congr_left fun entry mem => ?_
    have isRemoval : entry.token = "$unset" := (alike entry mem).trans removal
    simp [Entry.occurrence, alike entry mem, entry.value_of_removal isRemoval]
  · rw [group, if_neg removal, occurrencesIn, List.map_map]
    refine List.map_congr_left fun entry mem => ?_
    simp [Entry.occurrence, alike entry mem]

/-- The groups hold the entries, each of them once. -/
theorem occurrences_partition (entries : List Entry) :
    (occurrences (partition entries)).Perm (entries.map Entry.occurrence) := by
  have opened : ∀ token ∈ tokens entries,
      occurrencesIn token (group token (ofToken entries token)) =
        (ofToken entries token).map Entry.occurrence := by
    intro token _
    refine occurrencesIn_group fun entry mem => ?_
    simpa using (List.mem_filter.mp mem).2
  have covered : ∀ entry ∈ entries, entry.token ∈ tokens entries :=
    fun entry mem => mem_tokens.mpr ⟨entry, mem, rfl⟩
  rw [occurrences, partition, List.flatMap_map, List.flatMap_congr opened, ← List.map_flatMap]
  exact (flatMap_filter_perm (nodup_tokens entries) covered).map Entry.occurrence

theorem partition_eq_nil_iff {entries : List Entry} : partition entries = [] ↔ entries = [] := by
  constructor
  · intro none
    refine List.eq_nil_iff_forall_not_mem.mpr fun entry mem => ?_
    have listed : entry.token ∈ tokens entries := mem_tokens.mpr ⟨entry, mem, rfl⟩
    rw [List.map_eq_nil_iff.mp none] at listed
    cases listed
  · rintro rfl
    rfl

theorem compile_surviving_eq_ok_iff {calls : List Assignment} {wire : Json} :
    (surviving calls).compile = .ok wire ↔
      ∃ entries : List Entry, entries.map Entry.assignment = surviving calls ∧
        wire = .object (partition entries) := by
  -- the entries are on the touched fields, which are different
  have distinct : ∀ entries : List Entry, entries.map Entry.assignment = surviving calls →
      (entries.map Entry.field).Nodup := by
    intro entries same
    have fields : entries.map Entry.field = touched calls := by
      rw [← fields_surviving, ← same, List.map_map]
      rfl
    exact fields ▸ nodup_touched calls
  rw [compile, map_eq_ok_iff]
  constructor
  · rintro ⟨groups, compiled, rfl⟩
    obtain ⟨entries, same, rfl⟩ := compileInto_eq_ok_iff.mp compiled
    exact ⟨entries, same, by rw [foldl_addEntry_eq_partition (distinct entries same)]⟩
  · rintro ⟨entries, same, rfl⟩
    have folded := foldl_addEntry_eq_partition (distinct entries same)
    exact ⟨partition entries, compileInto_eq_ok_iff.mpr ⟨entries, same, folded⟩, rfl⟩

/-- Entries of one token make one group. -/
theorem partition_of_token {entries : List Entry} {token : String} (filled : entries ≠ [])
    (alike : ∀ entry ∈ entries, entry.token = token) :
    partition entries = [(token, group token entries)] := by
  have only : tokens entries = [token] := by
    induction entries using List.reverseRecOn with
    | nil => exact absurd rfl filled
    | append_singleton earlier last ih =>
        have isToken : last.token = token := alike last (by simp)
        rw [tokens, List.map_append]
        cases earlier with
        | nil => simp [isToken, List.eraseDups_cons]
        | cons first rest =>
            have isFirst : first.token = token := alike first (by simp)
            have listed : last.token ∈ (first :: rest).map Entry.token := by simp [isToken, isFirst]
            rw [List.map_singleton, eraseDups_concat_of_mem listed]
            exact ih (List.cons_ne_nil _ _)
              fun entry mem => alike entry (List.mem_append_left _ mem)
  have all : ofToken entries token = entries :=
    List.filter_eq_self.mpr fun entry mem => by simp [alike entry mem]
  rw [partition, only, List.map_singleton, all]

/-- Operations of one token on different fields are sent as one group of them all. -/
theorem compile_of_token {entries : List Entry} {token : String} (filled : entries ≠ [])
    (distinct : (entries.map Entry.field).Nodup) (alike : ∀ entry ∈ entries, entry.token = token) :
    (ofAssignments (entries.map Entry.assignment)).compile =
      .ok (.single token (group token entries)) := by
  have fields : ((entries.map Entry.assignment).map Prod.fst).Nodup := by
    rw [List.map_map]
    exact distinct
  rw [ofAssignments_eq_surviving, compile_surviving_eq_ok_iff]
  refine ⟨entries, (surviving_of_nodup fields).symm, ?_⟩
  rw [partition_of_token filled alike]
  rfl

/-- The wire form of assignments is the partition of the touched fields by the token of their
    last operation, unless one of these operations does not compile. Operations that were
    overwritten count for nothing. -/
theorem compile_ofAssignments (calls : List Assignment) :
    ((surviving calls).map Prod.fst = touched calls ∧ (touched calls).Nodup) ∧
    (∀ e, (ofAssignments calls).compile = .error e ↔ firstError? (surviving calls) = some e) ∧
    (∀ wire, (ofAssignments calls).compile = .ok wire ↔
      ∃ entries : List Entry, entries.map Entry.assignment = surviving calls ∧
        wire = .object (partition entries) ∧
        (occurrences (partition entries)).Perm (entries.map Entry.occurrence)) ∧
    ((ofAssignments calls).compile = .ok (.object []) ↔ calls = []) := by
  rw [ofAssignments_eq_surviving]
  refine ⟨⟨fields_surviving calls, nodup_touched calls⟩, fun e => ?_, fun wire => ?_, ?_⟩
  · rw [compile, map_eq_error_iff, compileInto_eq_error_iff]
  · rw [compile_surviving_eq_ok_iff]
    constructor
    · rintro ⟨entries, same, made⟩
      exact ⟨entries, same, made, occurrences_partition entries⟩
    · rintro ⟨entries, same, made, -⟩
      exact ⟨entries, same, made⟩
  · rw [compile_surviving_eq_ok_iff, ← surviving_eq_nil_iff]
    constructor
    · rintro ⟨entries, same, made⟩
      have none : partition entries = [] := (Json.object.inj made).symm
      rw [← same, partition_eq_nil_iff.mp none]
      rfl
    · intro none
      exact ⟨[], none.symm, rfl⟩

-- the empty path of the first call is never looked at
example : (ofAssignments [("a", .rename ""), ("b", .popFirst), ("a", .unset)]).compile =
    .ok (.object [("$unset", .array [.string "a"]), ("$pop", .single "b" (.number .minusOne))]) :=
  rfl

end DocStore.Update
