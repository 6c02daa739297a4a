import DocStore.Json.Location
import DocStore.Proofs.Operand.Conversion
import DocStore.Proofs.Operand.Evaluation

/-! # Values without marks

A literal is written differently inside an `$expr` and outside of it only where one of its texts
begins like a path. A value in which nothing begins like that, no text and no key, is written as it
is in both places, and whoever evaluates the `$expr` takes no part of it for a path or a mark.
-/

namespace DocStore

/-- Nothing in a value begins like a path or an operator, neither a text nor a key. -/
inductive Json.IsPlain : Json → Prop
  | null : IsPlain .null
  | bool (value : Bool) : IsPlain (.bool value)
  | number (value : JsonNumber) : IsPlain (.number value)
  | string {text : String} (plain : startsWithDollar text = false) : IsPlain (.string text)
  | array {items : List Json} (all : ∀ item ∈ items, IsPlain item) : IsPlain (.array items)
  | object {members : Members} (plain : ∀ key ∈ members.keys, startsWithDollar key = false)
      (all : ∀ member ∈ members, IsPlain member.2) : IsPlain (.object members)

theorem Members.ofPairs_ofPairs (pairs : Members) : ofPairs (ofPairs pairs) = ofPairs pairs :=
  ofPairs_of_nodup (nodup_keys_ofPairs pairs)

/-- The parts of a plain value are plain. -/
theorem Json.IsPlain.of_follow? {value part : Json} {steps : List LocationStep}
    (plain : value.IsPlain) (found : value.follow? steps = some part) : part.IsPlain := by
  induction steps generalizing value with
  | nil =>
      cases found
      exact plain
  | cons step rest ih =>
      obtain ⟨inner, taken, inside⟩ := Option.bind_eq_some_iff.mp found
      refine ih ?_ inside
      cases plain with
      | array all =>
          cases step with
          | member name => cases taken
          | item index => exact all inner (List.mem_of_getElem? taken)
      | object _ all =>
          cases step with
          | item index => cases taken
          | member name => exact all (name, inner) (Members.mem_of_find? taken)
      | null | bool | number | string => cases taken

namespace Operand

theorem exprItems_ofItems (items : List Json) :
    exprItems (ofItems items) = items.map fun item => (ofJson item).exprForm := by
  induction items with
  | nil => rfl
  | cons item rest ih => exact congrArg ((ofJson item).exprForm :: ·) ih

theorem exprEntries_ofMembers (members : Members) :
    exprEntries (ofMembers members) = members.mapValues fun value => (ofJson value).exprForm := by
  induction members with
  | nil => rfl
  | cons member rest ih => exact congrArg ((member.1, (ofJson member.2).exprForm) :: ·) ih

mutual

/-- A literal is written like its value: an entry that a later one overwrites leaves no trace. -/
theorem exprForm_of_literal? (operand : Operand) :
    ∀ value, operand.literal? = some value → operand.exprForm = (ofJson value).exprForm := by
  intro value literal
  cases operand with
  | null | bool | number | string =>
      cases literal
      rfl
  | field path => cases literal
  | array items =>
      obtain ⟨values, found, rfl⟩ := Option.map_eq_some_iff.mp literal
      exact congrArg Json.array (exprItems_of_literalItems? items values found)
  | map entries =>
      obtain ⟨pairs, found, rfl⟩ := Option.map_eq_some_iff.mp literal
      refine congrArg Json.object ?_
      calc
        Members.ofPairs (exprEntries entries)
          = Members.ofPairs (Members.mapValues (fun value => (ofJson value).exprForm) pairs) := by
            rw [exprEntries_of_literalEntries? entries pairs found, exprEntries_ofMembers]
        _ = (Members.ofPairs pairs).mapValues fun value => (ofJson value).exprForm :=
            Members.ofPairs_mapValues _ pairs
        _ = Members.ofPairs (exprEntries (ofMembers (Members.ofPairs pairs))) := by
            rw [exprEntries_ofMembers, Members.ofPairs_mapValues, Members.ofPairs_ofPairs]

theorem exprItems_of_literalItems? (items : List Operand) :
    ∀ values, literalItems? items = some values → exprItems items = exprItems (ofItems values) := by
  intro values literal
  cases items with
  | nil =>
      cases literal
      rfl
  | cons item rest =>
      obtain ⟨value, others, first, later, rfl⟩ := literalItems?_cons.mp literal
      rw [exprItems, ofItems, exprItems, exprForm_of_literal? item value first,
        exprItems_of_literalItems? rest others later]

theorem exprEntries_of_literalEntries? (entries : List (String × Operand)) :
    ∀ pairs, literalEntries? entries = some pairs →
      exprEntries entries = exprEntries (ofMembers pairs) := by
  intro pairs literal
  cases entries with
  | nil =>
      cases literal
      rfl
  | cons first rest =>
      obtain ⟨key, entry⟩ := first
      obtain ⟨value, others, first, later, rfl⟩ := literalEntries?_cons.mp literal
      rw [exprEntries, ofMembers, exprEntries, exprForm_of_literal? entry value first,
        exprEntries_of_literalEntries? rest others later]

end

/-- A plain value is written as it is. -/
theorem exprForm_ofJson {value : Json} (distinct : value.HasDistinctKeys)
    (plain : value.IsPlain) : (ofJson value).exprForm = value := by
  induction distinct with
  | null | bool | number => rfl
  | string text =>
      cases plain with
      | string unmarked => rw [ofJson, exprForm, unmarked, if_neg Bool.false_ne_true]
  | @array items _ ih =>
      cases plain with
      | array all =>
          have same : ∀ item ∈ items, (ofJson item).exprForm = item :=
            fun item mem => ih item mem (all item mem)
          rw [ofJson, exprForm, exprItems_ofItems, List.map_congr_left same, List.map_id']
  | @object members distinct _ ih =>
      cases plain with
      | object _ all =>
          have same : ∀ member ∈ members,
              (member.1, (ofJson member.2).exprForm) = member := by
            intro member mem
            rw [ih member mem (all member mem)]
          rw [ofJson, exprForm, exprEntries_ofMembers, Members.ofPairs_mapValues,
            Members.ofPairs_of_nodup distinct, Members.mapValues, List.map_congr_left same,
            List.map_id']

/-- A literal whose value is plain is written as this value. -/
theorem exprForm_of_isPlain {operand : Operand} {value : Json}
    (literal : operand.literal? = some value) (plain : value.IsPlain) :
    operand.exprForm = value :=
  calc
    operand.exprForm = (ofJson value).exprForm := exprForm_of_literal? operand value literal
    _ = value := exprForm_ofJson (hasDistinctKeys_of_literal? operand value literal) plain

theorem hasPlainKeys_ofJson {value : Json} (plain : value.IsPlain) :
    (ofJson value).HasPlainKeys := by
  induction plain with
  | null | bool | number | string => constructor
  | @array items _ ih =>
      rw [ofJson, ofItems_eq_map]
      exact .array (List.forall_mem_map.mpr ih)
  | @object members plain _ ih =>
      rw [ofJson, ofMembers_eq_map]
      refine .map (List.forall_mem_map.mpr fun member mem => ?_) (List.forall_mem_map.mpr ih)
      exact plain member.1 (List.mem_map_of_mem mem)

end Operand

/-- A plain value comes to itself, whatever values fields have. -/
theorem Json.IsPlain.resolve_eq {value : Json} (plain : value.IsPlain)
    (distinct : value.HasDistinctKeys) (environment : String → Json) :
    value.resolve environment = value :=
  calc
    value.resolve environment = (Operand.ofJson value).exprForm.resolve environment := by
      rw [Operand.exprForm_ofJson distinct plain]
    _ = (Operand.ofJson value).valueIn environment :=
      Operand.resolve_exprForm environment _ (Operand.hasPlainKeys_ofJson plain)
    _ = value := Operand.valueIn_of_literal? environment _ value
      (Operand.literal?_ofJson value distinct)

end DocStore
