import DocStore.Proofs.Json.Distinct
import DocStore.Proofs.Operand

/-! # Literals and the values they are

An operand without fields and without repeated keys is the same thing as a JSON value without
repeated keys: either is read from the other and back.
-/

namespace DocStore

theorem Members.ofPairs_of_nodup {pairs : Members} (distinct : pairs.keys.Nodup) :
    ofPairs pairs = pairs :=
  extend_of_absent distinct fun _ _ => List.not_mem_nil

namespace Operand

/-- No map has a key twice, neither the operand nor any inside it. -/
inductive HasDistinctKeys : Operand → Prop where
  | null : HasDistinctKeys .null
  | bool (value : Bool) : HasDistinctKeys (.bool value)
  | number (value : JsonNumber) : HasDistinctKeys (.number value)
  | string (text : String) : HasDistinctKeys (.string text)
  | field (path : String) : HasDistinctKeys (.field path)
  | array {items : List Operand} (all : ∀ item ∈ items, HasDistinctKeys item) :
      HasDistinctKeys (.array items)
  | map {entries : List (String × Operand)} (distinct : (entries.map Prod.fst).Nodup)
      (all : ∀ entry ∈ entries, HasDistinctKeys entry.2) : HasDistinctKeys (.map entries)

theorem literalItems?_cons {item : Operand} {rest : List Operand} {values : List Json} :
    literalItems? (item :: rest) = some values ↔
      ∃ value others, literal? item = some value ∧ literalItems? rest = some others ∧
        values = value :: others := by
  rw [literalItems?]
  cases literal? item <;> cases literalItems? rest <;> simp [eq_comm]

theorem literalEntries?_cons {key : String} {entry : Operand} {rest : List (String × Operand)}
    {pairs : List (String × Json)} :
    literalEntries? ((key, entry) :: rest) = some pairs ↔
      ∃ value others, literal? entry = some value ∧ literalEntries? rest = some others ∧
        pairs = (key, value) :: others := by
  rw [literalEntries?]
  cases literal? entry <;> cases literalEntries? rest <;> simp [eq_comm]

theorem keys_literalEntries? {entries : List (String × Operand)} {pairs : Members}
    (literal : literalEntries? entries = some pairs) : pairs.keys = entries.map Prod.fst := by
  induction entries generalizing pairs with
  | nil =>
      cases literal
      rfl
  | cons first rest ih =>
      obtain ⟨value, others, -, later, rfl⟩ := literalEntries?_cons.mp literal
      exact congrArg (first.1 :: ·) (ih later)

mutual

/-- A literal is the operand of its value. -/
theorem ofJson_of_literal? (operand : Operand) (distinct : operand.HasDistinctKeys) :
    ∀ value, operand.literal? = some value → ofJson value = operand := by
  intro value literal
  cases operand with
  | null | bool | number | string =>
      cases literal
      rfl
  | field path => cases literal
  | array items =>
      cases distinct with
      | array all =>
          obtain ⟨values, found, rfl⟩ := Option.map_eq_some_iff.mp literal
          exact congrArg Operand.array (ofItems_of_literalItems? items all values found)
  | map entries =>
      cases distinct with
      | map distinct all =>
          obtain ⟨pairs, found, rfl⟩ := Option.map_eq_some_iff.mp literal
          have keys : (Members.keys pairs).Nodup := by
            rw [keys_literalEntries? found]
            exact distinct
          rw [Members.ofPairs_of_nodup keys, ofJson]
          exact congrArg Operand.map (ofMembers_of_literalEntries? entries all pairs found)

theorem ofItems_of_literalItems? (items : List Operand)
    (all : ∀ item ∈ items, HasDistinctKeys item) :
    ∀ values, literalItems? items = some values → ofItems values = items := by
  intro values literal
  cases items with
  | nil =>
      cases literal
      rfl
  | cons item rest =>
      obtain ⟨itemDistinct, restDistinct⟩ := List.forall_mem_cons.mp all
      obtain ⟨value, others, first, later, rfl⟩ := literalItems?_cons.mp literal
      rw [ofItems, ofJson_of_literal? item itemDistinct value first,
        ofItems_of_literalItems? rest restDistinct others later]

theorem ofMembers_of_literalEntries? (entries : List (String × Operand))
    (all : ∀ entry ∈ entries, HasDistinctKeys entry.2) :
    ∀ pairs, literalEntries? entries = some pairs → ofMembers pairs = entries := by
  intro pairs literal
  cases entries with
  | nil =>
      cases literal
      rfl
  | cons first rest =>
      obtain ⟨key, entry⟩ := first
      obtain ⟨entryDistinct, restDistinct⟩ := List.forall_mem_cons.mp all
      obtain ⟨value, others, first, later, rfl⟩ := literalEntries?_cons.mp literal
      rw [ofMembers, ofJson_of_literal? entry entryDistinct value first,
        ofMembers_of_literalEntries? rest restDistinct others later]

end

mutual

/-- The value of a literal has no key twice: a repeated key is one member of it. -/
theorem hasDistinctKeys_of_literal? (operand : Operand) :
    ∀ value, operand.literal? = some value → value.HasDistinctKeys := by
  intro value literal
  cases operand with
  | null | bool | number | string =>
      cases literal
      constructor
  | field path => cases literal
  | array items =>
      obtain ⟨values, found, rfl⟩ := Option.map_eq_some_iff.mp literal
      exact .array (hasDistinctKeys_of_literalItems? items values found)
  | map entries =>
      obtain ⟨pairs, found, rfl⟩ := Option.map_eq_some_iff.mp literal
      exact Json.hasDistinctKeys_ofPairs (hasDistinctKeys_of_literalEntries? entries pairs found)

theorem hasDistinctKeys_of_literalItems? (items : List Operand) :
    ∀ values, literalItems? items = some values → ∀ value ∈ values, value.HasDistinctKeys := by
  intro values literal
  cases items with
  | nil =>
      cases literal
      exact nofun
  | cons item rest =>
      obtain ⟨value, others, first, later, rfl⟩ := literalItems?_cons.mp literal
      exact List.forall_mem_cons.mpr ⟨hasDistinctKeys_of_literal? item value first,
        hasDistinctKeys_of_literalItems? rest others later⟩

theorem hasDistinctKeys_of_literalEntries? (entries : List (String × Operand)) :
    ∀ pairs, literalEntries? entries = some pairs → ∀ pair ∈ pairs, pair.2.HasDistinctKeys := by
  intro pairs literal
  cases entries with
  | nil =>
      cases literal
      exact nofun
  | cons first rest =>
      obtain ⟨key, entry⟩ := first
      obtain ⟨value, others, first, later, rfl⟩ := literalEntries?_cons.mp literal
      exact List.forall_mem_cons.mpr ⟨hasDistinctKeys_of_literal? entry value first,
        hasDistinctKeys_of_literalEntries? rest others later⟩

end

mutual

/-- The operand of a value is a literal for it. -/
theorem literal?_ofJson (value : Json) (distinct : value.HasDistinctKeys) :
    (ofJson value).literal? = some value := by
  cases value with
  | null | bool | number | string => rfl
  | array items =>
      cases distinct with
      | array all => rw [ofJson, literal?, literalItems?_ofItems items all, Option.map_some]
  | object members =>
      cases distinct with
      | object distinct all =>
          rw [ofJson, literal?, literalEntries?_ofMembers members all, Option.map_some,
            Members.ofPairs_of_nodup distinct]

theorem literalItems?_ofItems (items : List Json) (all : ∀ item ∈ items, item.HasDistinctKeys) :
    literalItems? (ofItems items) = some items := by
  cases items with
  | nil => rfl
  | cons item rest =>
      obtain ⟨itemDistinct, restDistinct⟩ := List.forall_mem_cons.mp all
      exact literalItems?_cons.mpr ⟨item, rest, literal?_ofJson item itemDistinct,
        literalItems?_ofItems rest restDistinct, rfl⟩

theorem literalEntries?_ofMembers (members : List (String × Json))
    (all : ∀ member ∈ members, member.2.HasDistinctKeys) :
    literalEntries? (ofMembers members) = some members := by
  cases members with
  | nil => rfl
  | cons first rest =>
      obtain ⟨key, value⟩ := first
      obtain ⟨valueDistinct, restDistinct⟩ := List.forall_mem_cons.mp all
      exact literalEntries?_cons.mpr ⟨value, rest, literal?_ofJson value valueDistinct,
        literalEntries?_ofMembers rest restDistinct, rfl⟩

end

end Operand

end DocStore
