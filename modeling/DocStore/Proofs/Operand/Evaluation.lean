import DocStore.Proofs.Json.Distinct
import DocStore.Proofs.Operand.Literal
import DocStore.Proofs.Query.WireForm

/-! # What an operand stands for inside an `$expr`

Whoever evaluates an `$expr` takes some texts for paths of fields and some objects for marks. The
form in which an operand is written there comes to the operand's own value: each field to its
value, and everything else to itself, a text that looks like a path included.
-/

namespace DocStore

namespace Members

/-- The members that pairs make: each key where it is first mentioned, with the value that it is
    given last. -/
def lastValues (pairs : Members) : Members :=
  (pairs.map Prod.fst).eraseDups.map fun key => (key, (pairs.reverse.lookup key).getD .null)

theorem eq_map_find?_of_nodup {members : Members} (distinct : members.keys.Nodup) :
    members = members.keys.map fun key => (key, (members.find? key).getD .null) := by
  induction members with
  | nil => rfl
  | cons first rest ih =>
      obtain ⟨key, value⟩ := first
      obtain ⟨fresh, restDistinct⟩ := List.nodup_cons.mp distinct
      have later : ∀ other ∈ keys rest,
          (other, (find? ((key, value) :: rest) other).getD .null) =
            (other, (find? rest other).getD .null) := by
        intro other inside
        have different : key ≠ other := fun same => fresh (same ▸ inside)
        rw [find?_cons_of_ne different]
      calc
        (key, value) :: rest
          = (key, value) :: (keys rest).map fun other => (other, (find? rest other).getD .null) :=
            congrArg _ (ih restDistinct)
        _ = (keys ((key, value) :: rest)).map fun other =>
              (other, (find? ((key, value) :: rest) other).getD .null) := by
            rw [← List.map_congr_left later]
            simp [keys, find?_cons_self]

theorem ofPairs_eq_lastValues (pairs : Members) : ofPairs pairs = lastValues pairs := by
  rw [eq_map_find?_of_nodup (nodup_keys_ofPairs pairs), keys_ofPairs, lastValues]
  simp only [find?_ofPairs]

section

variable (change : Json → Json)

/-- Members with their values exchanged, each in its place. -/
def mapValues (members : Members) : Members :=
  members.map fun member => (member.1, change member.2)

theorem insert_mapValues (members : Members) (key : String) (value : Json) :
    (members.mapValues change).insert key (change value) =
      (members.insert key value).mapValues change := by
  induction members with
  | nil => rfl
  | cons first rest ih =>
      obtain ⟨k, v⟩ := first
      by_cases same : k = key
      · simp [mapValues, insert, same]
      · simpa [mapValues, insert, same] using ih

theorem ofPairs_mapValues (pairs : Members) :
    ofPairs (pairs.mapValues change) = (ofPairs pairs).mapValues change := by
  induction pairs using List.reverseRecOn with
  | nil => rfl
  | append_singleton pairs pair ih =>
      have split : mapValues change (pairs ++ [pair]) =
          mapValues change pairs ++ [(pair.1, change pair.2)] := by simp [mapValues]
      rw [split, ofPairs_concat, ofPairs_concat, ih, insert_mapValues]

end

end Members

namespace Json

variable (environment : String → Json)

/-- The value of an object whose only key is the mark of literals. -/
def markedLiteral? : Members → Option Json
  | [(key, value)] => if key = "$literal" then some value else none
  | _ => none

mutual

/-- What a value inside an `$expr` comes to, where fields have the values of an environment. A text
    that is a path comes to the value of its field, and a marked literal to itself. -/
def resolve : Json → Json
  | .null => .null
  | .bool value => .bool value
  | .number value => .number value
  | .string text =>
      match Query.readPath (.string text) with
      | some path => environment path
      | none => .string text
  | .array items => .array (resolveItems items)
  | .object members =>
      match markedLiteral? members with
      | some value => value
      | none => .object (resolveMembers members)
termination_by structural value => value

/-- What the items of an array come to. -/
def resolveItems : List Json → List Json
  | [] => []
  | item :: rest => resolve item :: resolveItems rest
termination_by structural items => items

/-- What the members of an object come to. -/
def resolveMembers : List (String × Json) → List (String × Json)
  | [] => []
  | (key, value) :: rest => (key, resolve value) :: resolveMembers rest
termination_by structural members => members

end

theorem resolveMembers_eq_mapValues (members : Members) :
    resolveMembers environment members = members.mapValues (resolve environment) := by
  induction members with
  | nil => rfl
  | cons first rest ih => exact congrArg ((first.1, resolve environment first.2) :: ·) ih

theorem markedLiteral?_of_plain {members : Members}
    (plain : ∀ key ∈ members.keys, startsWithDollar key = false) :
    markedLiteral? members = none := by
  match members with
  | [] | _ :: _ :: _ => rfl
  | [(key, value)] =>
      have other : key ≠ "$literal" := by
        rintro rfl
        exact nomatch plain "$literal" (.head _)
      rw [markedLiteral?, if_neg other]

theorem readPath_of_plain {text : String} (plain : startsWithDollar text = false) :
    Query.readPath (.string text) = none := by
  rw [startsWithDollar] at plain
  rw [Query.readPath]
  split
  next path starts =>
      rw [starts] at plain
      cases plain
  next => rfl

end Json

namespace Operand

/-- No map has a key that begins like the mark of literals, neither the operand nor any inside
    it. -/
inductive HasPlainKeys : Operand → Prop where
  | null : HasPlainKeys .null
  | bool (value : Bool) : HasPlainKeys (.bool value)
  | number (value : JsonNumber) : HasPlainKeys (.number value)
  | string (text : String) : HasPlainKeys (.string text)
  | field (path : String) : HasPlainKeys (.field path)
  | array {items : List Operand} (all : ∀ item ∈ items, HasPlainKeys item) :
      HasPlainKeys (.array items)
  | map {entries : List (String × Operand)}
      (plain : ∀ entry ∈ entries, startsWithDollar entry.1 = false)
      (all : ∀ entry ∈ entries, HasPlainKeys entry.2) : HasPlainKeys (.map entries)

variable (environment : String → Json)

mutual

/-- The value of an operand, where fields have the values of an environment. -/
def valueIn : Operand → Json
  | .null => .null
  | .bool value => .bool value
  | .number value => .number value
  | .string text => .string text
  | .array items => .array (itemValuesIn items)
  | .map entries => .object (Members.lastValues (entryValuesIn entries))
  | .field path => environment path
termination_by structural operand => operand

/-- The values of items. -/
def itemValuesIn : List Operand → List Json
  | [] => []
  | item :: rest => valueIn item :: itemValuesIn rest
termination_by structural items => items

/-- The keys of entries, with the values of their operands. -/
def entryValuesIn : List (String × Operand) → List (String × Json)
  | [] => []
  | (key, entry) :: rest => (key, valueIn entry) :: entryValuesIn rest
termination_by structural entries => entries

end

theorem map_fst_exprEntries (entries : List (String × Operand)) :
    (exprEntries entries).map Prod.fst = entries.map Prod.fst := by
  induction entries with
  | nil => rfl
  | cons first rest ih => exact congrArg (first.1 :: ·) ih

/-- The keys of a map's form are its own. -/
theorem plain_of_mem_keys {entries : List (String × Operand)}
    (plain : ∀ entry ∈ entries, startsWithDollar entry.1 = false) :
    ∀ key ∈ Members.keys (Members.ofPairs (exprEntries entries)), startsWithDollar key = false := by
  intro key inside
  rw [Members.keys_ofPairs, List.mem_eraseDups, map_fst_exprEntries] at inside
  obtain ⟨entry, listed, rfl⟩ := List.mem_map.mp inside
  exact plain entry listed

mutual

theorem resolve_exprForm (operand : Operand) (plain : operand.HasPlainKeys) :
    operand.exprForm.resolve environment = operand.valueIn environment := by
  cases operand with
  | null | bool | number => rfl
  | string text =>
      rw [exprForm]
      split
      next => rfl
      next unmarked =>
        rw [Json.resolve, Json.readPath_of_plain (Bool.not_eq_true _ ▸ unmarked), valueIn]
  | field path =>
      rw [exprForm, fieldPath, Json.resolve, ← fieldPath, Query.readPath_fieldPath, valueIn]
  | array items =>
      cases plain with
      | array all => exact congrArg Json.array (resolveItems_exprItems items all)
  | map entries =>
      cases plain with
      | map plain all =>
          rw [exprForm, Json.resolve, Json.markedLiteral?_of_plain (plain_of_mem_keys plain)]
          refine congrArg Json.object ?_
          calc
            Json.resolveMembers environment (Members.ofPairs (exprEntries entries))
              = Members.ofPairs (Json.resolveMembers environment (exprEntries entries)) := by
                rw [Json.resolveMembers_eq_mapValues, Json.resolveMembers_eq_mapValues,
                  Members.ofPairs_mapValues]
            _ = Members.ofPairs (entryValuesIn environment entries) := by
                rw [resolveMembers_exprEntries entries all]
            _ = Members.lastValues (entryValuesIn environment entries) :=
                Members.ofPairs_eq_lastValues _

theorem resolveItems_exprItems (items : List Operand)
    (all : ∀ item ∈ items, item.HasPlainKeys) :
    Json.resolveItems environment (exprItems items) = itemValuesIn environment items := by
  cases items with
  | nil => rfl
  | cons item rest =>
      obtain ⟨first, later⟩ := List.forall_mem_cons.mp all
      rw [exprItems, Json.resolveItems, itemValuesIn, resolve_exprForm item first,
        resolveItems_exprItems rest later]

theorem resolveMembers_exprEntries (entries : List (String × Operand))
    (all : ∀ entry ∈ entries, entry.2.HasPlainKeys) :
    Json.resolveMembers environment (exprEntries entries) = entryValuesIn environment entries := by
  cases entries with
  | nil => rfl
  | cons entry rest =>
      obtain ⟨key, operand⟩ := entry
      obtain ⟨first, later⟩ := List.forall_mem_cons.mp all
      rw [exprEntries, Json.resolveMembers, entryValuesIn, resolve_exprForm operand first,
        resolveMembers_exprEntries rest later]

end

mutual

/-- The value of a literal is the same in every environment. -/
theorem valueIn_of_literal? (operand : Operand) :
    ∀ value, operand.literal? = some value → operand.valueIn environment = value := by
  intro value literal
  cases operand with
  | null | bool | number | string =>
      cases literal
      rfl
  | field path => cases literal
  | array items =>
      obtain ⟨values, found, rfl⟩ := Option.map_eq_some_iff.mp literal
      exact congrArg Json.array (itemValuesIn_of_literalItems? items values found)
  | map entries =>
      obtain ⟨pairs, found, rfl⟩ := Option.map_eq_some_iff.mp literal
      rw [valueIn, entryValuesIn_of_literalEntries? entries pairs found,
        Members.ofPairs_eq_lastValues]

theorem itemValuesIn_of_literalItems? (items : List Operand) :
    ∀ values, literalItems? items = some values → itemValuesIn environment items = values := by
  intro values literal
  cases items with
  | nil =>
      cases literal
      rfl
  | cons item rest =>
      obtain ⟨value, others, first, later, rfl⟩ := literalItems?_cons.mp literal
      rw [itemValuesIn, valueIn_of_literal? item value first,
        itemValuesIn_of_literalItems? rest others later]

theorem entryValuesIn_of_literalEntries? (entries : List (String × Operand)) :
    ∀ pairs, literalEntries? entries = some pairs → entryValuesIn environment entries = pairs := by
  intro pairs literal
  cases entries with
  | nil =>
      cases literal
      rfl
  | cons first rest =>
      obtain ⟨key, entry⟩ := first
      obtain ⟨value, others, first, later, rfl⟩ := literalEntries?_cons.mp literal
      rw [entryValuesIn, valueIn_of_literal? entry value first,
        entryValuesIn_of_literalEntries? rest others later]

end

/-- What is written for an operand inside an `$expr` comes to the operand's value, and that of a
    literal is the literal itself, wherever there are texts in it that begin like paths. -/
theorem exprForm_comes_to_value (operand : Operand) (plain : operand.HasPlainKeys) :
    operand.exprForm.resolve environment = operand.valueIn environment ∧
      ∀ literal, operand.literal? = some literal →
        operand.exprForm.resolve environment = literal := by
  have value := resolve_exprForm environment operand plain
  exact ⟨value, fun literal found =>
    value.trans (valueIn_of_literal? environment operand literal found)⟩

/-- A map in which a key comes back, with a text that looks like a path. -/
theorem exprForm_comes_to_value_pricedTwice :
    let operand := Operand.map [("a", .string "$x"), ("b", .field "price"),
      ("a", .array [.string "$price", .field "price"])]
    operand.HasPlainKeys ∧ operand.exprForm.resolve (fun _ => .bool true) =
      .object [("a", .array [.string "$price", .bool true]), ("b", .bool true)] := by
  intro operand
  have items : (Operand.array [.string "$price", .field "price"]).HasPlainKeys :=
    .array (List.forall_mem_cons.mpr ⟨.string _, List.forall_mem_singleton.mpr (.field _)⟩)
  have plain : operand.HasPlainKeys :=
    .map (by decide) (List.forall_mem_cons.mpr ⟨.string _,
      List.forall_mem_cons.mpr ⟨.field _, List.forall_mem_singleton.mpr items⟩⟩)
  refine ⟨plain, (exprForm_comes_to_value (fun _ => .bool true) operand plain).1.trans ?_⟩
  rfl

end Operand

end DocStore
