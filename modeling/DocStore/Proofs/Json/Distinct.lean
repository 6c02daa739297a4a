import DocStore.Json.Parser
import DocStore.Proofs.Grouping
import DocStore.Proofs.Json.Members
import Mathlib.Data.List.Induction

/-! # Keys of values that are read

No object that is read from a text has a key twice, nor has any object inside it: a repeated key
is read as one member. In such an object, to remove a key's first member is to remove the key.
-/

namespace DocStore

namespace Members

theorem keys_insert (members : Members) (key : String) (value : Json) :
    keys (members.insert key value) = if key ∈ members.keys then members.keys
      else members.keys ++ [key] := by
  by_cases present : key ∈ members.keys
  · obtain ⟨old, found⟩ := mem_keys_iff.mp present
    obtain ⟨before, after, rfl, absent⟩ := exists_split_of_find? found
    rw [insert_of_split absent, if_pos present]
    simp [keys]
  · rw [insert_of_absent present, if_neg present]
    simp [keys]

theorem nodup_keys_insert {members : Members} (distinct : members.keys.Nodup) (key : String)
    (value : Json) : (keys (members.insert key value)).Nodup := by
  rw [keys_insert]
  split
  next => exact distinct
  next absent => exact List.nodup_append.mpr ⟨distinct, by simp, by grind⟩

theorem ofPairs_concat (pairs : Members) (pair : String × Json) :
    ofPairs (pairs ++ [pair]) = (ofPairs pairs).insert pair.1 pair.2 := by
  simp [ofPairs, extend, List.foldl_append]

/-- Keys stand in the order of their first mention. -/
theorem keys_ofPairs (pairs : Members) : keys (ofPairs pairs) = (pairs.map Prod.fst).eraseDups := by
  induction pairs using List.reverseRecOn with
  | nil => rfl
  | append_singleton pairs pair ih =>
      rw [ofPairs_concat, keys_insert, ih, List.map_append, List.map_singleton]
      split
      next present => exact (eraseDups_concat_of_mem (List.mem_eraseDups.mp present)).symm
      next absent =>
        have fresh : pair.1 ∉ pairs.map Prod.fst := fun mem => absent (List.mem_eraseDups.mpr mem)
        exact (eraseDups_concat_of_not_mem fresh).symm

/-- A key has the value that it was given last. -/
theorem find?_ofPairs (pairs : Members) (key : String) :
    (ofPairs pairs).find? key = pairs.reverse.lookup key := by
  induction pairs using List.reverseRecOn with
  | nil => rfl
  | append_singleton pairs pair ih =>
      obtain ⟨name, value⟩ := pair
      rw [ofPairs_concat, List.reverse_append, List.reverse_singleton, List.singleton_append,
        List.lookup_cons]
      by_cases same : key = name
      · subst same
        simp [find?_insert_self]
      · rw [find?_insert_of_ne (Ne.symm same), ih, beq_false_of_ne same]

theorem mem_insert {members : Members} {key : String} {value : Json} {member : String × Json}
    (inside : member ∈ members.insert key value) : member ∈ members ∨ member.2 = value := by
  induction members with
  | nil => exact .inr (by simpa using congrArg Prod.snd (List.mem_singleton.mp inside))
  | cons first rest ih =>
      obtain ⟨k, v⟩ := first
      rw [insert] at inside
      split at inside
      next =>
          obtain rfl | later := List.mem_cons.mp inside
          · exact .inr rfl
          · exact .inl (List.mem_cons_of_mem _ later)
      next =>
          obtain rfl | later := List.mem_cons.mp inside
          · exact .inl List.mem_cons_self
          · exact (ih later).imp_left (List.mem_cons_of_mem _)

theorem nodup_keys_extend {members : Members} (distinct : members.keys.Nodup)
    (additions : Members) : (keys (members.extend additions)).Nodup := by
  induction additions generalizing members with
  | nil => exact distinct
  | cons first rest ih => exact ih (nodup_keys_insert distinct first.1 first.2)

theorem nodup_keys_ofPairs (pairs : Members) : (keys (ofPairs pairs)).Nodup := by
  have noneYet : (keys []).Nodup := List.nodup_nil
  exact nodup_keys_extend noneYet pairs

theorem forall_mem_extend {good : Json → Prop} {members additions : Members}
    (old : ∀ member ∈ members, good member.2) (new : ∀ member ∈ additions, good member.2) :
    ∀ member ∈ members.extend additions, good member.2 := by
  induction additions generalizing members with
  | nil => exact old
  | cons first rest ih =>
      obtain ⟨isGood, restGood⟩ := List.forall_mem_cons.mp new
      refine ih ?_ restGood
      intro member inside
      obtain before | same := mem_insert inside
      · exact old member before
      · rw [same]
        exact isGood

theorem erase_of_absent {members : Members} {key : String} (absent : key ∉ members.keys) :
    members.erase key = members := by
  induction members with
  | nil => rfl
  | cons first rest ih =>
      obtain ⟨k, v⟩ := first
      simp only [keys, List.map_cons, List.mem_cons, not_or] at absent
      rw [erase, if_neg (Ne.symm absent.1), ih absent.2]

/-- Among different keys, the first member of a key is its only one. -/
theorem erase_eq_filter {members : Members} (distinct : members.keys.Nodup) (key : String) :
    members.erase key = members.filter fun member => member.1 ≠ key := by
  induction members with
  | nil => rfl
  | cons first rest ih =>
      obtain ⟨k, v⟩ := first
      obtain ⟨absent, restDistinct⟩ := List.nodup_cons.mp distinct
      rw [erase]
      split
      next same =>
          subst same
          rw [List.filter_cons_of_neg (by simp), ← ih restDistinct, erase_of_absent absent]
      next differs => rw [List.filter_cons_of_pos (by simpa using differs), ih restDistinct]

end Members

namespace Json

/-- No object has a key twice, neither the value nor any inside it. -/
inductive HasDistinctKeys : Json → Prop where
  | null : HasDistinctKeys .null
  | bool (value : Bool) : HasDistinctKeys (.bool value)
  | number (value : JsonNumber) : HasDistinctKeys (.number value)
  | string (text : String) : HasDistinctKeys (.string text)
  | array {items : List Json} (all : ∀ item ∈ items, HasDistinctKeys item) :
      HasDistinctKeys (.array items)
  | object {members : Members} (distinct : members.keys.Nodup)
      (all : ∀ member ∈ members, HasDistinctKeys member.2) : HasDistinctKeys (.object members)

theorem hasDistinctKeys_ofPairs {pairs : Members}
    (all : ∀ pair ∈ pairs, HasDistinctKeys pair.2) :
    HasDistinctKeys (.object (Members.ofPairs pairs)) :=
  .object (Members.nodup_keys_ofPairs pairs) (Members.forall_mem_extend nofun all)

-- Each reader passes on what it reads with one unit of fuel less.
mutual

theorem readValue_hasDistinctKeys (fuel depth : Nat) (input : List Char) :
    ∀ value rest, readValue fuel depth input = some (value, rest) → value.HasDistinctKeys := by
  intro value rest read
  cases fuel with
  | zero => cases read
  | succ fuel =>
      unfold readValue at read
      split at read
      next => cases read
      next =>
          obtain ⟨_, -, made⟩ := Option.map_eq_some_iff.mp read
          cases made
          exact .string _
      next =>
          split at read
          next => cases read
          next depth =>
              split at read
              next =>
                  cases read
                  exact .array nofun
              next =>
                  obtain ⟨⟨items, after⟩, readSo, made⟩ := Option.map_eq_some_iff.mp read
                  cases made
                  exact .array (readItems_hasDistinctKeys fuel depth _ _ _ readSo)
      next =>
          split at read
          next => cases read
          next depth =>
              split at read
              next =>
                  cases read
                  exact .object List.nodup_nil nofun
              next =>
                  obtain ⟨⟨members, after⟩, readSo, made⟩ := Option.map_eq_some_iff.mp read
                  cases made
                  exact hasDistinctKeys_ofPairs
                    (readMembers_hasDistinctKeys fuel depth _ _ _ readSo)
      -- Words and numbers have no keys.
      all_goals
        obtain ⟨_, -, made⟩ := Option.map_eq_some_iff.mp read
        cases made
        constructor

theorem readItems_hasDistinctKeys (fuel depth : Nat) (input : List Char) :
    ∀ items rest, readItems fuel depth input = some (items, rest) →
      ∀ item ∈ items, item.HasDistinctKeys := by
  intro items rest read
  cases fuel with
  | zero => cases read
  | succ fuel =>
      unfold readItems at read
      obtain ⟨⟨item, after⟩, readFirst, read⟩ := Option.bind_eq_some_iff.mp read
      have first := readValue_hasDistinctKeys fuel depth input item after readFirst
      dsimp only at read
      split at read
      next =>
          cases read
          simpa using first
      next =>
          obtain ⟨⟨later, last⟩, readLater, made⟩ := Option.bind_eq_some_iff.mp read
          cases made
          exact List.forall_mem_cons.mpr
            ⟨first, readItems_hasDistinctKeys fuel depth _ _ _ readLater⟩
      next => cases read

theorem readMembers_hasDistinctKeys (fuel depth : Nat) (input : List Char) :
    ∀ members rest, readMembers fuel depth input = some (members, rest) →
      ∀ member ∈ members, member.2.HasDistinctKeys := by
  intro members rest read
  cases fuel with
  | zero => cases read
  | succ fuel =>
      unfold readMembers at read
      split at read
      next =>
          obtain ⟨⟨key, afterKey⟩, -, read⟩ := Option.bind_eq_some_iff.mp read
          dsimp only at read
          split at read
          next =>
              obtain ⟨⟨value, after⟩, readFirst, read⟩ := Option.bind_eq_some_iff.mp read
              have first := readValue_hasDistinctKeys fuel depth _ value after readFirst
              dsimp only at read
              split at read
              next =>
                  cases read
                  simpa using first
              next =>
                  obtain ⟨⟨later, last⟩, readLater, made⟩ := Option.bind_eq_some_iff.mp read
                  cases made
                  exact List.forall_mem_cons.mpr
                    ⟨first, readMembers_hasDistinctKeys fuel depth _ _ _ readLater⟩
              next => cases read
          next => cases read
      next => cases read

end

/-- What a text is read as has no object with a key twice. -/
theorem hasDistinctKeys_of_parse? {text : String} {value : Json} (read : parse? text = some value) :
    value.HasDistinctKeys := by
  unfold parse? at read
  dsimp only at read
  split at read
  next found rest readSo =>
      split at read
      next =>
          cases read
          exact readValue_hasDistinctKeys _ _ _ _ rest readSo
      next => cases read
  next => cases read

end Json

end DocStore
