import DocStore.Json.Value
import Mathlib.Algebra.BigOperators.Group.List.Basic
import Mathlib.Data.List.Nodup
import Mathlib.Tactic.Abel

/-! # Members as an association list

How finding, inserting and extending fit together. A key that is not present yet goes to the
end, so that extending by other keys is appending; the value of a key that is present is
exchanged in its place.
-/

namespace DocStore.Members

theorem find?_cons_self (key : String) (value : Json) (rest : Members) :
    find? ((key, value) :: rest) key = some value := by
  simp [find?]

theorem find?_cons_of_ne {k key : String} (different : k ≠ key) (value : Json) (rest : Members) :
    find? ((k, value) :: rest) key = find? rest key := by
  have differs : (key == k) = false := by simpa using Ne.symm different
  simp [find?, List.lookup_cons, differs]

theorem find?_append (left right : Members) (key : String) :
    find? (left ++ right) key = (left.find? key).or (right.find? key) :=
  List.lookup_append

theorem find?_eq_none_iff {members : Members} {key : String} :
    members.find? key = none ↔ key ∉ members.keys := by
  induction members with
  | nil => simp [keys]
  | cons member rest ih =>
      obtain ⟨k, value⟩ := member
      by_cases same : k = key
      · subst same
        simp [find?_cons_self, keys]
      · rw [find?_cons_of_ne same, ih]
        simp [keys, Ne.symm same]

theorem mem_keys_iff {members : Members} {key : String} :
    key ∈ members.keys ↔ ∃ value, members.find? key = some value := by
  rw [← not_iff_not, ← find?_eq_none_iff, ← Option.isSome_iff_exists, Option.not_isSome_iff_eq_none]

theorem contains_eq_false_iff {members : Members} {key : String} :
    members.contains key = false ↔ key ∉ members.keys := by
  simp only [contains, List.any_eq_false, beq_iff_eq, keys, List.mem_map, not_exists, not_and]

/-- A present key splits the members at its first mention. -/
theorem exists_split_of_find? {members : Members} {key : String} {value : Json}
    (found : members.find? key = some value) :
    ∃ before after, members = before ++ (key, value) :: after ∧ key ∉ keys before := by
  induction members with
  | nil => simp at found
  | cons member rest ih =>
      obtain ⟨k, v⟩ := member
      by_cases same : k = key
      · subst same
        rw [find?_cons_self] at found
        cases found
        exact ⟨[], rest, rfl, by simp [keys]⟩
      · rw [find?_cons_of_ne same] at found
        obtain ⟨before, after, split, absent⟩ := ih found
        refine ⟨(k, v) :: before, after, by rw [split, List.cons_append], ?_⟩
        simpa [keys, Ne.symm same] using absent

theorem mem_of_find? {members : Members} {key : String} {value : Json}
    (found : members.find? key = some value) : (key, value) ∈ members := by
  obtain ⟨before, after, rfl, -⟩ := exists_split_of_find? found
  exact List.mem_append_right before List.mem_cons_self

/-- Among different keys, a member is what is found under its key. -/
theorem find?_of_mem {members : Members} {member : String × Json} (distinct : members.keys.Nodup)
    (mem : member ∈ members) : members.find? member.1 = some member.2 := by
  induction members with
  | nil => cases mem
  | cons first rest ih =>
      obtain ⟨fresh, restDistinct⟩ := List.nodup_cons.mp distinct
      obtain rfl | later := List.mem_cons.mp mem
      · exact find?_cons_self member.1 member.2 rest
      · have different : first.1 ≠ member.1 := fun same =>
          fresh (List.mem_map.mpr ⟨member, later, same.symm⟩)
        exact (find?_cons_of_ne different first.2 rest).trans (ih restDistinct later)

theorem insert_of_absent {members : Members} {key : String} (absent : key ∉ members.keys)
    (value : Json) : members.insert key value = members ++ [(key, value)] := by
  induction members with
  | nil => rfl
  | cons member rest ih =>
      obtain ⟨k, v⟩ := member
      simp only [keys, List.map_cons, List.mem_cons, not_or] at absent
      simp only [insert, if_neg (Ne.symm absent.1), List.cons_append, ih absent.2]

theorem insert_of_split {before after : Members} {key : String} (absent : key ∉ keys before)
    (old value : Json) :
    insert (before ++ (key, old) :: after) key value = before ++ (key, value) :: after := by
  induction before with
  | nil => simp [insert]
  | cons member rest ih =>
      obtain ⟨k, v⟩ := member
      simp only [keys, List.map_cons, List.mem_cons, not_or] at absent
      simp only [List.cons_append, insert, if_neg (Ne.symm absent.1), ih absent.2]

theorem find?_insert_self (members : Members) (key : String) (value : Json) :
    (members.insert key value).find? key = some value := by
  induction members with
  | nil => exact find?_cons_self key value []
  | cons member rest ih =>
      obtain ⟨k, v⟩ := member
      by_cases same : k = key
      · simp only [insert, if_pos same]
        exact same ▸ find?_cons_self k value rest
      · simp only [insert, if_neg same]
        rw [find?_cons_of_ne same, ih]

theorem find?_insert_of_ne {key other : String} (different : key ≠ other) (members : Members)
    (value : Json) : (members.insert key value).find? other = members.find? other := by
  induction members with
  | nil => exact find?_cons_of_ne different value []
  | cons member rest ih =>
      obtain ⟨k, v⟩ := member
      by_cases same : k = key
      · subst same
        simp only [insert, if_true]
        rw [find?_cons_of_ne different, find?_cons_of_ne different]
      · simp only [insert, if_neg same]
        by_cases asked : k = other
        · subst asked
          rw [find?_cons_self, find?_cons_self]
        · rw [find?_cons_of_ne asked, find?_cons_of_ne asked, ih]

section Counted

variable {M : Type*} [AddCommMonoid M] {members : Members} {key : String}
  {count : String × Json → M}

/-- A new key adds what its member counts for. -/
theorem sum_insert_of_absent (absent : members.find? key = none) (value : Json) :
    ((members.insert key value).map count).sum = (members.map count).sum + count (key, value) := by
  rw [insert_of_absent (find?_eq_none_iff.mp absent), List.map_append, List.sum_append,
    List.map_singleton, List.sum_singleton]

/-- A present key exchanges what its member counts for. When the new value counts for as much as
    the old one and some more, that is what is added. -/
theorem sum_insert_of_find? {old value : Json} {added : M} (present : members.find? key = some old)
    (grown : count (key, value) = count (key, old) + added) :
    ((members.insert key value).map count).sum = (members.map count).sum + added := by
  obtain ⟨before, after, rfl, absent⟩ := exists_split_of_find? present
  rw [insert_of_split absent]
  simp only [List.map_append, List.map_cons, List.sum_append, List.sum_cons, grown]
  abel

end Counted

section Tabulated

variable {names : List String} {name : String}

theorem keys_tabulated (names : List String) (value : String → Json) :
    keys (names.map fun key => (key, value key)) = names := by
  simp [keys, List.map_map, Function.comp_def]

theorem find?_tabulated (mem : name ∈ names) (value : String → Json) :
    find? (names.map fun key => (key, value key)) name = some (value name) := by
  induction names with
  | nil => cases mem
  | cons first rest ih =>
      by_cases same : first = name
      · subst same
        exact find?_cons_self first (value first) _
      · rw [List.map_cons, find?_cons_of_ne same]
        exact ih ((List.mem_cons.mp mem).resolve_left (Ne.symm same))

theorem insert_tabulated (distinct : names.Nodup) (mem : name ∈ names) (value : String → Json)
    (new : Json) :
    insert (names.map fun key => (key, value key)) name new =
      names.map fun key => (key, if key = name then new else value key) := by
  induction names with
  | nil => cases mem
  | cons first rest ih =>
      obtain ⟨fresh, distinctRest⟩ := List.nodup_cons.mp distinct
      by_cases same : first = name
      · subst same
        have untouched : ∀ key ∈ rest,
            (key, if key = first then new else value key) = (key, value key) := by
          intro key later
          have different : key ≠ first := fun equal => fresh (equal ▸ later)
          rw [if_neg different]
        rw [List.map_cons, List.map_cons, List.map_congr_left untouched]
        simp [insert]
      · have later : name ∈ rest := (List.mem_cons.mp mem).resolve_left (Ne.symm same)
        simp only [List.map_cons, insert, if_neg same, ih distinctRest later]

end Tabulated

/-- Extending by new keys that are all different appends. -/
theorem extend_of_absent {members additions : Members} (distinct : (keys additions).Nodup)
    (absent : ∀ key ∈ keys additions, key ∉ keys members) :
    members.extend additions = members ++ additions := by
  induction additions generalizing members with
  | nil => simp [extend]
  | cons member rest ih =>
      obtain ⟨key, value⟩ := member
      simp only [keys, List.map_cons, List.nodup_cons, List.mem_cons, forall_eq_or_imp]
        at distinct absent
      have inserted : members.insert key value = members ++ [(key, value)] :=
        insert_of_absent absent.1 value
      have later : ∀ other ∈ keys rest, other ∉ keys (members ++ [(key, value)]) := by
        intro other mem
        have different : other ≠ key := fun same => distinct.1 (same ▸ mem)
        simpa [keys, different] using absent.2 other mem
      calc
        members.extend ((key, value) :: rest) = (members.insert key value).extend rest := rfl
        _ = (members ++ [(key, value)]).extend rest := by rw [inserted]
        _ = members ++ [(key, value)] ++ rest := ih distinct.2 later
        _ = members ++ (key, value) :: rest := by simp

end DocStore.Members
