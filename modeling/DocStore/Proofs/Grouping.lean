import Mathlib.Data.List.Nodup

/-! # First mentions and groups

A list's elements in the order of their first mention, as they change when one more element
comes last, and a list sorted into groups by a key, which keeps every element.
-/

namespace DocStore

variable {α β : Type} [BEq α] [LawfulBEq α]

theorem nodup_eraseDups : ∀ items : List α, items.eraseDups.Nodup
  | [] => by simp
  | item :: rest => by
      have shorter := List.length_filter_le (fun other => !other == item) rest
      rw [List.eraseDups_cons, List.nodup_cons]
      refine ⟨?_, nodup_eraseDups _⟩
      simp [List.mem_eraseDups]
termination_by items => items.length

theorem eraseDups_concat_of_mem {items : List α} {item : α} (present : item ∈ items) :
    (items ++ [item]).eraseDups = items.eraseDups := by
  simp [List.eraseDups_append, List.removeAll, present]

theorem eraseDups_concat_of_not_mem {items : List α} {item : α} (absent : item ∉ items) :
    (items ++ [item]).eraseDups = items.eraseDups ++ [item] := by
  simp [List.eraseDups_append, List.removeAll, absent, List.eraseDups_cons]

/-- Groups by different keys that cover a list hold each of its elements once. -/
theorem flatMap_filter_perm {key : β → α} {keys : List α} (distinct : keys.Nodup)
    {items : List β} (covered : ∀ item ∈ items, key item ∈ keys) :
    (keys.flatMap fun k => items.filter fun item => key item == k).Perm items := by
  induction keys generalizing items with
  | nil =>
      cases items with
      | nil => exact .nil
      | cons item rest => exact absurd (covered item List.mem_cons_self) List.not_mem_nil
  | cons k later ih =>
      obtain ⟨fresh, distinctLater⟩ := List.nodup_cons.mp distinct
      let others := items.filter fun item => !key item == k
      have coveredLater : ∀ item ∈ others, key item ∈ later := by
        intro item mem
        obtain ⟨listed, differs⟩ := List.mem_filter.mp mem
        have different : key item ≠ k := by simpa using differs
        exact (List.mem_cons.mp (covered item listed)).resolve_left different
      -- the later groups do not miss the elements of the first
      have same : ∀ j ∈ later, (items.filter fun item => key item == j) =
          others.filter fun item => key item == j := by
        intro j mem
        rw [List.filter_filter]
        refine List.filter_congr fun item _ => ?_
        by_cases own : key item = j
        · have different : j ≠ k := fun equal => fresh (equal ▸ mem)
          simp [own, different]
        · simp [own]
      rw [List.flatMap_cons, List.flatMap_congr same]
      exact ((ih distinctLater coveredLater).append_left _).trans (List.filter_append_perm _ _)

end DocStore
