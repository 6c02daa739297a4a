import DocStore.Proofs.Grouping
import DocStore.Update
import Mathlib.Data.List.Induction

/-! # What a sequence of assignments leaves

An update is built by assignments, each giving one operation to one field. Each touched field is
left with the operation that it was given last, at the position of its first mention.
-/

namespace DocStore.Update

abbrev Assignment := String × FieldOperation

def ofAssignments (calls : List Assignment) : Update :=
  calls.foldl (fun update call => update.assign call.1 call.2) []

/-- The fields of assignments, in the order of their first mention. -/
def touched (calls : List Assignment) : List String :=
  (calls.map Prod.fst).eraseDups

/-- The operation that a field was given last. -/
def lastOperation? (calls : List Assignment) (field : String) : Option FieldOperation :=
  calls.reverse.lookup field

/-- The touched fields, each with its last operation. -/
def surviving (calls : List Assignment) : Update :=
  (touched calls).filterMap fun field => (lastOperation? calls field).map fun op => (field, op)

theorem mem_touched {calls : List Assignment} {field : String} :
    field ∈ touched calls ↔ field ∈ calls.map Prod.fst :=
  List.mem_eraseDups

theorem nodup_touched (calls : List Assignment) : (touched calls).Nodup :=
  nodup_eraseDups _

theorem lastOperation?_concat (calls : List Assignment) (call : Assignment) (field : String) :
    lastOperation? (calls ++ [call]) field =
      if field = call.1 then some call.2 else lastOperation? calls field := by
  obtain ⟨name, op⟩ := call
  simp only [lastOperation?, List.reverse_append, List.reverse_singleton, List.singleton_append,
    List.lookup_cons]
  by_cases same : field = name
  · simp [same]
  · simp [same, beq_false_of_ne same]

theorem exists_lastOperation? {calls : List Assignment} {field : String}
    (mem : field ∈ touched calls) : ∃ op, lastOperation? calls field = some op := by
  induction calls using List.reverseRecOn with
  | nil => cases mem
  | append_singleton calls call ih =>
      rw [lastOperation?_concat]
      by_cases same : field = call.1
      · exact ⟨call.2, if_pos same⟩
      · rw [if_neg same]
        rw [mem_touched, List.map_append, List.mem_append] at mem
        exact ih (mem_touched.mpr (mem.resolve_right (by simpa using same)))

theorem fields_surviving (calls : List Assignment) :
    (surviving calls).map Prod.fst = touched calls := by
  have kept : ∀ field ∈ touched calls,
      ((lastOperation? calls field).map fun op => (field, op)).map Prod.fst = some field := by
    intro field mem
    obtain ⟨op, last⟩ := exists_lastOperation? mem
    rw [last]
    rfl
  rw [surviving, List.map_filterMap, List.filterMap_congr kept, List.filterMap_some]

theorem surviving_eq_nil_iff {calls : List Assignment} : surviving calls = [] ↔ calls = [] := by
  rw [← List.map_eq_nil_iff, fields_surviving, List.eq_nil_iff_forall_not_mem]
  simp only [mem_touched, ← List.eq_nil_iff_forall_not_mem, List.map_eq_nil_iff]

theorem assign_of_absent {update : Update} {field : String} (absent : field ∉ update.map Prod.fst)
    (op : FieldOperation) : update.assign field op = update ++ [(field, op)] := by
  induction update with
  | nil => rfl
  | cons entry rest ih =>
      obtain ⟨name, present⟩ := entry
      simp only [List.map_cons, List.mem_cons, not_or] at absent
      simp only [assign, if_neg (Ne.symm absent.1), List.cons_append, ih absent.2]

theorem assign_of_present {update : Update} {field : String}
    (distinct : (update.map Prod.fst).Nodup) (present : field ∈ update.map Prod.fst)
    (op : FieldOperation) :
    update.assign field op =
      update.map fun entry => if field = entry.1 then (field, op) else entry := by
  induction update with
  | nil => cases present
  | cons entry rest ih =>
      obtain ⟨name, old⟩ := entry
      obtain ⟨fresh, distinctRest⟩ := List.nodup_cons.mp distinct
      by_cases same : field = name
      · subst same
        have untouched : ∀ other ∈ rest,
            (if field = other.1 then (field, op) else other) = other := by
          intro other mem
          have different : field ≠ other.1 := by
            intro equal
            exact fresh (List.mem_map.mpr ⟨other, mem, equal.symm⟩)
          exact if_neg different
        rw [List.map_cons, List.map_congr_left untouched, List.map_id']
        simp [assign]
      · have later : field ∈ rest.map Prod.fst := (List.mem_cons.mp present).resolve_left same
        rw [List.map_cons, ← ih distinctRest later]
        simp [assign, same, Ne.symm same]

theorem surviving_concat (calls : List Assignment) (call : Assignment) :
    surviving (calls ++ [call]) = (surviving calls).assign call.1 call.2 := by
  obtain ⟨field, op⟩ := call
  -- a field that was mentioned before keeps its place, and any other one comes last
  by_cases mentioned : field ∈ touched calls
  · have order : touched (calls ++ [(field, op)]) = touched calls := by
      simp only [touched, List.map_append, List.map_cons, List.map_nil]
      exact eraseDups_concat_of_mem (mem_touched.mp mentioned)
    have exchanged : ∀ other ∈ touched calls,
        (lastOperation? (calls ++ [(field, op)]) other).map (fun last => (other, last)) =
          ((lastOperation? calls other).map fun last => (other, last)).map fun entry =>
            if field = entry.1 then (field, op) else entry := by
      intro other mem
      obtain ⟨last, found⟩ := exists_lastOperation? mem
      rw [lastOperation?_concat, found]
      by_cases same : other = field
      · simp [same]
      · simp [same, Ne.symm same]
    rw [assign_of_present (fields_surviving calls ▸ nodup_touched calls)
      (fields_surviving calls ▸ mentioned)]
    rw [surviving, order, List.filterMap_congr exchanged, surviving, List.map_filterMap]
  · have order : touched (calls ++ [(field, op)]) = touched calls ++ [field] := by
      simp only [touched, List.map_append, List.map_cons, List.map_nil]
      exact eraseDups_concat_of_not_mem fun mem => mentioned (mem_touched.mpr mem)
    have unchanged : ∀ other ∈ touched calls,
        (lastOperation? (calls ++ [(field, op)]) other).map (fun last => (other, last)) =
          (lastOperation? calls other).map fun last => (other, last) := by
      intro other mem
      have different : other ≠ field := fun equal => mentioned (equal ▸ mem)
      rw [lastOperation?_concat, if_neg different]
    have new : lastOperation? (calls ++ [(field, op)]) field = some op := by
      rw [lastOperation?_concat, if_pos rfl]
    rw [assign_of_absent (fields_surviving calls ▸ mentioned)]
    rw [surviving, order, List.filterMap_append, List.filterMap_congr unchanged]
    simp [surviving, new]

theorem ofAssignments_eq_surviving (calls : List Assignment) :
    ofAssignments calls = surviving calls := by
  induction calls using List.reverseRecOn with
  | nil => rfl
  | append_singleton calls call ih =>
      calc
        ofAssignments (calls ++ [call]) = (ofAssignments calls).assign call.1 call.2 := by
          simp [ofAssignments]
        _ = (surviving calls).assign call.1 call.2 := by rw [ih]
        _ = surviving (calls ++ [call]) := (surviving_concat calls call).symm

/-- Assignments to different fields all survive, in their order. -/
theorem surviving_of_nodup {calls : List Assignment} (distinct : (calls.map Prod.fst).Nodup) :
    surviving calls = calls := by
  induction calls using List.reverseRecOn with
  | nil => rfl
  | append_singleton calls call ih =>
      obtain ⟨distinctBefore, -, apart⟩ := List.nodup_append.mp (List.map_append ▸ distinct)
      have survive := ih distinctBefore
      have absent : call.1 ∉ (surviving calls).map Prod.fst := by
        rw [survive]
        exact fun mem => apart _ mem _ (List.mem_singleton_self _) rfl
      rw [surviving_concat, assign_of_absent absent, survive]

end DocStore.Update
