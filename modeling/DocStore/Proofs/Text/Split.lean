import DocStore.Text.Split
import Mathlib.Tactic.Tauto

/-! # Splitting and joining

No part of a split text contains the separator, and parts without it are found again when they are
joined by it. A text has an empty part where a separator has none but separators beside it.
-/

namespace DocStore

variable {separator : Char} {part : List Char}

theorem splitChars_of_free (free : separator ∉ part) : splitChars separator part = [part] := by
  induction part with
  | nil => rfl
  | cons c rest ih =>
      have ⟨differs, restFree⟩ : ¬separator = c ∧ separator ∉ rest := by
        simpa only [List.mem_cons, not_or] using free
      rw [splitChars, if_neg fun same => differs same.symm, ih restFree]

theorem splitChars_append (free : separator ∉ part) (rest : List Char) :
    splitChars separator (part ++ separator :: rest) = part :: splitChars separator rest := by
  induction part with
  | nil =>
      rw [List.nil_append, splitChars, if_pos rfl]
  | cons c tail ih =>
      have ⟨differs, tailFree⟩ : ¬separator = c ∧ separator ∉ tail := by
        simpa only [List.mem_cons, not_or] using free
      rw [List.cons_append, splitChars, if_neg fun same => differs same.symm, ih tailFree]

/-- A first part and others that each follow a separator. -/
theorem splitChars_flatMap {parts : List (List Char)} (free : separator ∉ part)
    (othersFree : ∀ other ∈ parts, separator ∉ other) :
    splitChars separator (part ++ parts.flatMap fun other => separator :: other) =
      part :: parts := by
  induction parts generalizing part with
  | nil =>
      rw [List.flatMap_nil, List.append_nil]
      exact splitChars_of_free free
  | cons next rest ih =>
      have ⟨nextFree, restFree⟩ := List.forall_mem_cons.mp othersFree
      rw [List.flatMap_cons, List.cons_append, splitChars_append free, ih nextFree restFree]

theorem free_of_mem_splitChars {text : List Char} (found : part ∈ splitChars separator text) :
    separator ∉ part := by
  induction text generalizing part with
  | nil =>
      cases List.mem_singleton.mp found
      exact List.not_mem_nil
  | cons c rest ih =>
      rw [splitChars] at found
      split at found
      next same =>
        obtain rfl | later := List.mem_cons.mp found
        · exact List.not_mem_nil
        · exact ih later
      next differs =>
        split at found
        next none =>
          cases List.mem_singleton.mp found
          exact fun member => differs (List.mem_singleton.mp member).symm
        next first others split =>
          obtain rfl | later := List.mem_cons.mp found
          · have firstFree : separator ∉ first := ih (by rw [split]; exact List.mem_cons_self)
            rw [List.mem_cons, not_or]
            exact ⟨fun same => differs same.symm, firstFree⟩
          · exact ih (by rw [split]; exact List.mem_cons_of_mem _ later)

/-- Splitting is the library's own splitting of lists. -/
theorem splitChars_eq_splitOn (separator : Char) (text : List Char) :
    splitChars separator text = text.splitOn separator := by
  induction text with
  | nil => rw [splitChars, List.splitOn_nil]
  | cons c rest ih =>
      rw [splitChars, List.splitOn_cons_eq_if_modifyHead, ih]
      by_cases same : c = separator
      · rw [if_pos same, if_pos (beq_iff_eq.mpr same)]
      · rw [if_neg same, if_neg fun equal => same (beq_iff_eq.mp equal)]
        cases split : rest.splitOn separator with
        | nil => exact absurd split (List.splitOn_ne_nil separator rest)
        | cons part parts => rfl

theorem intercalate_splitChars (separator : Char) (text : List Char) :
    [separator].intercalate (splitChars separator text) = text := by
  rw [splitChars_eq_splitOn]
  exact List.intercalate_splitOn separator

theorem splitChars_intercalate {parts : List (List Char)} (filled : parts ≠ [])
    (free : ∀ part ∈ parts, separator ∉ part) :
    splitChars separator ([separator].intercalate parts) = parts := by
  rw [splitChars_eq_splitOn]
  exact List.splitOn_intercalate separator free filled

theorem splitChars_cons_of_ne {c : Char} (differs : c ≠ separator) (rest : List Char) :
    splitChars separator (c :: rest) = (splitChars separator rest).modifyHead (c :: ·) := by
  rw [splitChars_eq_splitOn, splitChars_eq_splitOn, List.splitOn_cons_eq_if_modifyHead,
    if_neg fun same => differs (beq_iff_eq.mp same)]

theorem nil_mem_splitChars {text : List Char} :
    [] ∈ splitChars separator text ↔
      (splitChars separator text).head? = some [] ∨ [] ∈ (splitChars separator text).tail := by
  cases splitChars separator text <;> simp [eq_comm]

/-- Where the first part of a text is empty. -/
theorem head?_splitChars_iff {text : List Char} :
    (splitChars separator text).head? = some [] ↔ text = [] ∨ text.head? = some separator := by
  cases text with
  | nil => simp [splitChars]
  | cons c rest =>
      by_cases same : c = separator
      · simp [splitChars, same]
      · rw [splitChars_cons_of_ne same, List.head?_modifyHead]
        simp [same]

theorem getLast?_cons_eq_some_iff {c : Char} {rest : List Char} :
    (c :: rest).getLast? = some separator ↔
      (c = separator ∧ rest = []) ∨ rest.getLast? = some separator := by
  cases rest with
  | nil => simp
  | cons second others => simp [List.getLast?_cons_cons]

/-- Where a later part of a text is empty. -/
theorem nil_mem_tail_splitChars_iff {text : List Char} :
    [] ∈ (splitChars separator text).tail ↔
      text.getLast? = some separator ∨ [separator, separator] <:+: text := by
  induction text with
  | nil => simp [splitChars]
  | cons c rest ih =>
      rw [List.infix_cons_iff, List.cons_prefix_cons, getLast?_cons_eq_some_iff]
      by_cases same : c = separator
      · subst same
        have next : [c] <+: rest ↔ rest.head? = some c := by
          cases rest <;> simp [eq_comm]
        rw [splitChars, if_pos rfl, List.tail_cons, nil_mem_splitChars, head?_splitChars_iff, ih,
          next]
        tauto
      · have differs : ¬separator = c := fun equal => same equal.symm
        rw [splitChars_cons_of_ne same, List.tail_modifyHead, ih]
        tauto

/-- A text has an empty part if it is empty, begins or ends with a separator, or has two separators
    in a row. -/
theorem nil_mem_splitChars_iff {text : List Char} :
    [] ∈ splitChars separator text ↔
      text = [] ∨ text.head? = some separator ∨ text.getLast? = some separator ∨
        [separator, separator] <:+: text := by
  rw [nil_mem_splitChars, head?_splitChars_iff, nil_mem_tail_splitChars_iff, or_assoc]

end DocStore
