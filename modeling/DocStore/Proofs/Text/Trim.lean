import DocStore.Text.Blank
import Mathlib.Data.List.TakeWhile

/-! # Texts without what is around them

A text is trimmed of the characters of some kind at both its ends: what is left begins and ends with
another character, or nothing is left.
-/

namespace DocStore

theorem span_of_stop {test : Char → Bool} {part : List Char} (rest : List Char)
    (all : ∀ c ∈ part, test c = true) (stop : ∀ c ∈ rest.head?, test c = false) :
    (part ++ rest).takeWhile test = part ∧ (part ++ rest).dropWhile test = rest := by
  rw [List.takeWhile_append_of_pos all, List.dropWhile_append_of_pos all]
  cases rest with
  | nil => exact ⟨List.append_nil _, rfl⟩
  | cons c others =>
      have stops : test c = false := stop c rfl
      simp [stops]

/-- A text is another one with characters of some kind around it, of which that one neither begins
    nor ends with any. -/
structure IsTrimmed (test : Char → Bool) (text inner : List Char) : Prop where
  between : ∃ before after, text = before ++ inner ++ after ∧
    (∀ c ∈ before, test c = true) ∧ ∀ c ∈ after, test c = true
  starts : ∀ c ∈ inner.head?, test c = false
  ends : ∀ c ∈ inner.getLast?, test c = false

variable {test : Char → Bool} {text inner : List Char}

theorem stop_of_dropWhile {c : Char} (first : c ∈ (text.dropWhile test).head?) :
    test c = false := by
  have stopped := List.head?_dropWhile_not test text
  rw [first] at stopped
  exact stopped

theorem isTrimmed_trimWhere (test : Char → Bool) (text : List Char) :
    IsTrimmed test text (trimWhere test text) := by
  have started := List.takeWhile_append_dropWhile (p := test) (l := text)
  have ended := List.takeWhile_append_dropWhile (p := test) (l := (text.dropWhile test).reverse)
  have split : text.dropWhile test = trimWhere test text ++
      ((text.dropWhile test).reverse.takeWhile test).reverse := by
    rw [trimWhere, ← List.reverse_append, ended, List.reverse_reverse]
  refine ⟨⟨text.takeWhile test, ((text.dropWhile test).reverse.takeWhile test).reverse, ?_,
    fun c mem => List.mem_takeWhile_imp mem,
    fun c mem => List.mem_takeWhile_imp (List.mem_reverse.mp mem)⟩, fun c first => ?_,
    fun c last => ?_⟩
  · rw [List.append_assoc, ← split, started]
  · have atStop : c ∈ (text.dropWhile test).head? := by
      rw [split, List.head?_append, Option.mem_def.mp first]
      rfl
    exact stop_of_dropWhile atStop
  · rw [trimWhere, List.getLast?_reverse] at last
    exact stop_of_dropWhile last

theorem IsTrimmed.trimWhere_eq (trimmed : IsTrimmed test text inner) :
    trimWhere test text = inner := by
  obtain ⟨⟨before, after, rfl, blankBefore, blankAfter⟩, starts, ends⟩ := trimmed
  cases inner with
  | nil =>
      have all : ∀ c ∈ before ++ after, test c = true := by
        intro c mem
        exact (List.mem_append.mp mem).elim (blankBefore c) (blankAfter c)
      rw [List.append_nil, trimWhere, List.dropWhile_eq_nil_iff.mpr all]
      rfl
  | cons first rest =>
      have blankBehind : ∀ c ∈ after.reverse, test c = true :=
        fun c mem => blankAfter c (List.mem_reverse.mp mem)
      have started := (span_of_stop (first :: rest ++ after) blankBefore starts).2
      have ended := (span_of_stop (first :: rest).reverse blankBehind
        (List.head?_reverse ▸ ends)).2
      rw [trimWhere, List.append_assoc, started, List.reverse_append, ended, List.reverse_reverse]

/-- What is left of a text is the only thing that it can be trimmed to. -/
theorem trimWhere_eq_iff : trimWhere test text = inner ↔ IsTrimmed test text inner := by
  constructor
  · rintro rfl
    exact isTrimmed_trimWhere test text
  · exact IsTrimmed.trimWhere_eq

theorem trimWhere_of_free (free : ∀ c ∈ text, test c = false) : trimWhere test text = text := by
  refine trimWhere_eq_iff.mpr ⟨⟨[], [], by simp, nofun, nofun⟩, fun c first => ?_, fun c last => ?_⟩
  · exact free c (List.mem_of_head? first)
  · exact free c (List.mem_of_getLast? last)

end DocStore
