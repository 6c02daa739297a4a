import DocStore.Proofs.Text.Split
import DocStore.Proofs.Text.Utf8
import DocStore.Url.Type

/-! # Reading forms

A query as a form of pairs, read as any server reads it: parts between ampersands, each a key and
a value, with plus signs for spaces and escapes for bytes. Pairs that are written behind a query
are read back as they were given, and change nothing of the pairs before them.
-/

namespace DocStore.Url

/-- In a form, a plus sign stands for a space. -/
def plusAsSpace (c : Char) : Char :=
  if c = '+' then ' ' else c

/-- The text of a key or a value of a form. -/
def readFormText (written : List Char) : String :=
  String.ofList (readUtf8 none (unescape (written.map plusAsSpace)))

/-- The key and the value of a part, which its first equals sign divides. -/
def readFormPair (part : List Char) : String × String :=
  (readFormText (part.takeWhile (· != '=')), readFormText ((part.dropWhile (· != '=')).drop 1))

/-- The pairs of a form. Empty parts are none. -/
def readForm (text : List Char) : List (String × String) :=
  ((splitChars '&' text).filter fun part => !part.isEmpty).map readFormPair

def pairs (url : Url) : List (String × String) :=
  readForm (url.query.getD "").toList

/-! ## Keys and values -/

/-- What divides pairs, keys and values has to be escaped in them. -/
theorem notMem_formEscape {c : Char} (unmarked : c ≠ '%') (noDigit : hexValue? c = none)
    (noSpace : c ≠ '+') (unsafeChar : isFormSafe c = false) (text : List Char) :
    c ∉ formEscape text := by
  intro found
  obtain ⟨other, -, written⟩ := List.mem_flatMap.mp found
  split at written
  next => exact noSpace (List.mem_singleton.mp written)
  next =>
    split at written
    next safe =>
      rw [List.mem_singleton.mp written, safe] at unsafeChar
      cases unsafeChar
    next => exact notMem_escapeChar unmarked noDigit other written

theorem map_plusAsSpace_of_notMem {written : List Char} (free : '+' ∉ written) :
    written.map plusAsSpace = written := by
  have kept : ∀ c ∈ written, plusAsSpace c = c := by
    intro c member
    refine if_neg ?_
    rintro rfl
    exact free member
  rw [List.map_congr_left kept, List.map_id']

theorem unescape_formEscape (text : List Char) :
    unescape ((formEscape text).map plusAsSpace) = bytesOf text := by
  induction text with
  | nil => rfl
  | cons c rest ih =>
      rw [formEscape, List.flatMap_cons, ← formEscape, List.map_append, bytesOf, List.flatMap_cons,
        ← bytesOf, ← ih]
      split
      next space =>
        subst space
        rfl
      next =>
        split
        next safe =>
          have noPlus : c ≠ '+' := by
            rintro rfl
            revert safe
            decide
          have noPercent : c ≠ '%' := by
            rintro rfl
            revert safe
            decide
          rw [List.map_singleton, plusAsSpace, if_neg noPlus, List.singleton_append,
            unescape_cons_of_ne noPercent]
        next =>
          rw [map_plusAsSpace_of_notMem (notMem_escapeChar (by decide) (by decide) c), escapeChar,
            unescape_flatMap_escapeByte]

theorem readFormText_formEscape (text : String) : readFormText (formEscape text.toList) = text := by
  rw [readFormText, unescape_formEscape, readUtf8_bytesOf, String.ofList_toList]

/-! ## Pairs -/

theorem equals_notMem_formEscape (text : List Char) : '=' ∉ formEscape text :=
  notMem_formEscape (by decide) (by decide) (by decide) (by decide) text

theorem ampersand_notMem_formPair (key value : String) : '&' ∉ formPair key value := by
  have free := notMem_formEscape (c := '&') (by decide) (by decide) (by decide) (by decide)
  simp [formPair, free]

theorem readFormPair_formPair (key value : String) :
    readFormPair (formPair key value) = (key, value) := by
  have free : ∀ c ∈ formEscape key.toList, (c != '=') = true := by
    intro c member
    rw [bne_iff_ne]
    rintro rfl
    exact equals_notMem_formEscape _ member
  rw [readFormPair, formPair, List.takeWhile_append_of_pos free, List.dropWhile_append_of_pos free]
  simp [readFormText_formEscape]

/-! ## Forms -/

theorem readForm_append (first second : List Char) :
    readForm (first ++ '&' :: second) = readForm first ++ readForm second := by
  simp only [readForm, splitChars_eq_splitOn, List.splitOn_append_cons_self, List.filter_append,
    List.map_append]

theorem readForm_formPair (key value : String) :
    readForm (formPair key value) = [(key, value)] := by
  have filled : (formPair key value).isEmpty = false := by simp [formPair]
  simp [readForm, splitChars_of_free (ampersand_notMem_formPair key value), filled,
    readFormPair_formPair]

/-- Pairs that are written behind a text are read behind those of the text. -/
theorem readForm_appendPairs (text : List Char) (pairs : List (String × String)) :
    readForm (appendPairs text pairs) = readForm text ++ pairs := by
  induction pairs generalizing text with
  | nil => exact (List.append_nil _).symm
  | cons pair rest ih =>
      obtain ⟨key, value⟩ := pair
      have first : readForm ((if text.isEmpty then [] else text ++ ['&']) ++ formPair key value) =
          readForm text ++ [(key, value)] := by
        cases text with
        | nil => exact readForm_formPair key value
        | cons c others =>
            rw [List.isEmpty_cons, if_neg Bool.false_ne_true, List.append_assoc,
              List.singleton_append, readForm_append, readForm_formPair]
      rw [appendPairs, ih, first, List.append_assoc, List.singleton_append]

@[simp] theorem pairs_addPairs (url : Url) (added : List (String × String)) :
    (url.addPairs added).pairs = url.pairs ++ added := by
  cases added with
  | nil => exact (List.append_nil _).symm
  | cons pair rest =>
      rw [addPairs, pairs, pairs, ← readForm_appendPairs]
      simp

@[simp] theorem pairs_withPairs (url : Url) (given : List (String × String)) :
    (url.withPairs given).pairs = given := by
  rw [withPairs, pairs, Option.getD_some, String.toList_ofList, readForm_appendPairs]
  rfl

end DocStore.Url
