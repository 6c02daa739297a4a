import DocStore.Url.Encoding

/-! # Percent-encoding and its inverse

Text in which the percent sign is escaped can be read back: resolving the escapes gives its bytes,
and the bytes determine the text. Escapes bring no slash into a text.
-/

namespace DocStore.Url

/-- The bytes of a text in UTF-8. -/
def bytesOf (text : List Char) : List UInt8 :=
  text.flatMap String.utf8EncodeChar

theorem bytesOf_toList (text : String) : bytesOf text.toList = text.toUTF8.data.toList := by
  rw [String.toUTF8_eq_toByteArray, ← String.utf8Encode_toList]
  simp [List.utf8Encode, bytesOf]

theorem bytesOf_inj {first second : List Char} :
    bytesOf first = bytesOf second ↔ first = second := by
  constructor
  · intro same
    have encoded : first.utf8Encode = second.utf8Encode := congrArg List.toByteArray same
    have decoded : some first.toArray = some second.toArray := by
      rw [← List.utf8Decode?_utf8Encode, ← List.utf8Decode?_utf8Encode, encoded]
    simpa using decoded
  · rintro rfl
    rfl

theorem escapedByte?_digits (byte : UInt8) :
    escapedByte? (upperHexDigit (byte.toNat / 16)) (upperHexDigit (byte.toNat % 16)) =
      some byte := by
  have small := byte.toNat_lt
  have joined : 16 * (byte.toNat / 16) + byte.toNat % 16 = byte.toNat := by omega
  rw [escapedByte?, hexValue?_upperHexDigit (by omega), hexValue?_upperHexDigit (by omega)]
  simp only [joined, UInt8.ofNat_toNat]

theorem unescape_escapeByte (byte : UInt8) (rest : List Char) :
    unescape (escapeByte byte ++ rest) = byte :: unescape rest := by
  rw [escapeByte, List.cons_append, List.cons_append, List.cons_append, List.nil_append, unescape,
    escapedByte?_digits]

theorem unescape_flatMap_escapeByte (bytes : List UInt8) (rest : List Char) :
    unescape (bytes.flatMap escapeByte ++ rest) = bytes ++ unescape rest := by
  induction bytes with
  | nil => rfl
  | cons byte others ih =>
      rw [List.flatMap_cons, List.append_assoc, unescape_escapeByte, ih, List.cons_append]

theorem unescape_cons_of_ne {c : Char} (plain : c ≠ '%') (rest : List Char) :
    unescape (c :: rest) = String.utf8EncodeChar c ++ unescape rest := by
  rw [unescape]
  rintro high low more rfl
  exact absurd rfl plain

/-- What is written with the percent sign escaped reads back as it was. -/
theorem unescape_escape {set : EscapeSet} (marked : set '%' = true) (text : List Char) :
    unescape (escape set text) = bytesOf text := by
  induction text with
  | nil => rfl
  | cons c rest ih =>
      rw [escape, List.flatMap_cons, ← escape]
      cases inSet : set c with
      | true =>
          rw [if_pos rfl, escapeChar, unescape_flatMap_escapeByte, ih]
          rfl
      | false =>
          have plain : c ≠ '%' := by
            rintro rfl
            rw [marked] at inSet
            cases inSet
          rw [if_neg Bool.false_ne_true, List.singleton_append, unescape_cons_of_ne plain, ih]
          rfl

/-- Escapes consist of percent signs and hexadecimal digits. -/
theorem notMem_escapeByte {c : Char} (unmarked : c ≠ '%') (noDigit : hexValue? c = none)
    (byte : UInt8) : c ∉ escapeByte byte := by
  have small := byte.toNat_lt
  have isDigit {n : Nat} (digit : n < 16) : c ≠ upperHexDigit n := by
    rintro rfl
    rw [hexValue?_upperHexDigit digit] at noDigit
    cases noDigit
  simp [escapeByte, unmarked, isDigit (n := byte.toNat / 16) (by omega),
    isDigit (n := byte.toNat % 16) (by omega)]

theorem notMem_escapeChar {c : Char} (unmarked : c ≠ '%') (noDigit : hexValue? c = none)
    (escaped : Char) : c ∉ escapeChar escaped := by
  intro found
  obtain ⟨byte, -, inEscape⟩ := List.mem_flatMap.mp found
  exact notMem_escapeByte unmarked noDigit byte inEscape

/-- Escaping brings no slash into a text, and takes those out that are to be escaped. -/
theorem slash_not_mem_escape {set : EscapeSet} {text : List Char}
    (free : set '/' = true ∨ '/' ∉ text) : '/' ∉ escape set text := by
  intro found
  obtain ⟨c, member, written⟩ := List.mem_flatMap.mp found
  split at written
  next => exact notMem_escapeChar (by decide) (by decide) c written
  next outside =>
    cases List.mem_singleton.mp written
    exact free.elim outside fun absent => absent member

end DocStore.Url
