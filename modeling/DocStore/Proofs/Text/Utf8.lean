import DocStore.Proofs.Url.Encoding

/-! # Reading UTF-8

Bytes are read as text one after the other. Where they cannot go on as a character, what was read of
it is replaced, and the byte that does not fit begins anew. The bytes of a text read as that text.
-/

namespace DocStore

/-- What is read in place of bytes that are no character. -/
def replacementChar : Char := '\uFFFD'

/-- A character of which more bytes are to come. -/
structure PartialChar where
  /-- The number of bytes behind the next one. -/
  further : Nat
  /-- The bounds of the next byte. -/
  least : Nat
  greatest : Nat
  /-- The number that the bytes make so far. -/
  number : Nat

namespace PartialChar

/-- Read a byte between characters. The bounds of the second byte exclude what could be written
    shorter, surrogates, and what is beyond the last character. -/
def start (byte : Nat) : List Char × Option PartialChar :=
  if byte < 0x80 then ([Char.ofNat byte], none)
  else if 0xC2 ≤ byte ∧ byte < 0xE0 then ([], some ⟨0, 0x80, 0xBF, byte % 32⟩)
  else if 0xE0 ≤ byte ∧ byte < 0xF0 then
    ([], some ⟨1, if byte = 0xE0 then 0xA0 else 0x80, if byte = 0xED then 0x9F else 0xBF,
      byte % 16⟩)
  else if 0xF0 ≤ byte ∧ byte < 0xF5 then
    ([], some ⟨2, if byte = 0xF0 then 0x90 else 0x80, if byte = 0xF4 then 0x8F else 0xBF,
      byte % 8⟩)
  else ([replacementChar], none)

def goOn (part : PartialChar) (byte : Nat) : List Char × Option PartialChar :=
  if part.least ≤ byte ∧ byte ≤ part.greatest then
    let number := part.number * 64 + byte % 64
    match part.further with
    | 0 => ([Char.ofNat number], none)
    | further + 1 => ([], some ⟨further, 0x80, 0xBF, number⟩)
  else
    let (chars, next) := start byte
    (replacementChar :: chars, next)

end PartialChar

/-- Read bytes, maybe from inside a character. -/
def readUtf8 : Option PartialChar → List UInt8 → List Char
  | none, [] => []
  | some _, [] => [replacementChar]
  | none, byte :: rest =>
      let (chars, next) := PartialChar.start byte.toNat
      chars ++ readUtf8 next rest
  | some part, byte :: rest =>
      let (chars, next) := part.goOn byte.toNat
      chars ++ readUtf8 next rest

namespace PartialChar

variable {rest : List UInt8}

theorem readUtf8_start {byte : Nat} (small : byte < 256) {chars : List Char}
    {next : Option PartialChar} (started : start byte = (chars, next)) :
    readUtf8 none (UInt8.ofNat byte :: rest) = chars ++ readUtf8 next rest := by
  rw [readUtf8, UInt8.toNat_ofNat_of_lt' small, started]

/-- Another six bits of a character, of which there are more to come. -/
theorem readUtf8_inner {further least greatest number bits : Nat} (small : bits < 64)
    (above : least ≤ bits + 128) (below : bits + 128 ≤ greatest) :
    readUtf8 (some ⟨further + 1, least, greatest, number⟩) (UInt8.ofNat (bits + 128) :: rest) =
      readUtf8 (some ⟨further, 0x80, 0xBF, number * 64 + bits⟩) rest := by
  have inByte : bits + 128 < 256 := by omega
  have low : (bits + 128) % 64 = bits := by omega
  rw [readUtf8, UInt8.toNat_ofNat_of_lt' inByte, goOn, if_pos ⟨above, below⟩, low]
  rfl

theorem readUtf8_last {number bits : Nat} (small : bits < 64) :
    readUtf8 (some ⟨0, 0x80, 0xBF, number⟩) (UInt8.ofNat (bits + 128) :: rest) =
      Char.ofNat (number * 64 + bits) :: readUtf8 none rest := by
  have inByte : bits + 128 < 256 := by omega
  have low : (bits + 128) % 64 = bits := by omega
  have inBounds : 0x80 ≤ bits + 128 ∧ bits + 128 ≤ 0xBF := by omega
  rw [readUtf8, UInt8.toNat_ofNat_of_lt' inByte, goOn, if_pos inBounds, low]
  rfl

theorem start_one {byte : Nat} (ascii : byte < 128) : start byte = ([Char.ofNat byte], none) :=
  if_pos ascii

theorem start_two {bits : Nat} (least : 2 ≤ bits) (small : bits < 32) :
    start (bits + 192) = ([], some ⟨0, 0x80, 0xBF, bits⟩) := by
  have low : (bits + 192) % 32 = bits := by omega
  rw [start, if_neg (by omega), if_pos (by omega), low]

theorem start_three {bits : Nat} (small : bits < 16) :
    start (bits + 224) = ([], some ⟨1, if bits + 224 = 0xE0 then 0xA0 else 0x80,
      if bits + 224 = 0xED then 0x9F else 0xBF, bits⟩) := by
  have low : (bits + 224) % 16 = bits := by omega
  rw [start, if_neg (by omega), if_neg (by omega), if_pos (by omega), low]

theorem start_four {bits : Nat} (small : bits < 5) :
    start (bits + 240) = ([], some ⟨2, if bits + 240 = 0xF0 then 0x90 else 0x80,
      if bits + 240 = 0xF4 then 0x8F else 0xBF, bits⟩) := by
  have low : (bits + 240) % 8 = bits := by omega
  rw [start, if_neg (by omega), if_neg (by omega), if_neg (by omega), if_pos (by omega), low]

end PartialChar

open PartialChar

theorem readUtf8_encodeChar (c : Char) (rest : List UInt8) :
    readUtf8 none (String.utf8EncodeChar c ++ rest) = c :: readUtf8 none rest := by
  have valid : c.val.toNat < 55296 ∨ 57343 < c.val.toNat ∧ c.val.toNat < 1114112 := c.valid
  have same : Char.ofNat c.val.toNat = c := Char.ofNat_toNat c
  unfold String.utf8EncodeChar
  generalize c.val.toNat = n at valid same ⊢
  dsimp only
  -- one case for each length; the digits of the number in base 64 are put together again
  split
  next ascii =>
    rw [List.singleton_append, readUtf8_start (by omega) (start_one (by omega)), same,
      List.singleton_append]
  next beyondOne =>
    split
    next two =>
      have bits : n / 64 % 32 * 64 + n % 64 = n := by omega
      rw [List.cons_append, List.singleton_append,
        readUtf8_start (by omega) (start_two (by omega) (by omega)), List.nil_append,
        readUtf8_last (by omega), bits, same]
    next beyondTwo =>
      split
      next three =>
        have bits : (n / 4096 % 16 * 64 + n / 64 % 64) * 64 + n % 64 = n := by omega
        rw [List.cons_append, List.cons_append, List.singleton_append,
          readUtf8_start (by omega) (start_three (by omega)), List.nil_append,
          readUtf8_inner (by omega) (by split <;> omega) (by split <;> omega),
          readUtf8_last (by omega), bits, same]
      next beyondThree =>
        have bits :
            ((n / 262144 % 8 * 64 + n / 4096 % 64) * 64 + n / 64 % 64) * 64 + n % 64 = n := by
          omega
        rw [List.cons_append, List.cons_append, List.cons_append, List.singleton_append,
          readUtf8_start (by omega) (start_four (by omega)), List.nil_append,
          readUtf8_inner (by omega) (by split <;> omega) (by split <;> omega),
          readUtf8_inner (by omega) (by omega) (by omega), readUtf8_last (by omega), bits, same]

/-- The bytes of a text are read as the text. -/
theorem readUtf8_bytesOf (text : List Char) : readUtf8 none (Url.bytesOf text) = text := by
  induction text with
  | nil => rfl
  | cons c rest ih =>
      rw [Url.bytesOf, List.flatMap_cons, readUtf8_encodeChar, ← Url.bytesOf, ih]

/-- The byte that breaks a character off is read again, and a stray one is replaced. -/
example : readUtf8 none [0xE2, 0x82, 0x41, 0xC0] = ['\uFFFD', 'A', '\uFFFD'] := by decide

end DocStore
