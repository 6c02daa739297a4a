/-! # Sets of characters

Sets given by ranges of code points, with the operations on sets. The main statements say that
a union holds what one of its parts holds, and that a complement holds what the set does not.
-/

namespace DocStore

/-- The code points from a first one to a last one. -/
structure CodeRange where
  first : Nat
  last : Nat
  deriving DecidableEq, Ord, Repr

def CodeRange.holds (range : CodeRange) (code : Nat) : Bool :=
  range.first ≤ code && code ≤ range.last

def someHolds (ranges : List CodeRange) (code : Nat) : Bool :=
  ranges.any fun range => range.holds code

@[simp] theorem someHolds_nil (code : Nat) : someHolds [] code = false := rfl

@[simp] theorem someHolds_cons (range : CodeRange) (rest : List CodeRange) (code : Nat) :
    someHolds (range :: rest) code = (range.holds code || someHolds rest code) := rfl

@[simp] theorem someHolds_append (left right : List CodeRange) (code : Nat) :
    someHolds (left ++ right) code = (someHolds left code || someHolds right code) :=
  List.any_append

/-- The order of ranges by their first code points. -/
def CodeRange.startsBefore (left right : CodeRange) : Bool :=
  left.first ≤ right.first

def sortedRanges (ranges : List CodeRange) : List CodeRange :=
  ranges.mergeSort CodeRange.startsBefore

theorem sortedRanges_pairwise (ranges : List CodeRange) :
    (sortedRanges ranges).Pairwise fun left right => left.first ≤ right.first := by
  have sorted := @List.pairwise_mergeSort _ CodeRange.startsBefore
    (by simp only [CodeRange.startsBefore, decide_eq_true_eq]; omega)
    (by simp only [CodeRange.startsBefore, Bool.or_eq_true, decide_eq_true_eq]; omega) ranges
  exact sorted.imp (by simp [CodeRange.startsBefore])

@[simp] theorem someHolds_sortedRanges (ranges : List CodeRange) (code : Nat) :
    someHolds (sortedRanges ranges) code = someHolds ranges code := by
  rw [Bool.eq_iff_iff]
  simp [someHolds, sortedRanges, List.any_eq_true, List.mem_mergeSort]

/-- Sorted ranges with those that touch or overlap made one, after a first range. -/
def joinedFrom (range : CodeRange) : List CodeRange → List CodeRange
  | [] => [range]
  | next :: rest =>
      if next.first ≤ range.last + 1 then
        joinedFrom ⟨range.first, max range.last next.last⟩ rest
      else range :: joinedFrom next rest

/-- Sorted ranges with those that touch or overlap made one. -/
def joined : List CodeRange → List CodeRange
  | [] => []
  | range :: rest => joinedFrom range rest

theorem someHolds_joinedFrom {range : CodeRange} {rest : List CodeRange} {code : Nat}
    (sorted : (range :: rest).Pairwise fun left right => left.first ≤ right.first) :
    someHolds (joinedFrom range rest) code = someHolds (range :: rest) code := by
  induction rest generalizing range with
  | nil => rfl
  | cons next rest ih =>
    simp only [List.pairwise_cons, List.mem_cons, forall_eq_or_imp] at sorted
    obtain ⟨⟨first_le, fromRange⟩, fromNext, later⟩ := sorted
    unfold joinedFrom
    split
    · rename_i touches
      rw [ih (by simpa using ⟨fromRange, later⟩)]
      have split : CodeRange.holds ⟨range.first, max range.last next.last⟩ code =
          (range.holds code || next.holds code) := by
        rw [Bool.eq_iff_iff]
        simp only [CodeRange.holds, Bool.or_eq_true, Bool.and_eq_true, decide_eq_true_eq]
        omega
      simp only [someHolds_cons, split, Bool.or_assoc]
    · rw [someHolds_cons, ih (by simpa using ⟨fromNext, later⟩)]
      rfl

def greatestCode : Nat := 0x10FFFF

/-- The code points between sorted ranges, from a least one on. -/
def gapsFrom : (least : Nat) → List CodeRange → List CodeRange
  | least, [] => if least ≤ greatestCode then [⟨least, greatestCode⟩] else []
  | least, range :: rest =>
      let gaps := gapsFrom (max least (range.last + 1)) rest
      if least < range.first then ⟨least, range.first - 1⟩ :: gaps else gaps

theorem someHolds_gapsFrom {least : Nat} {ranges : List CodeRange} {code : Nat}
    (sorted : ranges.Pairwise fun left right => left.first ≤ right.first)
    (bounded : code ≤ greatestCode) :
    someHolds (gapsFrom least ranges) code =
      (decide (least ≤ code) && !someHolds ranges code) := by
  induction ranges generalizing least with
  | nil =>
    unfold gapsFrom
    split <;> simp [CodeRange.holds] <;> omega
  | cons range rest ih =>
    rw [List.pairwise_cons] at sorted
    have later : someHolds rest code = true → range.first ≤ code := by
      simp only [someHolds, List.any_eq_true]
      rintro ⟨other, mem, holds⟩
      have := sorted.1 other mem
      simp only [CodeRange.holds, Bool.and_eq_true, decide_eq_true_eq] at holds
      omega
    simp only [gapsFrom]
    split <;> rename_i below <;>
      simp only [someHolds_cons, ih sorted.2, CodeRange.holds] <;>
      cases held : someHolds rest code <;>
      simp only [held, true_implies, false_implies, reduceCtorEq] at later <;>
      rw [Bool.eq_iff_iff] <;>
      simp only [Bool.or_eq_true, Bool.and_eq_true, Bool.not_eq_true', Bool.and_eq_false_iff,
        decide_eq_true_eq, decide_eq_false_iff_not, Bool.not_true, Bool.not_false, Bool.or_true,
        Bool.or_false, Bool.and_false, Bool.and_true, reduceCtorEq, iff_false] <;>
      omega

/-- A set of characters: those in one of the ranges. -/
structure CharSet where
  ranges : List CodeRange
  deriving DecidableEq, Ord, Repr

namespace CharSet

def contains (set : CharSet) (c : Char) : Bool :=
  someHolds set.ranges c.toNat

def none : CharSet := ⟨[]⟩

def just (c : Char) : CharSet :=
  ⟨[⟨c.toNat, c.toNat⟩]⟩

def between (first last : Char) : CharSet :=
  ⟨[⟨first.toNat, last.toNat⟩]⟩

def any : CharSet := ⟨[⟨0, greatestCode⟩]⟩

/-- The set of given ranges, in order and joined. -/
def ofRanges (ranges : List CodeRange) : CharSet :=
  ⟨joined (sortedRanges ranges)⟩

def union (left right : CharSet) : CharSet :=
  ofRanges (left.ranges ++ right.ranges)

def unions (sets : List CharSet) : CharSet :=
  ofRanges (sets.flatMap CharSet.ranges)

def complement (set : CharSet) : CharSet :=
  ⟨gapsFrom 0 (sortedRanges set.ranges)⟩

def intersection (left right : CharSet) : CharSet :=
  (left.complement.union right.complement).complement

def difference (left right : CharSet) : CharSet :=
  (left.complement.union right).complement

/-- The characters of exactly one of the two sets. -/
def symmetricDifference (left right : CharSet) : CharSet :=
  (left.difference right).union (right.difference left)

def isAscii (set : CharSet) : Bool :=
  set.ranges.all fun range => range.last < 128

/-- The letters of ASCII among the characters of a set, in the other case too. -/
def ignoringAsciiCase (set : CharSet) : CharSet :=
  let moved (first last : Nat) (move : Nat → Nat) : List CodeRange :=
    (set.intersection ⟨[⟨first, last⟩]⟩).ranges.map fun range =>
      ⟨move range.first, move range.last⟩
  ofRanges (set.ranges ++ moved 0x41 0x5A (· + 32) ++ moved 0x61 0x7A (· - 32))

theorem toNat_le_greatestCode (c : Char) : c.toNat ≤ greatestCode := by
  have valid : c.toNat.isValidChar := c.valid
  unfold greatestCode
  rcases valid with low | high <;> omega

@[simp] theorem contains_none (c : Char) : none.contains c = false := rfl

@[simp] theorem contains_just (c d : Char) :
    (just c).contains d = decide (d.toNat = c.toNat) := by
  rw [Bool.eq_iff_iff]
  simp [contains, just, CodeRange.holds]
  omega

@[simp] theorem contains_any (c : Char) : any.contains c = true := by
  simpa [contains, any, CodeRange.holds] using toNat_le_greatestCode c

theorem contains_ofRanges (ranges : List CodeRange) (c : Char) :
    (ofRanges ranges).contains c = someHolds ranges c.toNat := by
  have sorted := sortedRanges_pairwise ranges
  rw [contains, ofRanges, ← someHolds_sortedRanges ranges]
  revert sorted
  cases sortedRanges ranges with
  | nil => intro _; rfl
  | cons range rest => exact fun sorted => someHolds_joinedFrom sorted

@[simp] theorem contains_union (left right : CharSet) (c : Char) :
    (left.union right).contains c = (left.contains c || right.contains c) := by
  rw [union, contains_ofRanges, someHolds_append]
  rfl

@[simp] theorem contains_complement (set : CharSet) (c : Char) :
    set.complement.contains c = !set.contains c := by
  rw [contains, complement,
    someHolds_gapsFrom (sortedRanges_pairwise _) (toNat_le_greatestCode c)]
  simp [contains]

@[simp] theorem contains_intersection (left right : CharSet) (c : Char) :
    (left.intersection right).contains c = (left.contains c && right.contains c) := by
  simp [intersection]

@[simp] theorem contains_difference (left right : CharSet) (c : Char) :
    (left.difference right).contains c = (left.contains c && !right.contains c) := by
  simp [difference]

@[simp] theorem contains_symmetricDifference (left right : CharSet) (c : Char) :
    (left.symmetricDifference right).contains c = (left.contains c != right.contains c) := by
  simp only [symmetricDifference, contains_union, contains_difference]
  cases left.contains c <;> cases right.contains c <;> rfl

end CharSet

end DocStore
