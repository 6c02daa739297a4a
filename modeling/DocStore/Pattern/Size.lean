import DocStore.Pattern.Search

/-! # The size of patterns

How much memory an automaton for a pattern takes that reads texts byte by byte. A pattern whose
automaton would be too large is refused, which mainly meets repetitions with great counts.
-/

namespace DocStore

/-- The bounds between which one part of an encoded character lies. -/
abbrev PartBounds := Nat × Nat

/-- The sequences of bounds that describe the code points from a first to a last one when each
    is cut into parts of six bits, the leading part and as many others as said. Ranges that
    do not run over all values of the later parts are divided until they do. -/
def boundSequences : (others first last : Nat) → List (List PartBounds)
  | 0, first, last => [[(first, last)]]
  | others + 1, first, last =>
      let block := 1 <<< (6 * (others + 1))
      let inBlock (start stop : Nat) : List (List PartBounds) :=
        (boundSequences others start stop).map ((start / block, start / block) :: ·)
      if first / block = last / block then inBlock first last
      else
        let low := (first + block - 1) / block
        let high := (last + 1) / block
        (if first < low * block then inBlock first (low * block - 1) else []) ++
          (if low < high then [(low, high - 1) :: List.replicate (others + 1) (0, 63)] else []) ++
          (if high * block ≤ last then inBlock (high * block) last else [])

/-- The code points whose encoded forms have equally many parts beside the leading one. -/
def encodedAlike : List (Nat × CodeRange) :=
  [(0, ⟨0, 0x7F⟩), (1, ⟨0x80, 0x7FF⟩), (2, ⟨0x800, 0xD7FF⟩), (2, ⟨0xE000, 0xFFFF⟩),
    (3, ⟨0x10000, greatestCode⟩)]

/-- The sequences of bounds of a range of characters. -/
def CodeRange.sequences (range : CodeRange) : List (List PartBounds) :=
  encodedAlike.flatMap fun (others, alike) =>
    let first := max range.first alike.first
    let last := min range.last alike.last
    if first ≤ last then boundSequences others first last else []

/-- How many bounds of a sequence come after those that it begins with as another one does. -/
def ownBounds : (previous own : List PartBounds) → Nat
  | bounds :: previous, own :: rest =>
      if bounds = own then ownBounds previous rest else rest.length + 1
  | _, own => own.length

/-- The number of states for sequences of bounds, when those at the start are shared with the
    sequence before. -/
def stateCount : (previous : List PartBounds) → List (List PartBounds) → Nat
  | _, [] => 0
  | previous, own :: rest => ownBounds previous own + stateCount own rest

/-- The memory of one state, without the transitions it lists. -/
def stateSize : Nat := 32

/-- The memory for a set of characters: one state for each byte of a single character, one that
    lists all ranges for a set of ASCII, and else a state for each part of the characters. -/
def CharSet.size (set : CharSet) : Nat :=
  let sequences := set.ranges.flatMap CodeRange.sequences
  match set.ranges with
  | [range] =>
      if range.first = range.last then stateSize * stateCount [] sequences
      else if set.isAscii then 2 * stateSize + 8
      else 2 * stateSize + 4 * sequences.length + stateSize * stateCount [] sequences
  | ranges =>
      if set.isAscii then 2 * stateSize + 8 * ranges.length
      else 2 * stateSize + 4 * sequences.length + stateSize * stateCount [] sequences

namespace PatternTree

/-- Whether an expression describes no other text than the empty one. -/
def isEmptyOnly : PatternTree → Bool
  | .empty | .anchor _ => true
  | .chars _ => false
  | .group body => body.isEmptyOnly
  | .repeated _ _ body => body.isEmptyOnly
  | .seq first second => first.isEmptyOnly && second.isEmptyOnly
  | .either left right => left.isEmptyOnly && right.isEmptyOnly

/-- The memory of an automaton for an expression. A repetition takes a copy of its body for each
    time that it asks for or allows, but no more than one if only the empty text is repeated. -/
def size : PatternTree → Nat
  | .empty | .anchor _ => stateSize
  | .chars set => set.size
  | .group body => body.size + 2 * stateSize
  | .repeated least greatest body =>
      let branch := stateSize + 8
      let most := if body.isEmptyOnly then some 1 else greatest
      let least := if body.isEmptyOnly then min least 1 else least
      match most with
      | some most => least * body.size + (most - least) * (branch + body.size) + stateSize
      | none => max least 1 * body.size + branch
  | .seq first second => first.size + second.size
  | .either left right => left.size + right.size + 8

end PatternTree

end DocStore
