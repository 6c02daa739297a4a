import DocStore.Unicode.Property

/-! # Patterns

Regular expressions over characters, with anchors that look at the neighbouring characters,
and the search for a part of a text that an expression describes. The search goes through the
text once and keeps the expressions for what may follow. The main statement says that a
pattern for exactly one word is found in that word only.
-/

namespace DocStore

/-- The places at the edge of a word: the characters before and after are compared. -/
inductive WordEdge where
  | either
  | neither
  | start
  | stop
  /-- No character of a word comes before the place. -/
  | startHalf
  /-- No character of a word comes after the place. -/
  | stopHalf
  deriving DecidableEq, Ord, Repr

/-- A condition on a place between two characters. -/
inductive Anchor where
  | textStart
  | textEnd
  /-- The start of a line; `carriageReturn` says that a carriage return ends a line too, alone
      or before a line feed. -/
  | lineStart (carriageReturn : Bool)
  | lineEnd (carriageReturn : Bool)
  /-- The edge of a word, made of all word characters or of those of ASCII only. -/
  | word (edge : WordEdge) (ascii : Bool)
  deriving DecidableEq, Ord, Repr

/-- A regular expression. -/
inductive PatternTree where
  | empty
  | anchor (condition : Anchor)
  | chars (set : CharSet)
  /-- A group whose text is remembered, which makes no difference to what is described. -/
  | group (body : PatternTree)
  /-- At least and, if there is a limit, at most so many times the body. -/
  | repeated (least : Nat) (greatest : Option Nat) (body : PatternTree)
  | seq (first second : PatternTree)
  | either (left right : PatternTree)
  deriving DecidableEq, Ord, Repr

/-- A place in a text: the characters around it. -/
structure Place where
  before : Option Char
  after : Option Char
  deriving DecidableEq, Repr

def asciiWordCharacters : CharSet :=
  ⟨[⟨0x30, 0x39⟩, ⟨0x41, 0x5A⟩, ⟨0x5F, 0x5F⟩, ⟨0x61, 0x7A⟩]⟩

/-- Whether there is a word character on either side of a place as an edge demands. -/
def WordEdge.holds (before after : Bool) : WordEdge → Bool
  | .either => before != after
  | .neither => before == after
  | .start => !before && after
  | .stop => before && !after
  | .startHalf => !before
  | .stopHalf => !after

def Anchor.holds (place : Place) : Anchor → Bool
  | .textStart => place.before.isNone
  | .textEnd => place.after.isNone
  | .lineStart carriageReturn =>
      place.before.isNone || place.before == some '\n' ||
        (carriageReturn && place.before == some '\r' && place.after != some '\n')
  | .lineEnd carriageReturn =>
      place.after.isNone || (carriageReturn && place.after == some '\r') ||
        (place.after == some '\n' && !(carriageReturn && place.before == some '\r'))
  | .word edge ascii =>
      let isWord (c : Char) : Bool :=
        (if ascii then asciiWordCharacters else Unicode.wordCharacters).contains c
      edge.holds (place.before.any isWord) (place.after.any isWord)

namespace PatternTree

/-- One expression after the other, without needless parts. -/
def followedBy : PatternTree → PatternTree → PatternTree
  | .empty, second => second
  | first, .empty => first
  | first, second => .seq first second

/-- Whether an expression describes the empty text at a place. -/
def acceptsEmpty (place : Place) : PatternTree → Bool
  | .empty => true
  | .anchor condition => condition.holds place
  | .chars _ => false
  | .group body => body.acceptsEmpty place
  | .repeated least _ body => least == 0 || body.acceptsEmpty place
  | .seq first second => first.acceptsEmpty place && second.acceptsEmpty place
  | .either left right => left.acceptsEmpty place || right.acceptsEmpty place

/-- The expressions for what may follow a character of the text, of which the whole describes
    a part that begins with the character. The place is the one before the character.

    When the body of a repetition also describes the empty text here, any number of the
    repetitions still asked for may be spent on it. -/
def afterChar (place : Place) (c : Char) : PatternTree → List PatternTree
  | .empty | .anchor _ => []
  | .chars set => if set.contains c then [.empty] else []
  | .group body => body.afterChar place c
  | .repeated least greatest body =>
      if greatest = some 0 then []
      else
        let least := if body.acceptsEmpty place then 0 else least - 1
        let rest : PatternTree :=
          if greatest = some 1 then .empty else .repeated least (greatest.map (· - 1)) body
        (body.afterChar place c).map (·.followedBy rest)
  | .seq first second =>
      let through := (first.afterChar place c).map (·.followedBy second)
      if first.acceptsEmpty place then through ++ second.afterChar place c else through
  | .either left right => left.afterChar place c ++ right.afterChar place c

/-- Expressions without those that stand next to an equal one. -/
def withoutRepeats : List PatternTree → List PatternTree
  | [] => []
  | [tree] => [tree]
  | tree :: next :: rest =>
      if tree = next then withoutRepeats (next :: rest)
      else tree :: withoutRepeats (next :: rest)

/-- The different ones of several expressions, in order. -/
def distinct (trees : List PatternTree) : List PatternTree :=
  withoutRepeats (trees.mergeSort fun left right => (compare left right).isLE)

/-- Whether an expression describes some part of a text, or one of the expressions under way an
    initial part of it. -/
def foundFrom (tree : PatternTree) :
    (underWay : List PatternTree) → (before : Option Char) → List Char → Bool
  | underWay, before, [] => (tree :: underWay).any (acceptsEmpty ⟨before, none⟩)
  | underWay, before, c :: rest =>
      let place : Place := ⟨before, some c⟩
      (tree :: underWay).any (acceptsEmpty place) ||
        foundFrom tree (distinct ((tree :: underWay).flatMap (afterChar place c))) (some c) rest

/-- The expression that describes exactly one text. -/
def literal (text : List Char) : PatternTree :=
  text.foldr (fun c rest => .seq (.chars (.just c)) rest) .empty

theorem mem_withoutRepeats {trees : List PatternTree} {tree : PatternTree} :
    tree ∈ withoutRepeats trees ↔ tree ∈ trees := by
  fun_induction withoutRepeats trees with
  | case1 => rfl
  | case2 => rfl
  | case3 next rest ih => simp_all
  | case4 first next rest different ih => simp_all

/-- No expression is lost or gained when equal ones are left out. -/
@[simp] theorem mem_distinct {trees : List PatternTree} {tree : PatternTree} :
    tree ∈ distinct trees ↔ tree ∈ trees := by
  rw [distinct, mem_withoutRepeats, List.mem_mergeSort]

@[simp] theorem distinct_nil : distinct [] = [] := by
  simp [distinct, withoutRepeats]

@[simp] theorem distinct_singleton (tree : PatternTree) : distinct [tree] = [tree] := by
  simp [distinct, withoutRepeats]

/-- The expression for the rest of a text that has to end with exactly the given one. -/
def ending (text : List Char) : PatternTree :=
  .seq (literal text) (.anchor .textEnd)

/-- The expression that describes one text from its start to its end. -/
def whole (text : List Char) : PatternTree :=
  .seq (.anchor .textStart) (ending text)

/-- What an ending still expects. -/
def remaining (text : List Char) : PatternTree :=
  (literal text).followedBy (.anchor .textEnd)

theorem remaining_cons (c : Char) (text : List Char) : remaining (c :: text) = ending (c :: text) :=
  rfl

theorem acceptsEmpty_literal (place : Place) (text : List Char) :
    (literal text).acceptsEmpty place = text.isEmpty := by
  cases text <;> rfl

theorem acceptsEmpty_ending (place : Place) (text : List Char) :
    (ending text).acceptsEmpty place = (text.isEmpty && place.after.isNone) := by
  simp [ending, acceptsEmpty, acceptsEmpty_literal, Anchor.holds]

theorem acceptsEmpty_remaining (place : Place) (text : List Char) :
    (remaining text).acceptsEmpty place = (text.isEmpty && place.after.isNone) := by
  cases text with
  | nil => simp [remaining, literal, followedBy, acceptsEmpty, Anchor.holds]
  | cons c rest => rw [remaining_cons, acceptsEmpty_ending]

@[simp] theorem afterChar_ending_nil (place : Place) (c : Char) :
    (ending []).afterChar place c = [] := by
  simp [ending, literal, afterChar, acceptsEmpty]

@[simp] theorem afterChar_ending_cons (place : Place) (c d : Char) (text : List Char) :
    (ending (d :: text)).afterChar place c = if c = d then [remaining text] else [] := by
  have same : c.toNat = d.toNat ↔ c = d := Char.toNat_inj
  by_cases h : c = d <;>
    simp [ending, literal, afterChar, acceptsEmpty, same, h, followedBy, remaining]

/-- After a character a pattern for a whole text describes nothing that ends at once. -/
theorem acceptsEmpty_whole_within (text : List Char) (before : Char) (after : Option Char) :
    (whole text).acceptsEmpty ⟨some before, after⟩ = false := by
  simp [whole, acceptsEmpty, Anchor.holds]

/-- After a character a pattern for a whole text describes nothing that goes on. -/
theorem afterChar_whole_within (text : List Char) (before c : Char) (after : Option Char) :
    (whole text).afterChar ⟨some before, after⟩ c = [] := by
  simp [whole, acceptsEmpty, afterChar, Anchor.holds]

/-- Within a text nothing of a pattern for a whole text can begin. -/
theorem foundFrom_whole_nil (text rest : List Char) (before : Char) :
    foundFrom (whole text) [] (some before) rest = false := by
  induction rest generalizing before with
  | nil => simp [foundFrom, acceptsEmpty_whole_within]
  | cons c rest ih =>
    simpa [foundFrom, acceptsEmpty_whole_within, afterChar_whole_within] using ih c

theorem afterChar_remaining (place : Place) (c : Char) (text : List Char) :
    (remaining text).afterChar place c = (ending text).afterChar place c := by
  cases text with
  | nil => rw [afterChar_ending_nil]; rfl
  | cons d rest => rw [remaining_cons]

theorem foundFrom_whole_remaining (text expected rest : List Char) (before : Char) :
    foundFrom (whole text) [remaining expected] (some before) rest = decide (rest = expected) := by
  induction rest generalizing expected before with
  | nil =>
    cases expected <;> simp [foundFrom, acceptsEmpty_whole_within, acceptsEmpty_remaining]
  | cons c rest ih =>
    have nothing := foundFrom_whole_nil text rest c
    cases expected with
    | nil =>
      simpa [foundFrom, acceptsEmpty_whole_within, afterChar_whole_within,
        acceptsEmpty_remaining, afterChar_remaining] using nothing
    | cons d expected =>
      by_cases same : c = d
      · subst same
        simpa [foundFrom, acceptsEmpty_whole_within, afterChar_whole_within,
          acceptsEmpty_remaining, afterChar_remaining] using ih expected c
      · simpa [foundFrom, acceptsEmpty_whole_within, afterChar_whole_within,
          acceptsEmpty_remaining, afterChar_remaining, same] using nothing

/-- A pattern for a whole text is found in this text only. -/
theorem foundFrom_whole (text other : List Char) :
    foundFrom (whole text) [] none other = decide (other = text) := by
  have accepts (after : Option Char) :
      (whole text).acceptsEmpty ⟨none, after⟩ = (text.isEmpty && after.isNone) := by
    simp [whole, acceptsEmpty, acceptsEmpty_ending, Anchor.holds]
  cases other with
  | nil => cases text <;> simp [foundFrom, accepts]
  | cons c rest =>
    have begins : (whole text).afterChar ⟨none, some c⟩ c =
        (ending text).afterChar ⟨none, some c⟩ c := by
      simp [whole, afterChar, acceptsEmpty, Anchor.holds]
    have nothing := foundFrom_whole_nil text rest c
    simp only [foundFrom, List.any_cons, List.any_nil, List.flatMap_cons, List.flatMap_nil,
      accepts, begins]
    cases text with
    | nil => simpa using nothing
    | cons d text =>
      by_cases same : c = d
      · subst same
        simpa using foundFrom_whole_remaining (c :: text) text rest c
      · simpa [same] using nothing

end PatternTree

/-- A pattern: an expression and the text it was read from. -/
structure Pattern where
  source : String
  tree : PatternTree
  deriving DecidableEq, Repr

namespace Pattern

/-- Whether some part of a text is described by the pattern. -/
def isFound (pattern : Pattern) (text : String) : Bool :=
  pattern.tree.foundFrom [] none text.toList

/-- The pattern that only one text, made of letters, has. -/
def exactly (word : String) : Pattern where
  source := "^" ++ word ++ "$"
  tree := .whole word.toList

/-- The pattern for exactly one word is found in this word only. -/
theorem isFound_exactly (word text : String) :
    (exactly word).isFound text = decide (text = word) := by
  rw [isFound, exactly, PatternTree.foundFrom_whole, Bool.eq_iff_iff]
  simp [String.toList_inj]

end Pattern

end DocStore
