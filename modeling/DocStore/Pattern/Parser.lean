import DocStore.Error
import DocStore.Pattern.Meaning
import DocStore.Pattern.Reader
import DocStore.Pattern.Size

/-! # Patterns from texts

The pattern that a text writes. A text is refused if it is malformed or nested too deeply, if
it has no meaning, and if its automaton would be too large.
-/

namespace DocStore.Pattern

/-- The greatest size of a pattern's automaton, in bytes. -/
def sizeLimit : Nat := 10 * 1 <<< 20

def read? (source : String) : Option Pattern := do
  let part ← PatternPart.read? source
  let (tree, _) ← part.meaning? .initial
  if tree.size ≤ sizeLimit then some ⟨source, tree⟩ else none

/-- The pattern that a text writes, or the error of a text that writes none. -/
def parse (source : String) : Except Error Pattern :=
  match read? source with
  | some pattern => .ok pattern
  | none => .error (.config (.invalidPattern source))

end DocStore.Pattern
