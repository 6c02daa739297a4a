import DocStore.Text.CharSet
import DocStore.Text.Digit
import DocStore.Text.Split

/-! # Listed code points

The written form of tables of code points. A listing names runs of code points in hexadecimal,
with blanks or line feeds between them: `41` is one code point, `41-5A` a range, `100-136/2`
every second code point of a range. In a listing of a mapping, `41-5A>61` maps the range to one
that begins at `61`.
-/

namespace DocStore.Unicode

/-- Code points at equal distances, and the first of those that they are mapped to. -/
structure CodeRun where
  first : Nat
  last : Nat
  step : Nat
  image : Nat
  deriving DecidableEq, Repr

namespace CodeRun

/-- The number that hexadecimal digits write; other characters count as zeros. -/
def hexNumber (digits : List Char) : Nat :=
  digits.foldl (fun number c => number * 16 + (hexValue? c).getD 0) 0

/-- The parts of a text before and after the first mark, the whole text if there is none. -/
def cutAt (mark : Char) (text : List Char) : List Char × Option (List Char) :=
  match text.span (· != mark) with
  | (whole, []) => (whole, none)
  | (before, _ :: after) => (before, some after)

/-- The run that one item of a listing names. -/
def ofItem (item : List Char) : CodeRun :=
  let (codes, image) := cutAt '>' item
  let (range, step) := cutAt '/' codes
  let (first, last) := cutAt '-' range
  { first := hexNumber first
    last := hexNumber (last.getD first)
    step := (step.map hexNumber).getD 1
    image := (image.map hexNumber).getD 0 }

def codes (run : CodeRun) : List Nat :=
  (List.range ((run.last - run.first) / run.step + 1)).map fun index =>
    run.first + index * run.step

/-- The ranges that make up a run. -/
def ranges (run : CodeRun) : List CodeRange :=
  if run.step = 1 then [⟨run.first, run.last⟩] else run.codes.map fun code => ⟨code, code⟩

/-- The code points of a run, each with the one it is mapped to. -/
def mapping (run : CodeRun) : List (Nat × Nat) :=
  run.codes.map fun code => (code, run.image + (code - run.first))

end CodeRun

def itemsOf (listing : String) : List (List Char) :=
  (splitChars ' ' (listing.toList.map fun c => if c = '\n' then ' ' else c)).filter (!·.isEmpty)

def runsOf (listing : String) : List CodeRun :=
  (itemsOf listing).map CodeRun.ofItem

def listed (listing : String) : CharSet :=
  .ofRanges ((runsOf listing).flatMap CodeRun.ranges)

def listedMapping (listing : String) : List (Nat × Nat) :=
  (runsOf listing).flatMap CodeRun.mapping

/-- The mapping to several code points each that a listing names: `DF>73_73` maps a code point to
    two. -/
def listedSequences (listing : String) : List (Nat × List Nat) :=
  (itemsOf listing).map fun item =>
    let (code, images) := CodeRun.cutAt '>' item
    (CodeRun.hexNumber code, (splitChars '_' (images.getD [])).map CodeRun.hexNumber)

/-- A set by the names that it goes by, with the listing of its code points. -/
structure NamedListing where
  names : List String
  listing : String
  deriving DecidableEq, Repr

/-- The set that goes by a name. -/
def setNamed? (table : List NamedListing) (isName : String → Bool) : Option CharSet :=
  (table.find? fun entry => entry.names.any isName).map fun entry => listed entry.listing

end DocStore.Unicode
