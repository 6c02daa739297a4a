import DocStore.Unicode.Age
import DocStore.Unicode.Division
import DocStore.Unicode.Property
import DocStore.Unicode.ScriptExtension

/-! # Sets of characters by name

Looking up properties, categories, scripts and the like by names, which may be written in any
case and with or without blanks, hyphens and underscores.
-/

namespace DocStore.Unicode

/-- A name without the differences that do not count. A leading "is" does not count either,
    unless only a "c" follows it, which would make another name of it. -/
def looseName (name : List Char) : List Char :=
  let bare (text : List Char) : List Char :=
    (text.filter fun c => c.toNat < 128 && c != ' ' && c != '_' && c != '-').map Char.toLower
  match name with
  | i :: s :: rest =>
      if i.toLower = 'i' ∧ s.toLower = 's' ∧ bare rest ≠ ['c'] then bare rest else bare name
  | _ => bare name

/-- Whether a name is the one that a text writes. -/
def isWrittenAs (text : List Char) (name : String) : Bool :=
  looseName name.toList == looseName text

/-- The set that goes by a single name: a property, a category or a script, in this order. The
    names that are short for a category and for a property of another kind mean the
    category. -/
def namedSet? (text : List Char) : Option CharSet :=
  let isName := isWrittenAs text
  (propertySet? isName).orElse fun _ => (categorySet? isName).orElse fun _ => scriptSet? isName

/-- The set of the characters for which a property that has several values has a given one. -/
def valueSet? (property value : List Char) : Option CharSet :=
  let isProperty := isWrittenAs property
  let isValue := isWrittenAs value
  if isProperty "gc" || isProperty "General_Category" then categorySet? isValue
  else if isProperty "sc" || isProperty "Script" then scriptSet? isValue
  else if isProperty "scx" || isProperty "Script_Extensions" then scriptExtensionSet? isValue
  else if isProperty "age" then ageSet? isValue
  else if isProperty "GCB" || isProperty "Grapheme_Cluster_Break" then clusterBreakSet? isValue
  else if isProperty "WB" || isProperty "Word_Break" then wordBreakSet? isValue
  else if isProperty "SB" || isProperty "Sentence_Break" then sentenceBreakSet? isValue
  else none

end DocStore.Unicode
