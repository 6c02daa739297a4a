import DocStore.Error
import DocStore.Pattern.Search

/-! # Schemas

A small language of schemas for JSON values. A schema may refer to definitions by name, its own
included, as long as a chain of references ends at another kind of schema: the parts of a value
are smaller than the value, so validation ends.
-/

namespace DocStore

inductive Schema where
  /-- An object with the declared properties; others only if additional ones are allowed. -/
  | object (properties : List (String × Schema)) (required : List String) (additional : Bool)
  /-- An array of at least some number of items. -/
  | array (items : Schema) (minItems : Nat)
  | oneOf (alternatives : List Schema)
  | number
  /-- A string, in which the pattern is found if there is one. -/
  | string (pattern : Option Pattern)
  /-- The schema that a name is defined to be. -/
  | reference (name : String)
  deriving Repr, Inhabited

namespace Schema

/-- Named schemas. -/
abbrev Definitions := List (String × Schema)

/-- A mismatch at a location, as the result of a validation. -/
def mismatch (location : Location) (reason : Mismatch) : Except Error Unit :=
  .error (.schemaMismatch location reason)

/-- The first required name that an object lacks. -/
def missing? (required : List String) (members : Members) : Option String :=
  required.find? fun name => !members.contains name

/-- The first key of an object that no property declares. -/
def undeclared? (properties : List (String × Schema)) (members : Members) : Option String :=
  members.keys.find? fun key => !properties.any fun property => property.1 == key

theorem sizeOf_lt_of_lookup {members : List (String × Json)} {key : String} {value : Json}
    (h : members.lookup key = some value) : sizeOf value < sizeOf members := by
  induction members with
  | nil => simp at h
  | cons member rest ih =>
      obtain ⟨k, v⟩ := member
      simp only [List.lookup_cons] at h
      split at h
      · cases h
        simp
        omega
      · have := ih h
        simp
        omega

mutual

/-- Check a value against a schema, reporting the first fault found. `hops` bounds the
    references followed before the next step into the value. -/
def validateWithin (definitions : Definitions) (hops : Nat) :
    (schema : Schema) → (value : Json) → Location → Except Error Unit
  | .object properties required additional, value, location =>
      match value with
      | .object members =>
          match missing? required members with
          | some name => mismatch location (.missingProperty name)
          | none =>
              match if additional then none else undeclared? properties members with
              | some key => mismatch location (.unexpectedProperty key)
              | none => validateProperties definitions properties members location
      | other => mismatch location (.wrongKind .object other.kind)
  | .array items minItems, value, location =>
      match value with
      | .array values =>
          if values.length < minItems then
            mismatch location (.tooFewItems minItems values.length)
          else validateItems definitions items values 0 location
      | other => mismatch location (.wrongKind .array other.kind)
  | .oneOf alternatives, value, location =>
      if anyAccepts definitions hops alternatives value location then .ok ()
      else mismatch location .noAlternative
  | .number, value, location =>
      match value with
      | .number _ => .ok ()
      | other => mismatch location (.wrongKind .number other.kind)
  | .string pattern, value, location =>
      match value with
      | .string text =>
          match pattern with
          | none => .ok ()
          | some pattern =>
              if pattern.isFound text then .ok ()
              else mismatch location (.patternNotFound text pattern.source)
      | other => mismatch location (.wrongKind .string other.kind)
  | .reference name, value, location =>
      match hops, definitions.lookup name with
      | hops + 1, some target => validateWithin definitions hops target value location
      | _, _ => mismatch location (.unresolvedReference name)
termination_by schema value _ => (sizeOf value, hops, sizeOf schema)

/-- Check the declared properties that an object has, in the order of their declaration. -/
def validateProperties (definitions : Definitions) :
    (properties : List (String × Schema)) → (members : Members) → Location → Except Error Unit
  | [], _, _ => .ok ()
  | (name, schema) :: rest, members, location =>
      match _h : members.lookup name with
      | some value =>
          match validateWithin definitions definitions.length schema value
              (location.member name) with
          | .ok () => validateProperties definitions rest members location
          | .error e => .error e
      | none => validateProperties definitions rest members location
termination_by properties members _ => (sizeOf members, 0, sizeOf properties)
decreasing_by
  all_goals first
    | exact Prod.Lex.left _ _ (sizeOf_lt_of_lookup _h)
    | exact Prod.Lex.right _ (Prod.Lex.right _ (by
        simp only [List.cons.sizeOf_spec, Prod.mk.sizeOf_spec]
        omega))

/-- Check the items of an array, the first of them having the given index. -/
def validateItems (definitions : Definitions) (schema : Schema) :
    (values : List Json) → (index : Nat) → Location → Except Error Unit
  | [], _, _ => .ok ()
  | value :: rest, index, location =>
      match validateWithin definitions definitions.length schema value (location.item index) with
      | .ok () => validateItems definitions schema rest (index + 1) location
      | .error e => .error e
termination_by values _ _ => (sizeOf values, 0, 0)

/-- Whether a value passes one of the alternatives. -/
def anyAccepts (definitions : Definitions) (hops : Nat) :
    (alternatives : List Schema) → (value : Json) → Location → Bool
  | [], _, _ => false
  | schema :: rest, value, location =>
      match validateWithin definitions hops schema value location with
      | .ok () => true
      | .error _ => anyAccepts definitions hops rest value location
termination_by alternatives value _ => (sizeOf value, hops, sizeOf alternatives)

end

/-- Check a value against a schema, the location naming the value in error texts. -/
def validate (definitions : Definitions) (schema : Schema) (value : Json) (location : Location) :
    Except Error Unit :=
  validateWithin definitions definitions.length schema value location

end Schema

end DocStore
