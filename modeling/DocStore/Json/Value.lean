import DocStore.Number.Binary64

/-! # JSON values

Values as the server exchanges them: object members keep the order in which they were written,
and a number is either an integer of the exchange range or a finite double.
-/

namespace DocStore

/-- A JSON number: an integer from `-2 ^ 63` up to `2 ^ 64 - 1`, or a finite double. An integer
    and a double are different numbers even when their values agree. -/
inductive JsonNumber where
  | integer (value : Int) (lower : -9223372036854775808 ≤ value)
      (upper : value < 18446744073709551616)
  | double (value : Binary64)
  deriving DecidableEq, Repr

namespace JsonNumber

/-- The integer as a number, if it is in the exchange range. -/
def ofInt? (value : Int) : Option JsonNumber :=
  if h : -9223372036854775808 ≤ value ∧ value < 18446744073709551616 then
    some (.integer value h.1 h.2)
  else none

def ofUInt64 (n : UInt64) : JsonNumber :=
  .integer n.toNat (by omega) (by have := n.toNat_lt; omega)

def ofInt64 (n : Int64) : JsonNumber :=
  .integer n.toInt (by have := n.le_toInt; omega) (by have := n.toInt_lt; omega)

/-- The number 1 for yes, 0 for no. -/
def ofFlag (flag : Bool) : JsonNumber :=
  if flag then .integer 1 (by decide) (by decide) else .integer 0 (by decide) (by decide)

def minusOne : JsonNumber :=
  .integer (-1) (by decide) (by decide)

/-- The nearest double. -/
def toDouble? : JsonNumber → Option Binary64
  | .integer value _ _ => Binary64.ofInt? value
  | .double value => some value

/-- The number as a non-negative integer. A double is none, whatever its value. -/
def toNat? : JsonNumber → Option Nat
  | .integer (.ofNat n) _ _ => some n
  | .integer (.negSucc _) _ _ => none
  | .double _ => none

/-- The number as an integer between `-2 ^ 63` and `2 ^ 63 - 1`. A double is none, whatever its
    value. -/
def toSigned? : JsonNumber → Option Int
  | .integer value _ _ => if value < 9223372036854775808 then some value else none
  | .double _ => none

end JsonNumber

inductive Json where
  | null
  | bool (value : Bool)
  | number (value : JsonNumber)
  | string (value : String)
  | array (items : List Json)
  | object (members : List (String × Json))
  deriving Repr, Inhabited

/-- The members of an object, in the order of their first mention. -/
abbrev Members := List (String × Json)

namespace Members

def find? (members : Members) (key : String) : Option Json :=
  members.lookup key

def contains (members : Members) (key : String) : Bool :=
  members.any fun member => member.1 == key

def keys (members : Members) : List String :=
  members.map Prod.fst

/-- Give a key a value. A key that is present keeps its position; a new one goes to the end. -/
def insert : Members → String → Json → Members
  | [], key, value => [(key, value)]
  | (k, v) :: rest, key, value =>
      if k = key then (k, value) :: rest else (k, v) :: insert rest key value

/-- Remove the first member of a key, the others staying in order. -/
def erase : Members → String → Members
  | [], _ => []
  | (k, v) :: rest, key => if k = key then rest else (k, v) :: erase rest key

/-- Insert members one after the other. -/
def extend (members additions : Members) : Members :=
  additions.foldl (fun acc member => acc.insert member.1 member.2) members

/-- The members after inserting the given pairs in order: a repeated key keeps its first
    position and its last value. -/
def ofPairs (pairs : List (String × Json)) : Members :=
  extend [] pairs

@[simp] theorem insert_nil (key : String) (value : Json) :
    insert [] key value = [(key, value)] := rfl

@[simp] theorem find?_nil (key : String) : find? [] key = none := rfl

@[simp] theorem ofPairs_nil : ofPairs [] = [] := rfl

end Members

namespace Json

/-- The classes of values, as error texts name them. -/
inductive Kind where
  | null
  | bool
  | number
  | string
  | array
  | object
  deriving DecidableEq, Repr

def Kind.text : Kind → String
  | .null => "null"
  | .bool => "bool"
  | .number => "number"
  | .string => "string"
  | .array => "array"
  | .object => "object"

def kind : Json → Kind
  | .null => .null
  | .bool _ => .bool
  | .number _ => .number
  | .string _ => .string
  | .array _ => .array
  | .object _ => .object

/-- A member of an object; no other value has members. -/
def get? : Json → String → Option Json
  | .object members, key => members.lookup key
  | _, _ => none

def asString? : Json → Option String
  | .string text => some text
  | _ => none

def asArray? : Json → Option (List Json)
  | .array items => some items
  | _ => none

def asNumber? : Json → Option JsonNumber
  | .number value => some value
  | _ => none

/-- An object with one member. -/
def single (key : String) (value : Json) : Json :=
  .object [(key, value)]

/-- The number 1 for yes, 0 for no. -/
def flag (value : Bool) : Json :=
  .number (.ofFlag value)

/-- A double as a number; `none` stands for a double that is infinite or no number at all, and
    becomes null. -/
def ofDouble? : Option Binary64 → Json
  | some value => .number (.double value)
  | none => .null

mutual

def decEq : (a b : Json) → Decidable (a = b)
  | .null, .null => isTrue rfl
  | .bool a, .bool b => decidable_of_iff (a = b) (by simp)
  | .number a, .number b => decidable_of_iff (a = b) (by simp)
  | .string a, .string b => decidable_of_iff (a = b) (by simp)
  | .array a, .array b => @decidable_of_iff _ (a = b) (by simp) (decEqItems a b)
  | .object a, .object b => @decidable_of_iff _ (a = b) (by simp) (decEqMembers a b)
  | .null, .bool _ | .null, .number _ | .null, .string _ | .null, .array _ | .null, .object _
  | .bool _, .null | .bool _, .number _ | .bool _, .string _ | .bool _, .array _
  | .bool _, .object _
  | .number _, .null | .number _, .bool _ | .number _, .string _ | .number _, .array _
  | .number _, .object _
  | .string _, .null | .string _, .bool _ | .string _, .number _ | .string _, .array _
  | .string _, .object _
  | .array _, .null | .array _, .bool _ | .array _, .number _ | .array _, .string _
  | .array _, .object _
  | .object _, .null | .object _, .bool _ | .object _, .number _ | .object _, .string _
  | .object _, .array _ => isFalse (by simp)
termination_by structural a => a

def decEqItems : (a b : List Json) → Decidable (a = b)
  | [], [] => isTrue rfl
  | [], _ :: _ => isFalse (by simp)
  | _ :: _, [] => isFalse (by simp)
  | x :: xs, y :: ys =>
      match decEq x y, decEqItems xs ys with
      | isTrue h, isTrue h' => isTrue (by rw [h, h'])
      | isFalse h, _ => isFalse (by simp [h])
      | _, isFalse h => isFalse (by simp [h])
termination_by structural a => a

def decEqMembers : (a b : List (String × Json)) → Decidable (a = b)
  | [], [] => isTrue rfl
  | [], _ :: _ => isFalse (by simp)
  | _ :: _, [] => isFalse (by simp)
  | (k, x) :: xs, (l, y) :: ys =>
      match (inferInstance : Decidable (k = l)), decEq x y, decEqMembers xs ys with
      | isTrue h, isTrue h', isTrue h'' => isTrue (by rw [h, h', h''])
      | isFalse h, _, _ => isFalse (by simp [h])
      | _, isFalse h, _ => isFalse (by simp [h])
      | _, _, isFalse h => isFalse (by simp [h])
termination_by structural a => a

end

instance : DecidableEq Json := decEq

end Json

end DocStore
