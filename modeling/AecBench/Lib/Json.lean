import Mathlib.Data.List.Sort
import Mathlib.Algebra.Order.Field.Rat
import AecBench.Lib.Text

/-!
# JSON values as Python sees them

The values `json.loads` can return, with the comparisons of Python. A `bool` is an `int` there,
numbers of all types compare by value, and two objects are equal when they have the same fields in
any order.

## Main definitions

* `Json` — a JSON value; a float is the rational number it stands for.
* `Json.eq`, `Json.lessThan?`, `Json.contains?` — the operators `==`, `<` and `in`.
* `Json.hasField`, `Json.setField` — the fields of an object.
* `Json.copy` — `json.loads(json.dumps(value, sort_keys=True))`.
-/

/-- A JSON value. The fields of an object are in the order in which they were set. -/
inductive Json where
  | null
  | bool (value : Bool)
  | int (value : ℤ)
  | float (value : ℚ)
  | str (value : String)
  | array (items : List Json)
  | object (fields : List (String × Json))

/-- A Python `dict` from strings to JSON values. -/
abbrev JsonObject := List (String × Json)

namespace Json

/-- `value is None`. -/
def isNull : Json → Bool
  | .null => true
  | _ => false

/-- The number a value counts as. -/
def number? : Json → Option ℚ
  | .bool b => some (if b then 1 else 0)
  | .int n => some n
  | .float x => some x
  | _ => none

/-! ## Comparisons -/

mutual

/-- `a == b`. -/
def eq : Json → Json → Bool
  | .null, .null => true
  | .str s, .str t => s == t
  | .array xs, .array ys => eqItems xs ys
  | .object xs, .object ys => xs.length == ys.length && fieldsIn xs ys
  | a, b =>
    match a.number?, b.number? with
    | some x, some y => x == y
    | _, _ => false

def eqItems : List Json → List Json → Bool
  | [], [] => true
  | x :: xs, y :: ys => eq x y && eqItems xs ys
  | _, _ => false

def fieldsIn : List (String × Json) → List (String × Json) → Bool
  | [], _ => true
  | (k, v) :: rest, ys =>
    (match ys.lookup k with
      | some w => eq v w
      | none => false) && fieldsIn rest ys

end

mutual

/-- `a < b`, or nothing when it raises a `TypeError`. Lists compare by the first items that are not
equal. -/
def lessThan? : Json → Json → Option Bool
  | .str s, .str t => some (s < t)
  | .array xs, .array ys => itemsLessThan? xs ys
  | a, b =>
    match a.number?, b.number? with
    | some x, some y => some (x < y)
    | _, _ => none

def itemsLessThan? : List Json → List Json → Option Bool
  | _, [] => some false
  | [], _ :: _ => some true
  | x :: xs, y :: ys => if eq x y then itemsLessThan? xs ys else lessThan? x y

end

/-- `a <= b`, or nothing when it raises a `TypeError`. -/
def atMost? (a b : Json) : Option Bool :=
  if eq a b && (lessThan? a b).isSome then some true else lessThan? a b

/-- A value that can be a key of a `dict`. -/
def hashable : Json → Bool
  | .array _ => false
  | .object _ => false
  | _ => true

/-- The list `t` has `s` as a part. -/
def hasPart (s : List Char) : List Char → Bool
  | [] => s.isEmpty
  | c :: cs => s.isPrefixOf (c :: cs) || hasPart s cs

/-- `item in value`, or nothing when it raises a `TypeError`. -/
def contains? (value item : Json) : Option Bool :=
  match value with
  | .str t =>
    match item with
    | .str s => some (hasPart s.toList t.toList)
    | _ => none
  | .array xs => some (xs.any (eq item))
  | .object fields =>
    if item.hashable then some (fields.any fun f => eq (.str f.1) item) else none
  | _ => none

/-! ## Objects -/

/-- `key in fields`. -/
def hasField (fields : JsonObject) (key : String) : Bool := fields.any fun f => f.1 = key

/-- `fields[key] = value`. -/
def setField (fields : JsonObject) (key : String) (value : Json) : JsonObject :=
  if hasField fields key then fields.map fun f => if f.1 = key then (key, value) else f
  else fields ++ [(key, value)]


/-! ## Copies -/

/-- The fields with their keys in order. -/
def sortKeys (fields : JsonObject) : JsonObject :=
  fields.insertionSort fun f g => f.1 ≤ g.1

mutual

/-- `json.loads(json.dumps(value, sort_keys=True, separators=(",", ":")))`. -/
def copy : Json → Json
  | .array xs => .array (copyItems xs)
  | .object fields => .object (sortKeys (copyFields fields))
  | v => v

def copyItems : List Json → List Json
  | [] => []
  | x :: xs => copy x :: copyItems xs

def copyFields : List (String × Json) → List (String × Json)
  | [] => []
  | (k, v) :: rest => (k, copy v) :: copyFields rest

end

/-- The copy of an object. -/
def copyObject (fields : JsonObject) : JsonObject := sortKeys (copyFields fields)

example : eq (.array [.bool true, .float 2]) (.array [.int 1, .int 2]) = true := by
  decide +kernel

end Json
