import Mathlib.Data.Rat.Defs
import AecBench.Lib.Text

/-!
# JSON values that come over a wire

What `json.loads` makes of bytes that somebody else sent. Its texts are sequences of code points,
and an escape may put a lone surrogate there: such a text is a `str`, but it cannot be encoded.

## Main definitions

* `Wire.CodeText` — a `str`; `Wire.CodeText.Encodable` — it has a UTF-8 encoding.
* `Wire.Value`, `Wire.get` — a value, and a field of an object.
* `Wire.Value.encodable` — `json.dumps(value, ensure_ascii=False)` can be encoded.
* `Wire.Value.eq`, `Wire.Value.finite` — the operator `==`, and what `allow_nan=False` accepts.
* `Wire.Value.dumps` — the text of `json.dumps(value, ensure_ascii=False)`.
-/

namespace Wire

/-- A Python `str`: its code points. -/
abbrev CodeText := List ℕ

/-- The text of a literal. -/
def text (s : String) : CodeText := s.toList.map Char.toNat

/-- No lone surrogate. -/
def CodeText.Encodable (t : CodeText) : Prop := t.all (fun c => c < 0xD800 || 0xDFFF < c) = true

instance (t : CodeText) : Decidable t.Encodable := inferInstanceAs (Decidable (_ = true))

/-- `not value.strip()`. -/
def CodeText.Blank (t : CodeText) : Prop :=
  t.all (fun c => Text.whiteSpace.any fun r => r.1 ≤ c && c ≤ r.2) = true

instance (t : CodeText) : Decidable t.Blank := inferInstanceAs (Decidable (_ = true))

/-- A value that `json.loads` returns; `special` is one of its numbers `NaN` and `Infinity`. -/
inductive Value where
  | null
  | bool (value : Bool)
  | int (value : ℤ)
  | float (value : ℚ)
  | special (name : String)
  | str (value : CodeText)
  | array (items : List Value)
  | object (fields : List (CodeText × Value))

/-- A `dict` from strings to values. -/
abbrev Object := List (CodeText × Value)

/-- `fields.get(key)`. -/
def get (fields : Object) (key : String) : Value := (fields.lookup (text key)).getD .null

mutual

/-- Every text of the value has an encoding. -/
def Value.encodable : Value → Bool
  | .str t => decide t.Encodable
  | .array items => itemsEncodable items
  | .object fields => fieldsEncodable fields
  | _ => true

def itemsEncodable : List Value → Bool
  | [] => true
  | v :: rest => v.encodable && itemsEncodable rest

def fieldsEncodable : List (CodeText × Value) → Bool
  | [] => true
  | (k, v) :: rest => decide k.Encodable && v.encodable && fieldsEncodable rest

end

/-- A value that is a text. -/
def Value.text? : Value → Option CodeText
  | .str t => some t
  | _ => none

/-- `value is None`. -/
def Value.isNull : Value → Bool
  | .null => true
  | _ => false

/-- A text, or `None`. -/
def optional (t : Option CodeText) : Value :=
  match t with
  | some t => .str t
  | none => .null

/-- The number a value counts as; a `bool` is an `int`. -/
def Value.number? : Value → Option ℚ
  | .bool b => some (if b then 1 else 0)
  | .int n => some n
  | .float x => some x
  | _ => none

mutual

/-- `a == b`: numbers of all types compare by value, and `NaN` equals nothing. -/
def Value.eq : Value → Value → Bool
  | .null, .null => true
  | .str s, .str t => s == t
  | .special s, .special t => s == t && s != "NaN"
  | .array xs, .array ys => itemsEq xs ys
  | .object xs, .object ys => xs.length == ys.length && fieldsEq xs ys
  | a, b =>
    match a.number?, b.number? with
    | some x, some y => x == y
    | _, _ => false

def itemsEq : List Value → List Value → Bool
  | [], [] => true
  | x :: xs, y :: ys => x.eq y && itemsEq xs ys
  | _, _ => false

/-- Every field stands with an equal value among the others. -/
def fieldsEq : List (CodeText × Value) → List (CodeText × Value) → Bool
  | [], _ => true
  | (k, v) :: rest, ys =>
    (match ys.lookup k with
      | some w => v.eq w
      | none => false) && fieldsEq rest ys

end

mutual

/-- `json.dumps(value, allow_nan=False)` accepts the value. -/
def Value.finite : Value → Bool
  | .special _ => false
  | .array items => itemsFinite items
  | .object fields => fieldsFinite fields
  | _ => true

def itemsFinite : List Value → Bool
  | [] => true
  | v :: rest => v.finite && itemsFinite rest

def fieldsFinite : List (CodeText × Value) → Bool
  | [] => true
  | (_, v) :: rest => v.finite && fieldsFinite rest

end

/-- One character of a dumped text. -/
def dumpsChar (c : ℕ) : CodeText :=
  if c = 0x22 then text "\\\""
  else if c = 0x5C then text "\\\\"
  else if c = 0x0A then text "\\n"
  else if c = 0x0D then text "\\r"
  else if c = 0x09 then text "\\t"
  else if c = 0x0C then text "\\f"
  else if c = 0x08 then text "\\b"
  else if c < 0x20 then
    text "\\u00" ++ [c / 16, c % 16].flatMap fun d => text (String.ofList [Nat.digitChar d])
  else [c]

/-- A dumped text, in quotes. -/
def dumpsText (t : CodeText) : CodeText := text "\"" ++ t.flatMap dumpsChar ++ text "\""

mutual

/-- `json.dumps(value, ensure_ascii=False)`, with the text of a float as `float.__repr__` has it. -/
def Value.dumps (floatText : ℚ → CodeText) : Value → CodeText
  | .null => text "null"
  | .bool b => text (if b then "true" else "false")
  | .int n => text (toString n)
  | .float x => floatText x
  | .special name => text name
  | .str t => dumpsText t
  | .array items => text "[" ++ dumpsItems floatText items ++ text "]"
  | .object fields => text "\x7b" ++ dumpsFields floatText fields ++ text "\x7d"

def dumpsItems (floatText : ℚ → CodeText) : List Value → CodeText
  | [] => []
  | v :: rest =>
    v.dumps floatText ++ (if rest.isEmpty then [] else text ", ") ++ dumpsItems floatText rest

def dumpsFields (floatText : ℚ → CodeText) : List (CodeText × Value) → CodeText
  | [] => []
  | (k, v) :: rest =>
    dumpsText k ++ text ": " ++ v.dumps floatText ++ (if rest.isEmpty then [] else text ", ") ++
      dumpsFields floatText rest

end

end Wire
