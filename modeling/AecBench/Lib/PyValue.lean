import Mathlib.Algebra.Order.Ring.Rat

/-!
# Python values up to equality

The values a field of type `Any` can hold, with one value for everything that compares equal:
a number is the number it stands for, and the fields of a `dict` stand in the order of their
keys. A tuple and a list with the same items are different values.

## Main definitions

* `PyValue`, `PyItems`, `PyFields` — values, sequences of values and the fields of a `dict`.
* `PyValue.dumped` — the value after a JSON document with it is written and read.
-/

mutual

/-- A Python value. -/
inductive PyValue where
  | null
  | number (value : ℚ)
  | str (value : String)
  | list (items : PyItems)
  | tuple (items : PyItems)
  | dict (fields : PyFields)

/-- The items of a list or a tuple. -/
inductive PyItems where
  | nil
  | cons (head : PyValue) (tail : PyItems)

/-- The fields of a `dict`, in the order of their keys. -/
inductive PyFields where
  | nil
  | cons (key : String) (value : PyValue) (rest : PyFields)

end

deriving instance DecidableEq for PyValue, PyItems, PyFields

instance : Inhabited PyFields := ⟨.nil⟩

mutual

/-- A JSON document has arrays only: a tuple is read back as a list. -/
def PyValue.dumped : PyValue → PyValue
  | .list items => .list items.dumped
  | .tuple items => .list items.dumped
  | .dict fields => .dict fields.dumped
  | value => value

def PyItems.dumped : PyItems → PyItems
  | .nil => .nil
  | .cons head tail => .cons head.dumped tail.dumped

def PyFields.dumped : PyFields → PyFields
  | .nil => .nil
  | .cons key value rest => .cons key value.dumped rest.dumped

end
