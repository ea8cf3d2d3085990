import IndustrialSafety.Py.Basic

/-!
# JSON documents

The value of a JSONB column as Python reads it back, with the `isinstance` checks of its readers.
-/

namespace Py

inductive Json (R : Type)
  | null
  | bool (b : Bool)
  | number (x : R)
  | string (s : String)
  | array (items : List (Json R))
  | object (fields : List (String × Json R))

/-- A `dict[str, object]`. -/
abbrev JsonObject (R : Type) := List (String × Json R)

namespace Json

variable {R : Type}

/-- `isinstance(value, str)`. -/
def string? : Json R → Option String
  | string s => some s
  | _ => none

/-- `isinstance(value, list)`. -/
def array? : Json R → Option (List (Json R))
  | array items => some items
  | _ => none

/-- `isinstance(value, dict)`. -/
def object? : Json R → Option (JsonObject R)
  | object fields => some fields
  | _ => none

/-- `float(value)` where `isinstance(value, int | float)`: a `bool` is an `int`. -/
def number? [Zero R] [One R] : Json R → Option R
  | number x => some x
  | bool b => some (if b then 1 else 0)
  | _ => none

end Json

end Py
