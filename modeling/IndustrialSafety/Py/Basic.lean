import IndustrialSafety.Lib.Result
import IndustrialSafety.Lib.Exponential
import Mathlib.Algebra.Order.Floor.Defs
import Mathlib.Algebra.Order.Group.Abs
import Mathlib.Data.List.MinMax

/-!
# Python's numbers, exceptions and time

* Floats are elements of an ordered field `R`: arithmetic is exact, there is no NaN, no infinity and
  no overflow. `math.exp` and `math.log(2)` are a parameter (`Py.Math`). What only needs the operations
  asks for no more, so that it can be run on rounded numbers too.
* A raised exception is an `Exc`; a computation that may raise is a `Result`.
* An aware `datetime` is its instant in microseconds with its UTC offset (`DateTime`). Only the
  instant takes part in comparisons and differences, so code that renders no text uses `Instant`. Sums
  are unbounded; where the code can leave the years 1 to 9999 they are `checked`.
-/

namespace Py

/-- The exceptions the modelled code raises. -/
inductive Exc
  | valueError (msg : String)
  | keyError (key : String)
  | typeError (msg : String)
  | indexError
  | zeroDivisionError
  | assertionError
  | unknownSensorError (msg : String)
  | scenarioValidationError (msg : String)
  | noLastKnownResultError (msg : String)
  /-- A `datetime` before the year 1 or after the year 9999. -/
  | overflowError
  /-- A database constraint violated at flush time. -/
  | integrityError (constraint : String)
deriving DecidableEq, Repr

abbrev Result := Except Exc

/-! ## `repr` of a string -/

def hexDigit (n : Nat) : Char := if n < 10 then Char.ofNat (48 + n) else Char.ofNat (87 + n)

/-- A character inside the quotes: the backslash, the quote and the ASCII control characters are
escaped. -/
def escapeChar (quote c : Char) : String :=
  if c = quote ∨ c.toNat = 92 then "\\" ++ String.singleton c
  else if c.toNat = 9 then "\\t"
  else if c.toNat = 10 then "\\n"
  else if c.toNat = 13 then "\\r"
  else if c.toNat < 32 ∨ c.toNat = 127 then
    "\\x" ++ String.ofList [hexDigit (c.toNat / 16), hexDigit (c.toNat % 16)]
  else String.singleton c

/-- `repr(s)`, with every character from U+0080 on as printable: double quotes iff there is an
apostrophe in the text and no double quote. -/
def strRepr (s : String) : String :=
  let apostrophe := Char.ofNat 39
  let quotes := Char.ofNat 34
  let quote := if apostrophe ∈ s.toList ∧ quotes ∉ s.toList then quotes else apostrophe
  String.singleton quote ++ String.join (s.toList.map (escapeChar quote)) ++ String.singleton quote

/-- `repr` of a list of strings. -/
def reprList (xs : List String) : String := "[" ++ ", ".intercalate (xs.map strRepr) ++ "]"

/-! ## Numbers -/

/-- `math.exp` and `math.log(2)`. -/
structure Math (R : Type) [Field R] [LinearOrder R] extends Exponential R where
  ln2 : R
  ln2_pos : 0 < ln2

section
variable {R : Type} [Zero R] [Div R] [BEq R]

/-- `x / y`. -/
def div (x y : R) : Result R :=
  if y == 0 then throw .zeroDivisionError else pure (x / y)

theorem div_eq_ok [LawfulBEq R] {x y r : R} : div x y = .ok r ↔ y ≠ 0 ∧ r = x / y := by
  unfold div
  split
  case isTrue h => exact iff_of_false nofun fun hr => hr.1 (beq_iff_eq.1 h)
  case isFalse h => simp [mt beq_iff_eq.2 h, eq_comm]

end

section
variable {α R : Type} [LT R] [DecidableLT R]

/-- `max(x, y)`. -/
def maxOf (x y : R) : R := if x < y then y else x

/-- `min(x, y)`. -/
def minOf (x y : R) : R := if y < x then y else x

/-- `max(xs, key=key)`: the first of the greatest. -/
def maxBy (key : α → R) : List α → Option α
  | [] => none
  | x :: xs => some (xs.foldl (fun best y => if key best < key y then y else best) x)

/-- `abs(x)`. -/
def fabs [Zero R] [Neg R] (x : R) : R := if x < 0 then -x else x

variable [Zero R] [Add R] [Sub R] [Neg R]

/-- The loop of `sum` over floats: the total so far, and what its roundings have lost. -/
def sumLoop (total compensation : R) : List R → R
  | [] => total + compensation
  | x :: xs =>
    let next := total + x
    sumLoop next (compensation +
      if fabs total < fabs x then (x - next) + total else (total - next) + x) xs

/-- `sum(xs)`. -/
def sum (xs : List R) : R := sumLoop 0 0 xs

end

section
variable {α R : Type} [LinearOrder R]

theorem maxOf_eq (x y : R) : maxOf x y = max x y := (max_def_lt x y).symm

theorem minOf_eq (x y : R) : minOf x y = min x y := by
  rw [min_comm, min_def_lt]
  rfl

theorem maxBy_eq (key : α → R) (xs : List α) : maxBy key xs = xs.argmax key := by
  cases xs with
  | nil => rfl
  | cons x xs =>
    induction xs using List.reverseRecOn with
    | nil => rfl
    | append_singleton xs y ih =>
      rw [← List.cons_append, List.argmax_concat, ← ih, List.cons_append]
      simp only [maxBy, List.foldl_append, List.foldl_cons, List.foldl_nil]
      split <;> rfl

end

section
variable {R : Type} [CommRing R] [LinearOrder R]

theorem sumLoop_eq (total compensation : R) (xs : List R) :
    sumLoop total compensation xs = total + compensation + xs.sum := by
  induction xs generalizing total compensation with
  | nil => rw [sumLoop, List.sum_nil, add_zero]
  | cons x xs ih =>
    -- nothing is lost in a ring
    have hlost : (if fabs total < fabs x then (x - (total + x)) + total
        else (total - (total + x)) + x) = 0 := by split <;> ring
    rw [sumLoop, hlost, ih, List.sum_cons]
    ring

theorem sum_eq (xs : List R) : sum xs = xs.sum := by
  rw [sum, sumLoop_eq, zero_add, zero_add]

end

/-! ## Time -/

/-- Microseconds since the epoch. -/
abbrev Instant := Int

/-- An aware `datetime`. -/
structure DateTime where
  instant : Instant
  /-- `utcoffset()`, in microseconds. -/
  offset : Int
deriving DecidableEq, Repr

/-- The wall clocks of `datetime.min` and `datetime.max`. -/
def minWallClock : Int := -62135596800000000

def maxWallClock : Int := 253402300799999999

/-- The years 1 to 9999. -/
def DateTime.InRange (d : DateTime) : Prop :=
  minWallClock ≤ d.instant + d.offset ∧ d.instant + d.offset ≤ maxWallClock

instance (d : DateTime) : Decidable d.InRange := inferInstanceAs (Decidable (_ ∧ _))

/-- `d + timedelta(microseconds=n)`. -/
def DateTime.addMicroseconds (d : DateTime) (n : Int) : DateTime :=
  { d with instant := d.instant + n }

/-- The result of a sum, if it is a `datetime`. -/
def DateTime.checked (d : DateTime) : Result DateTime :=
  if d.InRange then pure d else throw .overflowError

theorem DateTime.checked_eq_ok {d d' : DateTime} : d.checked = .ok d' ↔ d.InRange ∧ d' = d := by
  unfold DateTime.checked
  split <;> simp_all [eq_comm]

section
variable {R : Type} [NatCast R] [IntCast R] [Div R]

/-- `delta.total_seconds()`. -/
def totalSeconds (delta : Int) : R := (delta : R) / 1000000

/-- `delta.total_seconds() / 60.0`. -/
def minutes (delta : Int) : R := totalSeconds delta / 60

end

section
variable {R : Type} [Field R] [LinearOrder R]

/-- `math.isclose(a, b, rel_tol=relTol, abs_tol=absTol)`. -/
def isclose (a b relTol absTol : R) : Prop := |a - b| ≤ max (relTol * max |a| |b|) absTol

/-- The nearest integer, ties to the even one. -/
def roundHalfEven [FloorRing R] (x : R) : Int :=
  if x - ⌊x⌋ < 1 / 2 then ⌊x⌋
  else if 1 / 2 < x - ⌊x⌋ then ⌊x⌋ + 1
  else if ⌊x⌋ % 2 = 0 then ⌊x⌋ else ⌊x⌋ + 1

/-- `timedelta(minutes=x)`, in microseconds. -/
def timedeltaMinutes [FloorRing R] (x : R) : Int := roundHalfEven (x * 60000000)

/-- `d + timedelta(minutes=x)`. -/
def DateTime.addMinutes [FloorRing R] (d : DateTime) (x : R) : DateTime :=
  { d with instant := d.instant + timedeltaMinutes x }

variable [IsStrictOrderedRing R]

theorem minutes_nonneg {d : Int} (h : 0 ≤ d) : (0 : R) ≤ minutes d := by
  have : (0 : R) ≤ (d : R) := by exact_mod_cast h
  unfold minutes totalSeconds
  positivity

theorem minutes_pos {d : Int} (h : 0 < d) : (0 : R) < minutes d := by
  have : (0 : R) < (d : R) := by exact_mod_cast h
  unfold minutes totalSeconds
  positivity

theorem minutes_nonpos {d : Int} (h : d ≤ 0) : minutes d ≤ (0 : R) := by
  have : (d : R) ≤ 0 := by exact_mod_cast h
  unfold minutes totalSeconds
  exact div_nonpos_of_nonpos_of_nonneg (div_nonpos_of_nonpos_of_nonneg this (by positivity))
    (by positivity)

theorem minutes_mono {d e : Int} (h : d ≤ e) : (minutes d : R) ≤ minutes e := by
  have : (d : R) ≤ (e : R) := by exact_mod_cast h
  unfold minutes totalSeconds
  gcongr

omit [LinearOrder R] [IsStrictOrderedRing R] in
theorem minutes_add (d e : Int) : (minutes (d + e) : R) = minutes d + minutes e := by
  unfold minutes totalSeconds
  push_cast
  ring

end

end Py
