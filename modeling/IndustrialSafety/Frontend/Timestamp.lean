import IndustrialSafety.Lib.Calendar
import IndustrialSafety.Lib.Numeral

/-!
# Timestamps of the API

The ISO 8601 texts in which the API emits aware datetimes: what a wall clock shows, six digits of
microseconds unless they are zero, and `Z` or an offset.
-/

namespace Frontend

open Calendar Numeral

inductive UtcOffset
  | utc
  | offset (negative : Bool) (hours minutes : ℕ) (hours_lt : hours < 24) (minutes_lt : minutes < 60)

namespace UtcOffset

/-- The offset in minutes. -/
def minutes : UtcOffset → ℤ
  | utc => 0
  | offset negative hours minutes _ _ =>
    if negative then -(hours * 60 + minutes : ℕ) else (hours * 60 + minutes : ℕ)

def chars : UtcOffset → List Char
  | utc => ['Z']
  | offset negative hours minutes _ _ =>
    (if negative then '-' else '+') :: padded 2 hours ++ ':' :: padded 2 minutes

end UtcOffset

structure Timestamp where
  wall : Wall
  micros : ℕ
  offset : UtcOffset
  year_lt : wall.date.year < 10000
  micros_lt : micros < 1000000

namespace Timestamp

/-- The midnight before 1 January 1970. -/
def epochSeconds : ℕ := 719163 * 86400

/-- The microseconds since the epoch. -/
def instant (t : Timestamp) : ℤ :=
  (t.wall.seconds - epochSeconds - t.offset.minutes * 60) * 1000000 + t.micros

/-- What stands behind the seconds. -/
def suffix (t : Timestamp) : List Char :=
  (if t.micros = 0 then [] else '.' :: padded 6 t.micros) ++ t.offset.chars

def chars (t : Timestamp) : List Char :=
  padded 4 t.wall.date.year ++ '-' :: padded 2 t.wall.date.month ++ '-' :: padded 2 t.wall.date.day ++
    'T' :: padded 2 t.wall.hour ++ ':' :: padded 2 t.wall.minute ++ ':' :: padded 2 t.wall.second ++
      t.suffix

def text (t : Timestamp) : String := String.ofList t.chars

end Timestamp

end Frontend
