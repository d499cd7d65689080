/-!
# Dates and times of day

Calendar dates and points in time as a source file can hold them, with their text.
-/

namespace ApiDoc

/-- A day of the calendar. -/
structure Date where
  year : Nat
  month : Nat
  day : Nat
  deriving DecidableEq, Repr

/-- A point in time; `offset` is the distance to universal time in minutes, when it is known. -/
structure Timestamp where
  date : Date
  hour : Nat
  minute : Nat
  second : Nat
  microsecond : Nat
  offset : Option Int
  deriving DecidableEq, Repr

/-- A number padded with zeros to a width. -/
def padded (width n : Nat) : String :=
  let s := toString n
  String.ofList (List.replicate (width - s.length) '0') ++ s

namespace Date

/-- Year, month and day, joined by hyphens. -/
def text (d : Date) : String :=
  s!"{padded 4 d.year}-{padded 2 d.month}-{padded 2 d.day}"

/-- Whether a year has a 29th of February. -/
def isLeap (year : Nat) : Bool := year % 4 == 0 && (year % 100 != 0 || year % 400 == 0)

/-- The number of days of a month. -/
def daysIn (year month : Nat) : Nat :=
  if month = 2 then if isLeap year then 29 else 28
  else if month ∈ [4, 6, 9, 11] then 30 else 31

/-- The number of days from the first of January of the year 1. -/
def dayNumber (d : Date) : Nat :=
  let y := d.year - 1
  y * 365 + y / 4 - y / 100 + y / 400
    + (List.range' 1 (d.month - 1)).foldl (fun n m => n + daysIn d.year m) 0 + (d.day - 1)

end Date

namespace Timestamp

/-- The sign, hours and minutes of an offset. -/
def offsetText (minutes : Int) : String :=
  let sign := if minutes < 0 then "-" else "+"
  s!"{sign}{padded 2 (minutes.natAbs / 60)}:{padded 2 (minutes.natAbs % 60)}"

/-- The date, a separator and the time of day; the fraction only when there is one. -/
def text (separator : String) (t : Timestamp) : String :=
  let fraction := if t.microsecond = 0 then "" else "." ++ padded 6 t.microsecond
  let offset := (t.offset.map offsetText).getD ""
  s!"{t.date.text}{separator}{padded 2 t.hour}:{padded 2 t.minute}:{padded 2 t.second}"
    ++ fraction ++ offset

/-- The microseconds from the start of the year 1, at the place of the clock. -/
def localInstant (t : Timestamp) : Int :=
  (((t.date.dayNumber * 24 + t.hour) * 60 + t.minute) * 60 + t.second) * 1000000 + t.microsecond

/-- Whether two timestamps are the same point in time. One with a known offset is never the same
as one without. -/
def sameInstant (a b : Timestamp) : Bool :=
  match a.offset, b.offset with
  | none, none => a.localInstant == b.localInstant
  | some x, some y => a.localInstant - x * 60000000 == b.localInstant - y * 60000000
  | _, _ => false

end Timestamp

end ApiDoc
