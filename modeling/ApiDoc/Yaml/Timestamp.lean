import ApiDoc.Text.Digits
import ApiDoc.Value.Date
import ApiDoc.Yaml.Character
import ApiDoc.Yaml.Error

/-!
# Points in time

A point in time is a date, or a date and a time of day after a `T` or blanks, which can have a
fraction of a second and a distance to universal time. First its parts are read as they are
written; a second step asks whether there is such a day and such a time.
-/

namespace ApiDoc.Yaml

/-- The time of day as it is written. -/
structure WrittenTime where
  hour : Nat
  minute : Nat
  second : Nat
  fraction : List Char
  /-- The distance to universal time: its sign, hours and minutes. -/
  zone : Option (Bool × Nat × Nat)

/-- A point in time as it is written. -/
structure WrittenDate where
  year : Nat
  month : Nat
  day : Nat
  /-- Whether the month and the day have two digits each. -/
  padded : Bool
  time : Option WrittenTime

namespace WrittenDate

/-- Between `least` and `most` digits, as many as there are. -/
def digits (least most : Nat) (cs : List Char) : Option (List Char × List Char) :=
  let ds := (cs.take most).takeWhile Char.isDigit
  if least ≤ ds.length then some (ds, cs.drop ds.length) else none

/-- The text after a character. -/
def after (c : Char) : List Char → Option (List Char)
  | d :: cs => if d = c then some cs else none
  | [] => none

/-- What stands between a date and a time. -/
def separator : List Char → Option (List Char)
  | c :: cs =>
    if c = 'T' ∨ c = 't' then some cs
    else if isBlank c then some (cs.dropWhile isBlank)
    else none
  | [] => none

/-- A distance to universal time up to the end of the text, if there is one. -/
def readZone (cs : List Char) : Option (Option (Bool × Nat × Nat)) :=
  match cs, cs.dropWhile isBlank with
  | [], _ => some none
  | _, ['Z'] => some (some (false, 0, 0))
  | _, sign :: ds =>
    if sign = '+' ∨ sign = '-' then do
      let (hour, rest) ← digits 1 2 ds
      match rest with
      | [] => return some (sign = '-', Text.decimal hour, 0)
      | rest =>
        let (minute, rest) ← digits 2 2 (← after ':' rest)
        if rest.isEmpty then return some (sign = '-', Text.decimal hour, Text.decimal minute)
        else none
    else none
  | _, [] => none

/-- A time of day up to the end of the text. -/
def readTime (cs : List Char) : Option WrittenTime := do
  let (hour, cs) ← digits 1 2 (← separator cs)
  let (minute, cs) ← digits 2 2 (← after ':' cs)
  let (second, cs) ← digits 2 2 (← after ':' cs)
  let (fraction, cs) := match cs with
    | '.' :: ds => (ds.takeWhile Char.isDigit, ds.dropWhile Char.isDigit)
    | cs => ([], cs)
  return {
    hour := Text.decimal hour, minute := Text.decimal minute
    second := Text.decimal second, fraction
    zone := ← readZone cs }

/-- The parts of a text that writes a point in time. -/
def ofText? (cs : List Char) : Option WrittenDate := do
  let (year, cs) ← digits 4 4 cs
  let (month, cs) ← digits 1 2 (← after '-' cs)
  let (day, cs) ← digits 1 2 (← after '-' cs)
  let time ← if cs.isEmpty then pure none else some <$> readTime cs
  return {
    year := Text.decimal year, month := Text.decimal month, day := Text.decimal day
    padded := month.length = 2 && day.length = 2, time }

/-- The day of a written date. -/
def toDate (w : WrittenDate) : Except ScalarError Date :=
  if w.year < 1 then .error (.range (.year w.year))
  else if w.month < 1 ∨ 12 < w.month then .error (.range .month)
  else if w.day < 1 ∨ Date.daysIn w.year w.month < w.day then .error (.range .day)
  else .ok ⟨w.year, w.month, w.day⟩

/-- The microseconds of a fraction: its first six digits. -/
def microseconds (fraction : List Char) : Nat :=
  let ds := fraction.take 6
  Text.decimal (ds ++ List.replicate (6 - ds.length) '0')

/-- A distance to universal time in minutes, which is less than a day. -/
def toOffset (negative : Bool) (hours minutes : Nat) : Except ScalarError Int :=
  let total : Int := hours * 60 + minutes
  let offset := if negative then -total else total
  if 1440 ≤ total then .error (.offset (offset.fdiv 1440) ((offset.fmod 1440).toNat * 60))
  else .ok offset

/-- The point in time of a written date with a time of day. -/
def toTimestamp (w : WrittenDate) (t : WrittenTime) : Except ScalarError Timestamp := do
  let offset ← match t.zone with
    | none => pure none
    | some (negative, hours, minutes) => some <$> toOffset negative hours minutes
  let date ← w.toDate
  if 23 < t.hour then throw (.range .hour)
  else if 59 < t.minute then throw (.range .minute)
  else if 59 < t.second then throw (.range .second)
  else
    return {
      date, hour := t.hour, minute := t.minute, second := t.second
      microsecond := microseconds t.fraction, offset }

end WrittenDate

end ApiDoc.Yaml
