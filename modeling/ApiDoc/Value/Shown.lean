import ApiDoc.Text.Quoted
import ApiDoc.Value.Basic

/-!
# Values in messages

A message shows a value by its constructor: text in quotes, lists in brackets, mappings in braces,
dates as the call that makes them. Dots stand for a container inside of itself. `Value.plain` is the
text that a mapping key becomes when it is used as a name: the same, except that text and dates
stand for themselves.
-/

namespace ApiDoc

/-- The offset of a point in time, as the call that makes it. -/
def Timestamp.shownOffset (minutes : Int) : String :=
  if minutes = 0 then "datetime.timezone.utc"
  else
    let days := minutes.fdiv 1440
    let seconds := minutes.fmod 1440 * 60
    let parts :=
      (if days = 0 then [] else [s!"days={days}"])
        ++ (if seconds = 0 then [] else [s!"seconds={seconds}"])
    let inner := ", ".intercalate parts
    s!"datetime.timezone(datetime.timedelta({inner}))"

/-- A point in time, as the call that makes it. -/
def Timestamp.shown (t : Timestamp) : String :=
  let clock :=
    if t.second = 0 ∧ t.microsecond = 0 then [t.hour, t.minute]
    else if t.microsecond = 0 then [t.hour, t.minute, t.second]
    else [t.hour, t.minute, t.second, t.microsecond]
  let parts := ([t.date.year, t.date.month, t.date.day] ++ clock).map toString
  let zone := match t.offset with
    | some o => [s!"tzinfo={Timestamp.shownOffset o}"]
    | none => []
  let inner := ", ".intercalate (parts ++ zone)
  s!"datetime.datetime({inner})"

namespace Value

mutual

/-- A value as messages show it. -/
def shown : Value → String
  | null => "None"
  | bool b => if b then "True" else "False"
  | number n => n.text
  | str s => Text.quoted s
  | brokenText cs => Text.quotedCodes cs
  | date _ d => s!"datetime.date({d.year}, {d.month}, {d.day})"
  | timestamp _ t => t.shown
  | bytes bs => Text.quotedBytes bs
  | list _ items => "[" ++ ", ".intercalate (shownItems items) ++ "]"
  | tuple _ items =>
    let comma := if items.length = 1 then "," else ""
    "(" ++ ", ".intercalate (shownItems items) ++ comma ++ ")"
  | set _ [] => "set()"
  | set _ (v :: vs) => "\x7b" ++ ", ".intercalate (v.shown :: shownItems vs) ++ "\x7d"
  | again _ ofMap => if ofMap then "\x7b...\x7d" else "[...]"
  | map _ entries => "\x7b" ++ ", ".intercalate (shownEntries entries) ++ "\x7d"

/-- The items of a list as messages show them. -/
def shownItems : List Value → List String
  | [] => []
  | v :: vs => v.shown :: shownItems vs

/-- The entries of a mapping as messages show them. -/
def shownEntries : List (Value × Value) → List String
  | [] => []
  | (k, v) :: es => (k.shown ++ ": " ++ v.shown) :: shownEntries es

end

/-- A key as a name. -/
def plain : Value → String
  | str s => s
  | date _ d => d.text
  | timestamp _ t => t.text " "
  | v => v.shown

end Value

end ApiDoc
