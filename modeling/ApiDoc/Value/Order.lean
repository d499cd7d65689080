import ApiDoc.Value.Equality

/-!
# The order of values, and repetitions

Values of one type may have an order: numbers, texts, byte strings, dates, and lists item by item.
Sets are ordered by inclusion, which is no order of all of them.

**Repetitions.** Whether a list holds a value twice is told by sorting it and looking at neighbours,
as far as all comparisons of the sorting have an answer, and otherwise by comparing each value with
each other. Where the order is none of all values, neighbours can miss a repetition.
-/

namespace ApiDoc.Value

/-- Whether one code comes before another, the first difference counting. -/
def codesBefore : List Nat → List Nat → Bool
  | [], ys => !ys.isEmpty
  | _ :: _, [] => false
  | x :: xs, y :: ys => if x = y then codesBefore xs ys else x < y

def codes? : Value → Option (List Nat)
  | str s => some (s.toList.map Char.toNat)
  | brokenText cs => some cs
  | _ => none

/-- Whether a point in time is before another; there is no answer when only one has an offset. -/
def isEarlier? (a b : Timestamp) : Option Bool :=
  match a.offset, b.offset with
  | none, none => some (a.localInstant < b.localInstant)
  | some x, some y => some (a.localInstant - x * 60000000 < b.localInstant - y * 60000000)
  | _, _ => none

/-- The order of values without items. -/
def scalarBefore? (v w : Value) : Option Bool :=
  match v, w with
  | bytes bs, bytes cs => some (codesBefore (bs.map (·.toNat)) (cs.map (·.toNat)))
  | date _ d, date _ e => some (d.dayNumber < e.dayNumber)
  | timestamp _ t, timestamp _ u => isEarlier? t u
  | set _ vs, set _ ws =>
    some (vs.length < ws.length && vs.all fun v => ws.any v.sameKey)
  | v, w =>
    match v.asNumber?, w.asNumber?, v.codes?, w.codes? with
    | some m, some n, _, _ => some (n.exceeds m)
    | _, _, some cs, some ds => some (codesBefore cs ds)
    | _, _, _, _ => none

mutual

/-- Whether a value comes before another, if they have an order. -/
def before? : Value → Value → Option Bool
  | list _ vs, w => match w with
    | list _ ws => itemsBefore? vs ws
    | _ => none
  | tuple _ vs, w => match w with
    | tuple _ ws => itemsBefore? vs ws
    | _ => none
  | v, w => scalarBefore? v w

/-- Whether items come before others: the first two that differ count. -/
def itemsBefore? : List Value → List Value → Option Bool
  | [], ws => some (!ws.isEmpty)
  | v :: vs, ws => match ws with
    | [] => some false
    | w :: ws => if v.equals .object w then itemsBefore? vs ws else before? v w

end

/-- Whether a value comes before another in a list; truth values have no order. -/
def precedes? (v w : Value) : Option Bool :=
  match v, w with
  | bool _, _ | _, bool _ => none
  | v, w => v.before? w

/-! ## Sorting -/

/-- The run at the front of a list after `last`, in which a value precedes the one before it exactly
when the run is a `falling` one, and the rest. -/
def run? (falling : Bool) (last : Value) : List Value → Option (List Value × List Value)
  | [] => some ([], [])
  | v :: vs => do
    if (← v.precedes? last) = falling then
      let (run, rest) ← run? falling v vs
      return (v :: run, rest)
    else return ([], v :: vs)

/-- The place for a value among sorted ones, between `low` and `high`, by halving within a number of
steps. -/
def placeFor? (sorted : Array Value) (v : Value) (low high : Nat) : Nat → Option Nat
  | 0 => some low
  | fuel + 1 =>
    let middle := (low + high) / 2
    if low < high then
      match sorted[middle]? with
      | none => some low
      | some w => do
        if ← v.precedes? w then placeFor? sorted v low middle fuel
        else placeFor? sorted v (middle + 1) high fuel
    else some low

/-- The values in order: the run at the front, turned when it falls, and the others put in one by
one. -/
def sort? : List Value → Option (List Value)
  | v :: w :: vs => do
    let falling ← w.precedes? v
    let (run, rest) ← run? falling w vs
    let front := v :: w :: run
    let start := (if falling then front.reverse else front).toArray
    let sorted ← rest.foldlM (fun sorted v => do
      let i ← placeFor? sorted v 0 sorted.size (sorted.size + 1)
      return sorted.insertIdxIfInBounds i v) start
    return sorted.toList
  | vs => some vs

/-- Whether no two neighbours are equal as data. -/
def neighboursDiffer : List Value → Bool
  | v :: w :: vs => !v.agrees w && neighboursDiffer (w :: vs)
  | _ => true

/-- Whether no two values of a list are equal as data. -/
def allDiffer : List Value → Bool
  | [] => true
  | v :: vs => !vs.any v.agrees && allDiffer vs

/-- Whether a list shows no repetition. -/
def areDistinct (vs : List Value) : Bool :=
  match sort? vs with
  | some sorted => neighboursDiffer sorted
  | none => allDiffer vs

end ApiDoc.Value
