import ApiDoc.Number.Basic
import ApiDoc.Value.Date

/-!
# Values

What a source file or a generated document is made of: scalars, lists, tuples, sets and mappings. A
mapping keeps the order of its entries.

**Identity.** A container or a date can occur in several places of one document. Its `Label` says
which object it is: two with the same label, other than `Label.none`, are one object.

**Cycles.** A container can be among its own parts. There the part is `Value.again` with the label
of the container. `Value.entries?` and `Value.items?` give the parts of a container as values that
stand alone: what refers back to the container is the container again.

**Broken text.** A scalar of a source file can have codes that are no characters. It is a text, but
nearly everything that asks for a text refuses it.

**Keys.** Keys are compared by value: `1`, `1.0` and `true` are one key. A mapping holds each key
once, at the place of its first occurrence and with the value of its last.
-/

namespace ApiDoc

/-- Which object a container or a date is. -/
inductive Label where
  /-- An object of its own. -/
  | none
  /-- The object that the `n`-th node of a source file stands for. -/
  | source (n : Nat)
  /-- The `i`-th pair in the list that the `n`-th node of a source file stands for. -/
  | pair (n i : Nat)
  /-- The object made for a place of a generated document; the innermost step comes first. -/
  | made (place : List String)
  deriving DecidableEq, Repr

/-- A value of a source file or of a document. -/
inductive Value where
  | null
  | bool (b : Bool)
  | number (n : Number)
  | str (s : String)
  /-- A text with codes that are no characters. -/
  | brokenText (codes : List Nat)
  | date (label : Label) (d : Date)
  | timestamp (label : Label) (t : Timestamp)
  | bytes (bs : List UInt8)
  | list (label : Label) (items : List Value)
  | tuple (label : Label) (items : List Value)
  /-- Different keys. -/
  | set (label : Label) (keys : List Value)
  | map (label : Label) (entries : List (Value × Value))
  /-- The container around this place that has the label: a mapping or a list. -/
  | again (label : Label) (ofMap : Bool)
  deriving Inhabited, Repr

/-- The entries of a mapping, in order. -/
abbrev Entries := List (Value × Value)

namespace Value

/-- The integer `n` as a value. -/
abbrev int (n : Int) : Value := number (.int n)

/-- The floating-point number `x` as a value. -/
abbrev float (x : Binary64) : Value := number (.float x)

/-- A list that is no other object. -/
abbrev listOf (items : List Value) : Value := list .none items

/-- A mapping with text keys. -/
def object (entries : List (String × Value)) : Value :=
  map .none (entries.map fun (k, v) => (str k, v))

def strings (items : List String) : Value := listOf (items.map str)

/-- The number that a number or a truth value counts as. -/
def asNumber? : Value → Option Number
  | bool b => some (.int (if b then 1 else 0))
  | number n => some n
  | _ => none

/-- Whether two scalars are the same key. -/
def sameKey (a b : Value) : Bool :=
  match a, b with
  | null, null => true
  | str s, str t => s == t
  | brokenText s, brokenText t => s == t
  | bytes s, bytes t => s == t
  | date _ s, date _ t => s == t
  | timestamp _ s, timestamp _ t => s.sameInstant t
  | _, _ =>
    match a.asNumber?, b.asNumber? with
    | some x, some y => x.isSame y
    | _, _ => false

/-- Whether a value is empty, zero or absent. -/
def isFalsy : Value → Bool
  | null => true
  | bool b => !b
  | number n => n.sameValue (.int 0)
  | str s => s.isEmpty
  | bytes bs => bs.isEmpty
  | list _ items | tuple _ items | set _ items => items.isEmpty
  | map _ entries => entries.isEmpty
  | brokenText _ | date .. | timestamp .. | again .. => false

/-- The name of a value's type. -/
def typeName : Value → String
  | null => "NoneType"
  | bool _ => "bool"
  | number (.int _) => "int"
  | number (.float _) => "float"
  | str _ | brokenText _ => "str"
  | date .. => "date"
  | timestamp .. => "datetime"
  | bytes _ => "bytes"
  | list .. | again _ false => "list"
  | tuple .. => "tuple"
  | set .. => "set"
  | map .. | again _ true => "dict"

/-- The name of a value's type together with the place that the type is defined in. -/
def qualifiedTypeName : Value → String
  | date .. => "datetime.date"
  | timestamp .. => "datetime.datetime"
  | v => v.typeName

/-- The number of levels of a value. -/
def depth : Value → Nat
  | list _ items | tuple _ items => 1 + depthItems items
  | map _ entries => 1 + depthEntries entries
  | _ => 1
where
  depthItems : List Value → Nat
    | [] => 0
    | v :: vs => max v.depth (depthItems vs)
  depthEntries : List (Value × Value) → Nat
    | [] => 0
    | (_, v) :: es => max v.depth (depthEntries es)

/-- The number of containers in a value, at least one. -/
def size : Value → Nat
  | list _ items | tuple _ items => 1 + sizeItems items
  | map _ entries => 1 + sizeEntries entries
  | _ => 1
where
  sizeItems : List Value → Nat
    | [] => 0
    | v :: vs => v.size + sizeItems vs
  sizeEntries : List (Value × Value) → Nat
    | [] => 0
    | (_, v) :: es => v.size + sizeEntries es

/-- Whether a value has an integer that is too long for decimal digits. -/
def hasLongInteger : Value → Bool
  | number (.int n) => !Number.hasDecimalText n
  | list _ items | tuple _ items | set _ items => inItems items
  | map _ entries => inEntries entries
  | _ => false
where
  inItems : List Value → Bool
    | [] => false
    | v :: vs => v.hasLongInteger || inItems vs
  inEntries : List (Value × Value) → Bool
    | [] => false
    | (k, v) :: es => k.hasLongInteger || v.hasLongInteger || inEntries es

/-! ## Parts -/

mutual

/-- Puts a container where a part of it refers back to it. -/
def refill (label : Label) (whole : Value) : Value → Value
  | again l ofMap => if l = label then whole else again l ofMap
  | list l items => if l = label then list l items else list l (refillItems label whole items)
  | tuple l items => tuple l (refillItems label whole items)
  | map l entries =>
    if l = label then map l entries else map l (refillEntries label whole entries)
  | v => v

/-- Puts a container where items of a part refer back to it. -/
def refillItems (label : Label) (whole : Value) : List Value → List Value
  | [] => []
  | v :: vs => refill label whole v :: refillItems label whole vs

/-- Puts a container where values of a part refer back to it. -/
def refillEntries (label : Label) (whole : Value) : List (Value × Value) → List (Value × Value)
  | [] => []
  | (k, v) :: es => (k, refill label whole v) :: refillEntries label whole es

end

/-- The entries of a mapping. -/
def entries? : Value → Option Entries
  | map .none es => some es
  | map l es => some (refillEntries l (map l es) es)
  | _ => Option.none

def listItems? : Value → Option (List Value)
  | list .none vs => some vs
  | list l vs => some (refillItems l (list l vs) vs)
  | _ => Option.none

/-- The items of a list, a tuple or a set. -/
def items? : Value → Option (List Value)
  | tuple _ vs | set _ vs => some vs
  | v => v.listItems?

/-- The label of a value; a scalar other than a date has none. -/
def label : Value → Label
  | list l _ | tuple l _ | set l _ | map l _ | date l _ | timestamp l _ | again l _ => l
  | _ => .none

end Value

namespace Entries

/-- The value at a text key. -/
def get? (entries : Entries) (key : String) : Option Value :=
  match entries with
  | [] => none
  | (.str k, v) :: rest => if k = key then some v else get? rest key
  | _ :: rest => get? rest key

/-- Whether a text key is there. -/
def has (entries : Entries) (key : String) : Bool := (entries.get? key).isSome

/-- Sets the value at a key: in place when the key is there, otherwise at the end. -/
def put (entries : Entries) (key value : Value) : Entries :=
  match entries with
  | [] => [(key, value)]
  | (k, v) :: rest =>
    if k.sameKey key then (k, value) :: rest else (k, v) :: put rest key value

/-- The mapping that a list of entries denotes: a key stays where it first stood, and its last
value counts. -/
def ofList (entries : List (Value × Value)) : Entries :=
  entries.foldl (fun es (k, v) => es.put k v) []

end Entries

/-- Sets the value at a name: in place when the name is there, otherwise at the end. -/
def putNamed {α : Type} (name : String) (value : α) : List (String × α) → List (String × α)
  | [] => [(name, value)]
  | (k, v) :: rest => if k = name then (k, value) :: rest else (k, v) :: putNamed name value rest

def getNamed? {α : Type} (name : String) : List (String × α) → Option α
  | [] => none
  | (k, v) :: rest => if k = name then some v else getNamed? name rest

end ApiDoc
