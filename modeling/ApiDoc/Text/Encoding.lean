import ApiDoc.Text.Quoted

/-!
# Text that an encoding does not have

An encoding stops at the first code that it does not have. Its error tells the whole run of such
codes.
-/

namespace ApiDoc.Text

inductive Encoding where
  | ascii
  | utf8
  deriving DecidableEq, Repr

namespace Encoding

def has (e : Encoding) (code : Nat) : Bool :=
  match e with
  | ascii => code < 0x80
  | utf8 => code.isValidChar

def name : Encoding → String
  | ascii => "ascii"
  | utf8 => "utf-8"

/-- Why a code is not in an encoding. -/
def reason : Encoding → String
  | ascii => "ordinal not in range(128)"
  | utf8 => "surrogates not allowed"

end Encoding

/-- A run of codes that an encoding does not have. -/
structure EncodingError where
  encoding : Encoding
  /-- The first code of the run. -/
  code : Nat
  position : Nat
  length : Nat
  deriving DecidableEq, Repr

/-- A code, written by its number. -/
def numberedCode (code : Nat) : String :=
  if code < 0x100 then .ofList ('\\' :: 'x' :: hex 2 code)
  else if code < 0x10000 then .ofList ('\\' :: 'u' :: hex 4 code)
  else .ofList ('\\' :: 'U' :: hex 8 code)

namespace EncodingError

/-- The first run of codes that an encoding does not have. -/
def find? (e : Encoding) (codes : List Nat) : Option EncodingError :=
  match codes.dropWhile e.has with
  | [] => none
  | code :: rest =>
    some {
      encoding := e, code, position := (codes.takeWhile e.has).length
      length := (rest.takeWhile fun c => !e.has c).length + 1 }

/-- An encoding that has all codes finds no run. -/
theorem find?_eq_none_iff {e : Encoding} {codes : List Nat} :
    find? e codes = none ↔ codes.all e.has = true := by
  have hall : codes.dropWhile e.has = [] ↔ codes.all e.has = true := by
    induction codes with
    | nil => simp
    | cons c cs ih =>
      rw [List.dropWhile_cons, List.all_cons]
      cases e.has c with
      | true => exact ih
      | false => simp
  unfold find?
  split
  · rename_i h
    exact ⟨fun _ => hall.mp h, fun _ => rfl⟩
  · rename_i h
    exact ⟨nofun, fun hcodes => by rw [hall.mpr hcodes] at h; cases h⟩

/-- The sentence about a run. -/
def message (e : EncodingError) : String :=
  let place :=
    if e.length = 1 then s!"character '{numberedCode e.code}' in position {e.position}"
    else s!"characters in position {e.position}-{e.position + e.length - 1}"
  s!"'{e.encoding.name}' codec can't encode {place}: {e.encoding.reason}"

end EncodingError

end ApiDoc.Text
