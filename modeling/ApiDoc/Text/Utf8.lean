/-!
# Text in bytes

A file holds text in UTF-8. `Text.decode` gives its characters, or the first run of bytes that is
no character: the longest beginning of one that is there, at least one byte.

**Lines.** A file may end its lines with a carriage return, a line feed, or both in this order.
`Text.unifyLines` makes each of them a line feed.
-/

namespace ApiDoc.Text

/-- What is wrong with a run of bytes. -/
inductive DecodeReason where
  /-- No character starts with the byte. -/
  | start
  /-- The character that the bytes begin is not continued. -/
  | continuation
  /-- The bytes end within a character. -/
  | unexpectedEnd
  deriving DecidableEq, Repr

/-- The words for a reason. -/
def DecodeReason.message : DecodeReason → String
  | start => "invalid start byte"
  | continuation => "invalid continuation byte"
  | unexpectedEnd => "unexpected end of data"

/-- Bytes that are not text: where they stand, the first of them and how many they are. -/
structure DecodeError where
  position : Nat
  first : UInt8
  count : Nat
  reason : DecodeReason
  deriving DecidableEq, Repr

/-- The sentence about bytes that are not text. -/
def DecodeError.message (e : DecodeError) : String :=
  let place :=
    if e.count = 1 then
      let code := String.ofList ((Nat.toDigits 16 (256 + e.first.toNat)).drop 1)
      s!"byte 0x{code} in position {e.position}"
    else s!"bytes in position {e.position}-{e.position + e.count - 1}"
  let reason := e.reason.message
  s!"'utf-8' codec can't decode {place}: {reason}"

/-- How a character goes on after its first byte: the bounds of the second byte, the number of
bytes that follow it, and the bits of the first byte that count. -/
structure Lead where
  low : Nat
  high : Nat
  more : Nat
  bits : Nat

/-- The lead that a byte is, if it is one. -/
def lead? (b : Nat) : Option Lead :=
  if b < 0xC2 then none
  else if b < 0xE0 then some ⟨0x80, 0xBF, 0, b - 0xC0⟩
  else if b = 0xE0 then some ⟨0xA0, 0xBF, 1, 0⟩
  else if b = 0xED then some ⟨0x80, 0x9F, 1, 0xD⟩
  else if b < 0xF0 then some ⟨0x80, 0xBF, 1, b - 0xE0⟩
  else if b = 0xF0 then some ⟨0x90, 0xBF, 2, 0⟩
  else if b < 0xF4 then some ⟨0x80, 0xBF, 2, b - 0xF0⟩
  else if b = 0xF4 then some ⟨0x80, 0x8F, 2, 4⟩
  else none

/-- A character that is still open: where it began, its first byte, the bytes read, the bounds of
the next byte, the number of bytes still to come after that one, and the bits so far. -/
structure OpenChar where
  position : Nat
  first : UInt8
  count : Nat
  low : Nat
  high : Nat
  more : Nat
  bits : Nat

/-- The characters from a position on, with a character open or not. -/
def decodeFrom (position : Nat) (open_ : Option OpenChar) :
    List UInt8 → Except DecodeError (List Char)
  | [] =>
    match open_ with
    | none => .ok []
    | some o => .error ⟨o.position, o.first, o.count, .unexpectedEnd⟩
  | b :: bs =>
    let n := b.toNat
    match open_ with
    | none =>
      if n < 0x80 then (Char.ofNat n :: ·) <$> decodeFrom (position + 1) none bs
      else
        match lead? n with
        | none => .error ⟨position, b, 1, .start⟩
        | some l =>
          decodeFrom (position + 1) (some ⟨position, b, 1, l.low, l.high, l.more, l.bits⟩) bs
    | some o =>
      if o.low ≤ n ∧ n ≤ o.high then
        let bits := o.bits * 64 + (n - 0x80)
        match o.more with
        | 0 => (Char.ofNat bits :: ·) <$> decodeFrom (position + 1) none bs
        | more + 1 =>
          -- Only the first of the bytes behind has bounds of its own.
          decodeFrom (position + 1)
            (some { o with count := o.count + 1, low := 0x80, high := 0xBF, more, bits }) bs
      else .error ⟨o.position, o.first, o.count, .continuation⟩

/-- The characters of a byte string. -/
def decode (bs : List UInt8) : Except DecodeError (List Char) := decodeFrom 0 none bs

/-- The text with every line ended by a line feed. -/
def unifyLines : List Char → List Char
  | '\r' :: '\n' :: cs => '\n' :: unifyLines cs
  | c :: cs => (if c = '\r' then '\n' else c) :: unifyLines cs
  | [] => []

end ApiDoc.Text
