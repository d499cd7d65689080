import ApiDoc.Text.Property.Printable

/-!
# Quoted text

Messages quote the text they are about. The quote is the single one, unless the text holds a
single quote and no double one. Inside, the quote in use and the backslash are escaped, and every
character without a printed form of its own is written by its code.
-/

namespace ApiDoc.Text

/-- A number in hexadecimal digits, padded with zeros to a width. -/
def hex (width n : Nat) : List Char :=
  let ds := Nat.toDigits 16 n
  List.replicate (width - ds.length) '0' ++ ds

/-- The quote that a text is written in. -/
def quoteFor (cs : List Char) : Char :=
  if cs.contains '\'' && !cs.contains '"' then '"' else '\''

def quotedChar (quote c : Char) : List Char :=
  if c = quote ∨ c = '\\' then ['\\', c]
  else if c = '\t' then ['\\', 't']
  else if c = '\n' then ['\\', 'n']
  else if c = '\r' then ['\\', 'r']
  else if isPrintable c then [c]
  else if c.toNat < 0x100 then '\\' :: 'x' :: hex 2 c.toNat
  else if c.toNat < 0x10000 then '\\' :: 'u' :: hex 4 c.toNat
  else '\\' :: 'U' :: hex 8 c.toNat

def quotedChars (cs : List Char) : List Char :=
  let q := quoteFor cs
  q :: (cs.flatMap (quotedChar q) ++ [q])

def quoted (s : String) : String := .ofList (quotedChars s.toList)

/-- The character with a code, unless the code is that of half a pair. -/
def charOf? (code : Nat) : Option Char := if code.isValidChar then some (.ofNat code) else none

/-- Codes in quotes; one that is no character is written by its number. -/
def quotedCodes (codes : List Nat) : String :=
  let q := quoteFor (codes.filterMap charOf?)
  let one (n : Nat) : List Char := ((charOf? n).map (quotedChar q)).getD ('\\' :: 'u' :: hex 4 n)
  .ofList (q :: (codes.flatMap one ++ [q]))

/-- One byte of a quoted byte string. -/
def quotedByte (quote : Char) (b : UInt8) : List Char :=
  let c := Char.ofNat b.toNat
  if c = quote ∨ c = '\\' then ['\\', c]
  else if c = '\t' then ['\\', 't']
  else if c = '\n' then ['\\', 'n']
  else if c = '\r' then ['\\', 'r']
  else if 0x20 ≤ b.toNat ∧ b.toNat < 0x7f then [c]
  else '\\' :: 'x' :: hex 2 b.toNat

/-- A byte string in quotes, marked as one. -/
def quotedBytes (bytes : List UInt8) : String :=
  let q := quoteFor (bytes.map fun b => Char.ofNat b.toNat)
  .ofList ('b' :: q :: (bytes.flatMap (quotedByte q) ++ [q]))

end ApiDoc.Text
