/-!
# Names of Hangul syllables

The name of a syllable is made from those of its parts: a leading consonant, a vowel and a trailing
consonant, of which the consonants can be silent. The parts are read from the left, each as long as
possible.
-/

namespace ApiDoc.Text.CharacterName.Hangul

/-- The leading consonants. -/
def leads : List String :=
  ["G", "GG", "N", "D", "DD", "R", "M", "B", "BB", "S", "SS", "", "J", "JJ", "C", "K", "T", "P",
    "H"]

def vowels : List String :=
  ["A", "AE", "YA", "YAE", "EO", "E", "YEO", "YE", "O", "WA", "WAE", "OE", "YO", "U", "WEO", "WE",
    "WI", "YU", "EU", "YI", "I"]

/-- The trailing consonants. -/
def trails : List String :=
  ["", "G", "GG", "GS", "N", "NJ", "NH", "D", "L", "LG", "LM", "LB", "LS", "LT", "LP", "LH", "M",
    "B", "BS", "S", "SS", "NG", "J", "C", "K", "T", "P", "H"]

/-- The place of the longest part that a text begins with, and the text behind it. -/
def longest? (parts : List String) (cs : List Char) : Option (Nat × List Char) :=
  let fitting := parts.zipIdx.filter fun (p, _) => p.toList.isPrefixOf cs
  let better (best : Option (String × Nat)) (p : String × Nat) : Option (String × Nat) :=
    match best with
    | some b => if b.1.length < p.1.length then some p else some b
    | none => some p
  (fitting.foldl better none).map fun (p, i) => (i, cs.drop p.length)

def syllable? (name : List Char) : Option Nat := do
  let (lead, rest) ← longest? leads name
  let (vowel, rest) ← longest? vowels rest
  let (trail, rest) ← longest? trails rest
  if rest.isEmpty then some (0xac00 + (lead * 21 + vowel) * 28 + trail) else none

end ApiDoc.Text.CharacterName.Hangul
