/-!
# Similar texts

Two texts are compared by what they have in common: the longest run of characters that both have,
then the same to the left and to the right of it. The part of all characters that is in such runs
says how similar the texts are.
-/

namespace ApiDoc.Text

/-- A run that two texts have in common. -/
structure CommonRun where
  left : Nat
  right : Nat
  length : Nat

/-- The length of what two texts begin with in common. -/
def commonStart : List Char → List Char → Nat
  | a :: as, b :: bs => if a = b then commonStart as bs + 1 else 0
  | _, _ => 0

/-- The longest common run; of several ones the first in the left text, then in the right one. -/
def longestRun (as bs : List Char) : CommonRun :=
  (List.range as.length).foldl (fun best i =>
    (List.range bs.length).foldl (fun best j =>
      let n := commonStart (as.drop i) (bs.drop j)
      if best.length < n then ⟨i, j, n⟩ else best) best) ⟨0, 0, 0⟩

/-- The number of characters in common runs, found in at most a number of steps. -/
def commonCount : Nat → List Char → List Char → Nat
  | 0, _, _ => 0
  | n + 1, as, bs =>
    let run := longestRun as bs
    if run.length = 0 then 0
    else
      commonCount n (as.take run.left) (bs.take run.right) + run.length
        + commonCount n (as.drop (run.left + run.length)) (bs.drop (run.right + run.length))

/-- Whether at least three fifths of the characters of two texts are in common runs. -/
def areSimilar (a b : String) : Bool :=
  let (as, bs) := (a.toList, b.toList)
  3 * (as.length + bs.length) ≤ 10 * commonCount as.length as bs

end ApiDoc.Text
