/-!
# Similar words

How much two words have in common: the characters of their longest common piece, and of the longest
common pieces to the left and to the right of it, and so on. Words are similar if three fifths of
their characters are in common pieces.
-/

namespace Farcall.Text

def commonStart : List Char → List Char → Nat
  | a :: as, b :: bs => if a == b then commonStart as bs + 1 else 0
  | _, _ => 0

structure CommonPiece where
  left : Nat
  right : Nat
  length : Nat

/-- The longest common piece; of several the first in `a`, and of these the first in `b`. -/
def longestCommon (a b : List Char) : CommonPiece :=
  (List.range a.length).foldl (fun best i =>
    (List.range b.length).foldl (fun best j =>
      let n := commonStart (a.drop i) (b.drop j)
      if best.length < n then ⟨i, j, n⟩ else best) best) ⟨0, 0, 0⟩

/-- The number of characters in common pieces. The first argument bounds the length of `a`. -/
def inCommon : Nat → List Char → List Char → Nat
  | 0, _, _ => 0
  | fuel + 1, a, b =>
    let p := longestCommon a b
    if p.length = 0 then 0
    else
      p.length + inCommon fuel (a.take p.left) (b.take p.right) +
        inCommon fuel (a.drop (p.left + p.length)) (b.drop (p.right + p.length))

def similar (a b : String) : Bool :=
  3 * (a.length + b.length) ≤ 10 * inCommon a.length a.toList b.toList

end Farcall.Text
