/-!
How much two texts have in common, for guessing which name was meant by a misspelt one.
-/

namespace Rulebook.Text

def commonStart : List Char → List Char → Nat
  | a :: as, b :: bs => if a = b then commonStart as bs + 1 else 0
  | _, _ => 0

/-- A stretch that two texts share: where it starts in each, and its length. -/
structure Overlap where
  left : Nat
  right : Nat
  length : Nat

/-- The longest stretch that two texts share; of several the one that starts first on the left,
then on the right. -/
def longestOverlap (left right : List Char) : Overlap :=
  let starts := (List.range left.length).flatMap fun i =>
    (List.range right.length).map fun j => (i, j)
  starts.foldl (fun best (i, j) =>
    let length := commonStart (left.drop i) (right.drop j)
    if best.length < length then ⟨i, j, length⟩ else best) ⟨0, 0, 0⟩

/-- The number of characters in the longest shared stretch and in those on either side of it, found
in the same way; `depth` bounds how often a side is divided again. -/
def sharedWithin : (depth : Nat) → List Char → List Char → Nat
  | 0, _, _ => 0
  | depth + 1, left, right =>
      let found := longestOverlap left right
      if found.length = 0 then 0
      else
        sharedWithin depth (left.take found.left) (right.take found.right) + found.length +
          sharedWithin depth (left.drop (found.left + found.length))
            (right.drop (found.right + found.length))

def shared (left right : List Char) : Nat := sharedWithin left.length left right

/-- Three fifths of the characters of both texts are shared. -/
def isSimilar (left right : String) : Bool :=
  3 * (left.length + right.length) ≤ 10 * shared left.toList right.toList

/-- The first text shares more of its characters with the word than the second, or as many and
comes later in the alphabet. -/
def isNearer (word first second : String) : Bool :=
  let score := fun text : String => shared text.toList word.toList
  let firstPart := score first * (second.length + word.length)
  let secondPart := score second * (first.length + word.length)
  secondPart < firstPart || (firstPart == secondPart && second < first)

/-- The three names nearest to a word among those similar to it, in the order of the alphabet. -/
def suggestions (word : String) (names : List String) : List String :=
  let similar := names.filter (isSimilar · word)
  let nearest := (similar.mergeSort fun first second => !isNearer word second first).take 3
  nearest.mergeSort fun first second => !(second < first)

end Rulebook.Text
