/-!
Sums of natural numbers.
-/

namespace Rulebook

def sumOf (numbers : List Nat) : Nat := numbers.foldr (· + ·) 0

@[simp] theorem sumOf_nil : sumOf [] = 0 := rfl

@[simp] theorem sumOf_cons (number : Nat) (rest : List Nat) :
    sumOf (number :: rest) = number + sumOf rest := rfl

end Rulebook
