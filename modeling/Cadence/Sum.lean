namespace Cadence

/-!
# Sums

The sum of a list of natural numbers: sizes of texts, weights of jobs.
-/

/-- The sum of numbers. -/
def sumOf (numbers : List Nat) : Nat :=
  numbers.foldr (· + ·) 0

@[simp] theorem sumOf_nil : sumOf [] = 0 := rfl

@[simp] theorem sumOf_cons (number : Nat) (numbers : List Nat) :
    sumOf (number :: numbers) = number + sumOf numbers := rfl

@[simp] theorem sumOf_append (front back : List Nat) :
    sumOf (front ++ back) = sumOf front + sumOf back := by
  induction front with
  | nil => simp
  | cons number front ih => simp [ih, Nat.add_assoc]

end Cadence
