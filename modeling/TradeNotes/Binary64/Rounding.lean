namespace TradeNotes

/-- Which of the two nearest whole numbers a quotient halfway between them is rounded to. -/
inductive Tie
  | toEven
  | up
  deriving DecidableEq

/-- Whether a quotient halfway above a whole number is rounded down to it. -/
def Tie.isDown : Tie → Nat → Bool
  | toEven, n => n % 2 == 0
  | up, _ => false

/-- The whole number nearest to a quotient. Of two that are equally near it is the one
    that the tie says. -/
def divNearest (num den : Nat) (tie : Tie := .toEven) : Nat :=
  let quotient := num / den
  let rest := num % den
  if 2 * rest < den ∨ (2 * rest = den ∧ tie.isDown quotient) then quotient else quotient + 1

/-- The rounded quotient is within half a unit of the quotient. -/
theorem divNearest_near {num den : Nat} {tie : Tie} (hden : 0 < den) :
    2 * num ≤ (2 * divNearest num den tie + 1) * den ∧
      2 * (divNearest num den tie * den) ≤ 2 * num + den := by
  have hdiv := Nat.div_add_mod num den
  have hlt := Nat.mod_lt num hden
  rw [Nat.mul_comm] at hdiv
  unfold divNearest
  simp only
  generalize num / den = quotient at *
  generalize num % den = rest at *
  split
  · rw [Nat.add_mul, Nat.mul_assoc]
    omega
  · rw [Nat.mul_add, Nat.add_mul, Nat.add_mul, Nat.add_mul, Nat.mul_assoc]
    omega

/-- A quotient that is a whole number is not changed. -/
theorem divNearest_mul {n den : Nat} {tie : Tie} (hden : 0 < den) :
    divNearest (n * den) den tie = n := by
  simp [divNearest, Nat.mul_div_cancel _ hden, hden]

end TradeNotes
