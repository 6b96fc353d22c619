import TradeNotes.Binary64.Basic

namespace TradeNotes

/-- A positive decimal number: a whole number times a power of ten. -/
structure Decimal where
  digits : Nat
  exponent : Int
  deriving DecidableEq

/-- Moves the zeros at the end of a whole number into the exponent. The fuel bounds their number. -/
def Decimal.dropZeros : Nat → Nat → Int → Decimal
  | 0, digits, exponent => ⟨digits, exponent⟩
  | fuel + 1, digits, exponent =>
    if digits % 10 = 0 then dropZeros fuel (digits / 10) (exponent + 1) else ⟨digits, exponent⟩

namespace Magnitude

/-- How many places after the point the first digit that is not zero has, for a magnitude below
    one that is not zero. -/
def leadingPlace (m : Magnitude) : Nat :=
  ((List.range 324).find? fun place => one ≤ m.units * Nat.pow 10 place).getD 324

/-- The exponent of the power of ten that a magnitude's first digit stands for. -/
def decimalExponent (m : Magnitude) : Int :=
  if one ≤ m.units then ((Nat.toDigits 10 (m.units / one)).length : Int) - 1
  else -(m.leadingPlace : Int)

/-- Whether a quotient, given in the smallest magnitude above zero, rounds to a
    magnitude: it lies between the midpoints to the neighbours, and is a midpoint only
    when the significand is even. -/
def isNearestTo (m : Magnitude) (num den : Nat) : Bool :=
  let below := (unitsAt (m.rank - 1) + m.units) * den
  let above := (m.units + unitsAt (m.rank + 1)) * den
  if m.isEven then below ≤ 2 * num && 2 * num ≤ above else below < 2 * num && 2 * num < above

/-- A magnitude divided by a power of ten, as a quotient. -/
def scaled (m : Magnitude) (exponent : Int) : Nat × Nat :=
  if 0 ≤ exponent then (m.units, one * Nat.pow 10 exponent.natAbs)
  else (m.units * Nat.pow 10 exponent.natAbs, one)

/-- Whether a whole number times a power of ten rounds to a magnitude. -/
def readsBack (m : Magnitude) (digits : Nat) (exponent : Int) : Bool :=
  if 0 ≤ exponent then m.isNearestTo (digits * Nat.pow 10 exponent.natAbs * one) 1
  else m.isNearestTo (digits * one) (Nat.pow 10 exponent.natAbs)

/-- The whole number nearest to a magnitude divided by a power of ten. -/
def nearestAt (m : Magnitude) (tie : Tie) (exponent : Int) : Nat :=
  divNearest (m.scaled exponent).1 (m.scaled exponent).2 tie

/-- The whole number, one of the two around a magnitude divided by a power of ten, whose
    product with that power rounds to the magnitude. The nearer one is preferred. -/
def digitsAt? (m : Magnitude) (tie : Tie) (exponent : Int) : Option Nat :=
  let near := m.nearestAt tie exponent
  let other := if near * (m.scaled exponent).2 ≤ (m.scaled exponent).1 then near + 1 else near - 1
  if m.readsBack near exponent then some near
  else if m.readsBack other exponent then some other
  else none

/-- The decimal number with the fewest digits that rounds to a magnitude, which is not zero. Of
    several it is the nearest one, and of two that are equally near the one that the tie says.
    Seventeen digits are always enough. -/
def shortest (m : Magnitude) (tie : Tie) : Decimal :=
  let leading := m.decimalExponent
  let found := (List.range 17).findSome? fun (more : Nat) =>
    (m.digitsAt? tie (leading - more)).map fun digits =>
      Decimal.dropZeros 17 digits (leading - more)
  found.getD (Decimal.dropZeros 17 (m.nearestAt tie (leading - 16)) (leading - 16))

end Magnitude

end TradeNotes
