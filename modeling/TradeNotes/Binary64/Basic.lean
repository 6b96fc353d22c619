import TradeNotes.Binary64.Rounding

namespace TradeNotes

namespace Magnitude

/-- How many magnitudes have one binary exponent. -/
def perExponent : Nat := Nat.pow 2 52

/-- How many magnitudes are finite. -/
def count : Nat := 2047 * perExponent

/-- The binary exponent of the magnitude with a rank, the least one being zero. -/
def exponentAt (rank : Nat) : Nat := rank / perExponent - 1

/-- The whole-number significand of the magnitude with a rank. -/
def significandAt (rank : Nat) : Nat := rank - exponentAt rank * perExponent

/-- The magnitude with a rank, counted in the smallest magnitude above zero. -/
def unitsAt (rank : Nat) : Nat := significandAt rank * Nat.pow 2 (exponentAt rank)

/-- How many of the smallest magnitude above zero make one. -/
def one : Nat := Nat.pow 2 1074

/-- The rank of the magnitude nearest to a quotient, which is given in the
    smallest magnitude above zero. Of two that are equally near it is the one with
    the even significand. -/
def nearestRank (num den : Nat) : Nat :=
  let exponent := Nat.log2 (num / den) - 52
  exponent * perExponent + divNearest num (den * Nat.pow 2 exponent)

end Magnitude

/-- A finite magnitude of a binary64 number, given by its rank: how many
    magnitudes are smaller. The rank is also the bit pattern. -/
structure Magnitude where
  rank : Nat
  rank_lt : rank < Magnitude.count
  deriving DecidableEq

namespace Magnitude

/-- A magnitude, counted in the smallest magnitude above zero. -/
def units (m : Magnitude) : Nat := unitsAt m.rank

/-- The significand of a magnitude is even when its rank is. -/
def isEven (m : Magnitude) : Bool := m.rank % 2 == 0

/-- The magnitude zero. -/
def zero : Magnitude := ⟨0, by decide⟩

end Magnitude

/-- A number of the format binary64 of IEEE 754. All that is not a number is one value. -/
inductive Binary64
  | nan
  | infinite (negative : Bool)
  | finite (negative : Bool) (magnitude : Magnitude)
  deriving DecidableEq

namespace Binary64

/-- The number zero without a sign. -/
def zero : Binary64 := .finite false .zero

/-- The number with a sign whose magnitude has a rank, or the infinity when there
    are not so many finite ones. -/
def ofRank (negative : Bool) (rank : Nat) : Binary64 :=
  if h : rank < Magnitude.count then .finite negative ⟨rank, h⟩ else .infinite negative

/-- The number nearest to a quotient, which is given in the smallest magnitude above zero. -/
def nearest (negative : Bool) (num den : Nat) : Binary64 :=
  ofRank negative (Magnitude.nearestRank num den)

/-- The number nearest to a natural number. -/
def ofNat (n : Nat) : Binary64 :=
  nearest false (n * Magnitude.one) 1

/-- The number with the other sign. -/
def neg : Binary64 → Binary64
  | nan => nan
  | infinite negative => infinite !negative
  | finite negative m => finite (!negative) m

/-- The product, rounded once. Zero times an infinity is not a number. -/
def mul : Binary64 → Binary64 → Binary64
  | nan, _ | _, nan => nan
  | infinite s, infinite t => infinite (s != t)
  | infinite s, finite t m | finite s m, infinite t =>
    if m.units = 0 then nan else infinite (s != t)
  | finite s m, finite t n => nearest (s != t) (m.units * n.units) Magnitude.one

/-- The quotient, rounded once. Zero by zero and infinity by infinity are not numbers. -/
def div : Binary64 → Binary64 → Binary64
  | nan, _ | _, nan => nan
  | infinite _, infinite _ => nan
  | infinite s, finite t _ => infinite (s != t)
  | finite s _, infinite t => finite (s != t) .zero
  | finite s m, finite t n =>
    if n.units = 0 then (if m.units = 0 then nan else infinite (s != t))
    else nearest (s != t) (m.units * Magnitude.one) n.units

/-- The bit of the sign, above those of the magnitude. -/
def signBit : Nat := Nat.pow 2 63

/-- The number with a bit pattern. -/
def ofBits (bits : Nat) : Binary64 :=
  let negative := bits / signBit % 2 == 1
  let rank := bits % signBit
  if Magnitude.count < rank then nan else ofRank negative rank

/-- The bit pattern of a number. For what is not a number it is the quiet one without a sign. -/
def toBits : Binary64 → Nat
  | nan => Magnitude.count + Magnitude.perExponent / 2
  | infinite negative => negative.toNat * signBit + Magnitude.count
  | finite negative m => negative.toNat * signBit + m.rank

example : (ofNat 17).toBits = 0x4031000000000000 := by decide +kernel
example : (ofNat (2 ^ 53 + 1)).toBits = 0x4340000000000000 := by decide +kernel
example : (div (ofNat 1) (ofNat 10)).toBits = 0x3FB999999999999A := by decide +kernel
example : ofNat (10 ^ 309) = infinite false := by decide +kernel

end Binary64

end TradeNotes
