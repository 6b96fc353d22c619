import TradeNotes.Binary64.Basic
import TradeNotes.Text.Basic

namespace TradeNotes.Json

/-- A number as it is written: its sign, the digits before and after the point, and
    the exponent with whether it is negative. -/
structure NumberText where
  negative : Bool
  whole : Text
  fraction : Text
  exponent : Option (Bool × Text)

namespace NumberText

/-- The largest significand that digits are gathered in. -/
def maxSignificand : Nat := 0xFFFFFFFFFFFFFFFF

/-- Gathers digits into a significand while it has room, and gives the digits that
    have no room. -/
def gather (significand : Nat) : Text → Nat × Text
  | [] => (significand, [])
  | c :: rest =>
    let next := significand * 10 + (c.toNat - '0'.toNat)
    if maxSignificand < next then (significand, c :: rest) else gather next rest

/-- Multiplies by a power of ten, rounding at each step. A power above 10³⁰⁸ is more
    than any number but zero bears; one below 10⁻³⁰⁸ is divided out in parts. -/
def scale (x : Binary64) (exponent : Int) : Option Binary64 :=
  if exponent.natAbs ≤ 308 then
    let power := Binary64.ofNat (Nat.pow 10 exponent.natAbs)
    if 0 ≤ exponent then
      match x.mul power with
      | .infinite _ => none
      | product => some product
    else some (x.div power)
  else if x = .zero then some x
  else if 0 ≤ exponent then none
  else scale (x.div (Binary64.ofNat (Nat.pow 10 308))) (exponent + 308)
termination_by exponent.natAbs
decreasing_by omega

/-- The magnitude that a number is read as: the significand that its digits fill,
    scaled by the exponent. Digits of the whole part without room count as zeros,
    those of the fraction not at all. An exponent beyond 32 bits makes zero, unless
    it is positive and the significand is not zero. -/
def magnitude? (n : NumberText) : Option Binary64 :=
  let (gathered, unread) := gather 0 n.whole
  let (significand, dropped) := gather gathered n.fraction
  let start : Int := unread.length - ((n.fraction.length - dropped.length : Nat) : Int)
  match n.exponent with
  | none => scale (Binary64.ofNat significand) start
  | some (negative, digits) =>
    let exponent := Nat.ofDigitChars 10 digits 0
    if 0x80000000 ≤ exponent then
      if significand ≠ 0 ∧ !negative then none else some .zero
    else
      scale (Binary64.ofNat significand) (if negative then start - exponent else start + exponent)

/-- The number that is read, when it is in the range of finite numbers. -/
def value? (n : NumberText) : Option Binary64 :=
  n.magnitude?.map fun x => if n.negative then x.neg else x

end NumberText

end TradeNotes.Json
