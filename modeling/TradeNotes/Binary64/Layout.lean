import TradeNotes.Binary64.Shortest
import TradeNotes.Text.Basic

namespace TradeNotes

/-- How the shortest decimal form of a binary64 number is written. -/
structure Layout where
  /-- Which of two shortest forms is written when the number is halfway between them. -/
  tie : Tie
  /-- The least exponent of the first digit that is written without an exponent mark. -/
  least : Int
  /-- The greatest exponent of the first digit that is written without an exponent mark. -/
  most : Int
  /-- What stands between the exponent mark and an exponent that is not negative. -/
  plus : Text
  /-- The text of what is not a number. -/
  nan : Text
  /-- The text of the infinity with a sign. -/
  infinite : Bool → Text

namespace Layout

/-- Digits with the point among them: so many of them stand before it. One digit
    at least stands on either side. -/
def plain (digits : Text) (before : Int) : Text :=
  if before ≤ 0 then ['0', '.'] ++ List.replicate before.natAbs '0' ++ digits
  else
    let before := before.natAbs
    let whole := digits.take before ++ List.replicate (before - digits.length) '0'
    let fraction := digits.drop before
    whole ++ ['.'] ++ if fraction.isEmpty then ['0'] else fraction

/-- Digits with a point after the first, where more follow, and the exponent of the first. -/
def scientific (layout : Layout) (digits : Text) (exponent : Int) : Text :=
  let fraction := digits.drop 1
  let sign := if exponent < 0 then ['-'] else layout.plus
  digits.take 1 ++ (if fraction.isEmpty then [] else ['.'] ++ fraction) ++ ['e'] ++ sign
    ++ Nat.toDigits 10 exponent.natAbs

/-- The text of a finite magnitude. -/
def magnitude (layout : Layout) (m : Magnitude) : Text :=
  if m.units = 0 then ['0', '.', '0']
  else
    let decimal := m.shortest layout.tie
    let digits := Nat.toDigits 10 decimal.digits
    let before := decimal.exponent + digits.length
    if layout.least ≤ before - 1 ∧ before - 1 ≤ layout.most then plain digits before
    else layout.scientific digits (before - 1)

/-- The text of a number. -/
def text (layout : Layout) : Binary64 → Text
  | .nan => layout.nan
  | .infinite negative => layout.infinite negative
  | .finite negative m => (if negative then ['-'] else []) ++ layout.magnitude m

end Layout

end TradeNotes
