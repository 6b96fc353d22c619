import TradeNotes.Binary64.Basic
import TradeNotes.Text.Basic

namespace TradeNotes.Credits

/-- The digits of a fraction that is a whole number of the last of its places,
    without the zeros at its end. -/
def fractionDigits (places n : Nat) : Text :=
  let digits := List.leftpad places '0' (Nat.toDigits 10 n)
  (digits.reverse.dropWhile (· == '0')).reverse

/-- A number with a fraction of so many places, given as a whole number of the
    last of them. A fraction of zero is not written. -/
def decimalText (places n : Nat) : Text :=
  let whole := Nat.toDigits 10 (n / Nat.pow 10 places)
  let fraction := n % Nat.pow 10 places
  if fraction = 0 then whole else whole ++ ['.'] ++ fractionDigits places fraction

/-- For every place after the point, from the first one on: how many of the magnitudes
    just below a one at that place have a common logarithm that is rounded up to the
    whole number. The logarithm is computed in 53 binary digits, as the sum of those of
    a power of two and of the rest. After the last place given there are none. -/
def undercuts : List Nat :=
  [2, 3, 2, 8, 6, 6, 8, 12, 10, 16, 13, 11, 16, 14, 11, 34, 27, 21, 34, 28, 22, 35, 28, 22, 35,
   28, 23, 37, 29, 23, 19, 60, 48, 39, 61, 49, 39, 63, 50, 41, 64, 51, 41, 66, 53, 42, 68, 54, 44,
   69, 55, 44, 70, 56, 46, 72, 58, 46, 37, 60, 47, 38, 61, 97, 78, 125, 100, 79, 127, 102, 82,
   131, 105, 84, 134, 107, 86, 137, 110, 88, 140, 112, 90, 143, 115, 92, 146, 118, 94, 76, 120,
   97, 78, 123, 99, 79, 126, 101, 81, 129, 103, 83, 132, 106, 85, 135, 108, 86, 139, 111, 89, 142,
   114, 91, 145, 117, 93, 75, 119, 96, 77, 122, 97, 79, 125, 100, 80, 255, 204, 164, 262, 210,
   168, 268, 214, 171, 275, 219, 176, 281, 225, 180, 288, 230, 184, 294, 236, 189, 151, 241, 193,
   154, 247, 198, 158, 253, 203, 162, 259, 208, 165, 265, 213, 170, 271, 218, 173, 278, 222, 178,
   285, 228, 182, 292, 234, 187, 150, 239, 191, 153, 245, 196, 157, 250, 201, 161, 256, 206, 165,
   262, 210, 168, 269, 215, 172, 275, 221, 176, 282, 226, 181, 289, 231, 185, 148, 236, 189, 152,
   242, 194, 155, 248, 199, 159, 254, 203, 163, 260, 208, 167, 266, 213, 171, 272, 218, 175, 279,
   223, 179, 286, 230, 183, 293, 235, 188, 150, 240, 193, 154, 246, 197, 158, 252, 202, 161, 258,
   206, 166, 264, 211, 169, 270, 216, 173, 276, 443, 355, 567, 453, 363, 580, 464, 371, 297, 476,
   381, 305, 487, 390, 311, 499, 399, 319, 511, 408, 327, 523, 418, 335, 535, 428, 343, 548, 438,
   351, 561, 449, 359, 574, 460, 368, 588, 471, 376, 301, 482, 386, 309, 494, 395, 316, 506, 405,
   324, 518, 414, 331, 133, 13, 2, 1]

/-- Whether the common logarithm of an amount, in 53 binary digits, is not below
    minus a number of places above zero. -/
def reachesPlace (m : Magnitude) (place : Nat) : Bool :=
  let undercut := undercuts.getD (place - 1) 0
  Magnitude.one ≤ Magnitude.unitsAt (m.rank + undercut) * Nat.pow 10 place

/-- The place after the point that the first digit of an amount below one has, by
    its rounded logarithm. -/
def firstPlace (m : Magnitude) : Nat :=
  ((List.range 324).find? fun place => 0 < place && reachesPlace m place).getD 324

/-- The power of ten that the first digit of an amount stands for, by its rounded logarithm. -/
def exponent (m : Magnitude) : Int :=
  if Magnitude.one ≤ m.units then (Nat.toDigits 10 (m.units / Magnitude.one)).length - 1
  else -firstPlace m

/-- How many places an amount is rounded to, given the power of ten that its first digit stands
    for: none when it is whole and has no more than fifteen digits, else so many that fourteen
    digits are kept, those of the whole part always. -/
def places (exponent : Int) (m : Magnitude) : Nat :=
  if m.units % Magnitude.one = 0 ∧ m.units < Nat.pow 10 15 * Magnitude.one then 0
  else (13 - exponent).toNat

/-- The text of a finite amount without its sign, given the power of ten that its first digit
    stands for. -/
def magnitudeText (exponent : Int) (m : Magnitude) : Text :=
  decimalText (places exponent m)
    (divNearest (m.units * Nat.pow 10 (places exponent m)) Magnitude.one)

/-- An amount of credits in decimal digits, without an exponent and without a sign before zero,
    given the powers of ten that the first digits of amounts are taken to stand for. -/
def textBy (exponent : Magnitude → Int) : Binary64 → Text
  | .nan => "NaN".toList
  | .infinite negative => if negative then "-inf".toList else "inf".toList
  | .finite negative m =>
    let amount := magnitudeText (exponent m) m
    if negative && amount != ['0'] then '-' :: amount else amount

/-- An amount of credits in words of an answer. -/
def text : Binary64 → Text :=
  textBy exponent

example : text (Binary64.ofNat 68) = "68".toList := by decide +kernel
example : text ((Binary64.ofNat 1).div (Binary64.ofNat 3999)) = "0.00025006251562891".toList := by
  decide +kernel

end TradeNotes.Credits
