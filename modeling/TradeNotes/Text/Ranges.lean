import TradeNotes.Text.Basic

namespace TradeNotes.Text

/-- A class of characters, given by the first and last code points of its ranges. -/
abbrev Ranges := List (Nat × Nat)

/-- A character belongs to the class when one of the ranges holds its code point. -/
def Ranges.contains (ranges : Ranges) (c : Char) : Bool :=
  ranges.any fun (first, last) => first ≤ c.toNat && c.toNat ≤ last

end TradeNotes.Text
