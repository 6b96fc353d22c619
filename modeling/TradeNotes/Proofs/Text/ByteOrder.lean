import Mathlib.Tactic.SplitIfs
import TradeNotes.Text.Utf8

namespace TradeNotes.Text

/-- How many bytes follow the first one of a code point. -/
def following (v : Nat) : Nat :=
  if v ≤ 0x7F then 0 else if v ≤ 0x7FF then 1 else if v ≤ 0xFFFF then 2 else 3

variable {v w : Nat}

end TradeNotes.Text
