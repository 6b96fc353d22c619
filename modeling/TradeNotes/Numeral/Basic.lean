import TradeNotes.Numeral.Reading

namespace TradeNotes

/-- A numeral is the list of its letters, in any order. -/
abbrev Numeral := List Letter

namespace Numeral

/-- How a numeral is written. -/
def text (n : Numeral) : Text :=
  n.map Letter.toChar

/-- The value of a numeral, by the symbols that stand in their order at its front. -/
def value (n : Numeral) : Nat :=
  decode n.text

/-- A numeral with one more letter at its end. -/
def push (n : Numeral) (l : Letter) : Numeral :=
  n ++ [l]

/-- The letters of a symbol. -/
def ofSymbol : Symbol → Numeral
  | .letter l => [l]
  | .pair small large => [small, large]

/-- Writes a number with given symbols: each as often as its value still fits. -/
def ofNatWith : List Symbol → Nat → Numeral
  | [], _ => []
  | s :: rest, n =>
    (List.replicate (n / s.value) (ofSymbol s)).flatten ++ ofNatWith rest (n % s.value)

/-- The numeral of a number, with as many thousands as it takes. -/
def ofNat (n : Nat) : Numeral :=
  ofNatWith Symbol.all n

/-- The value of a numeral by the rule of subtraction: a letter directly before a
    larger one is taken away, every other one is added. -/
def subtractive : Numeral → Int
  | [] => 0
  | [l] => l.value
  | l :: next :: rest =>
    (if l.value < next.value then -(l.value : Int) else l.value) + subtractive (next :: rest)

example : (ofNat 1944).text = "MCMXLIV".toList := by decide
example : subtractive (ofNat 1944) = 1944 := by decide

end Numeral

end TradeNotes
