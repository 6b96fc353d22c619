import TradeNotes.Numeral.Letter

namespace TradeNotes

/-- What a numeral is made of: a letter, or a letter in front of a larger one, from
    which it is taken away. -/
inductive Symbol
  | letter (l : Letter)
  | pair (small large : Letter)
  deriving DecidableEq

namespace Symbol

/-- The value of a symbol. -/
def value : Symbol → Nat
  | letter l => l.value
  | pair small large => large.value - small.value

/-- How a symbol is written. -/
def text : Symbol → Text
  | letter l => [l.toChar]
  | pair small large => [small.toChar, large.toChar]

/-- The symbols in the order in which a numeral holds them, which is also that of falling values. -/
def all : List Symbol :=
  [letter .M, pair .C .M, letter .D, pair .C .D, letter .C, pair .X .C, letter .L, pair .X .L,
   letter .X, pair .I .X, letter .V, pair .I .V, letter .I]

/-- How the symbols are written, and what they are worth. -/
theorem all_rows : all.map (fun s => (s.text, s.value)) =
    [("M".toList, 1000), ("CM".toList, 900), ("D".toList, 500), ("CD".toList, 400),
     ("C".toList, 100), ("XC".toList, 90), ("L".toList, 50), ("XL".toList, 40), ("X".toList, 10),
     ("IX".toList, 9), ("V".toList, 5), ("IV".toList, 4), ("I".toList, 1)] := rfl

/-- How often a symbol is repeated at the front of a text, and what stands after. -/
def repeated (s : Symbol) : Text → Nat × Text
  | [] => (0, [])
  | [a] => if s.text = [a] then (1, []) else (0, [a])
  | a :: b :: rest =>
    if s.text = [a] then
      let (times, after) := s.repeated (b :: rest)
      (times + 1, after)
    else if s.text = [a, b] then
      let (times, after) := s.repeated rest
      (times + 1, after)
    else (0, a :: b :: rest)

end Symbol

/-- What has been read of a numeral: the value so far and the text that is left. -/
structure Reading where
  value : Nat
  rest : Text

namespace Reading

/-- Takes a symbol as often as it stands at the front of what is left. -/
def take (reading : Reading) (s : Symbol) : Reading :=
  let (times, after) := s.repeated reading.rest
  ⟨reading.value + times * s.value, after⟩

/-- Reads a text as a numeral, taking the symbols in their order. What no symbol
    takes is left, and does not count. -/
def ofText (t : Text) : Reading :=
  Symbol.all.foldl take ⟨0, t⟩

end Reading

/-- The value of the numeral at the front of a text. -/
def decode (t : Text) : Nat :=
  (Reading.ofText t).value

example : decode "MCMXLIV".toList = 1944 := by decide
example : decode "XLIX?".toList = 49 := by decide

end TradeNotes
