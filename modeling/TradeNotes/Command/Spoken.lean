import TradeNotes.Command.Basic

namespace TradeNotes

/-- A command before its figure is rounded: an amount of credits is a natural number. -/
inductive SpokenCommand
  | assignUnit (unit : Text) (letter : Letter)
  | assignMetal (units : List Text) (metal : Text) (credits : Nat)
  | queryNumeral (phrase : Text)
  | queryCredits (phrase : Text)
  deriving DecidableEq

namespace SpokenCommand

/-- The line that gives a command. -/
def line : SpokenCommand → Text
  | assignUnit unit letter => unit ++ " is ".toList ++ [letter.toChar]
  | assignMetal units metal credits =>
    [' '].intercalate (units ++ [metal]) ++ " is ".toList ++ Nat.toDigits 10 credits
      ++ " Credits".toList
  | queryNumeral phrase => "how much is ".toList ++ phrase ++ ['?']
  | queryCredits phrase => "how many Credits is ".toList ++ phrase ++ ['?']

/-- The command that is meant. -/
def command : SpokenCommand → Command
  | assignUnit unit letter => .assignUnit unit letter
  | assignMetal units metal credits => .assignMetal units metal (Binary64.ofNat credits)
  | queryNumeral phrase => .queryNumeral phrase phrase.tokens
  | queryCredits phrase =>
    let measure := Measure.ofPhrase phrase
    .queryCredits phrase measure.units measure.metal

end SpokenCommand

end TradeNotes
