import TradeNotes.Text.Basic

namespace TradeNotes

/-- The name of a session in the form of a universally unique identifier of version
    seven: the time in milliseconds since the beginning of 1970, and 74 bits of a random
    number. -/
def sessionIdentifier (milliseconds random : Nat) : Text :=
  let hex (digits n : Nat) : Text :=
    List.leftpad digits '0' (Nat.toDigits 16 (n % Nat.pow 16 digits))
  hex 8 (milliseconds / 0x10000) ++ ['-'] ++ hex 4 milliseconds ++ ['-', '7'] ++ hex 3 random
    ++ ['-'] ++ hex 4 (0x8000 + random / 0x1000 % 0x4000) ++ ['-'] ++ hex 12 (random / 0x4000000)

end TradeNotes
