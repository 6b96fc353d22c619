import TradeNotes.Text.Visible

namespace TradeNotes.Text

/-- The code point of a character in hexadecimal, between `\u{` and `}`. -/
def escapePoint (c : Char) : Text :=
  ['\\', 'u', '{'] ++ Nat.toDigits 16 c.toNat ++ ['}']

/-- A character as it stands between quotes: the quote, the backslash and four
    controls have short escapes, the other invisible characters give their code
    point, and all else stands for itself. -/
def escapeChar (c : Char) : Text :=
  match c with
  | '\x00' => ['\\', '0']
  | '\t' => ['\\', 't']
  | '\n' => ['\\', 'n']
  | '\r' => ['\\', 'r']
  | '"' => ['\\', '"']
  | '\\' => ['\\', '\\']
  | _ => if isVisible c then [c] else escapePoint c

/-- A text between quotes, on one line and without invisible characters. -/
def quoted (t : Text) : Text :=
  ['"'] ++ t.flatMap escapeChar ++ ['"']

example : quoted "it's a \"tab\"\t".toList = "\"it's a \\\"tab\\\"\\t\"".toList := by decide +kernel

end TradeNotes.Text
