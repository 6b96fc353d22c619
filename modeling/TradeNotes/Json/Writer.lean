import TradeNotes.Binary64.Layout

namespace TradeNotes.Json

/-- A character as it stands in a JSON string. Only the quote, the backslash and
    the controls below U+0020 are escaped. -/
def escapeChar (c : Char) : Text :=
  match c with
  | '"' => ['\\', '"']
  | '\\' => ['\\', '\\']
  | '\x08' => ['\\', 'b']
  | '\x0C' => ['\\', 'f']
  | '\n' => ['\\', 'n']
  | '\r' => ['\\', 'r']
  | '\t' => ['\\', 't']
  | _ =>
    if c.toNat < 0x20 then ['\\', 'u'] ++ List.leftpad 4 '0' (Nat.toDigits 16 c.toNat) else [c]

/-- A text as a JSON string. -/
def quoted (t : Text) : Text :=
  ['"'] ++ t.flatMap escapeChar ++ ['"']

/-- How numbers stand in JSON: in the fewest digits that read back, a half going to
    the even digit, with an exponent below 10⁻⁵ and from 10¹⁶ on. What is no finite
    number is null. -/
def layout : Layout where
  tie := .toEven
  least := -5
  most := 15
  plus := ['+']
  nan := "null".toList
  infinite _ := "null".toList

/-- An object over several lines, its members indented by two spaces more than
    its end. The values are given as they are written. -/
def object (indent : Nat) (members : List (Text × Text)) : Text :=
  if members.isEmpty then ['{', '}']
  else
    let line (member : Text × Text) : Text :=
      List.replicate (indent + 2) ' ' ++ quoted member.1 ++ [':', ' '] ++ member.2
    ['{', '\n'] ++ [',', '\n'].intercalate (members.map line) ++ ['\n']
      ++ List.replicate indent ' ' ++ ['}']

end TradeNotes.Json
