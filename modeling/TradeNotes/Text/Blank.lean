import TradeNotes.Text.Ranges

namespace TradeNotes.Text

/-- The code points with the Unicode property `White_Space`. The separators of
    files and records, U+001C to U+001F, and the zero-width space are not among them. -/
def blankRanges : Ranges :=
  [(0x9, 0xD), (0x20, 0x20), (0x85, 0x85), (0xA0, 0xA0), (0x1680, 0x1680), (0x2000, 0x200A),
   (0x2028, 0x2029), (0x202F, 0x202F), (0x205F, 0x205F), (0x3000, 0x3000)]

/-- White space. -/
def isBlank (c : Char) : Bool :=
  blankRanges.contains c

/-- A text without the white space at its ends. -/
def trim (t : Text) : Text :=
  t.strip isBlank

/-- The words of a text: its longest runs without white space, in order. -/
def tokens (t : Text) : List Text :=
  (t.splitOnP isBlank).filter fun word => !word.isEmpty

example : trim "\u3000 big glob\t\r\n".toList = "big glob".toList := by decide
example : tokens " glob\u00A0 prok ".toList = ["glob".toList, "prok".toList] := by decide
example : tokens "glob\u200Bprok".toList = ["glob\u200Bprok".toList] := by decide

end TradeNotes.Text
