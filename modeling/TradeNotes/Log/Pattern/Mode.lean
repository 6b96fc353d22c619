import TradeNotes.Text.Blank

namespace TradeNotes.Log.Pattern

/-- How the characters of a pattern are taken at a place, which flags can change. -/
structure Mode where
  /-- White space and comments, from a number sign to the end of the line, do not count. -/
  spaced : Bool := false
  /-- The pattern is about characters of Unicode, not about bytes. -/
  unicode : Bool := true

/-- Leaves out white space and comments at the front, beginning in a comment or not. -/
def skipSpace (inComment : Bool) : Text → Text
  | [] => []
  | c :: rest =>
    if inComment then skipSpace (c != '\n') rest
    else if Text.isBlank c then skipSpace false rest
    else if c = '#' then skipSpace true rest
    else c :: rest

/-- The first character that is neither white space nor the beginning of a comment. The
    first one in a comment counts too. -/
def seekMark? (inComment : Bool) : Text → Option Char
  | [] => none
  | c :: rest =>
    if Text.isBlank c then seekMark? inComment rest
    else if c = '#' && !inComment then seekMark? true rest
    else some c

namespace Mode

/-- A pattern from its next character that counts. -/
def skip (mode : Mode) (t : Text) : Text :=
  if mode.spaced then skipSpace false t else t

/-- The character by which what stands in front is told apart. It is the next one,
    when none is found beyond white space. -/
def peek? (mode : Mode) (t : Text) : Option Char :=
  if mode.spaced then (seekMark? false t).or t.head? else t.head?

/-- The flags that may stand in a pattern, and the sign that turns off those after it. -/
def flags : Text := "imsUuRx-".toList

/-- A property of the mode after flags: turned on, turned off, or as it was. -/
def afterFlag (written : Text) (flag : Char) (before : Bool) : Bool :=
  if (written.takeWhile (· != '-')).contains flag then true
  else before && !written.contains flag

/-- The mode after flags, none of which may stand twice. A sign that turns off must
    have a flag after it. -/
def afterFlags? (mode : Mode) (written : Text) : Option Mode :=
  if written.all (fun c => flags.contains c && written.count c == 1)
      && written.getLast? != some '-' then
    some
      { spaced := afterFlag written 'x' mode.spaced
        unicode := afterFlag written 'u' mode.unicode }
  else none

end Mode

end TradeNotes.Log.Pattern
