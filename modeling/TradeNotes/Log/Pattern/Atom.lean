import TradeNotes.Log.Pattern.Mode

namespace TradeNotes.Log.Pattern

/-- A part of a pattern that stands for one character, or for a place between two. -/
inductive Atom
  /-- A character, which may be written as the two digits of a byte. -/
  | literal (c : Char) (isByte : Bool)
  /-- The digits, the white space or the characters of words, or all others. -/
  | kind (negated : Bool)
  /-- A general category of Unicode, or all that is not in it. -/
  | category
  /-- The beginning or the end of the text. -/
  | edge
  /-- A place where a word begins or ends, or any other. -/
  | wordEdge

namespace Atom

/-- Whether an atom may stand in a pattern of a mode. Of bytes only those of ASCII can
    be told from parts of characters; the edges of words only in ASCII are known. -/
def isAllowed (mode : Mode) : Atom → Bool
  | literal c isByte => mode.unicode || !isByte || c.toNat < 0x80
  | kind negated => mode.unicode || !negated
  | category => mode.unicode
  | edge => true
  | wordEdge => !mode.unicode

/-- Whether an atom may stand in a class of a mode. -/
def isAllowedInClass (mode : Mode) : Atom → Bool
  | literal c _ => mode.unicode || c.toNat < 0x80
  | edge | wordEdge => false
  | atom => atom.isAllowed mode

/-- The character that an atom stands for in a class, when it is one. -/
def bound? (mode : Mode) : Atom → Option Char
  | literal c isByte => if (literal c isByte).isAllowedInClass mode then some c else none
  | _ => none

/-- The names of the general categories by one letter. -/
def categories : Text := "clmnpsz".toList

/-- Reads so many hexadecimal digits after others, and the character that they give. -/
def readHex (mode : Mode) : Nat → Nat → Text → Option (Char × Text)
  | 0, value, t => if value.isValidChar then some (Char.ofNat value, t) else none
  | digits + 1, value, t =>
    match mode.skip t with
    | [] => none
    | c :: rest =>
      (Text.hexDigit? c).bind fun digit => readHex mode digits (value * 16 + digit) rest

/-- What a letter after a backslash stands for, when it takes nothing after it. -/
def ofEscape? (c : Char) : Option Atom :=
  match c with
  | 'd' | 's' | 'w' => some (kind false)
  | 'D' | 'S' | 'W' => some (kind true)
  | 'a' => some (literal '\x07' false)
  | 'f' => some (literal '\x0C' false)
  | 't' => some (literal '\t' false)
  | 'n' => some (literal '\n' false)
  | 'r' => some (literal '\r' false)
  | 'v' => some (literal '\x0B' false)
  | 'A' | 'z' => some edge
  | 'b' | 'B' | '<' | '>' => some wordEdge
  | _ => if c.toNat < 0x80 && !c.isAlphanum then some (literal c false) else none

/-- Reads an atom after its backslash. -/
def readEscape (mode : Mode) : Text → Option (Atom × Text)
  | [] => none
  | 'x' :: rest => (readHex mode 2 0 rest).map fun (c, after) => (literal c true, after)
  | 'u' :: rest => (readHex mode 4 0 rest).map fun (c, after) => (literal c false, after)
  | 'U' :: rest => (readHex mode 8 0 rest).map fun (c, after) => (literal c false, after)
  | c :: rest =>
    if c = 'p' ∨ c = 'P' then
      match mode.skip rest with
      | name :: after => if categories.contains name.toLower then some (category, after) else none
      | [] => none
    else (ofEscape? c).map fun atom => (atom, rest)

/-- Reads an atom of a class: only a backslash has a meaning of its own. -/
def readInClass (mode : Mode) : Text → Option (Atom × Text)
  | [] => none
  | '\\' :: rest => readEscape mode rest
  | c :: rest => some (literal c false, rest)

end Atom

end TradeNotes.Log.Pattern
