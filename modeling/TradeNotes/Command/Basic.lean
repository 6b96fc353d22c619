import TradeNotes.Binary64.Basic
import TradeNotes.Numeral.Basic
import TradeNotes.Sentence
import TradeNotes.Text.LowerCase

namespace TradeNotes

/-- A measured metal: the units in front of it, and the metal's name in lower case. -/
structure Measure where
  units : List Text
  metal : Text
  deriving DecidableEq

/-- The last word of a phrase is the metal and the others are units. Without words
    the metal's name is empty. -/
def Measure.ofPhrase (phrase : Text) : Measure :=
  let words := phrase.tokens
  ⟨words.dropLast, (words.getLast?.getD []).lowerCase⟩

/-- What a line asks for. -/
inductive Command
  /-- From now on a unit stands for a letter. -/
  | assignUnit (unit : Text) (letter : Letter)
  /-- So many units of a metal are worth an amount of credits. -/
  | assignMetal (units : List Text) (metal : Text) (credits : Binary64)
  /-- What number some units make. -/
  | queryNumeral (phrase : Text) (units : List Text)
  /-- What so many units of a metal are worth. -/
  | queryCredits (phrase : Text) (units : List Text) (metal : Text)
  deriving DecidableEq

namespace Command

/-- The name of a command. -/
def name : Command → Text
  | assignUnit .. => "assign_unit".toList
  | assignMetal .. => "assign_metal".toList
  | queryNumeral .. => "query_numeral".toList
  | queryCredits .. => "query_credits".toList

/-- Whether a command may change the tables. -/
def isMutation : Command → Bool
  | assignUnit .. | assignMetal .. => true
  | queryNumeral .. | queryCredits .. => false

/-- A character of the word for credits, apart from its case. The long s is an s. -/
def foldCase (c : Char) : Char :=
  if c = 'ſ' then 's' else c.toLower

/-- The number in front of the word for credits. Between the two stands one space. -/
def creditsFigure? (right : Text) : Option Nat :=
  let digits := right.takeWhile Char.isDigit
  let word := right.dropWhile Char.isDigit
  if digits.isEmpty || word.map foldCase != " credits".toList then none
  else some (Nat.ofDigitChars 10 digits 0)

/-- An instruction assigns a letter to the unit on its left, or so many credits to
    the measured metal there. -/
def ofInstruction (s : Sentence) : Except Fault Command :=
  match Letter.ofText? s.right with
  | some letter => .ok (assignUnit s.left letter)
  | none =>
    match creditsFigure? s.right with
    | some figure =>
      let measure := Measure.ofPhrase s.left
      .ok (assignMetal measure.units measure.metal (Binary64.ofNat figure))
    | none => .error (.unrecognizedInstruction s.right)

/-- A question asks how much the units on its right make, or how many credits the
    measured metal there is worth. -/
def ofQuestion (line : Text) (s : Sentence) : Except Fault Command :=
  if s.left.holds "how much".toList then .ok (queryNumeral s.right s.right.tokens)
  else if s.left.holds "how many".toList then
    let measure := Measure.ofPhrase s.right
    .ok (queryCredits s.right measure.units measure.metal)
  else .error (.unanswerableQuestion line)

/-- The command that a line gives. -/
def ofLine (line : Text) : Except Fault Command := do
  let sentence ← Sentence.ofLine line
  match sentence.kind with
  | .instruction => ofInstruction sentence
  | .question => ofQuestion line sentence

end Command

end TradeNotes
