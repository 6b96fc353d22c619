import TradeNotes.Fault
import TradeNotes.Text.Blank

namespace TradeNotes

/-- What a sentence does. -/
inductive SentenceKind
  | instruction
  | question
  deriving DecidableEq

/-- A line, cut at its keyword. -/
structure Sentence where
  kind : SentenceKind
  left : Text
  right : Text
  deriving DecidableEq

namespace Sentence

/-- The keyword between the two sides of a sentence. -/
def keyword : Text := " is ".toList

/-- The characters that do not count at the ends of the right side. -/
def isPadding (c : Char) : Bool :=
  c == ' ' || c == '?'

/-- A line that ends in a question mark is a question, every other one an instruction. -/
def kindOf (line : Text) : SentenceKind :=
  if line.getLast? = some '?' then .question else .instruction

/-- Cuts a line at the first keyword. The left side loses the white space around
    it, the right side its spaces and question marks. -/
def ofLine (line : Text) : Except Fault Sentence :=
  match line.cutAt? keyword with
  | some (left, right) => .ok ⟨kindOf line, left.trim, right.strip isPadding⟩
  | none => .error (.missingKeyword line)

end Sentence

end TradeNotes
