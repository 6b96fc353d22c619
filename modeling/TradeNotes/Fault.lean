import TradeNotes.Text.Quoted

namespace TradeNotes

/-- The kinds of faults, each with a code that does not change. -/
inductive FaultKind
  | grammar
  | unrecognizedInstruction
  | unanswerableQuestion
  | unknownUnit
  | unknownMetal
  | inputOutput
  | serialization
  deriving DecidableEq

namespace FaultKind

/-- The name of a kind. -/
def name : FaultKind → Text
  | grammar => "Grammar".toList
  | unrecognizedInstruction => "UnrecognizedInstruction".toList
  | unanswerableQuestion => "UnanswerableQuestion".toList
  | unknownUnit => "UnknownUnit".toList
  | unknownMetal => "UnknownMetal".toList
  | inputOutput => "Io".toList
  | serialization => "Serialization".toList

/-- The code of a kind. -/
def code : FaultKind → Text
  | grammar => "ERR_GRAMMAR".toList
  | unrecognizedInstruction => "ERR_UNRECOGNIZED_INSTRUCTION".toList
  | unanswerableQuestion => "ERR_UNANSWERABLE_QUESTION".toList
  | unknownUnit => "ERR_UNKNOWN_UNIT".toList
  | unknownMetal => "ERR_UNKNOWN_METAL".toList
  | inputOutput => "ERR_IO".toList
  | serialization => "ERR_SERIALIZATION".toList

/-- Whether a fault of this kind lies in the line that was read. -/
def isInput : FaultKind → Bool
  | inputOutput | serialization => false
  | _ => true

end FaultKind

/-- Why something was refused, with the text it was refused for. -/
inductive Fault
  /-- The line has no keyword between a left and a right side. -/
  | missingKeyword (line : Text)
  /-- The right side of an instruction is neither a letter nor an amount of credits. -/
  | unrecognizedInstruction (right : Text)
  /-- A question that asks neither how much nor how many. -/
  | unanswerableQuestion (line : Text)
  /-- A unit that no letter has been assigned to. -/
  | unknownUnit (unit : Text)
  /-- A metal that has not been valued. -/
  | unknownMetal (metal : Text)
  /-- Reading a source or writing to a sink failed. -/
  | inputOutput (reason : Text)
  /-- Writing or reading a dump of the tables failed. -/
  | serialization (reason : Text)
  deriving DecidableEq

namespace Fault

/-- The kind of a fault. -/
def kind : Fault → FaultKind
  | missingKeyword _ => .grammar
  | unrecognizedInstruction _ => .unrecognizedInstruction
  | unanswerableQuestion _ => .unanswerableQuestion
  | unknownUnit _ => .unknownUnit
  | unknownMetal _ => .unknownMetal
  | inputOutput _ => .inputOutput
  | serialization _ => .serialization

/-- The message of a fault. Lines, right sides and metals are quoted; a unit stands as it is. -/
def message : Fault → Text
  | missingKeyword line =>
    "Invalid input: missing the keyword \"is\" in the sentence: ".toList ++ line.quoted
  | unrecognizedInstruction right =>
    "Invalid input: expected a Roman letter or \"<N> credits\", got ".toList ++ right.quoted
  | unanswerableQuestion line =>
    "Invalid input: cannot answer question ".toList ++ line.quoted
  | unknownUnit unit =>
    "Invalid input: unknown unit is found (".toList ++ unit ++ [')']
  | unknownMetal metal =>
    "Invalid input: no value has been assigned to metal ".toList ++ metal.quoted
  | inputOutput reason => "I/O error: ".toList ++ reason
  | serialization reason => "Serialization error: ".toList ++ reason

end Fault

end TradeNotes
