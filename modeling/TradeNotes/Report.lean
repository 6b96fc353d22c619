import TradeNotes.Fault

namespace TradeNotes

/-- A fault as it is reported to a user, with what is known of its circumstances. -/
structure Report where
  kind : FaultKind
  operation : Option Text := none
  token : Option Text := none
  line : Option Text := none
  session : Option Text := none
  message : Text := []
  deriving DecidableEq

namespace Report

/-- The report of a fault: its message, the operation that found it and the text
    that it found. -/
def ofFault (fault : Fault) : Report :=
  let report : Report := { kind := fault.kind, message := fault.message }
  match fault with
  | .missingKeyword line =>
    { report with operation := some "split_sentence".toList, line := some line }
  | .unrecognizedInstruction right =>
    { report with operation := some "classify_instruction".toList, token := some right }
  | .unanswerableQuestion line =>
    { report with operation := some "classify_question".toList, line := some line }
  | .unknownUnit unit =>
    { report with operation := some "resolve_units".toList, token := some unit }
  | .unknownMetal metal =>
    { report with operation := some "resolve_metal".toList, token := some metal }
  | .inputOutput _ | .serialization _ => report

/-- The text of a report. Only the line is quoted, and the session is not told. -/
def text (report : Report) : Text :=
  let part (before : String) (after : String) : Option Text → Text
    | some t => before.toList ++ t ++ after.toList
    | none => []
  ['['] ++ report.kind.code ++ [']']
    ++ part " in operation '" "'" report.operation
    ++ part ": " "" (if report.message.isEmpty then none else some report.message)
    ++ part " (token: " ")" report.token
    ++ part " (line: " ")" (report.line.map Text.quoted)

end Report

end TradeNotes
