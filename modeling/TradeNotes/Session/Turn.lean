import TradeNotes.Event
import TradeNotes.Tables.Basic

namespace TradeNotes

/-- What one line brings about: its outcome, which for a question is an answer, the
    tables after it, and the events on the way. -/
structure Turn where
  outcome : Except Fault (Option Text)
  tables : Tables
  events : List Event

namespace Turn

/-- The operation that one line is, as events name it. -/
def operation : String := "process_command"

/-- The events of an assignment that is accepted. -/
def changes (t : Tables) : Command → List Event
  | .assignUnit unit letter => [Event.unitAssigned unit [letter.toChar]]
  | .assignMetal units metal credits =>
    match t.value units with
    | .ok measured => [Event.metalValued metal measured (Tables.perUnit credits measured)]
    | .error _ => []
  | .queryNumeral .. | .queryCredits .. => []

/-- Carries out a line in a session, without the white space around it. A line that
    is rejected leaves the tables as they are. -/
def ofLine (session : Text) (t : Tables) (line : Text) : Turn :=
  let start := Event.start session operation
  match Command.ofLine line.trim with
  | .error fault => ⟨.error fault, t, [start, Event.reject session operation fault]⟩
  | .ok command =>
    let classified := Event.classified session command.name
    match t.apply command with
    | .error fault =>
      ⟨.error fault, t, [start, classified, Event.reject session operation fault]⟩
    | .ok (after, answer) =>
      let finish :=
        Event.finish session operation [⟨"answered".toList, .truth answer.isSome⟩]
      ⟨.ok answer, after, [start, classified] ++ changes t command ++ [finish]⟩

/-- Carries out lines one after the other, whatever becomes of them. Each one finds the
    tables that the line before has left. -/
def ofLines (session : Text) (t : Tables) : List Text → List Turn
  | [] => []
  | line :: rest =>
    let turn := ofLine session t line
    turn :: ofLines session turn.tables rest

end Turn

end TradeNotes
