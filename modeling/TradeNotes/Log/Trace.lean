import TradeNotes.Event

namespace TradeNotes.Log

/-- The events that were recorded, in their order. -/
abbrev Trace := List Event

namespace Trace

/-- The events that belong to a session. -/
def ofSession (trace : Trace) (session : Text) : Trace :=
  trace.filter fun e => e.text? "session_id" == some session

/-- How many of the events are warnings. -/
def warnings (trace : Trace) : Nat :=
  trace.countP (·.level == .warn)

/-- Whether an operation had an event of a kind. -/
def records (trace : Trace) (operation event : Text) : Bool :=
  trace.any fun e => e.text? "op" == some operation && e.text? "event" == some event

/-- What is said when an operation should have had an event of a kind, and had none. -/
def missing (trace : Trace) (operation event : Text) : Text :=
  "Expected event op=".toList ++ operation ++ " event=".toList ++ event ++ " not found in ".toList
    ++ Nat.toDigits 10 trace.length ++ " captured events".toList

end Trace

end TradeNotes.Log
