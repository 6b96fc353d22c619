import TradeNotes.Session.Sink
import TradeNotes.Session.Source
import TradeNotes.Session.Turn

namespace TradeNotes

/-- What a batch came to: how many lines it read, the rejected one included, how
    many answers it wrote, and the kind of fault it stopped at. -/
structure Summary where
  linesRead : Nat
  answers : Nat
  abortedWith : Option FaultKind
  deriving DecidableEq

/-- Whether a batch stopped at a rejected line. -/
def Summary.aborted (s : Summary) : Bool := s.abortedWith.isSome

/-- A batch under way: lines are fetched from a source and answers are written to a sink. -/
structure Batch where
  session : Text
  tables : Tables
  source : Source
  sink : Sink
  events : Array Event := #[]
  linesRead : Nat := 0
  answers : Nat := 0

namespace Batch

/-- The operation that a batch is, as events name it. -/
def operation : String := "process_input"

/-- What is written instead of an answer to a line that is rejected. -/
def fallback : Text := "I have no idea what you are talking about".toList

/-- Carries out the lines that the source gives, to its end or to the first one that is
    rejected, whose kind of fault is told. A fault of the source or the sink stops at once. -/
def loop (b : Batch) : Except Fault (Option FaultKind) × Batch :=
  match _hfetch : b.source.fetch with
  | (.error fault, source) => (.error fault, { b with source })
  | (.ok false, source) => (.ok none, { b with source })
  | (.ok true, source) =>
    let turn := Turn.ofLine b.session b.tables (source.current.getD [])
    let linesRead := b.linesRead + 1
    let events := b.events ++ turn.events
    match turn.outcome with
    | .ok none => loop { b with source, events, linesRead, tables := turn.tables }
    | .ok (some answer) =>
      let (written, sink) := b.sink.writeLine answer
      match written with
      | .ok () =>
        loop { b with
          source, sink, events, linesRead, tables := turn.tables, answers := b.answers + 1 }
      | .error failure =>
        (.error failure, { b with source, sink, events, linesRead, tables := turn.tables })
    | .error fault =>
      if fault.kind.isInput then
        let (written, sink) := b.sink.writeLine fallback
        (written.map fun () => some fault.kind,
          { b with source, sink, events, linesRead, tables := turn.tables })
      else (.error fault, { b with source, events, linesRead, tables := turn.tables })
termination_by b.source.size
decreasing_by all_goals exact Source.size_fetch_lt _hfetch

/-- Runs a batch and flushes the sink. Only a batch that ends without a fault of the
    source or the sink has a summary and an event at its end. -/
def run (b : Batch) : Except Fault Summary × Batch :=
  let (result, b) := { b with events := b.events.push (Event.start b.session operation) }.loop
  match result, b.sink.flush with
  | .error fault, _ | .ok _, .error fault => (.error fault, b)
  | .ok abortedWith, .ok () =>
    let counts : List Field :=
      [⟨"lines_read".toList, .number b.linesRead⟩, ⟨"answers".toList, .number b.answers⟩]
    let events := b.events.push (Event.finish b.session operation counts)
    (.ok ⟨b.linesRead, b.answers, abortedWith⟩, { b with events })

end Batch

end TradeNotes
