import TradeNotes.Fault
import TradeNotes.Text.Utf8

namespace TradeNotes

/-- How many bytes a sink can still take, and the reason it gives when it is full. -/
structure Room where
  bytes : Nat
  reason : Text

/-- Where answers are written to: the bytes it has taken, its room when that is
    bounded, and why it cannot be flushed when it cannot. -/
structure Sink where
  taken : Array UInt8 := #[]
  room : Option Room := none
  flushFailure : Option Text := none

namespace Sink

/-- Writes bytes. A sink without room for all of them takes those it has room for and fails. -/
def write (s : Sink) (bytes : List UInt8) : Except Fault Unit × Sink :=
  match s.room with
  | none => (.ok (), { s with taken := s.taken ++ bytes })
  | some room =>
    if bytes.length ≤ room.bytes then
      (.ok (), { s with
        taken := s.taken ++ bytes, room := some { room with bytes := room.bytes - bytes.length } })
    else
      (.error (.inputOutput room.reason), { s with
        taken := s.taken ++ bytes.take room.bytes, room := some { room with bytes := 0 } })

/-- Writes a text, and a newline when that has succeeded. -/
def writeLine (s : Sink) (t : Text) : Except Fault Unit × Sink :=
  match s.write t.utf8 with
  | (.ok (), s) => s.write (Text.utf8 ['\n'])
  | failed => failed

/-- Makes sure that all that was written has arrived. -/
def flush (s : Sink) : Except Fault Unit :=
  match s.flushFailure with
  | none => .ok ()
  | some reason => .error (.inputOutput reason)

end Sink

end TradeNotes
