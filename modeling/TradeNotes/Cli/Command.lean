import TradeNotes.Cli.Arguments
import TradeNotes.Log.Filter
import TradeNotes.Log.Line
import TradeNotes.Report
import TradeNotes.Session.Batch
import TradeNotes.Tables.Dump

namespace TradeNotes.Cli

/-- What is written to the standard error: events, and lines of other text. -/
inductive Notice
  | event (e : Event)
  | line (t : Text)

/-- What the command came to: its exit code, and what it has written. -/
structure Outcome where
  code : Nat
  out : List UInt8
  notices : List Notice

/-- The report of a failure, on a line of its own. -/
def failure (t : Text) : Notice := .line ("Error: ".toList ++ t)

/-- The tables on lines of their own, when they are asked for. -/
def dump (switches : Switches) (t : Tables) : List Notice :=
  if switches.dumpTables then [.line t.dump] else []

/-- Carries out the lines of a source and writes the answers. A line that is rejected
    ends this well; only a source that fails does not. -/
def run (switches : Switches) (session : Text) (source : Source) : Outcome :=
  let batch : Batch := { session, tables := .empty, source, sink := {} }
  let (result, batch) := batch.run
  let events := batch.events.toList.map Notice.event
  match result with
  | .ok _ => ⟨0, batch.sink.taken.toList, events ++ dump switches batch.tables⟩
  | .error fault => ⟨1, batch.sink.taken.toList, events ++ [failure fault.message]⟩

/-- Carries out lines after others have written something and left tables. The first
    line that is rejected ends this with a report. -/
def evalFrom (switches : Switches) (session : Text) (t : Tables) : List Text → Outcome
  | [] => ⟨0, [], dump switches t⟩
  | line :: rest =>
    let turn := Turn.ofLine session t line
    let events := turn.events.map Notice.event
    match turn.outcome with
    | .ok answer =>
      let outcome := evalFrom switches session turn.tables rest
      let written := (answer.map fun answer => Text.utf8 (answer ++ ['\n'])).getD []
      { outcome with out := written ++ outcome.out, notices := events ++ outcome.notices }
    | .error fault =>
      let report := failure (Report.ofFault fault).text
      ⟨1, [], events ++ dump switches turn.tables ++ [report]⟩

/-- Carries out lines that are given as arguments. -/
def eval (switches : Switches) (session : Text) (lines : List Text) : Outcome :=
  evalFrom switches session .empty lines

/-- The filter of a profile: of the events of this program, developers see all but the
    most detailed, and a program in use keeps those from the level of information up. -/
def Profile.filter : Profile → Log.Filter
  | .development => [{ target := some "merchant".toList, limit := Level.debug.rank }]
  | .production => [{ target := some "merchant".toList, limit := Level.info.rank }]

/-- The filter of a profile. One that is given, and can be read, stands instead of its own. -/
def Profile.filterOr (profile : Profile) (given : Option Text) : Log.Filter :=
  (given.bind Log.Filter.ofText?).getD profile.filter

/-- An event as a line of the log. -/
def Profile.line (profile : Profile) (stamp : Log.Stamp) (e : Event) : Text :=
  match profile with
  | .development => Log.plainLine stamp e
  | .production => Log.jsonLine stamp e

/-- A notice as it is written. Events are written only when there is a log, and when
    its filter lets them pass. -/
def Notice.text (switches : Switches) (given : Option Text) (stamp : Log.Stamp) : Notice → Text
  | .line t => t ++ ['\n']
  | .event e =>
    match switches.profile with
    | none => []
    | some profile => if (profile.filterOr given).passes e then profile.line stamp e else []

/-- The file that an action reads. A single dash is the standard input. -/
def Action.file? : Action → Option Text
  | .run (some path) => if path = ['-'] then none else some path
  | _ => none

/-- Carries out an invocation. The lines of a run come from the source that has been
    opened, which may have failed for a reason. -/
def Invocation.execute (i : Invocation) (session : Text) (opened : Except Text Source) : Outcome :=
  match i.action with
  | .eval lines => eval i.switches session lines
  | .run _ =>
    match opened with
    | .ok source => run i.switches session source
    | .error reason => ⟨1, [], [failure (Fault.inputOutput reason).message]⟩

end TradeNotes.Cli
