import Std.Time.DateTime.Timestamp
import TradeNotes.Cli.Command
import TradeNotes.Cli.Folder
import TradeNotes.Log.Clock
import TradeNotes.Session.Identifier

namespace TradeNotes.Cli

/-- How the command is called. -/
def usage : String :=
  "Usage: merchant [SWITCHES] run [INPUT]\n"
    ++ "       merchant [SWITCHES] eval <LINE>...\n"
    ++ "Switches: --log-profile development|production, --dump-tables"

/-- Microseconds since the beginning of 1970. -/
def currentTime : IO Nat := do
  let now ← Std.Time.Timestamp.now
  return (now.toNanosecondsSinceUnixEpoch.val / 1000).toNat

/-- A name for a session that no other session has. -/
def freshSession : IO Text := do
  let random ← IO.getRandomBytes 10
  return sessionIdentifier ((← currentTime) / 1000)
    (random.toList.foldl (fun n byte => n * 256 + byte.toNat) 0)

/-- Opens a file as a source of lines. -/
def openFile (path : String) : IO (Except Text Source) := do
  try
    return .ok (Source.ofBytes (← IO.FS.readBinFile path).toList)
  catch failure =>
    match failure with
    | .inappropriateType _ 21 _ => return .ok (Source.failingAfter [] Folder.isFolder)
    | .noFileOrDirectory .. => return .error Folder.missing
    | .inappropriateType _ 20 _ => return .error Folder.notFolder
    | .permissionDenied .. => return .error Folder.notPermitted
    | .invalidArgument _ 36 _ => return .error Folder.nameTooLong
    | other => return .error other.toString.toList

/-- Opens what an action reads: a file, or the standard input. -/
def openInput (action : Action) : IO (Except Text Source) := do
  match action, action.file? with
  | .run _, some path => openFile (String.ofList path)
  | .run _, none => return .ok (Source.ofBytes (← (← IO.getStdin).readBinToEnd).toList)
  | .eval _, _ => return .ok (Source.ofBytes [])

/-- Carries out an invocation, writes its answers and its notices, and gives its exit code. -/
def perform (invocation : Invocation) : IO UInt32 := do
  let opened ← openInput invocation.action
  let given := (← IO.getEnv "RUST_LOG").map String.toList
  let outcome := invocation.execute (← freshSession) opened
  let stdout ← IO.getStdout
  stdout.write ⟨outcome.out.toArray⟩
  stdout.flush
  for notice in outcome.notices do
    let stamp : Log.Stamp := ⟨Log.timeText (← currentTime), ['0']⟩
    IO.eprint (String.ofList (notice.text invocation.switches given stamp))
  return outcome.code.toUInt32

end TradeNotes.Cli

/-- The command line. -/
def main (arguments : List String) : IO UInt32 := do
  match TradeNotes.Cli.Invocation.ofArguments? (arguments.map String.toList) with
  | some invocation => TradeNotes.Cli.perform invocation
  | none =>
    IO.eprintln TradeNotes.Cli.usage
    return 2
