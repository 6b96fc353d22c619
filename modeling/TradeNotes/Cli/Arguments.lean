import TradeNotes.Text.Basic

namespace TradeNotes.Cli

/-- For whom log lines are written. -/
inductive Profile
  | development
  | production
  deriving DecidableEq

/-- What the command is asked to do. -/
inductive Action
  /-- Carry out the lines of a file, or of the standard input. -/
  | run (input : Option Text)
  /-- Carry out lines that are given as arguments. -/
  | eval (lines : List Text)
  deriving DecidableEq

/-- Switches that may stand before and after the name of the action. -/
structure Switches where
  profile : Option Profile := none
  dumpTables : Bool := false
  deriving DecidableEq

/-- How the command is called. -/
structure Invocation where
  switches : Switches
  action : Action
  deriving DecidableEq

namespace Profile

/-- The profile with a name. -/
def ofText? (t : Text) : Option Profile :=
  if t = "development".toList then some development
  else if t = "production".toList then some production
  else none

end Profile

namespace Switches

/-- Sets the profile, which may be done once. -/
def setProfile? (s : Switches) (name : Text) : Option Switches :=
  if s.profile.isSome then none
  else (Profile.ofText? name).map fun profile => { s with profile := some profile }

/-- Asks for the tables, which may be done once. -/
def setDumpTables? (s : Switches) : Option Switches :=
  if s.dumpTables then none else some { s with dumpTables := true }

/-- The switches before and after the name of the action together. A profile after it
    stands instead of one before. -/
def merge (before after : Switches) : Switches :=
  ⟨after.profile <|> before.profile, before.dumpTables || after.dumpTables⟩

/-- The switch whose value follows as an argument of its own. -/
def profileName : Text := "--log-profile".toList

/-- The switch that has no value. -/
def dumpTablesName : Text := "--dump-tables".toList

/-- What stands before the value of a switch within one argument. -/
def profileAssignment : Text := profileName ++ ['=']

end Switches

/-- Whether an argument looks like a switch. A single dash does not. -/
def isSwitch (argument : Text) : Bool :=
  argument.head? = some '-' && argument != ['-']

/-- Parts arguments into switches and the others, in their order. After two dashes
    no argument is a switch. -/
def partSwitches (s : Switches) : List Text → Option (Switches × List Text)
  | [] => some (s, [])
  | argument :: rest =>
    if argument = "--".toList then some (s, rest)
    else if argument = Switches.dumpTablesName then do partSwitches (← s.setDumpTables?) rest
    else if argument = Switches.profileName then
      match rest with
      | name :: rest => do partSwitches (← s.setProfile? name) rest
      | [] => none
    else if Switches.profileAssignment.isPrefixOf argument then do
      partSwitches (← s.setProfile? (argument.drop Switches.profileAssignment.length)) rest
    else if isSwitch argument then none
    else do
      let (s, others) ← partSwitches s rest
      return (s, argument :: others)

/-- Reads the switches in front of the name of the action, and gives what stands from
    the name on. -/
def leadingSwitches (s : Switches) : List Text → Option (Switches × List Text)
  | [] => some (s, [])
  | argument :: rest =>
    if argument = Switches.dumpTablesName then do leadingSwitches (← s.setDumpTables?) rest
    else if argument = Switches.profileName then
      match rest with
      | name :: rest => do leadingSwitches (← s.setProfile? name) rest
      | [] => none
    else if Switches.profileAssignment.isPrefixOf argument then do
      leadingSwitches (← s.setProfile? (argument.drop Switches.profileAssignment.length)) rest
    else some (s, argument :: rest)

/-- The action with a name and its arguments: at most one file, which has a name, or
    at least one line. -/
def Action.ofName? (name : Text) (arguments : List Text) : Option Action :=
  if name = "run".toList then
    match arguments with
    | [] => some (.run none)
    | [input] => if input.isEmpty then none else some (.run (some input))
    | _ => none
  else if name = "eval".toList then
    if arguments.isEmpty then none else some (.eval arguments)
  else none

/-- Reads the arguments of the command. -/
def Invocation.ofArguments? (arguments : List Text) : Option Invocation := do
  let (before, rest) ← leadingSwitches {} arguments
  match rest with
  | [] => none
  | name :: rest =>
    let (after, others) ← partSwitches {} rest
    return ⟨before.merge after, ← Action.ofName? name others⟩

end TradeNotes.Cli
