import Mathlib.Logic.Relation
import TradeNotes.Proofs.Tables.Dumping
import TradeNotes.Proofs.Tables.Footprint

namespace TradeNotes

/-- Whether two commands are assignments or valuations of different names, and neither assigns a
    unit by which the other one values its metal. -/
inductive Command.Independent : Command → Command → Prop
  | units {unit unit' : Text} (letter letter' : Letter) (h : unit ≠ unit') :
      Independent (.assignUnit unit letter) (.assignUnit unit' letter')
  | metals {metal metal' : Text} (units units' : List Text) (credits credits' : Binary64)
      (h : metal ≠ metal') :
      Independent (.assignMetal units metal credits) (.assignMetal units' metal' credits')
  | unitMetal {unit : Text} {units : List Text} (letter : Letter) (metal : Text)
      (credits : Binary64) (h : unit ∉ units) :
      Independent (.assignUnit unit letter) (.assignMetal units metal credits)
  | metalUnit {unit : Text} {units : List Text} (letter : Letter) (metal : Text)
      (credits : Binary64) (h : unit ∉ units) :
      Independent (.assignMetal units metal credits) (.assignUnit unit letter)

theorem Command.Independent.symm {command command' : Command} (h : Independent command command') :
    Independent command' command := by
  cases h with
  | units letter letter' h => exact .units letter' letter h.symm
  | metals units units' credits credits' h => exact .metals units' units credits' credits h.symm
  | unitMetal letter metal credits h => exact .metalUnit letter metal credits h
  | metalUnit letter metal credits h => exact .unitMetal letter metal credits h

namespace Tables

variable {t : Tables} {command command' : Command}

end Tables

namespace Turn

/-- Whether two lines give independent commands. -/
def Independent (line line' : Text) : Prop :=
  ∃ command command', Command.ofLine line.trim = .ok command ∧
    Command.ofLine line'.trim = .ok command' ∧ command.Independent command'

variable {session : Text} {t : Tables} {line line' : Text}

theorem Independent.symm (h : Independent line line') : Independent line' line := by
  obtain ⟨command, command', hcommand, hcommand', hindependent⟩ := h
  exact ⟨command', command, hcommand', hcommand, hindependent.symm⟩

end Turn

end TradeNotes
