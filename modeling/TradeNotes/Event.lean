import TradeNotes.Binary64.Basic
import TradeNotes.Fault

namespace TradeNotes

/-- How much an event matters. -/
inductive Level
  | error
  | warn
  | info
  | debug
  | trace
  deriving DecidableEq

namespace Level

/-- The name of a level. -/
def name : Level → Text
  | error => "ERROR".toList
  | warn => "WARN".toList
  | info => "INFO".toList
  | debug => "DEBUG".toList
  | trace => "TRACE".toList

/-- The place of a level, from what matters most. -/
def rank : Level → Nat
  | error => 1
  | warn => 2
  | info => 3
  | debug => 4
  | trace => 5

end Level

/-- The value of a field of an event. -/
inductive FieldValue
  /-- A text that is quoted where it is written. -/
  | quoted (t : Text)
  /-- A text that stands as it is. -/
  | shown (t : Text)
  | number (n : Nat)
  | truth (b : Bool)
  | amount (x : Binary64)
  /-- The time since the operation began, which whoever writes the event measures. -/
  | elapsed
  deriving DecidableEq

/-- A field of an event. -/
structure Field where
  name : Text
  value : FieldValue
  deriving DecidableEq

/-- Something that happened in a session. -/
structure Event where
  level : Level
  target : Text
  message : Option Text := none
  fields : List Field
  deriving DecidableEq

namespace Event

/-- The part of the program that keeps sessions. -/
def sessionTarget : Text := "merchant_core::interpreter".toList

/-- An operation of a session begins or ends. -/
def boundary (level : Level) (session : Text) (operation event : String) (more : List Field) :
    Event where
  level := level
  target := sessionTarget
  fields :=
    [⟨"component".toList, .quoted sessionTarget⟩, ⟨"op".toList, .quoted operation.toList⟩,
     ⟨"event".toList, .quoted event.toList⟩, ⟨"session_id".toList, .quoted session⟩] ++ more

/-- An operation begins. -/
def start (session : Text) (operation : String) : Event :=
  boundary .info session operation "start" []

/-- An operation ends well. -/
def finish (session : Text) (operation : String) (more : List Field) : Event :=
  boundary .info session operation "end" (⟨"duration_ms".toList, .elapsed⟩ :: more)

/-- A line is rejected. -/
def reject (session : Text) (operation : String) (fault : Fault) : Event :=
  boundary .warn session operation "end_error"
    [⟨"duration_ms".toList, .elapsed⟩, ⟨"err_kind".toList, .shown fault.kind.name⟩,
     ⟨"err_code".toList, .quoted fault.kind.code⟩, ⟨"error".toList, .shown fault.message⟩]

/-- A line has been recognised as a command. -/
def classified (session command : Text) : Event where
  level := .debug
  target := sessionTarget
  message := some "classified line".toList
  fields := [⟨"session_id".toList, .quoted session⟩, ⟨"command".toList, .quoted command⟩]

/-- A unit has been given a letter. -/
def unitAssigned (unit letter : Text) : Event where
  level := .debug
  target := "merchant_core::ops::unit_ops".toList
  message := some "unit assigned".toList
  fields := [⟨"unit".toList, .quoted unit⟩, ⟨"letter".toList, .shown letter⟩]

/-- A metal has been valued by a number of its units. -/
def metalValued (metal : Text) (measured : Nat) (ratio : Binary64) : Event where
  level := .debug
  target := "merchant_core::ops::metal_ops".toList
  message := some "metal valued".toList
  fields :=
    [⟨"metal".toList, .quoted metal⟩, ⟨"measured".toList, .number measured⟩,
     ⟨"ratio".toList, .amount ratio⟩]

/-- All that an event records, by name. Its message is recorded as a field. -/
def record (e : Event) : List Field :=
  (e.message.map fun t => ⟨"message".toList, .shown t⟩).toList ++ e.fields

/-- The text of a field, where it has one. -/
def text? (e : Event) (name : String) : Option Text :=
  (e.record.find? (·.name == name.toList)).bind fun field =>
    match field.value with
    | .quoted t | .shown t => some t
    | _ => none

end Event

end TradeNotes
