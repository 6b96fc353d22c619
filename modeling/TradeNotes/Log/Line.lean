import TradeNotes.Event
import TradeNotes.Json.Writer

namespace TradeNotes.Log

/-- What is known of an event only when it is written: the time of day, and the time
    since its operation began. -/
structure Stamp where
  time : Text
  elapsed : Text

/-- How ratios stand in log lines: in the fewest digits that read back, a half being
    rounded up, with an exponent below 10⁻⁴ and from 10¹⁶ on. -/
def amountLayout : Layout where
  tie := .up
  least := -4
  most := 15
  plus := []
  nan := "NaN".toList
  infinite negative := if negative then "-inf".toList else "inf".toList

/-- The text that a value is recorded as, without quotes. -/
def valueText (elapsed : Text) : FieldValue → Text
  | .quoted t | .shown t => t
  | .number n => Nat.toDigits 10 n
  | .truth b => if b then "true".toList else "false".toList
  | .amount x => amountLayout.text x
  | .elapsed => elapsed

/-- A value in a line for people: texts are quoted where they may hold anything. -/
def plainValue (elapsed : Text) : FieldValue → Text
  | .quoted t => t.quoted
  | value => valueText elapsed value

/-- A value in a line for programs: texts are JSON strings, and what is no finite
    number is null. -/
def jsonValue (elapsed : Text) : FieldValue → Text
  | .quoted t | .shown t => Json.quoted t
  | .amount x => Json.layout.text x
  | value => valueText elapsed value

/-- An event as a line for people: the time, the level, the target, the message and
    the fields. -/
def plainLine (stamp : Stamp) (e : Event) : Text :=
  let field (f : Field) : Text := f.name ++ ['='] ++ plainValue stamp.elapsed f.value
  stamp.time ++ [' '] ++ List.leftpad 5 ' ' e.level.name ++ [' '] ++ e.target ++ [':', ' ']
    ++ [' '].intercalate (e.message.toList ++ e.fields.map field) ++ ['\n']

/-- Members of an object on one line, their values given as they are written. -/
def jsonObject (members : List (Text × Text)) : Text :=
  let member (m : Text × Text) : Text := Json.quoted m.1 ++ [':'] ++ m.2
  ['{'] ++ [','].intercalate (members.map member) ++ ['}']

/-- An event as a line for programs: one JSON object. -/
def jsonLine (stamp : Stamp) (e : Event) : Text :=
  let fields := e.record.map fun f => (f.name, jsonValue stamp.elapsed f.value)
  jsonObject
    [("timestamp".toList, Json.quoted stamp.time), ("level".toList, Json.quoted e.level.name),
     ("fields".toList, jsonObject fields), ("target".toList, Json.quoted e.target)] ++ ['\n']

end TradeNotes.Log
