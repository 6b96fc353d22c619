import TradeNotes.Json.Reader
import TradeNotes.Json.Writer
import TradeNotes.Tables.Basic

namespace TradeNotes.Tables

/-- The tables as a JSON text: the letters of the units, then the ratios of the
    metals, each in the order of the names. -/
def dump (t : Tables) : Text :=
  let units := t.units.entries.map fun (name, letter) => (name, Json.quoted [letter.toChar])
  let metals := t.metals.entries.map fun (name, ratio) => (name, Json.layout.text ratio)
  Json.object 0 [("units".toList, Json.object 2 units), ("metals".toList, Json.object 2 metals)]

/-- The letter that a value gives: its text, or the one name of an object whose value is null. -/
def letterOfTree? : Json.Tree → Option Letter
  | .string parts => (Json.stringText? parts).bind Letter.ofText?
  | .object [(parts, .null)] => (Json.stringText? parts).bind Letter.ofText?
  | _ => none

/-- The number that a value gives. -/
def ratioOfTree? : Json.Tree → Option Binary64
  | .number n => n.value?
  | _ => none

/-- The map that an object gives. A name that is repeated has its last value. -/
def namesOfTree? {α : Type} (read : Json.Tree → Option α) : Json.Tree → Option (NameMap α)
  | .object members =>
    NameMap.ofList <$> members.mapM fun (parts, tree) => do
      return (← Json.stringText? parts, ← read tree)
  | _ => none

/-- The one value that an object has under a name. -/
def member? (name : String) (members : List (Text × Json.Tree)) : Option Json.Tree :=
  match members.filter (·.1 == name.toList) with
  | [(_, tree)] => some tree
  | _ => none

/-- The two maps of a dump: the members with their names, or the items of an array of two. -/
def partsOfTree? : Json.Tree → Option (Json.Tree × Json.Tree)
  | .array [units, metals] => some (units, metals)
  | .object members => do
    let members ← members.mapM fun (parts, tree) => (·, tree) <$> Json.stringText? parts
    return (← member? "units" members, ← member? "metals" members)
  | _ => none

/-- The tables that a JSON text holds. Members with other names do not count. -/
def ofDump? (t : Text) : Option Tables := do
  let (units, metals) ← partsOfTree? (← Json.read? t)
  return ⟨← namesOfTree? letterOfTree? units, ← namesOfTree? ratioOfTree? metals⟩

end TradeNotes.Tables
