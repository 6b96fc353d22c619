import TradeNotes.Tables.Basic

namespace TradeNotes

/-- Whether numbers compare as equal. What is not a number is not equal to itself either, and
    the two zeros are equal. -/
def Binary64.isEqual : Binary64 → Binary64 → Bool
  | nan, _ | _, nan => false
  | infinite s, infinite t => s == t
  | infinite _, finite _ _ | finite _ _, infinite _ => false
  | finite s m, finite t n => m == n && (s == t || m == .zero)

/-- Whether maps compare as equal, name by name in their order. -/
def NameMap.isEqual {α : Type} (equal : α → α → Bool) (m m' : NameMap α) : Bool :=
  m.entries.isEqv m'.entries fun a b => a.1 == b.1 && equal a.2 b.2

namespace Tables

/-- Whether tables compare as equal. -/
def isEqual (t t' : Tables) : Bool :=
  t.units.isEqual (· == ·) t'.units && t.metals.isEqual Binary64.isEqual t'.metals

/-- Carries out a command and makes sure that a question has left the tables as they were. There
    is no result when they do not compare as equal. -/
def applyChecked (t : Tables) (command : Command) : Option (Except Fault (Tables × Option Text)) :=
  let result := t.apply command
  let after :=
    match result with
    | .ok (after, _) => after
    | .error _ => t
  if command.isMutation || t.isEqual after then some result else none

end Tables

end TradeNotes
