import TradeNotes.Command.Basic
import TradeNotes.Credits
import TradeNotes.NameMap

namespace TradeNotes

/-- What has been learnt: the letters of units, and what one unit of a metal is worth. -/
structure Tables where
  units : NameMap Letter
  metals : NameMap Binary64

namespace Tables

/-- Nothing has been learnt. -/
def empty : Tables := ⟨.empty, .empty⟩

/-- The letter of a unit. -/
def letter (t : Tables) (unit : Text) : Except Fault Letter :=
  match t.units.get? unit with
  | some letter => .ok letter
  | none => .error (.unknownUnit unit)

/-- The letters of units, side by side. The first unit without a letter is at fault. -/
def numeral (t : Tables) (units : List Text) : Except Fault Numeral :=
  units.mapM t.letter

/-- The number that units make. -/
def value (t : Tables) (units : List Text) : Except Fault Nat :=
  Numeral.value <$> t.numeral units

/-- What one unit of a metal is worth. -/
def ratio (t : Tables) (metal : Text) : Except Fault Binary64 :=
  match t.metals.get? metal with
  | some ratio => .ok ratio
  | none => .error (.unknownMetal metal)

/-- What one unit is worth when so many are worth an amount of credits. When there
    are none, it is worth nothing. -/
def perUnit (credits : Binary64) (units : Nat) : Binary64 :=
  if 0 < units then credits.div (Binary64.ofNat units) else .zero

/-- Assigns a letter to a unit. -/
def assignUnit (t : Tables) (unit : Text) (letter : Letter) : Tables :=
  { t with units := t.units.insert unit letter }

/-- Sets what one unit of a metal is worth. -/
def setRatio (t : Tables) (metal : Text) (ratio : Binary64) : Tables :=
  { t with metals := t.metals.insert metal ratio }

/-- Values a metal by what so many units of it are worth. -/
def assignMetal (t : Tables) (units : List Text) (metal : Text) (credits : Binary64) :
    Except Fault Tables := do
  let measured ← t.value units
  return t.setRatio metal (perUnit credits measured)

/-- The answer to what number units make. -/
def answerNumeral (t : Tables) (phrase : Text) (units : List Text) : Except Fault Text := do
  let value ← t.value units
  return phrase ++ " is ".toList ++ Nat.toDigits 10 value

/-- The answer to what so many units of a metal are worth. The metal is looked up
    before the units. -/
def answerCredits (t : Tables) (phrase : Text) (units : List Text) (metal : Text) :
    Except Fault Text := do
  let ratio ← t.ratio metal
  let measured ← t.value units
  let amount := (Binary64.ofNat measured).mul ratio
  return phrase ++ " is ".toList ++ Credits.text amount ++ " Credits".toList

/-- Carries out a command: the tables after it, and the answer when it is a question. -/
def apply (t : Tables) : Command → Except Fault (Tables × Option Text)
  | .assignUnit unit letter => .ok (t.assignUnit unit letter, none)
  | .assignMetal units metal credits => (·, none) <$> t.assignMetal units metal credits
  | .queryNumeral phrase units => (t, some ·) <$> t.answerNumeral phrase units
  | .queryCredits phrase units metal => (t, some ·) <$> t.answerCredits phrase units metal

end Tables

end TradeNotes
