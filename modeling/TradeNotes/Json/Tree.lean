import TradeNotes.Json.Number

namespace TradeNotes.Json

/-- A part of a string as it is written: a character, or the number of a UTF-16 unit. -/
inductive StringPart
  | char (c : Char)
  | unit (n : Nat)

/-- A JSON value as it is written. Strings and numbers are not yet given a meaning. -/
inductive Tree
  | null
  | truth (value : Bool)
  | number (n : NumberText)
  | string (parts : List StringPart)
  | array (items : List Tree)
  | object (members : List (List StringPart × Tree))

/-- The text that a written string stands for. A UTF-16 surrogate counts only as
    half of a pair. -/
def stringText? : List StringPart → Option Text
  | [] => some []
  | .char c :: rest => (stringText? rest).map (c :: ·)
  | .unit high :: rest =>
    if high < 0xD800 || 0xDFFF < high then (stringText? rest).map (Char.ofNat high :: ·)
    else if 0xDC00 ≤ high then none
    else
      match rest with
      | .unit low :: rest =>
        if 0xDC00 ≤ low && low ≤ 0xDFFF then
          let c := Char.ofNat (0x10000 + (high - 0xD800) * 0x400 + (low - 0xDC00))
          (stringText? rest).map (c :: ·)
        else none
      | _ => none

end TradeNotes.Json
