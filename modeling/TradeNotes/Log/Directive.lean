import TradeNotes.Event
import TradeNotes.Json.Reader
import TradeNotes.Log.Pattern.WellFormed
import TradeNotes.Text.Utf8

namespace TradeNotes.Log

/-- A field that a directive asks for: its name, and the value when one is asked for. -/
structure FieldDemand where
  name : Text
  value : Option Text

namespace FieldDemand

/-- Whether a text is a number without a sign, or the word for one that is not finite. -/
def isUnsigned (t : Text) : Bool :=
  let whole := t.takeWhile Char.isDigit
  let (fraction, rest) := match t.dropWhile Char.isDigit with
    | '.' :: rest => (rest.takeWhile Char.isDigit, rest.dropWhile Char.isDigit)
    | rest => ([], rest)
  let isNumber := match Json.readExponent rest with
    | some (_, []) => !(whole ++ fraction).isEmpty
    | _ => false
  isNumber || ["inf", "infinity", "nan"].any fun word => word.toList == t.map Char.toLower

/-- Whether a field can be asked for a value: a number, or a pattern for its text. Only a
    number with a plus sign is no pattern. -/
def isValue : Text → Bool
  | '+' :: rest => isUnsigned rest
  | t => Pattern.isWellFormed t

/-- Reads a name, or a name and a value with a sign between them. -/
def ofText? (t : Text) : Option FieldDemand :=
  match t.cutAt? ['='] with
  | some (name, value) =>
    let value := value.takeWhile (· != '=')
    if isValue value then some ⟨name, some value⟩ else none
  | none => if t.isEmpty then none else some ⟨t, none⟩

end FieldDemand

/-- Lets events up to a level pass that have a target, stand in a span and hold fields. -/
structure Directive where
  target : Option Text := none
  span : Option Text := none
  fields : List FieldDemand := []
  /-- The greatest rank of a level that passes; no level has rank zero. -/
  limit : Nat := Level.trace.rank

namespace Directive

/-- The limits by their names, in lower case. -/
def limits : List (Text × Nat) :=
  ("off".toList, 0) ::
    [Level.error, .warn, .info, .debug, .trace].map fun level =>
      (level.name.map Char.toLower, level.rank)

/-- The limit that a text names, in letters of either case or as a number. -/
def limitOfText? (t : Text) : Option Nat :=
  let digits := if t.head? = some '+' then t.drop 1 else t
  if !digits.isEmpty && digits.all Char.isDigit then
    let n := Nat.ofDigitChars 10 digits 0
    if n ≤ Level.trace.rank then some n else none
  else limits.lookup (t.map Char.toLower)

/-- The limit at the end of a directive. Nothing after the sign lets every level pass. -/
def limitAfterSign? (t : Text) : Option Nat :=
  if t.isEmpty then some Level.trace.rank else limitOfText? t

/-- The part of a text from one byte up to another. -/
def part? (t : Text) (first stop : Nat) : Option Text :=
  (t.dropBytes? first).bind fun rest => rest.takeBytes? (stop - first)

/-- Reads what stands after a span, at a byte of the text: nothing, or a limit. -/
def ofTail? (given : Text) (first : Nat) (d : Directive) : Text → Option Directive
  | [] => some d
  | '=' :: _ => do
    let limit ← limitAfterSign? (← given.dropBytes? (first + 1))
    return { d with limit }
  | _ => none

/-- Reads what stands after an opening bracket, at a byte of the text: a span, its field
    when there is one, and the closing bracket. -/
def ofSpan? (given : Text) (first : Nat) (d : Directive) (t : Text) : Option Directive := do
  let name : Text := t.takeWhile fun c => c != ']' && c != '{'
  let stop := first + name.utf8.length
  let span ← part? given first stop
  match t.dropWhile fun c => c != ']' && c != '{' with
  | '{' :: rest =>
    let field : Text := rest.takeWhile (· != '}')
    let fieldStop := stop + 1 + field.utf8.length
    match rest.dropWhile (· != '}') with
    | '}' :: ']' :: tail =>
      let field ← FieldDemand.ofText? (← part? given (stop + 1) fieldStop)
      let span := if span.isEmpty then none else some span
      ofTail? given (fieldStop + 2) { d with span, fields := [field] } tail
    | _ => none
  | _ :: tail => ofTail? given (stop + 1) { d with span := some span } tail
  | [] => none

/-- Whether a character may begin a level or a target. -/
def isStart (c : Char) : Bool :=
  c == '-' || c == ':' || c == '_' || Text.isAlphanumeric c

/-- Reads one directive: a level, a target, or a target with a span or a level or both.
    Where the parts begin and end is found in the text without the white space around
    it, and those bytes of the text as it is given are the parts. -/
def ofText? (given : Text) : Option Directive :=
  match given.trim with
  | [] => none
  | '[' :: rest => ofSpan? given 1 {} rest
  | c :: rest =>
    let t := c :: rest
    let name : Text := t.takeWhile fun c => c != '=' && c != '['
    let stop := name.utf8.length
    if !isStart c then none
    else
      match t.dropWhile fun c => c != '=' && c != '[' with
      | [] =>
        match limitOfText? given with
        | some limit => some { limit }
        | none => some { target := some given }
      | '[' :: rest => do
        ofSpan? given (stop + 1) { target := some (← part? given 0 stop) } rest
      | tail => do
        ofTail? given stop { target := some (← part? given 0 stop) } tail

/-- Whether a directive can be judged by an event alone: it asks for no span and no value. -/
def isStatic (d : Directive) : Bool :=
  d.span.isNone && d.fields.all (·.value.isNone)

/-- Whether a directive is about an event: the target begins as it says, and the event
    has the fields. -/
def concerns (d : Directive) (e : Event) : Bool :=
  d.target.all (fun target => target.isPrefixOf e.target) &&
    d.fields.all fun field => e.record.any (·.name == field.name)

/-- How special a directive is: by the length of its target, then by its fields. -/
def specificity (d : Directive) : Nat × Nat × List Text :=
  ((d.target.map fun target => target.utf8.length + 1).getD 0,
    d.fields.length, d.fields.map (·.name))

/-- Whether a directive is at least as special as another. -/
def overrides (d other : Directive) : Bool :=
  let (target, count, names) := d.specificity
  let (target', count', names') := other.specificity
  target' < target
    || target' == target && (count' < count || count' == count && !decide (names < names'))

end Directive

end TradeNotes.Log
