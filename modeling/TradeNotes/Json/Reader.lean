import TradeNotes.Json.Tree

namespace TradeNotes.Json

/-- The four characters of white space that may stand between the tokens of JSON. -/
def isSpace (c : Char) : Bool :=
  c == ' ' || c == '\n' || c == '\t' || c == '\r'

/-- What a backslash and a character stand for, when four digits need not follow. -/
def simpleEscape? : Char → Option Char
  | '"' => some '"'
  | '\\' => some '\\'
  | '/' => some '/'
  | 'b' => some '\x08'
  | 'f' => some '\x0C'
  | 'n' => some '\n'
  | 'r' => some '\r'
  | 't' => some '\t'
  | _ => none

/-- Reads a string after its opening quote, and gives what stands after the closing one. -/
def readString : Text → Option (List StringPart × Text)
  | [] => none
  | '"' :: rest => some ([], rest)
  | '\\' :: 'u' :: a :: b :: c :: d :: rest => do
    let a ← Text.hexDigit? a
    let b ← Text.hexDigit? b
    let c ← Text.hexDigit? c
    let d ← Text.hexDigit? d
    let (parts, after) ← readString rest
    return (.unit (((a * 16 + b) * 16 + c) * 16 + d) :: parts, after)
  | '\\' :: e :: rest => do
    let c ← simpleEscape? e
    let (parts, after) ← readString rest
    return (.char c :: parts, after)
  | c :: rest =>
    if c.toNat < 0x20 || c == '\\' then none
    else do
      let (parts, after) ← readString rest
      return (.char c :: parts, after)

/-- Reads the digits at the front, at least one. -/
def readDigits (t : Text) : Option (Text × Text) :=
  let digits := t.takeWhile Char.isDigit
  if digits.isEmpty then none else some (digits, t.dropWhile Char.isDigit)

/-- Reads the digits of a whole part. A zero stands alone. -/
def readWhole (t : Text) : Option (Text × Text) := do
  let (digits, rest) ← readDigits t
  if digits.head? = some '0' ∧ 1 < digits.length then none else return (digits, rest)

/-- Reads what may follow the point of a number. -/
def readFraction : Text → Option (Text × Text)
  | '.' :: rest => readDigits rest
  | t => some ([], t)

/-- Reads an exponent, when there is one: whether it is negative, and its digits. -/
def readExponent : Text → Option (Option (Bool × Text) × Text)
  | [] => some (none, [])
  | c :: rest =>
    if c = 'e' ∨ c = 'E' then do
      let (negative, t) := match rest with
        | '-' :: t => (true, t)
        | '+' :: t => (false, t)
        | t => (false, t)
      let (digits, after) ← readDigits t
      return (some (negative, digits), after)
    else some (none, c :: rest)

/-- Reads a number. -/
def readNumber (t : Text) : Option (NumberText × Text) := do
  let (negative, t) := match t with
    | '-' :: t => (true, t)
    | t => (false, t)
  let (whole, t) ← readWhole t
  let (fraction, t) ← readFraction t
  let (exponent, t) ← readExponent t
  return (⟨negative, whole, fraction, exponent⟩, t)

/-- Reads a word and gives the value that it stands for. -/
def readWord (word : String) (value : Tree) (t : Text) : Option (Tree × Text) :=
  if word.toList.isPrefixOf t then some (value, t.drop word.toList.length) else none

mutual

/-- Reads a value and gives what stands after it. The fuel bounds the nesting. -/
def readValue : Nat → Text → Option (Tree × Text)
  | 0, _ => none
  | fuel + 1, t =>
    match t.dropWhile isSpace with
    | '{' :: rest =>
      match rest.dropWhile isSpace with
      | '}' :: after => some (.object [], after)
      | rest => (readMembers fuel rest).map fun (members, after) => (.object members, after)
    | '[' :: rest =>
      match rest.dropWhile isSpace with
      | ']' :: after => some (.array [], after)
      | rest => (readItems fuel rest).map fun (items, after) => (.array items, after)
    | '"' :: rest => (readString rest).map fun (parts, after) => (.string parts, after)
    | 'n' :: rest => readWord "null" .null ('n' :: rest)
    | 't' :: rest => readWord "true" (.truth true) ('t' :: rest)
    | 'f' :: rest => readWord "false" (.truth false) ('f' :: rest)
    | t => (readNumber t).map fun (n, after) => (.number n, after)

/-- Reads the items of an array that has at least one. -/
def readItems : Nat → Text → Option (List Tree × Text)
  | 0, _ => none
  | fuel + 1, t => do
    let (item, t) ← readValue fuel t
    match t.dropWhile isSpace with
    | ',' :: rest =>
      let (items, after) ← readItems fuel rest
      return (item :: items, after)
    | ']' :: after => return ([item], after)
    | _ => none

/-- Reads the members of an object that has at least one. -/
def readMembers : Nat → Text → Option (List (List StringPart × Tree) × Text)
  | 0, _ => none
  | fuel + 1, t =>
    match t.dropWhile isSpace with
    | '"' :: rest => do
      let (name, t) ← readString rest
      match t.dropWhile isSpace with
      | ':' :: t =>
        let (value, t) ← readValue fuel t
        match t.dropWhile isSpace with
        | ',' :: rest =>
          let (members, after) ← readMembers fuel rest
          return ((name, value) :: members, after)
        | '}' :: after => return ([(name, value)], after)
        | _ => none
      | _ => none
    | _ => none

end

/-- Reads a text that is one value, with nothing but white space around it. -/
def read? (t : Text) : Option Tree := do
  let (tree, rest) ← readValue (2 * t.length + 2) t
  if rest.all isSpace then return tree else none

/-- Reads a text that is one string, with nothing but white space around it. -/
def readText? (t : Text) : Option Text := do
  match ← read? t with
  | .string parts => stringText? parts
  | _ => none

end TradeNotes.Json
