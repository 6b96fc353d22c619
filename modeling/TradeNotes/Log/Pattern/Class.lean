import TradeNotes.Log.Pattern.Atom

namespace TradeNotes.Log.Pattern

/-- What is known of several parts of a pattern that stand together: how many they are,
    and how deep the deepest of them is nested. -/
structure Parts where
  count : Nat := 0
  deepest : Nat := 0

namespace Parts

/-- One part more. -/
def add (p : Parts) (depth : Nat) : Parts :=
  ⟨p.count + 1, max p.deepest depth⟩

/-- How deep the parts are nested together. A single one is not nested by this. -/
def depth (p : Parts) : Nat :=
  if p.count ≤ 1 then p.deepest else p.deepest + 1

end Parts

/-- The classes of ASCII characters that have a name. -/
def classNames : List Text :=
  ["alnum", "alpha", "ascii", "blank", "cntrl", "digit", "graph", "lower", "print", "punct",
   "space", "upper", "word", "xdigit"].map String.toList

/-- Reads a class by its name, after its opening bracket: whether it is negated. -/
def readNamedClass : Text → Option (Bool × Text)
  | ':' :: rest =>
    let (negated, t) := match rest with
      | '^' :: t => (true, t)
      | t => (false, t)
    match t.dropWhile (· != ':') with
    | ':' :: ']' :: after =>
      if classNames.contains (t.takeWhile (· != ':')) then some (negated, after) else none
    | _ => none
  | _ => none

/-- Reads a character of a class, or a range of them. A dash before the closing bracket
    or before another dash makes no range. -/
def readRange (mode : Mode) (t : Text) : Option Text := do
  let (first, t) ← Atom.readInClass mode t
  let single (t : Text) : Option Text := if first.isAllowedInClass mode then some t else none
  match mode.skip t with
  | '-' :: rest =>
    if mode.peek? rest = some ']' ∨ mode.peek? rest = some '-' then single ('-' :: rest)
    else
      let (last, after) ← Atom.readInClass mode (mode.skip rest)
      if (← first.bound? mode) ≤ (← last.bound? mode) then return after else none
  | t => single t

/-- Begins a class after its opening bracket. In a pattern about bytes a class cannot
    be negated. -/
def openClass (mode : Mode) (t : Text) : Option Text :=
  match mode.skip t with
  | '^' :: rest => if mode.unicode then some rest else none
  | t => some t

/-- The part of a class that has been read. -/
structure ClassProgress where
  /-- There is nothing but dashes yet. -/
  isFresh : Bool := true
  /-- How deep the sets before the last operator are nested, when there is one. -/
  before : Option Nat := none
  items : Parts := {}

namespace ClassProgress

/-- One item more. -/
def add (p : ClassProgress) (depth : Nat) : ClassProgress :=
  { p with isFresh := false, items := p.items.add depth }

/-- How deep the sets are nested that have been read. -/
def depth (p : ClassProgress) : Nat :=
  match p.before with
  | some depth => max depth p.items.depth + 1
  | none => p.items.depth

/-- What has been read before an operator is one of the sets that it joins. -/
def join (p : ClassProgress) : ClassProgress :=
  { isFresh := false, before := some p.depth }

end ClassProgress

/-- Reads a class up to its closing bracket, and gives how deep it is nested. Dashes in
    front stand for themselves, and so does a closing bracket that is the first of all.
    The fuel bounds the number of items and operators. -/
def readClass (mode : Mode) : Nat → ClassProgress → Text → Option (Nat × Text)
  | 0, _, _ => none
  | fuel + 1, p, t =>
    match mode.skip t with
    | [] => none
    | ']' :: rest =>
      if p.isFresh && p.items.count == 0 then readClass mode fuel (p.add 0) rest
      else some (p.depth + 1, rest)
    | '[' :: rest =>
      match readNamedClass rest with
      | some (negated, after) =>
        if mode.unicode || !negated then readClass mode fuel (p.add 0) after else none
      | none => do
        let (depth, after) ← readClass mode fuel {} (← openClass mode rest)
        readClass mode fuel (p.add depth) after
    | '&' :: '&' :: rest | '~' :: '~' :: rest => readClass mode fuel p.join rest
    | '-' :: rest =>
      if p.isFresh then readClass mode fuel { p with items := p.items.add 0 } rest
      else if rest.head? = some '-' then readClass mode fuel p.join (rest.drop 1)
      else (readRange mode ('-' :: rest)).bind (readClass mode fuel (p.add 0))
    | t => (readRange mode t).bind (readClass mode fuel (p.add 0))

end TradeNotes.Log.Pattern
