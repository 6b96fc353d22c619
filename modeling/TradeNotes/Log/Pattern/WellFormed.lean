import TradeNotes.Log.Pattern.Class
import TradeNotes.Text.Alphanumeric

namespace TradeNotes.Log.Pattern

/-- What a parenthesis opens: a group with a mode of its own, or flags from here on. -/
inductive Opening
  | group (mode : Mode)
  | flags (mode : Mode)

/-- Whether a text can name a group. -/
def isGroupName : Text → Bool
  | [] => false
  | c :: rest =>
    (c == '_' || Text.isAlphabetic c) &&
      rest.all fun c => ['_', '.', '[', ']'].contains c || Text.isAlphanumeric c

/-- Reads the name of a group, which no other group has, and gives all names. -/
def readName (names : List Text) (t : Text) : Option (List Text × Text) :=
  let name := t.takeWhile (· != '>')
  match t.dropWhile (· != '>') with
  | _ :: after =>
    if isGroupName name && !names.contains name then some (name :: names, after) else none
  | [] => none

/-- Reads flags, after which a group goes on or a parenthesis closes. -/
def readFlags (mode : Mode) (t : Text) : Option (Opening × Text) :=
  let isEnd (c : Char) : Bool := c == ':' || c == ')'
  let written := t.takeWhile fun c => !isEnd c
  match t.dropWhile fun c => !isEnd c with
  | ':' :: after => (mode.afterFlags? written).map fun mode => (.group mode, after)
  | _ :: after =>
    if written.isEmpty then none
    else (mode.afterFlags? written).map fun mode => (.flags mode, after)
  | [] => none

/-- Reads what stands after an opening parenthesis: a question mark and a name or flags,
    or nothing of the kind. -/
def readOpening (mode : Mode) (names : List Text) (t : Text) :
    Option (Opening × List Text × Text) :=
  match mode.skip t with
  | '?' :: 'P' :: '<' :: rest | '?' :: '<' :: rest =>
    (readName names rest).map fun (names, after) => (.group mode, names, after)
  | '?' :: rest => (readFlags mode rest).map fun (opening, after) => (opening, names, after)
  | t => some (.group mode, names, t)

/-- The part of a group that has been read, or of the whole pattern. -/
structure Progress where
  mode : Mode
  /-- The branches that have ended. -/
  branches : Parts := {}
  /-- The elements of the last branch, the newest first: how deep each is nested, or none
      for one that cannot be repeated. -/
  elements : List (Option Nat) := []

namespace Progress

/-- One element more. -/
def add (p : Progress) (depth : Option Nat) : Progress :=
  { p with elements := depth :: p.elements }

/-- The last branch has ended. -/
def endBranch (p : Progress) : Parts :=
  let elements := p.elements.foldl (fun parts depth => parts.add (depth.getD 0)) ({} : Parts)
  p.branches.add elements.depth

/-- The last element is repeated, when it can be. -/
def repeatLast (p : Progress) : Option Progress :=
  match p.elements with
  | some depth :: before => some { p with elements := some (depth + 1) :: before }
  | _ => none

end Progress

/-- Reads a group up to its closing parenthesis, or a pattern up to its end, and gives
    how deep it is nested and the names of all groups. The fuel bounds the number of
    elements, of a class the number of items. -/
def readBranches : Nat → Progress → List Text → Text → Option (Nat × List Text × Text)
  | 0, _, _, _ => none
  | fuel + 1, p, names, t =>
    match p.mode.skip t with
    | [] => some (p.endBranch.depth, names, [])
    | ')' :: rest => some (p.endBranch.depth, names, ')' :: rest)
    | '|' :: rest =>
      readBranches fuel { p with branches := p.endBranch, elements := [] } names rest
    | '(' :: rest => do
      match ← readOpening p.mode names rest with
      | (.flags mode, names, after) => readBranches fuel { p.add none with mode } names after
      | (.group mode, names, after) =>
        let (depth, names, after) ← readBranches fuel { mode } names after
        match after with
        | ')' :: after => readBranches fuel (p.add (some (depth + 1))) names after
        | _ => none
    | '[' :: rest => do
      let (depth, after) ← readClass p.mode fuel {} (← openClass p.mode rest)
      readBranches fuel (p.add (some depth)) names after
    | '{' :: _ => none
    | '\\' :: rest => do
      let (atom, after) ← Atom.readEscape p.mode rest
      if atom.isAllowed p.mode then readBranches fuel (p.add (some 0)) names after else none
    | c :: rest =>
      if c = '?' ∨ c = '*' ∨ c = '+' then do
        let after := if rest.head? = some '?' then rest.drop 1 else rest
        readBranches fuel (← p.repeatLast) names after
      else if c = '.' ∧ p.mode.unicode = false then none
      else readBranches fuel (p.add (some 0)) names rest

/-- The deepest nesting of a pattern. -/
def maxDepth : Nat := 250

/-- Whether a text is a regular expression that can be searched for byte by byte. It holds
    no counted repetition, which a directive has no brace to end. -/
def isWellFormed (t : Text) : Bool :=
  match readBranches (t.length + 1) { mode := {} } [] t with
  | some (depth, _, rest) => depth ≤ maxDepth && rest.isEmpty
  | none => false

example : ["a**", ".*+", "[[:alpha:]]", "|", "()", "", "(?x) a # b"].all fun t =>
    isWellFormed t.toList := by decide +kernel
example : ["(", "*", ")", "(?x", "(?Z)", "[]", "[^]", "\\b", "\\q", "\\1"].all fun t =>
    !isWellFormed t.toList := by decide +kernel

end TradeNotes.Log.Pattern
