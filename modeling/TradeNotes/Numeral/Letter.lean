import TradeNotes.Text.Basic

namespace TradeNotes

/-- The seven letters of Roman numerals. -/
inductive Letter
  | I
  | V
  | X
  | L
  | C
  | D
  | M
  deriving DecidableEq

namespace Letter

/-- The letters in the order of their values. -/
def all : List Letter := [I, V, X, L, C, D, M]

/-- The value of a letter. -/
def value : Letter → Nat
  | I => 1
  | V => 5
  | X => 10
  | L => 50
  | C => 100
  | D => 500
  | M => 1000

/-- How a letter is written. -/
def toChar : Letter → Char
  | I => 'I'
  | V => 'V'
  | X => 'X'
  | L => 'L'
  | C => 'C'
  | D => 'D'
  | M => 'M'

/-- The letter that a text is, when it is one upper-case letter and nothing else. -/
def ofText? (t : Text) : Option Letter :=
  all.find? fun letter => t == [letter.toChar]

/-- A text is read as a letter exactly when the letter is written so. -/
theorem ofText?_eq_some_iff {t : Text} {letter : Letter} :
    ofText? t = some letter ↔ t = [letter.toChar] := by
  constructor
  · intro h
    have hfound := List.find?_some h
    exact eq_of_beq hfound
  · rintro rfl
    cases letter <;> rfl

end Letter

end TradeNotes
