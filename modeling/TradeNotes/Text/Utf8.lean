import TradeNotes.Text.Basic

namespace TradeNotes.Text

/-- The UTF-8 form of a text. -/
def utf8 (t : Text) : List UInt8 :=
  t.flatMap String.utf8EncodeChar

/-- A text without so many of the first bytes of its UTF-8 form, when a character begins
    after them. -/
def dropBytes? : Text → Nat → Option Text
  | t, 0 => some t
  | [], _ + 1 => none
  | c :: rest, n => if c.utf8Size ≤ n then dropBytes? rest (n - c.utf8Size) else none

/-- So many of the first bytes of the UTF-8 form of a text, when a character ends there. -/
def takeBytes? : Text → Nat → Option Text
  | _, 0 => some []
  | [], _ + 1 => none
  | c :: rest, n =>
    if c.utf8Size ≤ n then (takeBytes? rest (n - c.utf8Size)).map (c :: ·) else none

/-- A cut at a byte loses nothing: what stands before it and after it is the text. -/
theorem eq_append_of_takeBytes? {t before after : Text} {n : Nat}
    (hbefore : t.takeBytes? n = some before) (hafter : t.dropBytes? n = some after) :
    t = before ++ after := by
  fun_induction takeBytes? t n generalizing before with
  | case1 t => simp_all [dropBytes?]
  | case2 => simp at hbefore
  | case3 c rest n hn hsize ih =>
    obtain ⟨tail, htail, rfl⟩ := Option.map_eq_some_iff.1 hbefore
    rw [dropBytes?.eq_3 _ _ _ hn, if_pos hsize] at hafter
    rw [List.cons_append, ← ih htail hafter]
  | case4 => simp at hbefore

/-- How far the reading of one character has come: nothing is begun, or some bytes
    of a longer form are read, which give the upper bits of the code point, and a
    number of bytes is to follow, the next one between two bounds. -/
inductive Utf8Progress
  | idle
  | partway (value : Nat) (following : Nat) (least : UInt8) (most : UInt8)

/-- What stands for bytes that are no character. -/
def replacement : Char := '\uFFFD'

/-- Reads a byte that begins a character: what it completes, and what it leaves
    open. The bounds on a second byte keep out overlong forms, surrogates and code
    points above U+10FFFF. -/
def beginUtf8 (b : UInt8) : Text × Utf8Progress :=
  if b < 0x80 then ([Char.ofNat b.toNat], .idle)
  else if b < 0xC2 then ([replacement], .idle)
  else if b < 0xE0 then ([], .partway (b.toNat - 0xC0) 1 0x80 0xBF)
  else if b = 0xE0 then ([], .partway 0 2 0xA0 0xBF)
  else if b = 0xED then ([], .partway 0xD 2 0x80 0x9F)
  else if b < 0xF0 then ([], .partway (b.toNat - 0xE0) 2 0x80 0xBF)
  else if b = 0xF0 then ([], .partway 0 3 0x90 0xBF)
  else if b < 0xF4 then ([], .partway (b.toNat - 0xF0) 3 0x80 0xBF)
  else if b = 0xF4 then ([], .partway 4 3 0x80 0x8F)
  else ([replacement], .idle)

/-- Reads one byte more. A byte that does not continue the form it follows makes
    the bytes of that form one replacement, and begins a character itself. -/
def Utf8Progress.next (p : Utf8Progress) (b : UInt8) : Text × Utf8Progress :=
  match p with
  | .idle => beginUtf8 b
  | .partway value following least most =>
    if least ≤ b && b ≤ most then
      let value := value * 0x40 + (b.toNat - 0x80)
      if following ≤ 1 then ([Char.ofNat value], .idle)
      else ([], .partway value (following - 1) 0x80 0xBF)
    else
      let (decoded, progress) := beginUtf8 b
      (replacement :: decoded, progress)

/-- Reads bytes after others that left something open. -/
def Utf8Progress.decode (p : Utf8Progress) : List UInt8 → Text
  | [] =>
    match p with
    | .idle => []
    | .partway .. => [replacement]
  | b :: rest =>
    let (decoded, progress) := p.next b
    decoded ++ progress.decode rest

/-- The text that bytes stand for in UTF-8. Bytes that are no character give one
    replacement for each longest run that could have begun one. -/
def ofUtf8 (bytes : List UInt8) : Text :=
  Utf8Progress.idle.decode bytes

example : ofUtf8 [0x61, 0xC3, 0xA9, 0xE4, 0x62] = "aé\uFFFDb".toList := by decide
example : ofUtf8 [0xE2, 0x82, 0xE2, 0x82, 0xAC, 0xF0, 0x9F] = "\uFFFD€\uFFFD".toList := by decide

end TradeNotes.Text
