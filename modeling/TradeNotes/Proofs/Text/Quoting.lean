import TradeNotes.Proofs.Json.Strings
import TradeNotes.Text.Blank
import TradeNotes.Text.Quoted

namespace TradeNotes.Text

/-- What a backslash and a character behind it stand for between quotes. -/
def shortEscape? : Char → Option Char
  | '0' => some '\x00'
  | 't' => some '\t'
  | 'n' => some '\n'
  | 'r' => some '\r'
  | '"' => some '"'
  | '\\' => some '\\'
  | _ => none

/-- Puts a character in front of a text that has been read. -/
def push (c : Char) (read : Option (Text × Text)) : Option (Text × Text) :=
  read.map fun (t, after) => (c :: t, after)

/-- What is expected between quotes. -/
inductive QuoteState
  /-- A character, or the closing quote. -/
  | character
  /-- What a backslash goes on with. -/
  | escape
  /-- The brace in front of a code point. -/
  | brace
  /-- A digit of a code point, or the brace behind it. -/
  | point (n : Nat)

/-- Reads what stands between quotes up to the closing one, and gives what stands behind it. -/
def readQuoted : QuoteState → Text → Option (Text × Text)
  | _, [] => none
  | .character, c :: rest =>
    if c = '"' then some ([], rest)
    else if c = '\\' then readQuoted .escape rest
    else push c (readQuoted .character rest)
  | .escape, c :: rest =>
    if c = 'u' then readQuoted .brace rest
    else (shortEscape? c).bind fun c => push c (readQuoted .character rest)
  | .brace, c :: rest => if c = '{' then readQuoted (.point 0) rest else none
  | .point n, c :: rest =>
    if c = '}' then push (Char.ofNat n) (readQuoted .character rest)
    else (hexDigit? c).bind fun digit => readQuoted (.point (16 * n + digit)) rest

/-- The text that stands between quotes at the front of another one, and what stands behind it. -/
def unquote? : Text → Option (Text × Text)
  | '"' :: rest => readQuoted .character rest
  | _ => none

variable {c : Char} {t : Text}

theorem readQuoted_digit {d : Nat} (hd : d < 16) (n : Nat) (rest : Text) :
    readQuoted (.point n) (Nat.digitChar d :: rest) = readQuoted (.point (16 * n + d)) rest := by
  have hbrace : ∀ d < 16, Nat.digitChar d ≠ '}' := by decide
  rw [readQuoted, if_neg (hbrace d hd), Json.hexDigit?_digitChar d hd, Option.bind_some]

/-- Hexadecimal digits are read as the number that they are written for. -/
theorem readQuoted_toDigits (n : Nat) (rest : Text) :
    readQuoted (.point 0) (Nat.toDigits 16 n ++ rest) = readQuoted (.point n) rest := by
  induction n using Nat.strongRecOn generalizing rest with
  | ind n ih =>
    by_cases hn : n < 16
    · rw [Nat.toDigits_of_lt_base hn, List.singleton_append, readQuoted_digit hn, Nat.mul_zero,
        Nat.zero_add]
    · rw [Nat.toDigits_of_base_le (by decide) (Nat.not_lt.1 hn), List.append_assoc,
        ih (n / 16) (by omega), List.singleton_append, readQuoted_digit (Nat.mod_lt n (by decide)),
        Nat.div_add_mod]

theorem readQuoted_escapePoint (c : Char) (rest : Text) :
    readQuoted .character (escapePoint c ++ rest) = push c (readQuoted .character rest) := by
  have hparts : escapePoint c ++ rest = '\\' :: 'u' :: '{' :: (Nat.toDigits 16 c.toNat ++ '}' :: rest) := by
    simp [escapePoint]
  rw [hparts]
  change readQuoted (.point 0) _ = _
  rw [readQuoted_toDigits, readQuoted, if_pos rfl, Char.ofNat_toNat]

/-- Whatever a character is written as between quotes is read as that character. -/
theorem readQuoted_escapeChar (c : Char) (rest : Text) :
    readQuoted .character (escapeChar c ++ rest) = push c (readQuoted .character rest) := by
  unfold escapeChar
  split
  case h_7 hquote hslash =>
    split
    · rw [List.singleton_append, readQuoted, if_neg hquote, if_neg hslash]
    · exact readQuoted_escapePoint c rest
  all_goals rfl

/-- A text that is quoted is read back, whatever its characters are and whatever stands behind
    the closing quote. -/
theorem unquote?_quoted_append (t rest : Text) : unquote? (t.quoted ++ rest) = some (t, rest) := by
  have hparts : t.quoted ++ rest = '"' :: (t.flatMap escapeChar ++ '"' :: rest) := by simp [quoted]
  rw [hparts, unquote?]
  induction t with
  | nil => rfl
  | cons c t ih =>
    rw [List.flatMap_cons, List.append_assoc, readQuoted_escapeChar, ih (by simp [quoted])]
    rfl

theorem unquote?_quoted (t : Text) : unquote? t.quoted = some (t, []) := by
  have hread := unquote?_quoted_append t []
  rwa [List.append_nil] at hread

theorem Ranges.contains_eq_false {ranges : Ranges}
    (h : ∀ r ∈ ranges, c.toNat < r.1 ∨ r.2 < c.toNat) : ranges.contains c = false := by
  rw [Ranges.contains, List.any_eq_false]
  intro r hr
  have hbeside := h r hr
  simp only [Bool.and_eq_true, decide_eq_true_eq]
  omega

/-- The printable characters of ASCII are visible. -/
theorem isVisible_of_ascii (hlow : 0x20 ≤ c.toNat) (hhigh : c.toNat ≤ 0x7E) : isVisible c = true := by
  have hranges : (attachingRanges ++ invisibleRanges).all (fun r => r.2 < 0x20 || 0x7E < r.1) = true := by
    decide +kernel
  have hbeside : ∀ r ∈ attachingRanges ++ invisibleRanges, c.toNat < r.1 ∨ r.2 < c.toNat := by
    intro r hr
    have hrange := List.all_eq_true.1 hranges r hr
    simp only [Bool.or_eq_true, decide_eq_true_eq] at hrange
    omega
  obtain ⟨hattaching, hinvisible⟩ := List.forall_mem_append.1 hbeside
  rw [isVisible, Ranges.contains_eq_false hattaching, Ranges.contains_eq_false hinvisible]
  rfl

theorem isVisible_of_mem_toDigits {n : Nat} (h : c ∈ Nat.toDigits 16 n) : isVisible c = true := by
  have hdigit : ∀ d < 16, isVisible (Nat.digitChar d) = true := by
    have hascii : ∀ d < 16, 0x20 ≤ (Nat.digitChar d).toNat ∧ (Nat.digitChar d).toNat ≤ 0x7E := by decide
    exact fun d hd => isVisible_of_ascii (hascii d hd).1 (hascii d hd).2
  induction n using Nat.strongRecOn with
  | ind n ih =>
    by_cases hn : n < 16
    · rw [Nat.toDigits_of_lt_base hn, List.mem_singleton] at h
      exact h ▸ hdigit n hn
    · rw [Nat.toDigits_of_base_le (by decide) (Nat.not_lt.1 hn), List.mem_append, List.mem_singleton] at h
      obtain h | rfl := h
      · exact ih (n / 16) (by omega) h
      · exact hdigit _ (Nat.mod_lt n (by decide))

/-- What a character is written as between quotes is visible, whatever the character is. -/
theorem isVisible_of_mem_escapeChar {d : Char} (h : d ∈ escapeChar c) : isVisible d = true := by
  unfold escapeChar at h
  split at h
  case h_7 =>
    split at h
    · next hvisible => rwa [List.mem_singleton.1 h]
    · rw [escapePoint, List.mem_append, List.mem_append] at h
      obtain (hopen | hdigits) | hclose := h
      · exact List.all_eq_true.1 (by decide +kernel) d hopen
      · exact isVisible_of_mem_toDigits hdigits
      · exact List.all_eq_true.1 (by decide +kernel) d hclose
  all_goals exact List.all_eq_true.1 (by decide +kernel) d h

theorem isVisible_of_mem_quoted (h : c ∈ t.quoted) : isVisible c = true := by
  rw [quoted, List.mem_append, List.mem_append, List.mem_flatMap] at h
  obtain (hopen | ⟨d, _, hd⟩) | hclose := h
  · exact List.all_eq_true.1 (by decide +kernel) c hopen
  · exact isVisible_of_mem_escapeChar hd
  · exact List.all_eq_true.1 (by decide +kernel) c hclose

/-- The characters that a reader may take for the end of a line. -/
def lineBreaks : Text := ['\n', '\r', '\u0085', '\u2028', '\u2029']

/-- Whether a text stands on one line, for every reader. -/
def IsOneLine (t : Text) : Prop :=
  ∀ c ∈ t, c ∉ lineBreaks

instance : DecidablePred IsOneLine := fun t => List.decidableBAll (· ∉ lineBreaks) t

/-- Line breaks are white space, and not visible. -/
theorem of_mem_lineBreaks (h : c ∈ lineBreaks) : isBlank c = true ∧ isVisible c = false := by
  have hall : lineBreaks.all (fun c => isBlank c && !isVisible c) = true := by decide +kernel
  simpa using List.all_eq_true.1 hall c h

theorem IsOneLine.append {more : Text} (h : t.IsOneLine) (hmore : more.IsOneLine) :
    IsOneLine (t ++ more) :=
  List.forall_mem_append.2 ⟨h, hmore⟩

theorem isOneLine_of_visible (h : ∀ c ∈ t, isVisible c = true) : t.IsOneLine := by
  intro c hc hbreak
  cases (h c hc).symm.trans (of_mem_lineBreaks hbreak).2

theorem isOneLine_of_word (h : ∀ c ∈ t, isBlank c = false) : t.IsOneLine := by
  intro c hc hbreak
  cases (h c hc).symm.trans (of_mem_lineBreaks hbreak).1

/-- A quoted text stands on one line, whatever line breaks it tells. -/
theorem isOneLine_quoted (t : Text) : t.quoted.IsOneLine :=
  isOneLine_of_visible fun _ => isVisible_of_mem_quoted

end TradeNotes.Text
