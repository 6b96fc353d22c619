import TradeNotes.Proofs.Numeral.Growth

namespace TradeNotes

namespace Text

/-- The sum of the values of all letters in a text, wherever they stand. -/
def letterTotal (t : Text) : Nat :=
  ((t.filterMap fun c => Letter.ofText? [c]).map Letter.value).sum

theorem letterTotal_append (t more : Text) :
    letterTotal (t ++ more) = letterTotal t + letterTotal more := by
  simp only [letterTotal, List.filterMap_append, List.map_append, List.sum_append]

theorem letterTotal_toChar (l : Letter) : letterTotal [l.toChar] = l.value := by
  cases l <;> rfl

/-- No letter counts for more than a thousand, and other characters count for nothing. -/
theorem letterTotal_le (t : Text) : letterTotal t ≤ 1000 * t.length := by
  induction t with
  | nil => exact Nat.zero_le _
  | cons c rest ih =>
    have hfirst : letterTotal [c] ≤ 1000 := by
      cases hletter : Letter.ofText? [c] with
      | none => simp [letterTotal, hletter]
      | some l =>
        have hvalue : l.value ≤ 1000 := (Symbol.letter l).value_le
        simpa [letterTotal, hletter] using hvalue
    have hcons : letterTotal (c :: rest) = letterTotal [c] + letterTotal rest :=
      letterTotal_append [c] rest
    rw [hcons, List.length_cons]
    omega

end Text

namespace Symbol

/-- A symbol is worth no more than its letters together: a pair is worth their difference. -/
theorem value_le_letterTotal (s : Symbol) : s.value ≤ s.text.letterTotal := by
  cases s with
  | letter l => exact (Text.letterTotal_toChar l).ge
  | pair small large =>
    have htext : (pair small large).text = [small.toChar] ++ [large.toChar] := rfl
    rw [htext, Text.letterTotal_append, Text.letterTotal_toChar, Text.letterTotal_toChar, value]
    omega

theorem total_le_letterTotal (word : List Symbol) : total word ≤ (spell word).letterTotal := by
  induction word with
  | nil => exact Nat.zero_le _
  | cons s word ih =>
    have hfirst := s.value_le_letterTotal
    rw [spell_cons, Text.letterTotal_append, total_cons]
    omega

/-- A word that is worth nothing is empty. -/
theorem total_eq_zero_iff {word : List Symbol} (h : Follows all word) : total word = 0 ↔ word = [] := by
  constructor
  · intro htotal
    cases word with
    | nil => rfl
    | cons s word =>
      have hpos := value_pos s h.mem
      rw [total_cons] at htotal
      omega
  · rintro rfl
    rfl

end Symbol

namespace Reading

/-- The symbols that are taken from the front of a text, one after the other, when each symbol
    of a table has its turn. -/
def taken : List Symbol → Text → List Symbol
  | [], _ => []
  | s :: table, t => List.replicate (s.repeated t).1 s ++ taken table (s.repeated t).2

theorem value_foldl_take (table : List Symbol) (reading : Reading) :
    (table.foldl take reading).value = reading.value + Symbol.total (taken table reading.rest) := by
  induction table generalizing reading with
  | nil => rfl
  | cons s table ih =>
    rw [List.foldl_cons, ih, taken, Symbol.total_append, Symbol.total_replicate, ← Nat.add_assoc]
    rfl

theorem decode_eq_total_taken (t : Text) : decode t = Symbol.total (taken Symbol.all t) := by
  rw [decode, ofText, value_foldl_take, Nat.zero_add]

/-- Adds the value of a symbol to an accumulator of 64 bits, which fails when the sum does not
    fit. -/
def addChecked (sum : UInt64) (s : Symbol) : Option UInt64 :=
  if sum.toNat + s.value < 2 ^ 64 then some (sum + UInt64.ofNat s.value) else none

/-- The value of a text as an accumulator of 64 bits finds it, which grows with each symbol that
    is taken. -/
def decodeChecked (t : Text) : Option UInt64 :=
  (taken Symbol.all t).foldlM addChecked 0

/-- An accumulator does not fail as long as the last sum fits: the sums before it are smaller. -/
theorem exists_foldlM_addChecked {word : List Symbol} {sum : UInt64}
    (h : sum.toNat + Symbol.total word < 2 ^ 64) :
    ∃ last, word.foldlM addChecked sum = some last ∧ last.toNat = sum.toNat + Symbol.total word := by
  induction word generalizing sum with
  | nil => exact ⟨sum, rfl, rfl⟩
  | cons s word ih =>
    rw [Symbol.total_cons] at h ⊢
    have hfits : sum.toNat + s.value < 2 ^ 64 := by omega
    have hnext : (sum + UInt64.ofNat s.value).toNat = sum.toNat + s.value := by
      rw [UInt64.toNat_add, UInt64.toNat_ofNat', Nat.add_mod_mod, Nat.mod_eq_of_lt hfits]
    obtain ⟨last, hlast, hvalue⟩ := @ih (sum + UInt64.ofNat s.value) (by omega)
    refine ⟨last, ?_, by omega⟩
    rw [List.foldlM_cons, addChecked, if_pos hfits]
    exact hlast

/-- A value that fits into 64 bits is found. -/
theorem exists_decodeChecked {t : Text} (h : decode t < 2 ^ 64) :
    ∃ last, decodeChecked t = some last ∧ last.toNat = decode t := by
  rw [decode_eq_total_taken] at h ⊢
  obtain ⟨last, hlast, hvalue⟩ := @exists_foldlM_addChecked (taken Symbol.all t) 0 (by simpa using h)
  exact ⟨last, hlast, by simpa using hvalue⟩

theorem decode_le_letterTotal (t : Text) : decode t ≤ t.letterTotal := by
  obtain ⟨word, _, htext, hvalue, _⟩ := ofText_spec t
  calc decode t = Symbol.total word := hvalue
    _ ≤ (Symbol.spell word).letterTotal := Symbol.total_le_letterTotal word
    _ ≤ t.letterTotal := by
      rw [htext, Text.letterTotal_append]
      exact Nat.le_add_right _ _

/-- The first letter of a text is always taken, be it alone or in a pair. -/
theorem decode_eq_zero_iff (t : Text) :
    decode t = 0 ↔ t = [] ∨ ¬∃ l : Letter, t.head? = some l.toChar := by
  obtain ⟨word, hword, htext, hvalue, hlongest⟩ := ofText_spec t
  rw [hvalue, Symbol.total_eq_zero_iff hword]
  constructor
  · rintro rfl
    right
    rintro ⟨l, hhead⟩
    obtain ⟨rest, rfl⟩ := List.head?_eq_some_iff.1 hhead
    have hmem : Symbol.letter l ∈ Symbol.all := by cases l <;> decide
    have hlength := hlongest [.letter l] (Symbol.follows_singleton hmem) ⟨rest, rfl⟩
    cases hlength
  · intro hstart
    cases word with
    | nil => rfl
    | cons s word =>
      obtain ⟨tail, hs⟩ := s.text_eq_first_cons
      rw [Symbol.spell_cons, hs] at htext
      obtain hnil | hhead := hstart
      · rw [hnil] at htext
        cases htext
      · exact absurd ⟨s.first, by rw [htext]; rfl⟩ hhead

end Reading

end TradeNotes
