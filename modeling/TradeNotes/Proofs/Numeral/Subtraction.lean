import TradeNotes.Proofs.Numeral.Longest

namespace TradeNotes

namespace Symbol

/-- The letter that a symbol ends with. -/
def last : Symbol → Letter
  | letter l => l
  | pair _ large => large

/-- Where two symbols of the table meet in their order, the letters do not rise. -/
theorem all_pairwise_meet : all.Pairwise fun s s' => s'.first.value ≤ s.last.value := by decide

theorem first_le_last : ∀ s ∈ all, s.first.value ≤ s.last.value := by decide

theorem small_lt_large {small large : Letter} (h : pair small large ∈ all) :
    small.value < large.value := by
  revert h
  cases small <;> cases large <;> decide

variable {s : Symbol} {word : List Symbol}

/-- Behind a symbol of a word no symbol begins with a larger letter than it ends with. -/
theorem Follows.first_le_last (h : Follows all (s :: word)) :
    ∀ next ∈ word.head?, next.first.value ≤ s.last.value := by
  intro next hnext
  obtain ⟨rest, rfl⟩ := List.head?_eq_some_iff.1 hnext
  obtain ⟨front, back, hall, hback⟩ := h.of_cons
  obtain rfl | hmem := List.mem_cons.1 hback.mem
  · exact Symbol.first_le_last next h.mem
  · have hmeet := all_pairwise_meet
    rw [hall] at hmeet
    exact (List.pairwise_cons.1 (List.pairwise_append.1 hmeet).2.1).1 next hmem

theorem Follows.tail {table : List Symbol} (h : Follows table (s :: word)) :
    Follows table word := by
  obtain ⟨front, back, rfl, hback⟩ := h.of_cons
  exact (follows_nil front).append hback

end Symbol

namespace Numeral

variable {l next : Letter} {rest : Numeral} {word : List Symbol}

theorem subtractive_cons_of_le (h : ∀ next ∈ rest.head?, next.value ≤ l.value) :
    subtractive (l :: rest) = l.value + subtractive rest := by
  cases rest with
  | nil => rfl
  | cons next rest =>
    have hle : ¬ l.value < next.value := Nat.not_lt.2 (h next rfl)
    rw [subtractive, if_neg hle]

theorem subtractive_cons_of_lt (h : l.value < next.value) :
    subtractive (l :: next :: rest) = -l.value + subtractive (next :: rest) := by
  rw [subtractive, if_pos h]

/-- The rule of subtraction gives a symbol its value when no larger letter than its last one
    comes behind it: only the first letter of a pair is then taken away. -/
theorem subtractive_ofSymbol_append {s : Symbol} (hs : s ∈ Symbol.all)
    (hrest : ∀ next ∈ rest.head?, next.value ≤ s.last.value) :
    subtractive (ofSymbol s ++ rest) = s.value + subtractive rest := by
  cases s with
  | letter l => exact subtractive_cons_of_le hrest
  | pair small large =>
    have hlt := Symbol.small_lt_large hs
    have hlarge : ∀ next ∈ rest.head?, next.value ≤ large.value := hrest
    have hvalue : ((Symbol.pair small large).value : Int) = large.value - small.value :=
      Int.ofNat_sub (Nat.le_of_lt hlt)
    calc subtractive (small :: large :: rest)
        = -small.value + (large.value + subtractive rest) := by
          rw [subtractive_cons_of_lt hlt, subtractive_cons_of_le hlarge]
      _ = (Symbol.pair small large).value + subtractive rest := by
          rw [hvalue]
          omega

theorem head?_ofSymbol_append (s : Symbol) (rest : Numeral) :
    (ofSymbol s ++ rest).head? = some s.first := by
  cases s <;> rfl

/-- A word of symbols in their order has the same value by the rule of subtraction. -/
theorem subtractive_of_follows (h : Symbol.Follows Symbol.all word) :
    subtractive (word.flatMap ofSymbol) = Symbol.total word := by
  induction word with
  | nil => rfl
  | cons s word ih =>
    have hmeet : ∀ next ∈ (word.flatMap ofSymbol).head?, next.value ≤ s.last.value := by
      cases word with
      | nil => simp
      | cons following word =>
        rw [List.flatMap_cons, head?_ofSymbol_append]
        rintro _ ⟨⟩
        exact h.first_le_last following rfl
    rw [List.flatMap_cons, subtractive_ofSymbol_append h.mem hmeet, ih h.tail, Symbol.total_cons]
    exact (Int.natCast_add s.value (Symbol.total word)).symm

theorem text_injective {n n' : Numeral} (h : n.text = n'.text) : n = n' :=
  List.map_injective_iff.2 (fun _ _ => Symbol.toChar_injective) h

/-- Reading agrees with the rule of subtraction on every numeral that is read to its end,
    however often its symbols are repeated: a letter stands in front of a larger one only inside
    a pair. -/
theorem decode_eq_subtractive {n : Numeral} (h : (Reading.ofText n.text).rest = []) :
    (decode n.text : Int) = n.subtractive := by
  obtain ⟨word, hword, htext, hvalue, _⟩ := Reading.ofText_spec n.text
  rw [h, List.append_nil, ← Symbol.text_flatMap_ofSymbol] at htext
  rw [hvalue, text_injective htext, subtractive_of_follows hword]

/-- Pairs may be repeated, and a letter that a pair begins with may come behind it. -/
theorem decode_eq_subtractive_cmcm :
    let n : Numeral := [.C, .M, .C, .M, .X, .C, .L, .I, .X, .V, .I, .V, .I]
    (Reading.ofText n.text).rest = [] ∧ (decode n.text : Int) = n.subtractive ∧
      n.subtractive = 1959 := by
  intro n
  have hrest : (Reading.ofText n.text).rest = [] := by decide
  exact ⟨hrest, decode_eq_subtractive hrest, by decide⟩

end Numeral

end TradeNotes
