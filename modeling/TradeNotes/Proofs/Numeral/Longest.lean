import TradeNotes.Proofs.Numeral.Grammar

open scoped Computability

namespace TradeNotes

/-- A symbol is taken as often as it stands at the front, and then no longer stands there. -/
theorem Symbol.repeated_spec (s : Symbol) (t : Text) :
    t = Symbol.spell (List.replicate (s.repeated t).1 s) ++ (s.repeated t).2 ∧
      ¬ s.text <+: (s.repeated t).2 := by
  fun_induction Symbol.repeated s t with
  | case1 => cases s <;> simp [spell, text]
  | case2 a h => simp [spell, h]
  | case3 a h =>
    refine ⟨rfl, ?_⟩
    cases s with
    | letter l => simpa [text] using h
    | pair small large => simp [text]
  | case4 a b rest h times after hrepeated ih =>
    rw [hrepeated] at ih
    refine ⟨?_, ih.2⟩
    rw [List.replicate_succ, spell_cons, h, List.append_assoc, ← ih.1, List.singleton_append]
  | case5 a b rest _ h times after hrepeated ih =>
    rw [hrepeated] at ih
    refine ⟨?_, ih.2⟩
    rw [List.replicate_succ, spell_cons, h, List.append_assoc, ← ih.1]
    rfl
  | case6 a b rest hletter hpair =>
    refine ⟨rfl, ?_⟩
    cases s with
    | letter l => simpa [text] using hletter
    | pair small large => simpa [text, eq_comm] using hpair

namespace Reading

/-- What is taken from the front of a text is a word that follows the table, and the value
    grows by its symbols alone. -/
theorem exists_word (table : List Symbol) (reading : Reading) :
    ∃ word, Symbol.Follows table word ∧
      reading.rest = Symbol.spell word ++ (table.foldl take reading).rest ∧
      (table.foldl take reading).value = reading.value + Symbol.total word := by
  induction table generalizing reading with
  | nil => exact ⟨[], rfl, rfl, rfl⟩
  | cons s table ih =>
    obtain ⟨word, hword, hrest, hvalue⟩ := ih (reading.take s)
    obtain ⟨htaken, _⟩ := Symbol.repeated_spec s reading.rest
    refine ⟨_, ⟨(s.repeated reading.rest).1, word, rfl, hword⟩, ?_, ?_⟩
    · rw [Symbol.spell_append, List.append_assoc, List.foldl_cons, ← hrest]
      exact htaken
    · rw [List.foldl_cons, hvalue, Symbol.total_append, Symbol.total_replicate, ← Nat.add_assoc]
      rfl

theorem value_le_value_foldl (table : List Symbol) (reading : Reading) :
    reading.value ≤ (table.foldl take reading).value := by
  obtain ⟨word, _, _, hvalue⟩ := exists_word table reading
  omega

/-- No word that follows the table and stands at the front of a text takes more of it. -/
theorem length_spell_le {table : List Symbol} (htable : table.Pairwise Symbol.Precedes)
    (reading : Reading) {word : List Symbol} (hword : Symbol.Follows table word)
    (hstart : Symbol.spell word <+: reading.rest) :
    (Symbol.spell word).length + (table.foldl take reading).rest.length ≤
      reading.rest.length := by
  induction table generalizing reading word with
  | nil =>
    cases hword
    simp [Symbol.spell]
  | cons s table ih =>
    obtain ⟨times, rest, rfl, hrest⟩ := hword
    obtain ⟨htaken, hstop⟩ := Symbol.repeated_spec s reading.rest
    have hsecond := ih (List.pairwise_cons.1 htable).2 (reading.take s) hrest
    obtain ⟨word, _, hleft, _⟩ := exists_word table (reading.take s)
    have hafter : (reading.take s).rest = (s.repeated reading.rest).2 := rfl
    rw [List.foldl_cons, Symbol.spell_append]
    rw [Symbol.spell_append] at hstart
    rw [hafter] at hsecond hleft
    generalize (s.repeated reading.rest).1 = taken at htaken
    generalize (s.repeated reading.rest).2 = left at *
    rw [htaken] at hstart ⊢
    simp only [List.length_append]
    obtain hlt | rfl | hgt := Nat.lt_trichotomy times taken
    · -- What is not taken of the symbol cannot be made up for behind it.
      obtain ⟨extra, hextra⟩ := Symbol.spell_replicate_of_lt hlt s
      rw [hextra] at hstart ⊢
      simp only [List.append_assoc, List.prefix_append_right_inj] at hstart
      have hshort := Symbol.length_spell_lt_of_follows htable hrest hstart
      have hlength := congrArg List.length hleft
      simp only [List.length_append] at hlength ⊢
      omega
    · have hbound := hsecond ((List.prefix_append_right_inj _).1 hstart)
      omega
    · -- The symbol was taken as often as it stands there.
      obtain ⟨extra, hextra⟩ := Symbol.spell_replicate_of_lt hgt s
      rw [hextra] at hstart
      simp only [List.append_assoc, List.prefix_append_right_inj] at hstart
      exact absurd ((List.prefix_append _ _).trans hstart) hstop

/-- What is read of a text is a word that follows the table of symbols, and no such word at
    the front of the text is longer. -/
theorem ofText_spec (t : Text) :
    ∃ word, Symbol.Follows Symbol.all word ∧ t = Symbol.spell word ++ (ofText t).rest ∧
      decode t = Symbol.total word ∧
      ∀ other, Symbol.Follows Symbol.all other → Symbol.spell other <+: t →
        (Symbol.spell other).length ≤ (Symbol.spell word).length := by
  obtain ⟨word, hword, hrest, hvalue⟩ := exists_word Symbol.all ⟨0, t⟩
  refine ⟨word, hword, hrest, hvalue.trans (Nat.zero_add _), fun other hother hstart => ?_⟩
  have hbound := length_spell_le Symbol.all_pairwise_precedes ⟨0, t⟩ hother hstart
  have hlength := congrArg List.length hrest
  simp only [List.length_append] at hbound hlength
  omega

/-- A text that is a word of symbols is read to its end. -/
theorem decode_spell {word : List Symbol} (hword : Symbol.Follows Symbol.all word) :
    decode (Symbol.spell word) = Symbol.total word := by
  obtain ⟨other, hother, heq, hvalue, hlongest⟩ := ofText_spec (Symbol.spell word)
  have hlength := congrArg List.length heq
  have hbound := hlongest word hword List.prefix_rfl
  rw [List.length_append] at hlength
  have hrest : (ofText (Symbol.spell word)).rest = [] := List.length_eq_zero_iff.1 (by omega)
  rw [hrest, List.append_nil] at heq
  rw [hvalue, Symbol.follows_unique Symbol.all_pairwise_precedes hword hother heq]

/-- No symbol counts for more than a thousand, so that a number is small when its text is short. -/
theorem decode_le (t : Text) : decode t ≤ 1000 * t.length := by
  obtain ⟨word, _, htext, hvalue, _⟩ := ofText_spec t
  have hlength := congrArg List.length htext
  rw [List.length_append] at hlength
  have htotal := Symbol.total_le word
  omega

end Reading

/-- Decoding is parsing of the longest prefix. A text has a longest prefix in the language
    that is the product of the stars of the thirteen symbols in their order. What decoding leaves
    over is all that stands behind this prefix and does not count: the value is that of the
    prefix, the sum of the values of the symbols that it is made of. They are determined, as
    each member of the language is made of symbols in one way only; and no other way of
    taking symbols in their order leaves less of the text. -/
theorem decode_eq_total_longest_prefix (t : Text) :
    let star (t : String) : Language Char := ({t.toList} : Language Char)∗
    Symbol.language Symbol.all =
      star "M" * star "CM" * star "D" * star "CD" * star "C" * star "XC" * star "L" * star "XL" *
        star "X" * star "IX" * star "V" * star "IV" * star "I" ∧
    Symbol.all.map (fun s => (s.text, s.value)) =
      [("M".toList, 1000), ("CM".toList, 900), ("D".toList, 500), ("CD".toList, 400),
       ("C".toList, 100), ("XC".toList, 90), ("L".toList, 50), ("XL".toList, 40), ("X".toList, 10),
       ("IX".toList, 9), ("V".toList, 5), ("IV".toList, 4), ("I".toList, 1)] ∧
    (∃ p ∈ Symbol.language Symbol.all, t = p ++ (Reading.ofText t).rest ∧
      (∀ q ∈ Symbol.language Symbol.all, q <+: t → q.length ≤ p.length) ∧
      decode t = decode p ∧
      ∃ word, Symbol.Follows Symbol.all word ∧ Symbol.spell word = p ∧
        decode t = (word.map Symbol.value).sum) ∧
    (∀ p ∈ Symbol.language Symbol.all,
      ∃! word, Symbol.Follows Symbol.all word ∧ Symbol.spell word = p) ∧
    ∀ word rest, Symbol.Follows Symbol.all word → t = Symbol.spell word ++ rest →
      (Reading.ofText t).rest.length ≤ rest.length := by
  obtain ⟨word, hword, hrest, hvalue, hlongest⟩ := Reading.ofText_spec t
  refine ⟨Symbol.language_all, Symbol.all_rows, ⟨Symbol.spell word,
    Symbol.mem_language_iff.2 ⟨word, hword, rfl⟩, hrest, ?_, ?_, word, hword, rfl, hvalue⟩, ?_, ?_⟩
  · intro q hq hstart
    obtain ⟨other, hother, rfl⟩ := Symbol.mem_language_iff.1 hq
    exact hlongest other hother hstart
  · rw [hvalue, Reading.decode_spell hword]
  · intro p hp
    obtain ⟨word, hword, rfl⟩ := Symbol.mem_language_iff.1 hp
    refine ⟨word, ⟨hword, rfl⟩, fun other ⟨hother, hspell⟩ => ?_⟩
    exact Symbol.follows_unique Symbol.all_pairwise_precedes hother hword hspell
  · intro other rest hother heq
    have hbound := hlongest other hother ⟨rest, heq.symm⟩
    have hlength := (congrArg List.length hrest).symm.trans (congrArg List.length heq)
    rw [List.length_append, List.length_append] at hlength
    omega

end TradeNotes
