import TradeNotes.Proofs.Numeral.Longest

namespace TradeNotes

namespace Symbol

/-- A word of symbols is greedy for a number when each of its symbols is the largest one that
    fits into what the symbols before it have left of the number, and the last one leaves
    nothing. -/
inductive Greedy : Nat → List Symbol → Prop
  | done : Greedy 0 []
  | take {n : Nat} {s : Symbol} {word : List Symbol} (hmem : s ∈ all) (hfits : s.value ≤ n)
      (hlargest : ∀ other ∈ all, other.value ≤ n → other.value ≤ s.value)
      (hrest : Greedy (n - s.value) word) : Greedy n (s :: word)

theorem all_pairwise_value : all.Pairwise fun s s' => s'.value < s.value := by decide

theorem eq_of_value_eq : ∀ s ∈ all, ∀ s' ∈ all, s.value = s'.value → s = s' := by decide

variable {n : Nat} {s : Symbol} {word word' : List Symbol}

theorem Greedy.total_eq (h : Greedy n word) : total word = n := by
  induction h with
  | done => rfl
  | @take n s word _ hfits _ _ ih =>
    rw [total_cons]
    omega

/-- There is no choice between two symbols that are both the largest to fit. -/
theorem Greedy.unique (h : Greedy n word) (h' : Greedy n word') : word = word' := by
  induction h generalizing word' with
  | done =>
    cases h' with
    | done => rfl
    | take hmem hfits =>
      have hpos := value_pos _ hmem
      omega
  | take hmem hfits hlargest _ ih =>
    cases h' with
    | done =>
      have hpos := value_pos _ hmem
      omega
    | take hmem' hfits' hlargest' hrest' =>
      have hle := hlargest _ hmem' hfits'
      have hge := hlargest' _ hmem hfits
      obtain rfl := eq_of_value_eq _ hmem _ hmem' (Nat.le_antisymm hge hle)
      rw [ih hrest']

/-- A symbol may be taken as long as no larger one fits. -/
theorem Greedy.replicate_append (hmem : s ∈ all) (hrest : Greedy n word) (times : Nat)
    (hlarger : ∀ other ∈ all, s.value < other.value → times * s.value + n < other.value) :
    Greedy (times * s.value + n) (List.replicate times s ++ word) := by
  induction times with
  | zero => simpa using hrest
  | succ times ih =>
    rw [Nat.succ_mul] at hlarger ⊢
    rw [List.replicate_succ, List.cons_append]
    refine .take hmem (by omega) (fun other hother hfits => ?_) ?_
    · by_contra hnot
      have hlarge := hlarger other hother (Nat.lt_of_not_le hnot)
      omega
    · have hleft : times * s.value + s.value + n - s.value = times * s.value + n := by omega
      rw [hleft]
      refine ih fun other hother hlt => ?_
      have hlarge := hlarger other hother hlt
      omega

end Symbol

namespace Numeral

/-- The symbols that a number is written with, when those in front of the table are too large,
    follow the table and are greedy. -/
theorem exists_word_ofNatWith {front table : List Symbol} (htable : Symbol.all = front ++ table)
    {n : Nat} (hfront : ∀ s ∈ front, n < s.value) :
    ∃ word, Symbol.Follows table word ∧ Symbol.Greedy n word ∧
      ofNatWith table n = word.flatMap ofSymbol := by
  induction table generalizing front n with
  | nil =>
    have hone := hfront (.letter .I) (by rw [← List.append_nil front, ← htable]; decide)
    have hzero : n = 0 := Nat.lt_one_iff.1 hone
    subst hzero
    exact ⟨[], rfl, .done, rfl⟩
  | cons s table ih =>
    have hmem : s ∈ Symbol.all := by simp [htable]
    have hmod : n % s.value < s.value := Nat.mod_lt n (Symbol.value_pos s hmem)
    have hrest : ∀ other ∈ front ++ [s], n % s.value < other.value := by
      intro other hother
      obtain hother | hother := List.mem_append.1 hother
      · exact Nat.lt_of_le_of_lt (Nat.mod_le n s.value) (hfront other hother)
      · rwa [List.mem_singleton.1 hother]
    obtain ⟨word, hword, hgreedy, heq⟩ := ih (by rw [htable, List.append_assoc]; rfl) hrest
    have hnumber : n / s.value * s.value + n % s.value = n := Nat.div_add_mod' n s.value
    have hlarger : ∀ other ∈ Symbol.all, s.value < other.value →
        n / s.value * s.value + n % s.value < other.value := by
      intro other hother hlt
      rw [hnumber]
      -- Larger symbols than this one stand in front of it, and there they are too large.
      have hfalling := Symbol.all_pairwise_value
      rw [htable] at hother hfalling
      obtain hother | hother := List.mem_append.1 hother
      · exact hfront other hother
      · have hbehind := (List.pairwise_cons.1 (List.pairwise_append.1 hfalling).2.1).1
        obtain rfl | hother := List.mem_cons.1 hother
        · exact absurd hlt (Nat.lt_irrefl _)
        · exact absurd (hbehind other hother) (Nat.lt_asymm hlt)
    have hall := hgreedy.replicate_append hmem (n / s.value) hlarger
    rw [hnumber] at hall
    refine ⟨_, ⟨n / s.value, word, rfl, hword⟩, hall, ?_⟩
    rw [ofNatWith, heq, List.flatMap_append, List.flatMap_replicate]

/-- Reading undoes writing for every number. What is written are the symbols of the one greedy
    word for the number, in which each symbol is the largest that still fits. No value on the way
    is larger than the number, so that a number of 64 bits is read in as many bits. -/
theorem decode_text_ofNat (n : Nat) :
    (∃ word, (∀ other, Symbol.Greedy n other ↔ other = word) ∧
        (ofNat n).text = Symbol.spell word) ∧
      decode (ofNat n).text = n ∧
      ∀ table, table <+: Symbol.all →
        (table.foldl Reading.take ⟨0, (ofNat n).text⟩).value ≤ n := by
  obtain ⟨word, hword, hgreedy, heq⟩ :=
    exists_word_ofNatWith (List.nil_append Symbol.all).symm (n := n) (by simp)
  have htext : (ofNat n).text = Symbol.spell word := by
    rw [ofNat, heq, Symbol.text_flatMap_ofSymbol]
  have hdecode : decode (ofNat n).text = n := by
    rw [htext, Reading.decode_spell hword, hgreedy.total_eq]
  refine ⟨⟨word, fun other => ⟨fun hother => hother.unique hgreedy, fun h => h ▸ hgreedy⟩, htext⟩,
    hdecode, ?_⟩
  rintro table ⟨more, hmore⟩
  have hgrow := Reading.value_le_value_foldl more (table.foldl Reading.take ⟨0, (ofNat n).text⟩)
  rw [← List.foldl_append, hmore] at hgrow
  exact hgrow.trans_eq hdecode

end Numeral

end TradeNotes
