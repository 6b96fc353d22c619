import TradeNotes.Proofs.Numeral.Longest

namespace TradeNotes

namespace Symbol

variable {table word : List Symbol} {s : Symbol}

theorem follows_singleton (h : s ∈ table) : Follows table [s] := by
  induction table with
  | nil => cases h
  | cons s' table ih =>
    obtain rfl | h := List.mem_cons.1 h
    · exact ⟨1, [], rfl, follows_nil table⟩
    · exact ⟨0, [s], rfl, ih h⟩

/-- The last symbol of a word that follows a table is one of the table, and what stands in front
    of it in the word follows the table up to that symbol. -/
theorem Follows.of_concat (h : Follows table (word ++ [s])) :
    ∃ front back, table = front ++ s :: back ∧ Follows (front ++ [s]) word := by
  induction table generalizing word with
  | nil => cases List.append_ne_nil_of_right_ne_nil word (List.cons_ne_nil s []) h
  | cons s' table ih =>
    obtain ⟨times, rest, hword, hrest⟩ := h
    obtain rfl | ⟨rest, last, rfl⟩ := rest.eq_nil_or_concat'
    · cases times with
      | zero => simp at hword
      | succ times =>
        rw [List.append_nil, List.replicate_succ'] at hword
        obtain ⟨rfl, hlast⟩ := List.append_inj' hword rfl
        obtain rfl := List.singleton_inj.1 hlast
        exact ⟨[], table, rfl, times, [], (List.append_nil _).symm, rfl⟩
    · rw [← List.append_assoc] at hword
      obtain ⟨rfl, hlast⟩ := List.append_inj' hword rfl
      obtain rfl := List.singleton_inj.1 hlast
      obtain ⟨front, back, rfl, hfront⟩ := ih hrest
      exact ⟨s' :: front, back, rfl, times, rest, rfl, hfront⟩

theorem Follows.dropLast (h : Follows table (word ++ [s])) : Follows table word := by
  obtain ⟨front, back, rfl, hfront⟩ := h.of_concat
  have happend := hfront.append (follows_nil back)
  rwa [List.append_nil, List.append_assoc] at happend

/-- The first letter of a pair stands behind the pair in the table. -/
theorem letter_mem_of_pair {small large : Letter} (h : all = front ++ pair small large :: back) :
    letter small ∈ back := by
  have hmem : letter small ∈ front ++ pair small large :: back := by
    rw [← h]
    cases small <;> decide
  have hprecedes := all_pairwise_precedes
  rw [h] at hprecedes
  obtain hfront | hback := List.mem_append.1 hmem
  · have hlt := (List.pairwise_append.1 hprecedes).2.2 _ hfront _ List.mem_cons_self
    exact absurd hlt (Nat.lt_irrefl _)
  · exact (List.mem_cons.1 hback).resolve_left Symbol.noConfusion

/-- A word that ends in a pair may end in the first letter of the pair instead. -/
theorem Follows.shorten {small large : Letter} (h : Follows all (word ++ [pair small large])) :
    Follows all (word ++ [letter small]) := by
  obtain ⟨front, back, hall, hfront⟩ := h.of_concat
  have happend := hfront.append (follows_singleton (letter_mem_of_pair hall))
  rwa [List.append_assoc, List.singleton_append, ← hall] at happend

theorem small_lt_value {small large : Letter} (h : pair small large ∈ all) :
    small.value < (pair small large).value := by
  revert h
  cases small <;> cases large <;> decide

/-- A text that is a word of symbols is one without its last letter too, and of a smaller total. -/
theorem exists_word_of_concat {t : Text} {c : Char} (hword : Follows all word)
    (hspell : spell word = t ++ [c]) :
    ∃ shorter, Follows all shorter ∧ spell shorter = t ∧ total shorter < total word := by
  obtain rfl | ⟨front, s, rfl⟩ := word.eq_nil_or_concat'
  · simp [spell] at hspell
  · have hfront := hword.dropLast
    rw [spell_append, spell_cons, show spell [] = [] from rfl, List.append_nil] at hspell
    have htotal : total (front ++ [s]) = total front + s.value := by
      rw [total_append]
      simp [total]
    cases s with
    | letter l =>
      obtain ⟨rfl, _⟩ := List.append_inj' hspell rfl
      have hpos : 0 < l.value := by cases l <;> decide
      exact ⟨front, hfront, rfl, by rw [htotal]; exact Nat.lt_add_of_pos_right hpos⟩
    | pair small large =>
      have hmem : pair small large ∈ all := by
        obtain ⟨before, behind, hall, _⟩ := hword.of_concat
        rw [hall]
        simp
      have hlt := small_lt_value hmem
      refine ⟨front ++ [letter small], hword.shorten, ?_, ?_⟩
      · change spell front ++ ([small.toChar] ++ [large.toChar]) = t ++ [c] at hspell
        rw [← List.append_assoc] at hspell
        obtain ⟨rfl, _⟩ := List.append_inj' hspell rfl
        exact spell_append _ _
      · have hletter : total (front ++ [letter small]) = total front + small.value := by
          rw [total_append]
          simp [total, value]
        omega

end Symbol

namespace Reading

variable {t more : Text} {c : Char}

/-- The texts that are words of symbols are closed under prefixes. -/
theorem mem_language_of_append (h : t ++ more ∈ Symbol.language Symbol.all) :
    t ∈ Symbol.language Symbol.all := by
  induction more using List.reverseRecOn with
  | nil => rwa [List.append_nil] at h
  | append_singleton more c ih =>
    rw [← List.append_assoc] at h
    obtain ⟨word, hword, hspell⟩ := Symbol.mem_language_iff.1 h
    obtain ⟨shorter, hshorter, hrest, _⟩ := Symbol.exists_word_of_concat hword hspell
    exact ih (Symbol.mem_language_iff.2 ⟨shorter, hshorter, hrest⟩)

/-- A letter that is read with all in front of it adds to the value. -/
theorem decode_lt_of_mem (h : t ++ [c] ∈ Symbol.language Symbol.all) :
    decode t < decode (t ++ [c]) := by
  obtain ⟨word, hword, hspell⟩ := Symbol.mem_language_iff.1 h
  obtain ⟨shorter, hshorter, rfl, hlt⟩ := Symbol.exists_word_of_concat hword hspell
  rwa [← hspell, decode_spell hword, decode_spell hshorter]

/-- A letter that is not read with all in front of it ends what is read, whatever comes
    behind it. -/
theorem decode_append_of_notMem (h : t ++ [c] ∉ Symbol.language Symbol.all) (more : Text) :
    decode (t ++ c :: more) = decode t := by
  obtain ⟨word, hword, htext, hvalue, hlongest⟩ := ofText_spec t
  obtain ⟨other, hother, htext', hvalue', hlongest'⟩ := ofText_spec (t ++ c :: more)
  have hwordStart : Symbol.spell word <+: t := ⟨_, htext.symm⟩
  have hotherStart : Symbol.spell other <+: t := by
    have hwhole : Symbol.spell other <+: t ++ c :: more := ⟨_, htext'.symm⟩
    by_cases hlength : (Symbol.spell other).length ≤ t.length
    · exact List.prefix_of_prefix_length_le hwhole (List.prefix_append t _) hlength
    · -- A longer word would begin with all up to the letter.
      have hstart : t ++ [c] <+: t ++ c :: more := (List.prefix_append_right_inj t).2 ⟨more, rfl⟩
      have hlonger : (t ++ [c]).length ≤ (Symbol.spell other).length := by
        rw [List.length_append, List.length_singleton]
        omega
      obtain ⟨rest, hrest⟩ := List.prefix_of_prefix_length_le hstart hwhole hlonger
      have hmem : t ++ [c] ++ rest ∈ Symbol.language Symbol.all :=
        Symbol.mem_language_iff.2 ⟨other, hother, hrest.symm⟩
      exact absurd (mem_language_of_append hmem) h
  have hle := hlongest other hother hotherStart
  have hge := hlongest' word hword (hwordStart.trans (List.prefix_append t _))
  have hspell : Symbol.spell other = Symbol.spell word :=
    (List.prefix_of_prefix_length_le hotherStart hwordStart hle).eq_of_length
      (Nat.le_antisymm hle hge)
  rw [hvalue, hvalue', Symbol.follows_unique Symbol.all_pairwise_precedes hother hword hspell]

end Reading

namespace Numeral

variable {n later : Numeral} {l : Letter}

theorem text_push (n : Numeral) (l : Letter) : (n.push l).text = n.text ++ [l.toChar] :=
  List.map_append

/-- A letter that is pushed adds to the value, or it changes nothing and neither does any letter
    behind it. -/
theorem value_push_cases (n : Numeral) (l : Letter) :
    n.value < (n.push l).value ∨ ∀ more, value (n.push l ++ more) = n.value := by
  by_cases hmem : n.text ++ [l.toChar] ∈ Symbol.language Symbol.all
  · left
    have hlt := Reading.decode_lt_of_mem hmem
    rwa [← text_push] at hlt
  · right
    intro more
    have htext : text (n.push l ++ more) = n.text ++ l.toChar :: text more := by
      simp [push, text]
    rw [value, htext, Reading.decode_append_of_notMem hmem, value]

theorem value_append_of_blocked (h : (n.push l).value = n.value) (more : List Letter) :
    value (n.push l ++ more) = n.value := by
  obtain hlt | hblocked := n.value_push_cases l
  · exact absurd h (Nat.ne_of_gt hlt)
  · exact hblocked more

theorem value_le_value_append (n : Numeral) (more : List Letter) : n.value ≤ value (n ++ more) := by
  induction more generalizing n with
  | nil => rw [List.append_nil]
  | cons l more ih =>
    have hpush : n.value ≤ (n.push l).value := by
      obtain hlt | hblocked := n.value_push_cases l
      · exact Nat.le_of_lt hlt
      · rw [← hblocked [], List.append_nil]
    calc n.value ≤ (n.push l).value := hpush
      _ ≤ value (n.push l ++ more) := ih (n.push l)
      _ = value (n ++ l :: more) := by rw [push, List.append_assoc, List.singleton_append]

/-- Only the numeral without letters has no value. -/
theorem value_eq_zero_iff {n : Numeral} : n.value = 0 ↔ n = [] := by
  constructor
  · intro h
    cases n with
    | nil => rfl
    | cons l rest =>
      have hfirst : 0 < value [l] := by cases l <;> decide
      have hgrow : value [l] ≤ value (l :: rest) := value_le_value_append [l] rest
      omega
  · rintro rfl
    rfl

/-- All that letters make of a numeral begins with it. -/
theorem exists_append_of_mem_scanl {letters : List Letter} (h : later ∈ letters.scanl push n) :
    ∃ more, later = n ++ more := by
  induction letters generalizing n with
  | nil => exact ⟨[], by simpa using h⟩
  | cons l letters ih =>
    rw [List.scanl_cons] at h
    obtain rfl | h := List.mem_cons.1 h
    · exact ⟨[], (List.append_nil _).symm⟩
    · obtain ⟨more, rfl⟩ := ih h
      exact ⟨l :: more, List.append_assoc _ _ _⟩

/-- Letters that are pushed onto a numeral one by one never lower its value, and as soon as one
    of them leaves the value as it is, all that follow do so too, whatever they are. -/
theorem values_of_pushes (n : Numeral) (letters : List Letter) :
    ((letters.scanl push n).map value).Pairwise (· ≤ ·) ∧
      ∀ l, (n.push l).value = n.value →
        ∀ later ∈ letters.scanl push (n.push l), later.value = n.value := by
  constructor
  · induction letters generalizing n with
    | nil => exact List.pairwise_singleton _ _
    | cons l letters ih =>
      rw [List.scanl_cons, List.map_cons, List.pairwise_cons]
      refine ⟨List.forall_mem_map.2 fun later hlater => ?_, ih (n.push l)⟩
      obtain ⟨more, rfl⟩ := exists_append_of_mem_scanl hlater
      rw [push, List.append_assoc]
      exact n.value_le_value_append _
  · intro l hblocked later hlater
    obtain ⟨more, rfl⟩ := exists_append_of_mem_scanl hlater
    exact value_append_of_blocked hblocked more

/-- Behind an `L` that may not follow an `I` even an `M` does not count. -/
theorem values_of_pushes_xil :
    let n : Numeral := [.X, .I]
    (n.push .L).value = n.value ∧
      ∀ later ∈ [Letter.V, .M].scanl push (n.push .L), later.value = n.value := by
  intro n
  have hblocked : (n.push .L).value = n.value := by decide
  exact ⟨hblocked, (values_of_pushes n [.V, .M]).2 .L hblocked⟩

end Numeral

end TradeNotes
