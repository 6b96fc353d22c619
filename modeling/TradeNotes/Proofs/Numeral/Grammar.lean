import Mathlib.Algebra.GroupWithZero.Nat
import Mathlib.Computability.Language
import TradeNotes.Numeral.Basic

open scoped Computability

namespace TradeNotes.Symbol

/-- A word of symbols follows a table when it holds the symbols of the table in their order,
    each any number of times. -/
def Follows : List Symbol → List Symbol → Prop
  | [], word => word = []
  | s :: table, word => ∃ times rest, word = List.replicate times s ++ rest ∧ Follows table rest

/-- The text that a word of symbols makes. -/
def spell (word : List Symbol) : Text :=
  word.flatMap Symbol.text

/-- The sum of the values of the symbols of a word. -/
def total (word : List Symbol) : Nat :=
  (word.map Symbol.value).sum

/-- The texts that a table of symbols allows: for each symbol in its turn the star of its text. -/
def language (table : List Symbol) : Language Char :=
  (table.map fun s => ({s.text} : Language Char)∗).prod

/-- The texts that the symbols of numerals allow. -/
theorem language_all :
    let star (t : String) : Language Char := ({t.toList} : Language Char)∗
    language all = star "M" * star "CM" * star "D" * star "CD" * star "C" * star "XC" * star "L" *
      star "XL" * star "X" * star "IX" * star "V" * star "IV" * star "I" := by
  intro star
  have hstars : language all = [star "M", star "CM", star "D", star "CD", star "C", star "XC",
      star "L", star "XL", star "X", star "IX", star "V", star "IV", star "I"].prod := rfl
  rw [hstars]
  simp only [List.prod_cons, List.prod_nil, mul_one, mul_assoc]

/-- The letters that the symbols of a word hold are written as the word is. -/
theorem text_flatMap_ofSymbol (word : List Symbol) :
    Numeral.text (word.flatMap Numeral.ofSymbol) = spell word := by
  have hsymbol : ∀ s : Symbol, Numeral.text (Numeral.ofSymbol s) = s.text := by
    intro s
    cases s <;> rfl
  rw [Numeral.text, List.map_flatMap, spell]
  exact congrArg (List.flatMap · word) (funext hsymbol)

theorem spell_append (word more : List Symbol) : spell (word ++ more) = spell word ++ spell more :=
  List.flatMap_append

theorem total_append (word more : List Symbol) : total (word ++ more) = total word + total more := by
  simp only [total, List.map_append, List.sum_append]

theorem total_cons (s : Symbol) (word : List Symbol) : total (s :: word) = s.value + total word :=
  total_append [s] word

theorem total_replicate (times : Nat) (s : Symbol) :
    total (List.replicate times s) = times * s.value := by
  simp [total]

theorem spell_replicate (times : Nat) (s : Symbol) :
    spell (List.replicate times s) = (List.replicate times s.text).flatten := by
  simp only [spell, List.flatMap_replicate]

theorem mem_star_iff {s : Symbol} {p : Text} :
    p ∈ ({s.text} : Language Char)∗ ↔ ∃ times, p = spell (List.replicate times s) := by
  simp only [spell_replicate, Language.mem_kstar]
  constructor
  · rintro ⟨parts, rfl, hparts⟩
    exact ⟨parts.length, congrArg List.flatten (List.eq_replicate_iff.2 ⟨rfl, hparts⟩)⟩
  · rintro ⟨times, rfl⟩
    exact ⟨_, rfl, fun part hpart => List.eq_of_mem_replicate hpart⟩

/-- The texts that a table allows are those of the words that follow it. -/
theorem mem_language_iff {table : List Symbol} {p : Text} :
    p ∈ language table ↔ ∃ word, Follows table word ∧ spell word = p := by
  induction table generalizing p with
  | nil => simp [language, Follows, spell, eq_comm]
  | cons s table ih =>
    unfold language at ih ⊢
    rw [List.map_cons, List.prod_cons, Language.mem_mul]
    constructor
    · rintro ⟨front, hfront, back, hback, rfl⟩
      obtain ⟨times, rfl⟩ := mem_star_iff.1 hfront
      obtain ⟨rest, hrest, rfl⟩ := ih.1 hback
      exact ⟨_, ⟨times, rest, rfl, hrest⟩, spell_append _ rest⟩
    · rintro ⟨word, ⟨times, rest, rfl, hrest⟩, rfl⟩
      exact ⟨_, mem_star_iff.2 ⟨times, rfl⟩, _, ih.2 ⟨rest, hrest, rfl⟩, (spell_append _ rest).symm⟩

/-- The letter that a symbol begins with. -/
def first : Symbol → Letter
  | letter l => l
  | pair small _ => small

/-- What keeps a symbol apart from those behind it in a table. Behind a letter all symbols
    begin with smaller letters, and a pair is not repeated. -/
def Precedes : Symbol → Symbol → Prop
  | letter l, s => s.first.value < l.value
  | pair small large, s => small.value < large.value ∧ s ≠ pair small large

instance (s s' : Symbol) : Decidable (Precedes s s') := by
  cases s <;> unfold Precedes <;> infer_instance

theorem all_pairwise_precedes : all.Pairwise Precedes := by decide

theorem toChar_injective {l l' : Letter} (h : l.toChar = l'.toChar) : l = l' := by
  cases l <;> cases l' <;> first | rfl | exact absurd h (by decide)

theorem text_eq_first_cons (s : Symbol) : ∃ tail, s.text = s.first.toChar :: tail := by
  cases s with
  | letter l => exact ⟨[], rfl⟩
  | pair small large => exact ⟨[large.toChar], rfl⟩

theorem follows_nil (table : List Symbol) : Follows table [] := by
  induction table with
  | nil => rfl
  | cons s table ih => exact ⟨0, [], rfl, ih⟩

/-- Words that follow two tables make one that follows the tables side by side. -/
theorem Follows.append {front back word more : List Symbol} (h : Follows front word)
    (h' : Follows back more) : Follows (front ++ back) (word ++ more) := by
  induction front generalizing word with
  | nil =>
    cases h
    exact h'
  | cons s front ih =>
    obtain ⟨times, rest, rfl, hrest⟩ := h
    exact ⟨times, rest ++ more, List.append_assoc _ _ _, ih hrest⟩

/-- A symbol of a word that follows a table is one of the table, and what stands behind it in
    the word follows the table from that symbol on. -/
theorem Follows.of_cons {table word : List Symbol} {s : Symbol} (h : Follows table (s :: word)) :
    ∃ front back, table = front ++ s :: back ∧ Follows (s :: back) word := by
  induction table with
  | nil => cases h
  | cons s' table ih =>
    obtain ⟨times, rest, hword, hrest⟩ := h
    cases times with
    | zero =>
      rw [List.replicate_zero, List.nil_append] at hword
      obtain ⟨front, back, rfl, hback⟩ := ih (hword ▸ hrest)
      exact ⟨s' :: front, back, rfl, hback⟩
    | succ times =>
      rw [List.replicate_succ, List.cons_append] at hword
      obtain ⟨rfl, rfl⟩ := List.cons.inj hword
      exact ⟨[], table, rfl, times, rest, rfl, hrest⟩

theorem Follows.mem {table word : List Symbol} {s : Symbol} (h : Follows table (s :: word)) :
    s ∈ table := by
  obtain ⟨front, back, rfl, _⟩ := h.of_cons
  simp

theorem spell_cons (s : Symbol) (word : List Symbol) : spell (s :: word) = s.text ++ spell word :=
  List.flatMap_cons

theorem value_le (s : Symbol) : s.value ≤ 1000 := by
  have hletter : ∀ l : Letter, l.value ≤ 1000 := by
    intro l
    cases l <;> decide
  cases s with
  | letter l => exact hletter l
  | pair small large => exact (Nat.sub_le _ _).trans (hletter large)

theorem value_pos : ∀ s ∈ all, 0 < s.value := by decide

theorem total_le (word : List Symbol) : total word ≤ 1000 * (spell word).length := by
  induction word with
  | nil => exact Nat.zero_le _
  | cons s word ih =>
    have hvalue := s.value_le
    obtain ⟨tail, htext⟩ := text_eq_first_cons s
    rw [spell_cons, htext, List.length_append, List.length_cons, total_cons]
    omega

/-- Where a symbol of a table stands at the front of a text, the symbols behind it in the
    table take less than it does: no more than the first letter of a pair. -/
theorem length_spell_lt_of_follows {s : Symbol} {table : List Symbol}
    (htable : (s :: table).Pairwise Precedes) {word : List Symbol} (hword : Follows table word)
    {rest : Text} (hstart : spell word <+: s.text ++ rest) :
    (spell word).length < s.text.length := by
  obtain ⟨hs, hbehind⟩ := List.pairwise_cons.1 htable
  cases word with
  | nil => cases s <;> simp [spell, text]
  | cons x word =>
    have hsx : Precedes s x := hs x hword.mem
    rw [spell_cons] at hstart
    cases s with
    | letter l =>
      -- Nothing behind a letter in the table begins with it.
      obtain ⟨tail, hx⟩ := text_eq_first_cons x
      rw [hx] at hstart
      have hfirst := toChar_injective (List.cons_prefix_cons.1 hstart).1
      exact absurd hsx (by simp [Precedes, hfirst])
    | pair small large =>
      obtain ⟨hlt, hne⟩ := hsx
      cases x with
      | pair small' large' =>
        obtain ⟨hsmall, htail⟩ := List.cons_prefix_cons.1 hstart
        have hlarge := (List.cons_prefix_cons.1 htail).1
        exact absurd (congrArg₂ pair (toChar_injective hsmall) (toChar_injective hlarge)) hne
      | letter l =>
        obtain ⟨hsmall, htail⟩ := List.cons_prefix_cons.1 hstart
        obtain rfl := toChar_injective hsmall
        cases word with
        | nil => simp [spell, text]
        | cons y word =>
          -- The second letter of the pair is larger than all that may follow its first one.
          obtain ⟨front, back, rfl, hback⟩ := hword.of_cons
          obtain ⟨tail, hy⟩ := text_eq_first_cons y
          change spell (y :: word) <+: large.toChar :: rest at htail
          rw [spell_cons, hy] at htail
          have hfirst := toChar_injective (List.cons_prefix_cons.1 htail).1
          obtain rfl | hmem := List.mem_cons.1 hback.mem
          · exact absurd hlt (by simp [← hfirst, first])
          · have hafter := (List.pairwise_cons.1 (List.pairwise_append.1 hbehind).2.1).1 y hmem
            have hfall : y.first.value < l.value := hafter
            rw [hfirst] at hfall
            omega

/-- Of two numbers of repetitions the larger one holds the smaller one and once more. -/
theorem spell_replicate_of_lt {times times' : Nat} (h : times < times') (s : Symbol) :
    ∃ extra, spell (List.replicate times' s) =
      spell (List.replicate times s) ++ (s.text ++ spell (List.replicate extra s)) := by
  obtain ⟨extra, rfl⟩ : ∃ extra, times' = times + (extra + 1) := ⟨times' - times - 1, by omega⟩
  exact ⟨extra, by rw [List.replicate_add, spell_append, List.replicate_succ, spell_cons]⟩

/-- A text has at most one word that follows a table whose symbols keep apart. -/
theorem follows_unique {table : List Symbol} (htable : table.Pairwise Precedes)
    {word word' : List Symbol} (hword : Follows table word) (hword' : Follows table word')
    (hspell : spell word = spell word') : word = word' := by
  induction table generalizing word word' with
  | nil => exact hword.trans hword'.symm
  | cons s table ih =>
    obtain ⟨times, rest, rfl, hrest⟩ := hword
    obtain ⟨times', rest', rfl, hrest'⟩ := hword'
    rw [spell_append, spell_append] at hspell
    -- Were one of the two to take the symbol more often, the other would have to make up for
    -- it with symbols that take less.
    obtain hlt | rfl | hgt := Nat.lt_trichotomy times times'
    · obtain ⟨extra, hextra⟩ := spell_replicate_of_lt hlt s
      rw [hextra, List.append_assoc, List.append_assoc] at hspell
      have heq := List.append_cancel_left hspell
      have hshort := length_spell_lt_of_follows htable hrest (by rw [heq])
      rw [heq, List.length_append] at hshort
      omega
    · rw [ih (List.pairwise_cons.1 htable).2 hrest hrest' (List.append_cancel_left hspell)]
    · obtain ⟨extra, hextra⟩ := spell_replicate_of_lt hgt s
      rw [hextra, List.append_assoc, List.append_assoc] at hspell
      have heq := List.append_cancel_left hspell.symm
      have hshort := length_spell_lt_of_follows htable hrest' (by rw [heq])
      rw [heq, List.length_append] at hshort
      omega

end TradeNotes.Symbol
