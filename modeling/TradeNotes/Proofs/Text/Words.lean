import Mathlib.Algebra.BigOperators.Group.List.Basic
import TradeNotes.Proofs.Text.Trimming

namespace TradeNotes.Text

theorem flatten_splitOnP (p : Char → Bool) (t : Text) :
    (t.splitOnP p).flatten = t.filter fun c => !p c := by
  induction t with
  | nil => rfl
  | cons c rest ih =>
    rw [List.splitOnP_cons_eq_if_modifyHead]
    by_cases hc : p c = true
    · simp [hc, ih]
    · obtain ⟨piece, pieces, hpieces⟩ := List.exists_cons_of_ne_nil (List.splitOnP_ne_nil p rest)
      rw [hpieces] at ih ⊢
      simp [hc, ← ih]

/-- The words of a text, side by side, are the text without its white space. -/
theorem flatten_tokens (t : Text) : t.tokens.flatten = t.filter fun c => !isBlank c := by
  rw [tokens, List.flatten_filter_not_isEmpty, flatten_splitOnP]

variable {t word : Text}

theorem ne_nil_of_mem_tokens (h : word ∈ t.tokens) : word ≠ [] := by
  have hkept := (List.mem_filter.1 h).2
  simpa using hkept

/-- No word holds white space. -/
theorem isBlank_of_mem_tokens (h : word ∈ t.tokens) : ∀ c ∈ word, isBlank c = false := by
  intro c hc
  have hflat : c ∈ t.tokens.flatten := List.mem_flatten.2 ⟨word, h, hc⟩
  rw [flatten_tokens] at hflat
  simpa using (List.mem_filter.1 hflat).2

/-- A text has no more words than characters. -/
theorem length_tokens_le (t : Text) : t.tokens.length ≤ t.length := by
  have hwords : ∀ n ∈ t.tokens.map List.length, 1 ≤ n := by
    intro n hn
    obtain ⟨word, hword, rfl⟩ := List.mem_map.1 hn
    exact List.length_pos_iff.2 (ne_nil_of_mem_tokens hword)
  calc t.tokens.length ≤ (t.tokens.map List.length).sum := by
        simpa using List.length_le_sum_of_one_le _ hwords
    _ = (t.filter fun c => !isBlank c).length := by rw [← List.length_flatten, flatten_tokens]
    _ ≤ t.length := List.length_filter_le _ t

/-- A text without words is white space. -/
theorem isBlank_of_tokens_eq_nil (h : t.tokens = []) : ∀ c ∈ t, isBlank c = true := by
  have hfilter := flatten_tokens t
  rw [h] at hfilter
  simpa using List.filter_eq_nil_iff.1 hfilter.symm

/-- White space ends a word and begins none. -/
theorem tokens_append_cons {c : Char} (hc : isBlank c = true) (t rest : Text) :
    (t ++ c :: rest).tokens = t.tokens ++ rest.tokens := by
  rw [tokens, List.splitOnP_append_cons t rest hc, List.filter_append, tokens, tokens]

theorem tokens_eq_nil (h : ∀ c ∈ t, isBlank c = true) : t.tokens = [] := by
  induction t with
  | nil => rfl
  | cons c rest ih =>
    obtain ⟨hc, hrest⟩ := List.forall_mem_cons.1 h
    have hcons := tokens_append_cons hc [] rest
    rwa [ih hrest] at hcons

theorem tokens_append_blank (t : Text) {back : Text} (hback : ∀ c ∈ back, isBlank c = true) :
    (t ++ back).tokens = t.tokens := by
  cases back with
  | nil => rw [List.append_nil]
  | cons c rest =>
    obtain ⟨hc, hrest⟩ := List.forall_mem_cons.1 hback
    rw [tokens_append_cons hc, tokens_eq_nil hrest, List.append_nil]

theorem tokens_blank_append {front : Text} (hfront : ∀ c ∈ front, isBlank c = true) (t : Text) :
    (front ++ t).tokens = t.tokens := by
  induction front with
  | nil => rfl
  | cons c front ih =>
    obtain ⟨hc, hrest⟩ := List.forall_mem_cons.1 hfront
    exact (tokens_append_cons hc [] (front ++ t)).trans (ih hrest)

/-- A text has the same words when it is trimmed. -/
theorem tokens_trim (t : Text) : t.trim.tokens = t.tokens := by
  obtain ⟨front, back, ht, hfront, hback⟩ := exists_strip_eq isBlank t
  calc t.trim.tokens = (front ++ t.trim ++ back).tokens := by
        rw [tokens_append_blank _ hback, tokens_blank_append hfront]
    _ = t.tokens := by rw [trim, ← ht]

/-- A word holds a character and no white space. -/
structure IsWord (word : Text) : Prop where
  ne_nil : word ≠ []
  visible : ∀ c ∈ word, isBlank c = false

theorem isWord_of_all (hne : word ≠ []) (h : word.all (fun c => !isBlank c) = true) : IsWord word :=
  ⟨hne, by simpa using h⟩

theorem IsWord.tokens_eq (h : word.IsWord) : word.tokens = [word] := by
  rw [tokens, List.splitOnP_eq_singleton h.visible]
  simp [h.ne_nil]

theorem IsWord.head? (h : word.IsWord) : ∀ c ∈ word.head?, isBlank c = false :=
  fun c hc => h.visible c (List.mem_of_mem_head? hc)

theorem IsWord.getLast? (h : word.IsWord) : ∀ c ∈ word.getLast?, isBlank c = false :=
  fun c hc => h.visible c (List.mem_of_getLast? hc)

theorem IsWord.trim_eq (h : word.IsWord) : word.trim = word :=
  strip_eq_self h.head? h.getLast?

/-- What stands between two spaces of a text and holds no white space is a word of it. -/
theorem IsWord.mem_tokens_of_infix (h : word.IsWord) (hstands : ' ' :: word ++ [' '] <:+: t) :
    word ∈ t.tokens := by
  obtain ⟨front, back, rfl⟩ := hstands
  have hparts : front ++ (' ' :: word ++ [' ']) ++ back = front ++ ' ' :: (word ++ ' ' :: back) := by
    simp
  rw [hparts, tokens_append_cons (by decide), tokens_append_cons (by decide), h.tokens_eq]
  simp

theorem IsWord.mem_tokens_of_suffix (h : word.IsWord) (hends : ' ' :: word <:+ t) :
    word ∈ t.tokens := by
  obtain ⟨front, rfl⟩ := hends
  rw [tokens_append_cons (by decide), h.tokens_eq]
  simp

/-- Words with spaces between them. -/
def joined (words : List Text) : Text :=
  [' '].intercalate words

variable {words : List Text}

theorem joined_cons (word : Text) (h : words ≠ []) :
    joined (word :: words) = word ++ ' ' :: joined words := by
  obtain ⟨next, rest, rfl⟩ := List.exists_cons_of_ne_nil h
  rw [joined, List.intercalate_cons_cons, List.append_assoc, List.singleton_append, joined]

theorem joined_singleton (word : Text) : joined [word] = word :=
  List.intercalate_singleton

/-- The words of a text come back out of it. -/
theorem tokens_joined (h : ∀ word ∈ words, IsWord word) : (joined words).tokens = words := by
  induction words with
  | nil => rfl
  | cons word rest ih =>
    obtain ⟨hword, hrest⟩ := List.forall_mem_cons.1 h
    by_cases hnil : rest = []
    · rw [hnil, joined_singleton, hword.tokens_eq]
    · rw [joined_cons word hnil, tokens_append_cons (by decide), hword.tokens_eq, ih hrest,
        List.singleton_append]

/-- A text begins as its first word does. -/
theorem head?_joined (h : ∀ word ∈ words, IsWord word) :
    (joined words).head? = words.head?.bind List.head? := by
  cases words with
  | nil => rfl
  | cons word rest =>
    obtain ⟨c, more, rfl⟩ := List.exists_cons_of_ne_nil (h word List.mem_cons_self).ne_nil
    by_cases hnil : rest = []
    · rw [hnil, joined_singleton]
      rfl
    · rw [joined_cons _ hnil]
      rfl

/-- A text ends as its last word does. -/
theorem getLast?_joined (h : ∀ word ∈ words, IsWord word) :
    (joined words).getLast? = words.getLast?.bind List.getLast? := by
  induction words with
  | nil => rfl
  | cons word rest ih =>
    by_cases hnil : rest = []
    · rw [hnil, joined_singleton]
      rfl
    · have hrest : ∀ word ∈ rest, IsWord word := fun word hword => h word (List.mem_cons_of_mem _ hword)
      have hjoined : joined rest ≠ [] := by
        intro hempty
        have htokens := tokens_joined hrest
        rw [hempty] at htokens
        exact hnil htokens.symm
      rw [joined_cons word hnil, List.getLast?_append_of_ne_nil _ (List.cons_ne_nil _ _),
        List.getLast?_cons_of_ne_nil hjoined, List.getLast?_cons_of_ne_nil hnil, ih hrest]

end TradeNotes.Text
