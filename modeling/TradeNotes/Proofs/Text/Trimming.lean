import Mathlib.Data.List.DropRight
import TradeNotes.Text.Blank

namespace TradeNotes.Text

variable {p : Char → Bool}

/-- Characters of the class do not count in front of a text that is stripped. -/
theorem strip_append_left {front : Text} (hfront : ∀ c ∈ front, p c = true) (t : Text) :
    strip p (front ++ t) = strip p t := by
  unfold strip
  rw [List.dropWhile_append_of_pos hfront]

/-- Characters of the class do not count behind a text that is stripped. -/
theorem strip_append_right (t : Text) {back : Text} (hback : ∀ c ∈ back, p c = true) :
    strip p (t ++ back) = strip p t := by
  have hreverse : ∀ c ∈ back.reverse, p c = true := fun c hc => hback c (List.mem_reverse.1 hc)
  unfold strip
  rw [List.dropWhile_append]
  split
  · next hempty =>
    rw [List.isEmpty_iff] at hempty
    rw [List.dropWhile_eq_nil_iff.2 hback, hempty]
  · rw [List.reverse_append, List.dropWhile_append_of_pos hreverse]

/-- What is stripped from a text stands at its two ends and belongs to the class. -/
theorem exists_strip_eq (p : Char → Bool) (t : Text) :
    ∃ front back, t = front ++ strip p t ++ back ∧
      (∀ c ∈ front, p c = true) ∧ (∀ c ∈ back, p c = true) := by
  refine ⟨t.takeWhile p, (t.dropWhile p).rtakeWhile p, ?_, ?_, ?_⟩
  · rw [List.append_assoc]
    change t = t.takeWhile p ++ ((t.dropWhile p).rdropWhile p ++ (t.dropWhile p).rtakeWhile p)
    rw [List.rdropWhile_append_rtakeWhile, List.takeWhile_append_dropWhile]
  · exact fun c hc => List.mem_takeWhile_imp hc
  · exact fun c hc => List.mem_rtakeWhile_imp hc

theorem strip_infix (p : Char → Bool) (t : Text) : strip p t <:+: t := by
  obtain ⟨front, back, ht, _, _⟩ := exists_strip_eq p t
  exact ⟨front, back, ht.symm⟩

/-- A text of which nothing is left when it is stripped belongs to the class as a whole. -/
theorem forall_of_strip_eq_nil {t : Text} (h : strip p t = []) : ∀ c ∈ t, p c = true := by
  obtain ⟨front, back, ht, hfront, hback⟩ := exists_strip_eq p t
  rw [h, List.append_nil] at ht
  rw [ht]
  exact List.forall_mem_append.2 ⟨hfront, hback⟩

theorem head?_dropWhile {t : Text} {c : Char} (h : (t.dropWhile p).head? = some c) : p c = false := by
  have hnot := List.head?_dropWhile_not p t
  rwa [h] at hnot

/-- A stripped text does not begin with a character of the class. -/
theorem head?_strip {t : Text} {c : Char} (h : (strip p t).head? = some c) : p c = false := by
  obtain ⟨rest, hstrip⟩ := List.head?_eq_some_iff.1 h
  obtain ⟨back, hback⟩ : strip p t <+: t.dropWhile p := List.rdropWhile_prefix p (t.dropWhile p)
  rw [hstrip, List.cons_append] at hback
  exact head?_dropWhile (t := t) (List.head?_eq_some_iff.2 ⟨rest ++ back, hback.symm⟩)

/-- A stripped text does not end with a character of the class. -/
theorem getLast?_strip {t : Text} {c : Char} (h : (strip p t).getLast? = some c) : p c = false := by
  rw [strip, List.getLast?_reverse] at h
  exact head?_dropWhile h

/-- Nothing is stripped from a text whose ends do not belong to the class. -/
theorem strip_eq_self {t : Text} (hhead : ∀ c ∈ t.head?, p c = false)
    (hlast : ∀ c ∈ t.getLast?, p c = false) : strip p t = t := by
  have hfront : t.dropWhile p = t := by
    cases t with
    | nil => rfl
    | cons c rest => exact List.dropWhile_cons_of_neg (by rw [hhead c rfl]; exact Bool.false_ne_true)
  have hback : t.reverse.dropWhile p = t.reverse := by
    cases hreverse : t.reverse with
    | nil => rfl
    | cons c rest =>
      have hc : p c = false := hlast c (by simp [List.getLast?_eq_head?_reverse, hreverse])
      exact List.dropWhile_cons_of_neg (by rw [hc]; exact Bool.false_ne_true)
  rw [strip, hfront, hback, List.reverse_reverse]

theorem exists_dropWhile_append (front : Text) {t : Text} (ht : ∀ c ∈ t.head?, p c = false) :
    ∃ kept, (front ++ t).dropWhile p = kept ++ t := by
  rw [List.dropWhile_append]
  split
  · cases t with
    | nil => exact ⟨[], rfl⟩
    | cons c rest =>
      exact ⟨[], List.dropWhile_cons_of_neg (by rw [ht c rfl]; exact Bool.false_ne_true)⟩
  · exact ⟨_, rfl⟩

/-- A word whose ends do not belong to the class stands in a text when it is stripped, too. -/
theorem infix_strip {t word : Text} (hne : word ≠ []) (hhead : ∀ c ∈ word.head?, p c = false)
    (hlast : ∀ c ∈ word.getLast?, p c = false) (h : word <:+: t) : word <:+: strip p t := by
  obtain ⟨front, back, rfl⟩ := h
  have hwordBack : ∀ c ∈ (word ++ back).head?, p c = false := by
    rwa [List.head?_append_of_ne_nil _ hne]
  obtain ⟨kept, hkept⟩ := exists_dropWhile_append front hwordBack
  have hreverse : ∀ c ∈ (word.reverse ++ kept.reverse).head?, p c = false := by
    rwa [List.head?_append_of_ne_nil _ (by simpa using hne), List.head?_reverse]
  obtain ⟨left, hleft⟩ := exists_dropWhile_append back.reverse hreverse
  refine ⟨kept, left.reverse, ?_⟩
  calc kept ++ word ++ left.reverse
      = ((back.reverse ++ (word.reverse ++ kept.reverse)).dropWhile p).reverse := by
        rw [hleft]
        simp
    _ = strip p (front ++ word ++ back) := by
        rw [strip, List.append_assoc front, hkept]
        simp

/-- Nothing is left to strip from a text that has been stripped. -/
theorem strip_strip (p : Char → Bool) (t : Text) : strip p (strip p t) = strip p t := by
  obtain ⟨front, back, ht, hfront, hback⟩ := exists_strip_eq p t
  calc strip p (strip p t)
      = strip p (front ++ strip p t ++ back) := by
        rw [strip_append_right _ hback, strip_append_left hfront]
    _ = strip p t := by rw [← ht]

/-- A line may be trimmed where it is fetched and again where it is carried out. -/
theorem trim_trim (t : Text) : t.trim.trim = t.trim :=
  strip_strip isBlank t

/-- White space behind a text does not count when it is trimmed. -/
theorem trim_append_blank (t : Text) {back : Text} (hback : ∀ c ∈ back, isBlank c = true) :
    (t ++ back).trim = t.trim :=
  strip_append_right t hback

/-- White space around a text does not count when it is trimmed. -/
theorem trim_append_append {front back text : Text} (hfront : ∀ c ∈ front, isBlank c = true)
    (hback : ∀ c ∈ back, isBlank c = true) (hhead : ∀ c ∈ text.head?, isBlank c = false)
    (hlast : ∀ c ∈ text.getLast?, isBlank c = false) : (front ++ text ++ back).trim = text := by
  rw [trim_append_blank _ hback, trim, strip_append_left hfront, strip_eq_self hhead hlast]

end TradeNotes.Text
