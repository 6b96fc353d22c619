namespace TradeNotes

/-- A text is the list of its characters, any Unicode scalar values. -/
abbrev Text := List Char

namespace Text

/-- The value of a hexadecimal digit of either case. -/
def hexDigit? (c : Char) : Option Nat :=
  if c.isDigit then some (c.toNat - '0'.toNat)
  else if 'a' ≤ c ∧ c ≤ 'f' then some (c.toNat - 'a'.toNat + 10)
  else if 'A' ≤ c ∧ c ≤ 'F' then some (c.toNat - 'A'.toNat + 10)
  else none

/-- Removes the characters of a class from both ends of a text. -/
def strip (p : Char → Bool) (t : Text) : Text :=
  ((t.dropWhile p).reverse.dropWhile p).reverse

/-- Whether a word occurs somewhere in a text. -/
def holds (t word : Text) : Bool :=
  match t with
  | [] => word.isEmpty
  | c :: rest => word.isPrefixOf (c :: rest) || holds rest word

/-- The parts of a text before and after the first occurrence of a mark, when it occurs. -/
def cutAt? (t mark : Text) : Option (Text × Text) :=
  match t with
  | [] => if mark.isEmpty then some ([], []) else none
  | c :: rest =>
    if mark.isPrefixOf (c :: rest) then some ([], (c :: rest).drop mark.length)
    else (cutAt? rest mark).map fun (before, after) => (c :: before, after)

/-- The search for a word finds exactly the words that stand in the text. -/
theorem holds_iff_infix {t word : Text} : t.holds word = true ↔ word <:+: t := by
  induction t with
  | nil => simp [holds, List.isEmpty_iff]
  | cons c rest ih =>
    simp only [holds, Bool.or_eq_true, List.isPrefixOf_iff_prefix, ih, List.infix_cons_iff]

/-- A cut loses nothing: the two parts and the mark between them are the text. -/
theorem cutAt?_eq_some {t mark before after : Text} (h : t.cutAt? mark = some (before, after)) :
    t = before ++ mark ++ after := by
  induction t generalizing before with
  | nil =>
    unfold cutAt? at h
    split at h <;> simp_all [List.isEmpty_iff]
  | cons c rest ih =>
    unfold cutAt? at h
    split at h
    · next hmark =>
      obtain ⟨tail, htail⟩ := List.isPrefixOf_iff_prefix.1 hmark
      simp only [Option.some.injEq, Prod.mk.injEq] at h
      obtain ⟨rfl, rfl⟩ := h
      simp [← htail]
    · obtain ⟨⟨b, a⟩, hrest, heq⟩ := Option.map_eq_some_iff.1 h
      simp only [Prod.mk.injEq] at heq
      obtain ⟨rfl, rfl⟩ := heq
      simpa using ih hrest

/-- A text is cut at the first mark in it: none stands before the cut. -/
theorem not_infix_of_cutAt? {t mark before after : Text} (hmark : mark ≠ [])
    (h : t.cutAt? mark = some (before, after)) : ¬ mark <:+: before := by
  induction t generalizing before with
  | nil => simp [cutAt?, hmark] at h
  | cons c rest ih =>
    have htext := cutAt?_eq_some h
    unfold cutAt? at h
    split at h
    · simp only [Option.some.injEq, Prod.mk.injEq] at h
      obtain ⟨rfl, _⟩ := h
      simpa using hmark
    · next hfirst =>
      obtain ⟨⟨b, a⟩, hrest, heq⟩ := Option.map_eq_some_iff.1 h
      simp only [Prod.mk.injEq] at heq
      obtain ⟨rfl, rfl⟩ := heq
      rw [List.infix_cons_iff, not_or]
      refine ⟨?_, ih hrest⟩
      intro hstart
      apply hfirst
      rw [List.isPrefixOf_iff_prefix, htext, List.append_assoc]
      exact hstart.trans (List.prefix_append _ _)

/-- There is no cut exactly when the mark does not stand in the text. -/
theorem cutAt?_eq_none_iff {t mark : Text} : t.cutAt? mark = none ↔ ¬ mark <:+: t := by
  induction t with
  | nil => unfold cutAt?; split <;> simp_all [List.isEmpty_iff]
  | cons c rest ih =>
    unfold cutAt?
    split
    · next hmark => simp [List.infix_cons_iff, List.isPrefixOf_iff_prefix.1 hmark]
    · next hmark =>
      rw [List.isPrefixOf_iff_prefix] at hmark
      simp [List.infix_cons_iff, hmark, ih]

end Text

end TradeNotes
