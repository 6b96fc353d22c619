import TradeNotes.Proofs.Credits.Amount

namespace TradeNotes.Credits

open Magnitude

variable {amountText : Binary64 → Text} {m : Magnitude} {x : Binary64} {v : ℚ}

/-- The texts of a magnitude above zero, without a sign and with one. -/
theorem exists_digits (exponent : Magnitude → ℤ) (hm : 0 < m.units)
    (hexponent : exponent m ≤ Int.log 10 m.toRat + 1) :
    ∃ digits, Text.IsUnsigned digits ∧ digits ≠ ['0'] ∧
      textBy exponent (.finite false m) = digits ∧
      textBy exponent (.finite true m) = '-' :: digits := by
  have hne := magnitudeText_ne_zero hm hexponent
  exact ⟨_, isUnsigned_magnitudeText _ m, hne, textBy_positive _ m, textBy_negative hne⟩

/-- The text of a finite amount is in decimal digits in which no zero could be left out, with a
    point among them or without one. The text of zero, and no other, is a zero, and the texts of
    amounts below zero, and no others, have a sign before them. -/
theorem IsAmountText.shape (h : IsAmountText amountText) (hx : x.value? = some v) :
    (amountText x).IsDecimal ∧ amountText x ≠ ['-', '0'] ∧ (amountText x = ['0'] ↔ v = 0) ∧
      ((amountText x).head? = some '-' ↔ v < 0) ∧
      (0 < v → amountText x.neg = '-' :: amountText x) := by
  obtain ⟨log10, hlog, rfl⟩ := h
  obtain ⟨negative, m, rfl, rfl⟩ := Binary64.exists_finite hx
  obtain hzero | hpos := Nat.eq_zero_or_pos m.units
  · have hvalue := toRat_eq_zero hzero
    have htext : textBy (fun m => ⌊log10 m⌋) (.finite negative m) = ['0'] :=
      textBy_zero (magnitudeText_of_toRat_eq (n := 0) (by rw [hvalue, Nat.cast_zero]) _) negative
    have hsigned : m.signed negative = 0 := by rw [← abs_eq_zero, abs_signed, hvalue]
    rw [htext, hsigned]
    exact ⟨.unsigned (.whole (Text.isWhole_toDigits 0)), by decide, by simp, by simp,
      fun hless => absurd hless (lt_irrefl 0)⟩
  · have hvalue := toRat_pos hpos
    obtain ⟨digits, hdigits, hne, hpositive, hnegative⟩ :=
      exists_digits (fun m => ⌊log10 m⌋) hpos (hlog.floor_near hpos).2
    cases negative with
    | false =>
      rw [Binary64.neg, Bool.not_false, hpositive, hnegative, signed_false]
      refine ⟨.unsigned hdigits, fun hsign => ?_, iff_of_false hne hvalue.ne',
        iff_of_false hdigits.head?_ne hvalue.not_gt, fun _ => rfl⟩
      exact hdigits.head?_ne (by rw [hsign, List.head?_cons])
    | true =>
      have hless : -m.toRat < 0 := neg_lt_zero.2 hvalue
      rw [hnegative, signed_true]
      refine ⟨.negative hdigits, fun hsign => hne (List.cons.inj hsign).2,
        iff_of_false (fun hsign => ?_) hless.ne, iff_of_true (List.head?_cons ..) hless,
        fun hgreater => absurd hgreater hless.not_gt⟩
      cases (List.cons.inj hsign).1

/-- The least amount above zero is not written as zero, and below zero it has a sign. -/
theorem IsAmountText.shape_least :
    (text (.finite false ⟨1, by decide⟩)).IsDecimal ∧ text (.finite false ⟨1, by decide⟩) ≠ ['0'] ∧
      text (.finite true ⟨1, by decide⟩) = '-' :: text (.finite false ⟨1, by decide⟩) := by
  have hpos : 0 < toRat ⟨1, by decide⟩ := toRat_pos (by decide)
  obtain ⟨hdecimal, _, hzero, _, hneg⟩ :=
    IsAmountText.shape (x := .finite false ⟨1, by decide⟩) isAmountText_text rfl
  exact ⟨hdecimal, fun htext => hpos.ne' (hzero.1 htext), hneg hpos⟩

end TradeNotes.Credits
