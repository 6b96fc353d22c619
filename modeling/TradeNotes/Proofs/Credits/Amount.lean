import TradeNotes.Proofs.Credits.Digits
import TradeNotes.Proofs.Credits.Exponent
import TradeNotes.Proofs.Credits.Rounding

namespace TradeNotes.Credits

open Magnitude

/-- Whether a function gives the texts of amounts, by common logarithms that are computed within one
    unit in the last place. -/
def IsAmountText (amountText : Binary64 → Text) : Prop :=
  ∃ log10, IsCommonLog log10 ∧ amountText = textBy fun m => ⌊log10 m⌋

/-- The function that answers are written with is one of them. -/
theorem isAmountText_text : IsAmountText text := by
  have hexponents : exponent = fun m => ⌊computedLog m⌋ :=
    funext fun m => (floor_computedLog m).symm
  exact ⟨computedLog, isCommonLog_computedLog, by rw [text, hexponents]⟩

section Places

variable {m : Magnitude} {e : ℤ} {n : ℕ}

theorem places_of_not_dvd (h : ¬one ∣ m.units) : places e m = (13 - e).toNat := by
  rw [Nat.dvd_iff_mod_eq_zero] at h
  rw [places, if_neg fun hwhole => h hwhole.1]

theorem places_le (e : ℤ) (m : Magnitude) : places e m ≤ (13 - e).toNat := by
  unfold places
  split
  · exact Nat.zero_le _
  · exact le_rfl

/-- The places are enough for a digit that is not zero, also when the logarithm is one too great. -/
theorem one_le_units_mul (hm : 0 < m.units) (he : e ≤ Int.log 10 m.toRat + 1) :
    one ≤ m.units * 10 ^ places e m := by
  by_cases hwhole : one ∣ m.units
  · exact (Nat.le_of_dvd hm hwhole).trans (Nat.le_mul_of_pos_right _ (by positivity))
  · have hleast : (1 : ℚ) ≤ m.toRat * 10 ^ places e m :=
      calc (1 : ℚ) ≤ 10 ^ (Int.log 10 m.toRat + places e m) :=
            one_le_zpow₀ (by norm_num) (by rw [places_of_not_dvd hwhole]; omega)
        _ = 10 ^ Int.log 10 m.toRat * 10 ^ places e m := by
            rw [zpow_add₀ (by norm_num), zpow_natCast]
        _ ≤ m.toRat * 10 ^ places e m :=
            mul_le_mul_of_nonneg_right (Int.zpow_log_le_self (by decide) (toRat_pos hm)) (by positivity)
    rw [toRat, div_mul_eq_mul_div, le_div_iff₀ one_cast_pos, one_mul] at hleast
    exact_mod_cast hleast

/-- Counted at the last of its places, an amount has no more than fifteen digits, also when the
    logarithm is one too small. -/
theorem toRat_mul_lt (hplaces : 0 < places e m) (he : Int.log 10 m.toRat - 1 ≤ e) :
    m.toRat * 10 ^ places e m < 10 ^ 15 := by
  have hmost := places_le e m
  calc m.toRat * 10 ^ places e m < 10 ^ (Int.log 10 m.toRat + 1) * 10 ^ places e m :=
        mul_lt_mul_of_pos_right (Int.lt_zpow_succ_log_self (by decide) _) (by positivity)
    _ = 10 ^ (Int.log 10 m.toRat + 1 + places e m) := by
        rw [zpow_add₀ (by norm_num) (_ + 1), zpow_natCast]
    _ ≤ 10 ^ (15 : ℤ) := zpow_le_zpow_right₀ (by norm_num) (by omega)
    _ = 10 ^ 15 := by norm_num

/-- The digits of an amount are those of the nearest whole number of its last place. -/
theorem isNearest_scaled (e : ℤ) (m : Magnitude) :
    IsNearest (m.toRat * 10 ^ places e m) (divNearest (m.units * 10 ^ places e m) one) := by
  have hscaled : m.toRat * 10 ^ places e m = (m.units * 10 ^ places e m : ℕ) / one := by
    rw [toRat, div_mul_eq_mul_div]
    push_cast
    rfl
  rw [hscaled]
  exact isNearest_divNearest Magnitude.one_pos

/-- The digits of an amount stand for the amount, rounded at the last of its places. -/
theorem unsigned?_magnitudeText (e : ℤ) (m : Magnitude) :
    ∃ w, (magnitudeText e m).unsigned? = some w ∧ IsRounded m.toRat (-(places e m : ℤ)) w := by
  refine ⟨_, unsigned?_decimalText _ _, divNearest (m.units * 10 ^ places e m) one, ?_, ?_⟩
  · rw [zpow_neg, zpow_natCast, div_inv_eq_mul]
    exact isNearest_scaled e m
  · rw [zpow_neg, zpow_natCast, ← div_eq_mul_inv, Int.cast_natCast, Nat.pow_eq]

theorem isUnsigned_magnitudeText (e : ℤ) (m : Magnitude) : Text.IsUnsigned (magnitudeText e m) :=
  isUnsigned_decimalText _ _

/-- An amount that is rounded to a whole number is written as one. -/
theorem magnitudeText_of_isNearest
    (h : IsNearest (m.toRat * 10 ^ places e m) (n * 10 ^ places e m : ℕ)) :
    magnitudeText e m = Nat.toDigits 10 n := by
  have heq := (isNearest_scaled e m).eq h
  rw [magnitudeText, Nat.pow_eq, Int.natCast_inj.1 heq, decimalText_mul]

/-- A whole amount is written with all its digits, whatever its places are. -/
theorem magnitudeText_of_toRat_eq (h : m.toRat = n) (e : ℤ) :
    magnitudeText e m = Nat.toDigits 10 n := by
  refine magnitudeText_of_isNearest ?_
  have hscaled : m.toRat * 10 ^ places e m = ((n * 10 ^ places e m : ℕ) : ℤ) := by
    rw [h]
    push_cast
    rfl
  rw [hscaled]
  exact isNearest_intCast _

theorem magnitudeText_ne_zero (hm : 0 < m.units) (he : e ≤ Int.log 10 m.toRat + 1) :
    magnitudeText e m ≠ ['0'] := by
  rw [magnitudeText, ne_eq, decimalText_eq_zero_iff, Nat.pow_eq, ← ne_eq, ← Nat.pos_iff_ne_zero]
  have hquotient := Nat.div_pos (one_le_units_mul hm he) Magnitude.one_pos
  exact hquotient.trans_le (le_divNearest _ _)

end Places

section Sign

variable {exponent : Magnitude → ℤ} {m : Magnitude}

theorem textBy_positive (exponent : Magnitude → ℤ) (m : Magnitude) :
    textBy exponent (.finite false m) = magnitudeText (exponent m) m := by
  simp [textBy]

theorem textBy_negative (h : magnitudeText (exponent m) m ≠ ['0']) :
    textBy exponent (.finite true m) = '-' :: magnitudeText (exponent m) m := by
  simp [textBy, h]

theorem textBy_zero (h : magnitudeText (exponent m) m = ['0']) (negative : Bool) :
    textBy exponent (.finite negative m) = ['0'] := by
  simp [textBy, h]

/-- The text of an amount stands for the amount, rounded at the last of its places. -/
theorem decimal?_textBy (exponent : Magnitude → ℤ) (negative : Bool) (m : Magnitude) :
    ∃ w, (textBy exponent (.finite negative m)).decimal? = some w ∧
      IsRounded (m.signed negative) (-(places (exponent m) m : ℤ)) w := by
  obtain ⟨w, hunsigned, hrounded⟩ := unsigned?_magnitudeText (exponent m) m
  have hpositive : (magnitudeText (exponent m) m).decimal? = some w := by
    rw [← hunsigned]
    exact Text.decimal?_of_head?_ne (isUnsigned_magnitudeText _ _).head?_ne
  cases negative with
  | false => exact ⟨w, by rw [textBy_positive, hpositive], hrounded⟩
  | true =>
    refine ⟨-w, ?_, hrounded.neg⟩
    by_cases hzero : magnitudeText (exponent m) m = ['0']
    · have hnone : w = 0 := by
        have hvalue : Text.unsigned? ['0'] = some 0 := by decide +kernel
        rw [hzero, hvalue] at hunsigned
        exact (Option.some.inj hunsigned).symm
      rw [textBy_zero hzero, ← hzero, hpositive, hnone, neg_zero]
    · rw [textBy_negative hzero]
      simp only [Text.decimal?, hunsigned]
      rfl

end Sign

end TradeNotes.Credits
