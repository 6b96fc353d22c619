import TradeNotes.Proofs.Credits.Amount

namespace TradeNotes

namespace Credits

open Magnitude

variable {log10 : Magnitude → ℝ} {m : Magnitude} {w : ℚ}

/-- The common logarithm of an amount with a fraction has no more than four binary digits before the
    point, unless the amount is very small. -/
theorem abs_commonLog_lt_of_not_dvd (hwhole : ¬one ∣ m.units) (hleast : 1 / 10 ^ 15 ≤ m.toRat) :
    |m.commonLog| < 2 ^ 4 := by
  have hpos : 0 < m.units := Nat.pos_of_ne_zero fun hzero => hwhole (hzero ▸ dvd_zero _)
  have hbelow : ((-15 : ℤ) : ℝ) ≤ m.commonLog := by
    rw [intCast_le_commonLog_iff hpos]
    norm_num at hleast ⊢
    exact hleast
  have habove : m.commonLog < ((16 : ℤ) : ℝ) := by
    rw [← not_le, intCast_le_commonLog_iff hpos, not_le]
    have hless : m.toRat < (2 ^ 53 : ℕ) := by
      rw [← not_le, natCast_le_toRat_iff]
      exact fun hmany => hwhole (one_dvd_units hmany)
    exact hless.trans (by norm_num)
  push_cast at hbelow habove
  rw [abs_lt]
  constructor <;> linarith

/-- An amount with a fraction is rounded at its last place, whichever logarithm the places are
    counted by, unless it is very small. -/
theorem isRounded_lastPlace_toRat (hlog : IsCommonLog log10) (hwhole : ¬one ∣ m.units)
    (hleast : 1 / 10 ^ 15 ≤ m.toRat)
    (h : IsRounded m.toRat (-(places ⌊log10 m⌋ m : ℤ)) w) :
    IsRounded m.toRat (lastPlace m.toRat) w := by
  have hpos : 0 < m.units := Nat.pos_of_ne_zero fun hzero => hwhole (hzero ▸ dvd_zero _)
  have hvalue := toRat_pos hpos
  have hself : (10 : ℚ) ^ Int.log 10 m.toRat ≤ m.toRat := Int.zpow_log_le_self (by decide) hvalue
  have hsucc : m.toRat < (10 : ℚ) ^ (Int.log 10 m.toRat + 1) :=
    Int.lt_zpow_succ_log_self (by decide) m.toRat
  obtain ⟨hnearBelow, hnearAbove⟩ := hlog.floor_near hpos
  obtain ⟨hbelow, habove⟩ := hlog.floor_bounds hpos (abs_commonLog_lt_of_not_dvd hwhole hleast)
  have hplace := lastPlace_of_pos hvalue
  have hplaces : -(places ⌊log10 m⌋ m : ℤ) = min 0 (⌊log10 m⌋ - 13) := by
    rw [places_of_not_dvd hwhole]
    omega
  generalize hexponent : ⌊log10 m⌋ = e at *
  by_cases heq : -(places e m : ℤ) = lastPlace m.toRat
  · rwa [← heq]
  · -- the amount is close to a power of ten, which it is rounded to at either place
    obtain rfl | rfl : e = Int.log 10 m.toRat - 1 ∨ e = Int.log 10 m.toRat + 1 := by omega
    · have hclose : |m.toRat - 10 ^ Int.log 10 m.toRat| ≤
          10 ^ Int.log 10 m.toRat * (43 / 10 ^ 16) := by
        rw [sub_add_cancel] at habove
        rw [abs_of_nonneg (by linarith)]
        linarith
      exact h.of_close (by omega) (by omega) (by omega) (by omega) hclose
    · have hclose : |m.toRat - 10 ^ (Int.log 10 m.toRat + 1)| ≤
          10 ^ (Int.log 10 m.toRat + 1) * (43 / 10 ^ 16) := by
        rw [abs_of_nonpos (by linarith)]
        linarith
      exact h.of_close (by omega) (by omega) (by omega) (by omega) hclose

/-- The same for amounts with a sign. -/
theorem isRounded_lastPlace (hlog : IsCommonLog log10) (hwhole : ¬one ∣ m.units)
    (hleast : 1 / 10 ^ 15 ≤ m.toRat) {negative : Bool}
    (h : IsRounded (m.signed negative) (-(places ⌊log10 m⌋ m : ℤ)) w) :
    IsRounded (m.signed negative) (lastPlace (m.signed negative)) w := by
  cases negative with
  | false => exact isRounded_lastPlace_toRat hlog hwhole hleast h
  | true =>
    have hneg := h.neg
    rw [signed_true, neg_neg] at hneg
    have hlast := (isRounded_lastPlace_toRat hlog hwhole hleast hneg).neg
    rwa [neg_neg, ← lastPlace_neg] at hlast

/-- Whole amounts are written with all their digits. -/
theorem textBy_of_whole (exponent : Magnitude → ℤ) {negative : Bool} {k : ℤ}
    (hk : m.signed negative = k) :
    textBy exponent (.finite negative m) = (toString k).toList := by
  obtain ⟨n, hn⟩ : ∃ n : ℕ, m.toRat = n :=
    ⟨k.natAbs, by rw [← abs_signed negative m, hk, Nat.cast_natAbs, Int.cast_abs]⟩
  have hdigits := magnitudeText_of_toRat_eq hn (exponent m)
  cases negative with
  | false =>
    have hpositive : k = n := by
      rw [signed_false, hn] at hk
      exact_mod_cast hk.symm
    rw [textBy_positive, hdigits, hpositive, Text.toList_toString_natCast]
  | true =>
    have hnegative : k = -n := by
      rw [signed_true, hn] at hk
      exact_mod_cast hk.symm
    obtain rfl | hpos := Nat.eq_zero_or_pos n
    · rw [Nat.toDigits_zero] at hdigits
      rw [textBy_zero hdigits, hnegative]
      rfl
    · have hne : magnitudeText (exponent m) m ≠ ['0'] := by
        rw [hdigits, ne_eq, Text.toDigits_eq_zero_iff]
        exact Nat.pos_iff_ne_zero.1 hpos
      rw [textBy_negative hne, hdigits, hnegative, Text.toList_toString_neg hpos]

/-- Whether an amount is whole or not very small, so that its text has all digits or fourteen of
    them. -/
def HasDigits (v : ℚ) : Prop :=
  (∃ k : ℤ, v = k) ∨ 1 / 10 ^ 15 ≤ |v|

/-- The text of an amount that is whole or not very small stands for the amount, rounded at its last
    place. -/
theorem exists_decimal?_textBy (hlog : IsCommonLog log10) {negative : Bool}
    (hdigits : HasDigits (m.signed negative)) :
    ∃ w, (textBy (fun m => ⌊log10 m⌋) (.finite negative m)).decimal? = some w ∧
      IsRounded (m.signed negative) (lastPlace (m.signed negative)) w := by
  obtain ⟨w, hdecimal, hrounded⟩ := decimal?_textBy (fun m => ⌊log10 m⌋) negative m
  refine ⟨w, hdecimal, ?_⟩
  by_cases hwhole : ∃ k : ℤ, m.signed negative = k
  · obtain ⟨k, hk⟩ := hwhole
    rw [hk] at hrounded ⊢
    rw [hrounded.eq (isRounded_intCast k (by omega))]
    exact isRounded_intCast k (lastPlace_nonpos _)
  · refine isRounded_lastPlace hlog (fun hdvd => hwhole ?_) ?_ hrounded
    · obtain ⟨n, hn⟩ := one_dvd_units_iff.1 hdvd
      cases negative with
      | false => exact ⟨n, by rw [signed_false, hn, Int.cast_natCast]⟩
      | true => exact ⟨-n, by rw [signed_true, hn, Int.cast_neg, Int.cast_natCast]⟩
    · rw [← abs_signed negative m]
      exact hdigits.resolve_left hwhole

variable {amountText : Binary64 → Text}

/-- Whole amounts are written with all their digits. Other amounts that are not very small are
    rounded to fourteen digits, and to a whole number when this has no fewer. Greater amounts are
    not written as smaller numbers. -/
theorem IsAmountText.accuracy (h : IsAmountText amountText) :
    (∀ (x : Binary64) (k : ℤ), x.value? = some (k : ℚ) → amountText x = (toString k).toList) ∧
      (∀ (x : Binary64) (v : ℚ), x.value? = some v → 1 / 10 ^ 15 ≤ |v| →
        ∃ w, (amountText x).decimal? = some w ∧
          IsRounded v (if |v| < 10 ^ 13 then Int.log 10 |v| - 13 else 0) w) ∧
      ∀ (x y : Binary64) (v w : ℚ), x.value? = some v → y.value? = some w → v ≤ w →
        HasDigits v → HasDigits w →
          ∃ a b, (amountText x).decimal? = some a ∧ (amountText y).decimal? = some b ∧ a ≤ b := by
  obtain ⟨log10, hlog, rfl⟩ := h
  refine ⟨fun x k hx => ?_, fun x v hx hleast => ?_, fun x y v w hx hy hle hv hw => ?_⟩
  · obtain ⟨negative, m, rfl, hk⟩ := Binary64.exists_finite hx
    exact textBy_of_whole _ hk.symm
  · obtain ⟨negative, m, rfl, rfl⟩ := Binary64.exists_finite hx
    exact exists_decimal?_textBy hlog (.inr hleast)
  · obtain ⟨negative, m, rfl, rfl⟩ := Binary64.exists_finite hx
    obtain ⟨negative', m', rfl, rfl⟩ := Binary64.exists_finite hy
    obtain ⟨a, ha, hrounded⟩ := exists_decimal?_textBy hlog hv
    obtain ⟨b, hb, hrounded'⟩ := exists_decimal?_textBy hlog hw
    exact ⟨a, b, ha, hb, hrounded.mono_lastPlace hrounded' hle⟩

/-- A whole amount, one with a fraction, and the order of the two. -/
theorem IsAmountText.accuracy_half :
    text (Binary64.ofNat 68) = (toString (68 : ℤ)).toList ∧
      (∃ w, (text ((Binary64.ofNat 5).div (Binary64.ofNat 2))).decimal? = some w ∧
        IsRounded (5 / 2) (if |(5 / 2 : ℚ)| < 10 ^ 13 then Int.log 10 |(5 / 2 : ℚ)| - 13 else 0) w) ∧
      ∃ a b, (text ((Binary64.ofNat 5).div (Binary64.ofNat 2))).decimal? = some a ∧
        (text (Binary64.ofNat 68)).decimal? = some b ∧ a ≤ b := by
  obtain ⟨hwhole, hrounded, hmono⟩ := IsAmountText.accuracy isAmountText_text
  have hless : (5 / 2 : ℚ) ≤ ((68 : ℤ) : ℚ) := by norm_num
  have hleast : 1 / 10 ^ 15 ≤ |(5 / 2 : ℚ)| := by norm_num
  exact ⟨hwhole _ 68 (by decide +kernel), hrounded _ (5 / 2) (by decide +kernel) hleast,
    hmono _ _ (5 / 2) _ (by decide +kernel) (by decide +kernel) hless (.inr hleast) (.inl ⟨68, rfl⟩)⟩

end Credits

end TradeNotes
