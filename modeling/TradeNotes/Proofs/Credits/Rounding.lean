import Mathlib.Algebra.Order.Field.Power
import Mathlib.Algebra.Order.Field.Rat
import Mathlib.Data.Int.Log
import Mathlib.Data.Rat.Cast.Order
import Mathlib.Data.Rat.Floor
import Mathlib.Tactic.FieldSimp
import Mathlib.Tactic.Linarith
import Mathlib.Tactic.NormNum
import Mathlib.Tactic.Positivity
import Mathlib.Tactic.Qify
import Mathlib.Tactic.Ring
import TradeNotes.Binary64.Rounding

namespace TradeNotes

/-- Whether a whole number is the one nearest to a number, of two that are equally near the even
    one. -/
def IsNearest (v : ℚ) (n : ℤ) : Prop :=
  |v - n| < 1 / 2 ∨ |v - n| = 1 / 2 ∧ Even n

section IsNearest

variable {v w : ℚ} {n k : ℤ}

theorem IsNearest.distance_le (h : IsNearest v n) : |v - n| ≤ 1 / 2 :=
  h.elim le_of_lt fun htie => htie.1.le

theorem isNearest_intCast (n : ℤ) : IsNearest n n :=
  .inl (by rw [sub_self, abs_zero]; norm_num)

theorem IsNearest.neg (h : IsNearest v n) : IsNearest (-v) (-n) := by
  have hdistance : |-v - (-n : ℤ)| = |v - n| := by
    rw [Int.cast_neg, ← abs_neg]
    congr 1
    ring
  unfold IsNearest
  rwa [hdistance, even_neg]

/-- Greater numbers are nearest to no smaller whole numbers. -/
theorem IsNearest.mono (h : IsNearest v n) (h' : IsNearest w k) (hle : v ≤ w) : n ≤ k := by
  by_contra hnot
  have hbelow := abs_le.1 h.distance_le
  have habove := abs_le.1 h'.distance_le
  have hsucc : (k : ℚ) + 1 ≤ n := by exact_mod_cast Int.not_le.1 hnot
  -- both numbers are halfway between the two whole numbers, which are then both even
  have hv : |v - n| = 1 / 2 := by
    rw [abs_of_nonpos (by linarith)]
    linarith
  have hw : |w - k| = 1 / 2 := by
    rw [abs_of_nonneg (by linarith)]
    linarith
  have hnext : n = k + 1 := by
    have hcast : (n : ℚ) = k + 1 := by linarith
    exact_mod_cast hcast
  have hn : Even n := (h.resolve_left (by linarith)).2
  have hk : Even k := (h'.resolve_left (by linarith)).2
  rw [hnext, Int.even_add_one] at hn
  exact hn hk

theorem IsNearest.eq (h : IsNearest v n) (h' : IsNearest v k) : n = k :=
  le_antisymm (h.mono h' le_rfl) (h'.mono h le_rfl)

/-- The nearest whole number, by a distance that is given as a quotient. -/
theorem isNearest_of_distance {rest den : ℕ} (hden : 0 < den) (hdistance : |v - n| = rest / den)
    (h : 2 * rest < den ∨ 2 * rest = den ∧ Even n) : IsNearest v n := by
  have hpos : (0 : ℚ) < den := by exact_mod_cast hden
  rw [IsNearest, hdistance, div_lt_div_iff₀ hpos two_pos, div_eq_div_iff hpos.ne' two_ne_zero]
  refine h.imp (fun hless => ?_) fun htie => ⟨?_, htie.2⟩
  · exact_mod_cast (by omega : rest * 2 < 1 * den)
  · exact_mod_cast (by omega : rest * 2 = 1 * den)

/-- The division that rounds gives the nearest whole number. -/
theorem isNearest_divNearest {num den : ℕ} (hden : 0 < den) :
    IsNearest ((num : ℚ) / den) (divNearest num den) := by
  have hdiv := Nat.div_add_mod num den
  have hlt := Nat.mod_lt num hden
  have hpos : (0 : ℚ) < den := by exact_mod_cast hden
  unfold divNearest
  simp only [Tie.isDown, beq_iff_eq]
  generalize num / den = quotient at hdiv ⊢
  generalize num % den = rest at hdiv hlt ⊢
  have hsplit : (num : ℚ) / den = quotient + rest / den := by
    rw [← hdiv]
    push_cast
    field_simp
  have hrest : (0 : ℚ) ≤ rest / den := by positivity
  rw [hsplit]
  split
  · next hdown =>
    refine isNearest_of_distance hden ?_ (hdown.imp_right fun htie => ⟨htie.1, ?_⟩)
    · rw [Int.cast_natCast, add_sub_cancel_left, abs_of_nonneg hrest]
    · rw [Int.even_coe_nat, Nat.even_iff]
      exact htie.2
  · next hup =>
    have hdistance : |(quotient + rest / den : ℚ) - (quotient + 1 : ℕ)| = (den - rest : ℕ) / den := by
      have hless : (rest : ℚ) / den ≤ 1 := by
        rw [div_le_one hpos]
        exact_mod_cast hlt.le
      rw [Nat.cast_sub hlt.le, Nat.cast_succ, abs_of_nonpos (by linarith)]
      field_simp
      ring
    have hnear : 2 * (den - rest) < den ∨ 2 * (den - rest) = den ∧ quotient % 2 = 1 := by omega
    refine isNearest_of_distance hden (by rw [Int.cast_natCast, hdistance])
      (hnear.imp_right fun htie => ⟨htie.1, ?_⟩)
    rw [Int.even_coe_nat, Nat.even_add_one, Nat.not_even_iff]
    exact htie.2

end IsNearest

/-- Whether a number is what another one is rounded to, at the place of a power of ten: the nearest
    multiple of this power, of two that are equally near the even one. -/
def IsRounded (v : ℚ) (place : ℤ) (w : ℚ) : Prop :=
  ∃ n : ℤ, IsNearest (v / 10 ^ place) n ∧ w = n * 10 ^ place

section IsRounded

variable {v w a b : ℚ} {place : ℤ}

theorem ten_zpow_pos (place : ℤ) : (0 : ℚ) < 10 ^ place :=
  zpow_pos (by norm_num) place

theorem isRounded_multiple (n : ℤ) (place : ℤ) : IsRounded (n * 10 ^ place) place (n * 10 ^ place) := by
  refine ⟨n, ?_, rfl⟩
  rw [mul_div_cancel_right₀ _ (ten_zpow_pos place).ne']
  exact isNearest_intCast n

theorem IsRounded.neg (h : IsRounded v place a) : IsRounded (-v) place (-a) := by
  obtain ⟨n, hnearest, rfl⟩ := h
  exact ⟨-n, by rw [neg_div]; exact hnearest.neg, by push_cast; ring⟩

/-- Greater numbers are rounded to no smaller ones. -/
theorem IsRounded.mono (h : IsRounded v place a) (h' : IsRounded w place b) (hle : v ≤ w) : a ≤ b := by
  obtain ⟨n, hn, rfl⟩ := h
  obtain ⟨k, hk, rfl⟩ := h'
  have hpos := ten_zpow_pos place
  have hquotient : v / 10 ^ place ≤ w / 10 ^ place := div_le_div_of_nonneg_right hle hpos.le
  exact mul_le_mul_of_nonneg_right (by exact_mod_cast hn.mono hk hquotient) hpos.le

theorem IsRounded.eq (h : IsRounded v place a) (h' : IsRounded v place b) : a = b :=
  le_antisymm (h.mono h' le_rfl) (h'.mono h le_rfl)

/-- A greater power of ten is a multiple of a smaller one. -/
theorem exists_ten_zpow_eq {exponent : ℤ} (h : place ≤ exponent) :
    ∃ n : ℤ, (10 : ℚ) ^ exponent = n * 10 ^ place := by
  refine ⟨10 ^ (exponent - place).toNat, ?_⟩
  rw [Int.cast_pow, Int.cast_ofNat, ← zpow_natCast, Int.toNat_sub_of_le h,
    ← zpow_add₀ (by norm_num : (10 : ℚ) ≠ 0)]
  congr 1
  omega

theorem isRounded_ten_zpow {exponent : ℤ} (h : place ≤ exponent) :
    IsRounded (10 ^ exponent) place (10 ^ exponent) := by
  obtain ⟨n, hn⟩ := exists_ten_zpow_eq h
  rw [hn]
  exact isRounded_multiple n place

/-- Whole numbers are not changed when they are rounded at no place before the point. -/
theorem isRounded_intCast (n : ℤ) (h : place ≤ 0) : IsRounded n place n := by
  obtain ⟨unit, hunit⟩ := exists_ten_zpow_eq h
  rw [zpow_zero] at hunit
  have hmultiple : (n : ℚ) = (n * unit : ℤ) * 10 ^ place := by
    rw [Int.cast_mul, mul_assoc, ← hunit, mul_one]
  rw [hmultiple]
  exact isRounded_multiple _ _

/-- A number that is within half a place of a power of ten is rounded to it. -/
theorem isRounded_of_near {exponent : ℤ} (h : place ≤ exponent)
    (hnear : |v - 10 ^ exponent| < 10 ^ place / 2) : IsRounded v place (10 ^ exponent) := by
  obtain ⟨n, hn⟩ := exists_ten_zpow_eq h
  have hpos := ten_zpow_pos place
  refine ⟨n, .inl ?_, hn⟩
  have hdistance : v / 10 ^ place - n = (v - 10 ^ exponent) / 10 ^ place := by
    rw [hn, sub_div, mul_div_cancel_right₀ _ hpos.ne']
  rw [hdistance, abs_div, abs_of_pos hpos, div_lt_iff₀ hpos]
  linarith

end IsRounded

section LastPlace

variable {v w a b : ℚ} {place place' exponent : ℤ}

/-- The place of the last one of fourteen digits, or of the last whole digit of numbers that have
    more of these. -/
def lastPlace (v : ℚ) : ℤ :=
  if |v| < 10 ^ 13 then Int.log 10 |v| - 13 else 0

theorem lastPlace_eq_min (v : ℚ) : lastPlace v = min 0 (Int.log 10 |v| - 13) := by
  have hlog : |v| < 10 ^ 13 ↔ Int.log 10 |v| < 13 := by
    obtain hzero | hpos := (abs_nonneg v).eq_or_lt
    · rw [← hzero, Int.log_zero_right]
      norm_num
    · rw [← Int.lt_zpow_iff_log_lt (by decide) hpos]
      norm_num
  simp only [lastPlace, hlog]
  split <;> omega

theorem lastPlace_neg (v : ℚ) : lastPlace (-v) = lastPlace v := by
  rw [lastPlace, lastPlace, abs_neg]

theorem lastPlace_of_pos (hv : 0 < v) : lastPlace v = min 0 (Int.log 10 v - 13) := by
  rw [lastPlace_eq_min, abs_of_pos hv]

theorem lastPlace_nonpos (v : ℚ) : lastPlace v ≤ 0 :=
  (lastPlace_eq_min v).trans_le (min_le_left _ _)

theorem IsRounded.mono_of_pos (h : IsRounded v (lastPlace v) a) (h' : IsRounded w (lastPlace w) b)
    (hle : v ≤ w) (hv : 0 < v) : a ≤ b := by
  have hw : 0 < w := hv.trans_le hle
  have hlog : Int.log 10 v ≤ Int.log 10 w := Int.log_mono_right hv hle
  rw [lastPlace_of_pos hv] at h
  rw [lastPlace_of_pos hw] at h'
  by_cases heq : Int.log 10 v = Int.log 10 w
  · rw [heq] at h
    exact h.mono h' hle
  · -- the power of ten of the first digit of the greater number is between the two
    have hbelow : v ≤ 10 ^ Int.log 10 w := by
      have hsucc := Int.lt_zpow_succ_log_self (b := 10) (by decide) v
      exact hsucc.le.trans (zpow_le_zpow_right₀ (by norm_num) (by omega))
    have habove : (10 : ℚ) ^ Int.log 10 w ≤ w := Int.zpow_log_le_self (by decide) hw
    exact (h.mono (isRounded_ten_zpow (by omega)) hbelow).trans
      ((isRounded_ten_zpow (by omega)).mono h' habove)

/-- Rounded at their last places, greater numbers become no smaller ones. -/
theorem IsRounded.mono_lastPlace (h : IsRounded v (lastPlace v) a) (h' : IsRounded w (lastPlace w) b)
    (hle : v ≤ w) : a ≤ b := by
  obtain hv | hv := lt_or_ge 0 v
  · exact h.mono_of_pos h' hle hv
  obtain hw | hw := lt_or_ge w 0
  · have hneg := h.neg
    have hneg' := h'.neg
    rw [← lastPlace_neg] at hneg hneg'
    exact neg_le_neg_iff.1 (hneg'.mono_of_pos hneg (neg_le_neg hle) (neg_pos.2 hw))
  · have hzero := isRounded_intCast 0 (lastPlace_nonpos v)
    have hzero' := isRounded_intCast 0 (lastPlace_nonpos w)
    rw [Int.cast_zero] at hzero hzero'
    exact (h.mono hzero hv).trans (hzero'.mono h' hw)

/-- A number that is hardly different from a power of ten is rounded to it, at each place that is no
    more than fourteen places behind. -/
theorem isRounded_of_close (hleast : exponent ≤ place + 14) (hmost : place ≤ exponent)
    (hclose : |v - 10 ^ exponent| ≤ 10 ^ exponent * (43 / 10 ^ 16)) :
    IsRounded v place (10 ^ exponent) := by
  refine isRounded_of_near hmost (hclose.trans_lt ?_)
  have hpower : (10 : ℚ) ^ exponent ≤ 10 ^ place * 10 ^ 14 := by
    rw [← zpow_natCast (10 : ℚ) 14, ← zpow_add₀ (by norm_num)]
    exact zpow_le_zpow_right₀ (by norm_num) hleast
  linarith [ten_zpow_pos place]

/-- Such a number is rounded to the same at other places. -/
theorem IsRounded.of_close (h : IsRounded v place w) (hleast : exponent ≤ place + 14)
    (hmost : place ≤ exponent) (hleast' : exponent ≤ place' + 14) (hmost' : place' ≤ exponent)
    (hclose : |v - 10 ^ exponent| ≤ 10 ^ exponent * (43 / 10 ^ 16)) : IsRounded v place' w := by
  rw [h.eq (isRounded_of_close hleast hmost hclose)]
  exact isRounded_of_close hleast' hmost' hclose

end LastPlace

end TradeNotes
