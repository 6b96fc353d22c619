import Mathlib.Analysis.Complex.ExponentialBounds
import Mathlib.Analysis.SpecialFunctions.Log.Base
import TradeNotes.Proofs.Binary64.Value

namespace TradeNotes

/-- The unit in the last place of a number that is written in 53 binary digits. -/
noncomputable def unitInLastPlace (x : ℝ) : ℝ :=
  2 ^ (Int.log 2 |x| - 52)

/-- The common logarithm of a magnitude above zero. -/
noncomputable def Magnitude.commonLog (m : Magnitude) : ℝ :=
  Real.logb 10 m.toRat

/-- Whether a function computes the common logarithms of magnitudes above zero, each of them within
    one unit in the last place. -/
def IsCommonLog (log10 : Magnitude → ℝ) : Prop :=
  ∀ m, 0 < m.units → |log10 m - m.commonLog| ≤ unitInLastPlace m.commonLog

section UnitInLastPlace

variable {x : ℝ} {k : ℕ}

theorem unitInLastPlace_le (hk : 0 < k) (h : |x| < 2 ^ k) :
    unitInLastPlace x ≤ 2 ^ ((k : ℤ) - 53) := by
  have hlog : Int.log 2 |x| < k := by
    obtain hzero | hpos := (abs_nonneg x).eq_or_lt
    · rw [← hzero, Int.log_zero_right]
      exact_mod_cast hk
    · rw [← Int.lt_zpow_iff_log_lt (by decide) hpos]
      exact_mod_cast h
  exact zpow_le_zpow_right₀ (by norm_num) (by omega)

theorem le_unitInLastPlace (h : 2 ^ k ≤ |x|) : 2 ^ ((k : ℤ) - 52) ≤ unitInLastPlace x := by
  have hpos : 0 < |x| := (by positivity : (0 : ℝ) < 2 ^ k).trans_le h
  have hlog : (k : ℤ) ≤ Int.log 2 |x| := by
    rw [← Int.zpow_le_iff_le_log (by decide) hpos]
    exact_mod_cast h
  exact zpow_le_zpow_right₀ (by norm_num) (by omega)

end UnitInLastPlace

section LogTen

theorem log_ten_lt : Real.log 10 < 12 / 5 := by
  have hexp : (10 : ℝ) ^ 5 < Real.exp (12 : ℕ) := by
    rw [← mul_one ((12 : ℕ) : ℝ), Real.exp_nat_mul]
    calc (10 : ℝ) ^ 5 < 2.7182818283 ^ 12 := by norm_num
      _ < Real.exp 1 ^ 12 := pow_lt_pow_left₀ Real.exp_one_gt_d9 (by norm_num) (by decide)
  have hlog := Real.log_lt_log (by norm_num) hexp
  rw [Real.log_pow, Real.log_exp] at hlog
  push_cast at hlog
  linarith

theorem lt_log_ten : 11 / 5 < Real.log 10 := by
  have hexp : Real.exp (11 : ℕ) < (10 : ℝ) ^ 5 := by
    rw [← mul_one ((11 : ℕ) : ℝ), Real.exp_nat_mul]
    calc Real.exp 1 ^ 11 < 2.7182818286 ^ 11 :=
          pow_lt_pow_left₀ Real.exp_one_lt_d9 (Real.exp_pos 1).le (by decide)
      _ < (10 : ℝ) ^ 5 := by norm_num
  have hlog := Real.log_lt_log (Real.exp_pos _) hexp
  rw [Real.log_pow, Real.log_exp] at hlog
  push_cast at hlog
  linarith

/-- A power of ten with a very small exponent is close to one. -/
theorem ten_rpow_le {u : ℝ} (hu : u ≤ 2 ^ (-49 : ℤ)) : (10 : ℝ) ^ u ≤ 1 + 43 / 10 ^ 16 := by
  have hlog : Real.log 10 * u ≤ 12 / 5 * 2 ^ (-49 : ℤ) :=
    calc Real.log 10 * u ≤ Real.log 10 * 2 ^ (-49 : ℤ) :=
          mul_le_mul_of_nonneg_left hu (by linarith [lt_log_ten])
      _ ≤ 12 / 5 * 2 ^ (-49 : ℤ) := mul_le_mul_of_nonneg_right log_ten_lt.le (by positivity)
  have hbelow := Real.one_sub_le_exp_neg (Real.log 10 * u)
  rw [Real.rpow_def_of_pos (by norm_num)]
  rw [Real.exp_neg] at hbelow
  have hpos := Real.exp_pos (Real.log 10 * u)
  have hone : (1 - Real.log 10 * u) * Real.exp (Real.log 10 * u) ≤ 1 := by
    rwa [← le_div_iff₀ hpos, one_div]
  norm_num at hlog
  nlinarith

end LogTen

namespace Magnitude

variable {m : Magnitude}

theorem ten_rpow_commonLog (hm : 0 < m.units) : (10 : ℝ) ^ m.commonLog = m.toRat :=
  Real.rpow_logb (by norm_num) (by norm_num) (by exact_mod_cast toRat_pos hm)

theorem intCast_le_commonLog_iff (hm : 0 < m.units) {e : ℤ} : e ≤ m.commonLog ↔ 10 ^ e ≤ m.toRat := by
  have hpos : (0 : ℝ) < m.toRat := by exact_mod_cast toRat_pos hm
  rw [commonLog, Real.le_logb_iff_rpow_le (by norm_num) hpos, Real.rpow_intCast,
    ← Rat.cast_le (K := ℝ), Rat.cast_zpow, Rat.cast_ofNat]

/-- The whole part of the common logarithm is the power of ten that the first digit stands for. -/
theorem floor_commonLog (m : Magnitude) : ⌊m.commonLog⌋ = Int.log 10 m.toRat := by
  obtain hzero | hm := Nat.eq_zero_or_pos m.units
  · rw [commonLog, toRat_eq_zero hzero, Rat.cast_zero, Real.logb_zero, Int.floor_zero,
      Int.log_zero_right]
  have hpos := toRat_pos hm
  have hbelow : (10 : ℚ) ^ Int.log 10 m.toRat ≤ m.toRat := Int.zpow_log_le_self (by decide) hpos
  have habove : m.toRat < (10 : ℚ) ^ (Int.log 10 m.toRat + 1) :=
    Int.lt_zpow_succ_log_self (by decide) m.toRat
  rw [Int.floor_eq_iff]
  refine ⟨(intCast_le_commonLog_iff hm).2 hbelow, ?_⟩
  rw [← not_le] at habove ⊢
  intro hle
  exact habove ((intCast_le_commonLog_iff hm).1 (by exact_mod_cast hle))

theorem abs_commonLog_lt (hm : 0 < m.units) : |m.commonLog| < 2 ^ 12 := by
  obtain ⟨significand, exponent, hunits, hmost, hexponent⟩ := m.exists_units_eq
  have habove : m.toRat < (10 : ℚ) ^ ((53 + exponent : ℕ) : ℤ) :=
    calc m.toRat ≤ m.units := div_le_self (Nat.cast_nonneg _) (by exact_mod_cast one_pos)
      _ < (2 ^ 53 * 2 ^ exponent : ℕ) := by
        rw [hunits]
        exact_mod_cast Nat.mul_lt_mul_of_pos_right hmost (Nat.two_pow_pos exponent)
      _ ≤ (10 : ℚ) ^ (53 + exponent) := by
        rw [← pow_add]
        exact_mod_cast Nat.pow_le_pow_left (by decide : 2 ≤ 10) (53 + exponent)
      _ = (10 : ℚ) ^ ((53 + exponent : ℕ) : ℤ) := (zpow_natCast _ _).symm
  have hbelow : (10 : ℚ) ^ (-(Nat.log2 one : ℕ) : ℤ) ≤ m.toRat := by
    have hone : one = 2 ^ Nat.log2 one := by decide +kernel
    have hten : (one : ℚ) ≤ 10 ^ Nat.log2 one := by
      conv_lhs => rw [hone]
      exact_mod_cast Nat.pow_le_pow_left (by decide : 2 ≤ 10) (Nat.log2 one)
    rw [zpow_neg, zpow_natCast, toRat, ← one_div]
    exact div_le_div₀ (by positivity) (by exact_mod_cast hm) one_cast_pos hten
  rw [← intCast_le_commonLog_iff hm, log2_one] at hbelow
  rw [← not_le, ← intCast_le_commonLog_iff hm, not_le] at habove
  have hless : ((53 + exponent : ℕ) : ℝ) < 2100 := by exact_mod_cast (by omega)
  push_cast at hbelow habove hless
  rw [abs_lt]
  constructor <;> linarith

end Magnitude

namespace IsCommonLog

variable {log10 : Magnitude → ℝ} {m : Magnitude}

/-- The whole part of a computed logarithm is off by no more than one. -/
theorem floor_near (h : IsCommonLog log10) (hm : 0 < m.units) :
    Int.log 10 m.toRat - 1 ≤ ⌊log10 m⌋ ∧ ⌊log10 m⌋ ≤ Int.log 10 m.toRat + 1 := by
  have hulp : unitInLastPlace m.commonLog ≤ 2 ^ ((12 : ℕ) - 53 : ℤ) :=
    unitInLastPlace_le (by decide) (Magnitude.abs_commonLog_lt hm)
  have hsmall : (2 : ℝ) ^ ((12 : ℕ) - 53 : ℤ) < 1 := by norm_num
  have hnear := abs_le.1 (h m hm)
  have hbelow := Int.floor_le m.commonLog
  have habove := Int.lt_floor_add_one m.commonLog
  rw [Magnitude.floor_commonLog m] at hbelow habove
  constructor
  · rw [Int.le_floor]
    push_cast
    linarith
  · rw [← Int.lt_add_one_iff, Int.floor_lt]
    push_cast
    linarith

/-- As long as the logarithm has no more than four binary digits before the point, the magnitude is
    hardly outside of the powers of ten that its computed logarithm is between. -/
theorem floor_bounds (h : IsCommonLog log10) (hm : 0 < m.units) (hlog : |m.commonLog| < 2 ^ 4) :
    (10 : ℚ) ^ ⌊log10 m⌋ ≤ m.toRat * (1 + 43 / 10 ^ 16) ∧
      m.toRat < 10 ^ (⌊log10 m⌋ + 1) * (1 + 43 / 10 ^ 16) := by
  have hulp : unitInLastPlace m.commonLog ≤ 2 ^ (-49 : ℤ) := unitInLastPlace_le (by decide) hlog
  have hten := ten_rpow_le hulp
  have hnear := abs_le.1 (h m hm)
  have hself := Magnitude.ten_rpow_commonLog hm
  have hpos : (0 : ℝ) < m.toRat := by exact_mod_cast Magnitude.toRat_pos hm
  constructor
  · have hreal : (10 : ℝ) ^ ⌊log10 m⌋ ≤ m.toRat * (1 + 43 / 10 ^ 16) :=
      calc (10 : ℝ) ^ ⌊log10 m⌋ = 10 ^ (⌊log10 m⌋ : ℝ) := (Real.rpow_intCast 10 _).symm
        _ ≤ 10 ^ (m.commonLog + unitInLastPlace m.commonLog) :=
          Real.rpow_le_rpow_of_exponent_le (by norm_num) (by linarith [Int.floor_le (log10 m)])
        _ = m.toRat * 10 ^ unitInLastPlace m.commonLog := by rw [Real.rpow_add (by norm_num), hself]
        _ ≤ m.toRat * (1 + 43 / 10 ^ 16) := mul_le_mul_of_nonneg_left hten hpos.le
    rw [← Rat.cast_le (K := ℝ)]
    push_cast
    exact hreal
  · have hreal : (m.toRat : ℝ) < 10 ^ (⌊log10 m⌋ + 1) * (1 + 43 / 10 ^ 16) :=
      calc (m.toRat : ℝ) = 10 ^ m.commonLog := hself.symm
        _ < 10 ^ (((⌊log10 m⌋ + 1 : ℤ) : ℝ) + unitInLastPlace m.commonLog) := by
          refine Real.rpow_lt_rpow_of_exponent_lt (by norm_num) ?_
          push_cast
          linarith [Int.lt_floor_add_one (log10 m)]
        _ = 10 ^ (⌊log10 m⌋ + 1) * 10 ^ unitInLastPlace m.commonLog := by
          rw [Real.rpow_add (by norm_num), Real.rpow_intCast]
        _ ≤ 10 ^ (⌊log10 m⌋ + 1) * (1 + 43 / 10 ^ 16) :=
          mul_le_mul_of_nonneg_left hten (by positivity)
    rw [← Rat.cast_lt (K := ℝ)]
    push_cast
    exact hreal

end IsCommonLog

end TradeNotes
