import TradeNotes.Proofs.Binary64.Midpoint
import TradeNotes.Proofs.Binary64.Value

namespace TradeNotes

namespace Binary64

open Magnitude

variable {num den : ℕ}

/-- The least number that is rounded to infinity. -/
def limit : ℚ := (2 ^ 54 - 1) * 2 ^ 970

theorem midpoint_count : midpoint Magnitude.count = limit * Magnitude.one := by
  obtain ⟨k, hone⟩ := exists_one_eq
  have hk : k = 1074 := by rw [← log2_one, hone, Nat.log2_two_pow]
  have hcount : Magnitude.count = (970 + k + 1 + 2) * perExponent := by
    rw [hk]
    rfl
  rw [hcount, midpoint_mul_perExponent, hone, limit]
  push_cast
  generalize (970 : ℕ) = exponent
  ring

/-- A quotient is rounded to a finite number exactly when it is below the least number that is
    rounded to infinity. -/
theorem nearestRank_lt_count_iff (hden : 0 < den) :
    nearestRank num den < Magnitude.count ↔ (num : ℚ) / den < limit * Magnitude.one := by
  have heven : Even Magnitude.count := by decide
  rw [← midpoint_count, ← not_le, le_nearestRank_iff hden, ← not_le, not_iff_not]
  exact ⟨Reaches.midpoint_le, fun hle => hle.lt_or_eq.imp_right fun heq => ⟨heq, heven⟩⟩

variable {m n : Magnitude} {k : ℕ}

/-- A quotient below the limit is rounded to a finite number. -/
theorem nearest_of_lt (negative : Bool) (hden : 0 < den)
    (h : (num : ℚ) / den < limit * Magnitude.one) :
    ∃ m : Magnitude, nearest negative num den = .finite negative m ∧
      m.rank = nearestRank num den := by
  have hlt := (nearestRank_lt_count_iff hden).2 h
  exact ⟨⟨nearestRank num den, hlt⟩, by rw [nearest, ofRank, dif_pos hlt], rfl⟩

theorem nearest_of_le (negative : Bool) (hden : 0 < den)
    (h : limit * Magnitude.one ≤ (num : ℚ) / den) : nearest negative num den = .infinite negative := by
  have hnot : ¬nearestRank num den < Magnitude.count :=
    fun hlt => ((nearestRank_lt_count_iff hden).1 hlt).not_ge h
  rw [nearest, ofRank, dif_neg hnot]

theorem units_mul_div (m n : Magnitude) :
    ((m.units * n.units : ℕ) : ℚ) / Magnitude.one = m.toRat * n.toRat * Magnitude.one := by
  have hone := one_cast_pos.ne'
  rw [toRat, toRat]
  push_cast
  field_simp

/-- A product below the limit is finite. -/
theorem mul_of_lt (s t : Bool) (h : m.toRat * n.toRat < limit) :
    ∃ r : Magnitude, mul (.finite s m) (.finite t n) = .finite (s != t) r ∧
      r.rank = nearestRank (m.units * n.units) Magnitude.one := by
  refine nearest_of_lt (s != t) Magnitude.one_pos ?_
  rw [units_mul_div]
  exact mul_lt_mul_of_pos_right h one_cast_pos

/-- A product from the limit on is infinite. -/
theorem mul_of_le (s t : Bool) (h : limit ≤ m.toRat * n.toRat) :
    mul (.finite s m) (.finite t n) = .infinite (s != t) := by
  refine nearest_of_le (s != t) Magnitude.one_pos ?_
  rw [units_mul_div]
  exact mul_le_mul_of_nonneg_right h one_cast_pos.le

/-- A quotient by a number that is not below one is finite. -/
theorem div_of_one_le (s t : Bool) (hn : Magnitude.one ≤ n.units) :
    ∃ r : Magnitude, div (.finite s m) (.finite t n) = .finite (s != t) r ∧
      r.rank = nearestRank (m.units * Magnitude.one) n.units := by
  have hpos : 0 < n.units := Magnitude.one_pos.trans_le hn
  have hcast : (0 : ℚ) < n.units := by exact_mod_cast hpos
  have hle : ((m.units * Magnitude.one : ℕ) : ℚ) / n.units ≤ m.units / (1 : ℕ) := by
    rw [Nat.cast_one, div_one, div_le_iff₀ hcast]
    exact_mod_cast Nat.mul_le_mul_left m.units hn
  have hrank : nearestRank (m.units * Magnitude.one) n.units < Magnitude.count :=
    ((nearestRank_mono hpos Nat.one_pos hle).trans_eq (nearestRank_unitsAt m.rank)).trans_lt m.rank_lt
  refine ⟨⟨_, hrank⟩, ?_, rfl⟩
  rw [div, if_neg (Nat.pos_iff_ne_zero.1 hpos), nearest, ofRank, dif_pos hrank]

/-- Natural numbers below the limit are finite. -/
theorem ofNat_of_lt (h : (k : ℚ) < limit) :
    ∃ m : Magnitude, ofNat k = .finite false m ∧ m.rank = nearestRank (k * Magnitude.one) 1 := by
  refine nearest_of_lt false Nat.one_pos ?_
  rw [Nat.cast_one, div_one, Nat.cast_mul]
  exact mul_lt_mul_of_pos_right h one_cast_pos

/-- Natural numbers from the limit on are infinite. -/
theorem ofNat_of_le (h : limit ≤ k) : ofNat k = .infinite false := by
  refine nearest_of_le false Nat.one_pos ?_
  rw [Nat.cast_one, div_one, Nat.cast_mul]
  exact mul_le_mul_of_nonneg_right h one_cast_pos.le

theorem ten_pow_lt_limit (h : k ≤ 308) : ((10 ^ k : ℕ) : ℚ) < limit := by
  have hlast : ∀ last power : ℕ, last = 308 → power = 970 → 10 ^ last + 2 ^ power < 2 ^ 54 * 2 ^ power := by
    rintro _ _ rfl rfl
    decide +kernel
  rw [limit]
  generalize hpower : (970 : ℕ) = power
  generalize hmost : (308 : ℕ) = last at h
  have hle : 10 ^ k ≤ 10 ^ last := Nat.pow_le_pow_right (by decide) h
  have hlt := hlast last power hmost.symm hpower.symm
  qify at hle hlt
  push_cast
  linarith

theorem two_pow_le_limit : (2 : ℚ) ^ 970 ≤ limit := by
  rw [limit]
  exact le_mul_of_one_le_left (by positivity) (by norm_num)

theorem natCast_lt_limit {exponent : ℕ} (h : k < 2 ^ exponent) (hexponent : exponent ≤ 970) :
    (k : ℚ) < limit := by
  have hcast : (k : ℚ) < 2 ^ exponent := by exact_mod_cast h
  have hpower : (2 : ℚ) ^ exponent ≤ 2 ^ 970 := pow_le_pow_right₀ (by norm_num) hexponent
  exact hcast.trans_le (hpower.trans two_pow_le_limit)

theorem limit_lt_ten_pow (h : 309 ≤ k) : limit < ((10 ^ k : ℕ) : ℚ) := by
  have hfirst : ∀ first power : ℕ, first = 309 → power = 970 →
      2 ^ 54 * 2 ^ power < 10 ^ first + 2 ^ power := by
    rintro _ _ rfl rfl
    decide +kernel
  rw [limit]
  generalize hpower : (970 : ℕ) = power
  generalize hleast : (309 : ℕ) = first at h
  have hle : 10 ^ first ≤ 10 ^ k := Nat.pow_le_pow_right (by decide) h
  have hlt := hfirst first power hleast.symm hpower.symm
  qify at hle hlt
  push_cast
  linarith

end Binary64

end TradeNotes
