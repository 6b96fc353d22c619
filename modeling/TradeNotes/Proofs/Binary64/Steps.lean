import TradeNotes.Proofs.Binary64.Range

namespace TradeNotes

namespace Magnitude

variable {i j num den : ℕ} {v w v' w' : ℚ}

/-- Whether two numbers are so many steps apart: neither is less than the other one with one part
    in `2 ^ 53` taken away as often. -/
structure Near (steps : ℕ) (v w : ℚ) : Prop where
  below : v * shrink ^ steps ≤ w
  above : w * shrink ^ steps ≤ v

namespace Near

theorem rfl : Near 0 v v :=
  ⟨by simp, by simp⟩

theorem mul (h : Near i v w) (h' : Near j v' w') (hv : 0 ≤ v) (hw : 0 ≤ w) (hv' : 0 ≤ v')
    (hw' : 0 ≤ w') : Near (i + j) (v * v') (w * w') := by
  have hi := pow_pos shrink_pos i
  have hj := pow_pos shrink_pos j
  constructor
  · calc v * v' * shrink ^ (i + j) = v * shrink ^ i * (v' * shrink ^ j) := by ring
      _ ≤ w * w' := mul_le_mul h.below h'.below (by positivity) hw
  · calc w * w' * shrink ^ (i + j) = w * shrink ^ i * (w' * shrink ^ j) := by ring
      _ ≤ v * v' := mul_le_mul h.above h'.above (by positivity) hv

theorem inv (h : Near i v w) (hv : 0 < v) (hw : 0 < w) : Near i v⁻¹ w⁻¹ := by
  constructor
  · rw [inv_mul_le_iff₀ hv, ← div_eq_mul_inv, le_div_iff₀ hw, mul_comm]
    exact h.above
  · rw [inv_mul_le_iff₀ hw, ← div_eq_mul_inv, le_div_iff₀ hv, mul_comm]
    exact h.below

theorem div (h : Near i v w) (h' : Near j v' w') (hv : 0 ≤ v) (hw : 0 ≤ w) (hv' : 0 < v')
    (hw' : 0 < w') : Near (i + j) (v / v') (w / w') := by
  rw [div_eq_mul_inv, div_eq_mul_inv]
  exact h.mul (h'.inv hv' hw') hv hw (inv_pos.2 hv').le (inv_pos.2 hw').le

end Near

/-- Rounding is one step where magnitudes have all binary digits. -/
theorem near_nearestRank (hden : 0 < den) (hnormal : perExponent ≤ num / den) :
    Near 1 ((num : ℚ) / den) (unitsAt (nearestRank num den)) := by
  obtain ⟨hbelow, habove⟩ := abs_le.1 (nearestRank_error hden hnormal)
  have hv : (0 : ℚ) ≤ num / den := by positivity
  generalize (unitsAt (nearestRank num den) : ℚ) = w at *
  generalize (num : ℚ) / den = v at *
  constructor
  · rw [pow_one, shrink]
    linarith
  · rw [pow_one, shrink]
    linarith

end Magnitude

namespace Binary64

open Magnitude

variable {n exponent num den : ℕ}

/-- Whether a natural number is a number of the format when it is in range. -/
def IsExact (n : ℕ) : Prop :=
  ∃ significand exponent, significand ≤ 2 ^ 53 ∧ n = significand * 2 ^ exponent

theorem isExact_of_le (h : n ≤ 2 ^ 53) : IsExact n :=
  ⟨n, 0, h, (Nat.mul_one n).symm⟩

theorem isExact_ten_pow (h : exponent ≤ 22) : IsExact (10 ^ exponent) := by
  refine ⟨5 ^ exponent, exponent, ?_, ?_⟩
  · exact (Nat.pow_le_pow_right (by decide) h).trans (by decide)
  · rw [← Nat.mul_pow]

theorem isExact_two_pow (exponent : ℕ) : IsExact (2 ^ exponent) :=
  ⟨1, exponent, by decide, (Nat.one_mul _).symm⟩

theorem IsExact.mul_one (h : IsExact n) : IsExact (n * Magnitude.one) := by
  obtain ⟨significand, exponent, hfits, rfl⟩ := h
  obtain ⟨k, hone⟩ := exists_one_eq
  exact ⟨significand, exponent + k, hfits, by rw [hone, Nat.mul_assoc, ← pow_add]⟩

theorem IsExact.unitsAt_nearestRank (h : IsExact n) : unitsAt (nearestRank n 1) = n := by
  obtain ⟨significand, exponent, hfits, rfl⟩ := h
  exact unitsAt_nearestRank_of_dvd (two_pow_exponentOf_dvd hfits exponent)

/-- Nothing is rounded across a number of the format. -/
theorem IsExact.le_unitsAt (h : IsExact n) (hden : 0 < den) (hle : (n : ℚ) ≤ num / den) :
    n ≤ unitsAt (nearestRank num den) := by
  have hquotient : (n : ℚ) / (1 : ℕ) ≤ num / den := by rwa [Nat.cast_one, div_one]
  have hmono := unitsAt_strictMono.monotone (nearestRank_mono Nat.one_pos hden hquotient)
  rwa [h.unitsAt_nearestRank] at hmono

theorem IsExact.unitsAt_le (h : IsExact n) (hden : 0 < den) (hle : (num : ℚ) / den ≤ n) :
    unitsAt (nearestRank num den) ≤ n := by
  have hquotient : (num : ℚ) / den ≤ n / (1 : ℕ) := by rwa [Nat.cast_one, div_one]
  have hmono := unitsAt_strictMono.monotone (nearestRank_mono hden Nat.one_pos hquotient)
  rwa [h.unitsAt_nearestRank] at hmono

/-- A natural number other than zero is not rounded to a number below one. -/
theorem one_le_unitsAt (hpos : 0 < n) : Magnitude.one ≤ unitsAt (nearestRank (n * Magnitude.one) 1) := by
  obtain ⟨k, hone⟩ := exists_one_eq
  have hexact : IsExact Magnitude.one := hone ▸ isExact_two_pow k
  refine hexact.le_unitsAt Nat.one_pos ?_
  rw [Nat.cast_one, div_one]
  exact_mod_cast Nat.le_mul_of_pos_left _ hpos

/-- A natural number other than zero is rounded in one step, or in none when it is a number. -/
theorem exists_ofNat_near (hpos : 0 < n) (hn : (n : ℚ) < limit) :
    ∃ (m : Magnitude) (steps : ℕ), ofNat n = .finite false m ∧ Magnitude.one ≤ m.units ∧
      Near steps n m.toRat ∧ steps ≤ 1 ∧ (IsExact n → steps = 0) := by
  obtain ⟨m, hfinite, hrank⟩ := ofNat_of_lt hn
  have hunits : m.units = unitsAt (nearestRank (n * Magnitude.one) 1) := by rw [units, hrank]
  have hleast : Magnitude.one ≤ m.units := hunits ▸ one_le_unitsAt hpos
  by_cases hexact : IsExact n
  · have hsame : m.toRat = n := by rw [toRat_eq_natCast_iff, hunits, hexact.mul_one.unitsAt_nearestRank]
    refine ⟨m, 0, hfinite, hleast, ?_, Nat.zero_le 1, fun _ => rfl⟩
    rw [hsame]
    exact .rfl
  · refine ⟨m, 1, hfinite, hleast, ?_, le_rfl, fun h => absurd h hexact⟩
    have hnormal : perExponent ≤ n * Magnitude.one / 1 := by
      have hone : perExponent ≤ Magnitude.one := by decide +kernel
      rw [Nat.div_one]
      exact hone.trans (Nat.le_mul_of_pos_left _ hpos)
    have hcast : (n : ℚ) = ((n * Magnitude.one : ℕ) : ℚ) / (1 : ℕ) / Magnitude.one := by
      have hone := one_cast_pos.ne'
      push_cast
      field_simp
    rw [toRat, hunits, hcast]
    exact (near_nearestRank Nat.one_pos hnormal).div .rfl (div_nonneg (Nat.cast_nonneg _) zero_le_one)
      (Nat.cast_nonneg _) one_cast_pos one_cast_pos

end Binary64

end TradeNotes
