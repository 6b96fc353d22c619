import TradeNotes.Proofs.Binary64.Value

namespace TradeNotes

namespace Magnitude

variable {num den : ℕ}

theorem nearestRank_zero (hden : 0 < den) : nearestRank 0 den = 0 := by
  have hnone : divNearest (0 * den) den = 0 := divNearest_mul hden
  rw [Nat.zero_mul] at hnone
  simp [nearestRank, hnone]

/-- Quotients that are not very small have all binary digits. -/
theorem perExponent_le_div (hden : 0 < den) (h : 1 / 2 ^ 200 ≤ (num : ℚ) / (den * one)) :
    perExponent ≤ num / den := by
  have hone : perExponent * 2 ^ 200 ≤ one := by decide +kernel
  have hscale : (0 : ℚ) < den * one := mul_pos (by exact_mod_cast hden) one_cast_pos
  rw [div_le_div_iff₀ (by positivity) hscale, one_mul] at h
  have hunits : den * one ≤ num * 2 ^ 200 := by exact_mod_cast h
  rw [Nat.le_div_iff_mul_le hden]
  refine Nat.le_of_mul_le_mul_right (c := 2 ^ 200) ?_ (by positivity)
  calc perExponent * den * 2 ^ 200 = perExponent * 2 ^ 200 * den := by ring
    _ ≤ one * den := Nat.mul_le_mul_right _ hone
    _ ≤ num * 2 ^ 200 := by rwa [Nat.mul_comm]

/-- Quotients that are not very great are no greater than the greatest magnitude. -/
theorem log2_div_lt (hden : 0 < den) (h : (num : ℚ) / (den * one) ≤ 2 ^ 200) :
    Nat.log2 (num / den) < 2097 := by
  by_cases hzero : num / den = 0
  · rw [hzero, Nat.log2_zero]
    decide
  · obtain ⟨k, hone⟩ := exists_one_eq
    have hk : k = 1074 := by rw [← log2_one, hone, Nat.log2_two_pow]
    have hscale : (0 : ℚ) < den * one := mul_pos (by exact_mod_cast hden) one_cast_pos
    rw [div_le_iff₀ hscale, hone] at h
    have hunits : num ≤ 2 ^ 200 * (den * 2 ^ k) := by exact_mod_cast h
    have hquotient : num / den < 2 ^ (200 + k + 1) := by
      rw [Nat.div_lt_iff_lt_mul hden, pow_succ, pow_add]
      calc num ≤ 2 ^ 200 * 2 ^ k * den * 1 := by linarith
        _ < 2 ^ 200 * 2 ^ k * den * 2 := Nat.mul_lt_mul_of_pos_left (by decide) (by positivity)
        _ = 2 ^ 200 * 2 ^ k * 2 * den := by ring
    have hlog := (Nat.log2_lt hzero).2 hquotient
    omega

end Magnitude

/-- Whether a number is zero, or neither smaller than a negative power of two nor greater than the
    positive one. -/
def IsModerate (k : ℕ) (v : ℚ) : Prop :=
  v = 0 ∨ 1 / 2 ^ k ≤ v ∧ v ≤ 2 ^ k

namespace IsModerate

variable {k k' n : ℕ} {v w : ℚ}

theorem nonneg (h : IsModerate k v) : 0 ≤ v :=
  h.elim ge_of_eq fun hbounds => (by positivity : (0 : ℚ) ≤ 1 / 2 ^ k).trans hbounds.1

theorem natCast (h : n ≤ 2 ^ k) : IsModerate k n := by
  obtain rfl | hpos := Nat.eq_zero_or_pos n
  · exact .inl Nat.cast_zero
  · have hone : (1 : ℚ) ≤ n := by exact_mod_cast hpos
    have hpower : (1 : ℚ) / 2 ^ k ≤ 1 := div_le_one_of_le₀ (one_le_pow₀ (by norm_num)) (by positivity)
    exact .inr ⟨hpower.trans hone, by exact_mod_cast h⟩

theorem mono (h : IsModerate k v) (hle : k ≤ k') : IsModerate k' v := by
  have hpower : (2 : ℚ) ^ k ≤ 2 ^ k' := pow_le_pow_right₀ (by norm_num) hle
  refine h.imp_right fun hbounds => ⟨?_, hbounds.2.trans hpower⟩
  exact (div_le_div_of_nonneg_left zero_le_one (by positivity) hpower).trans hbounds.1

theorem inv (h : IsModerate k v) : IsModerate k v⁻¹ := by
  obtain rfl | ⟨hleast, hmost⟩ := h
  · exact .inl inv_zero
  · have hpos : 0 < v := lt_of_lt_of_le (by positivity) hleast
    rw [one_div] at hleast
    refine .inr ⟨?_, inv_le_of_inv_le₀ (by positivity) hleast⟩
    rw [one_div]
    exact inv_anti₀ hpos hmost

theorem mul (h : IsModerate k v) (h' : IsModerate k' w) : IsModerate (k + k') (v * w) := by
  have hw := h'.nonneg
  obtain rfl | ⟨hleast, hmost⟩ := h
  · exact .inl (zero_mul w)
  obtain rfl | ⟨hleast', hmost'⟩ := h'
  · exact .inl (mul_zero v)
  · have hv : 0 ≤ v := (by positivity : (0 : ℚ) ≤ 1 / 2 ^ k).trans hleast
    rw [IsModerate, pow_add]
    refine .inr ⟨?_, mul_le_mul hmost hmost' hw (by positivity)⟩
    rw [← one_div_mul_one_div]
    exact mul_le_mul hleast hleast' (by positivity) hv

theorem div (h : IsModerate k v) (h' : IsModerate k' w) : IsModerate (k + k') (v / w) := by
  rw [div_eq_mul_inv]
  exact h.mul h'.inv

/-- Rounding keeps numbers moderate. -/
theorem of_close (h : IsModerate k v) (hclose : |w - v| ≤ v / 2 ^ 53) : IsModerate (k + 1) w := by
  obtain ⟨hbelow, habove⟩ := abs_le.1 hclose
  obtain rfl | ⟨hleast, hmost⟩ := h
  · exact .inl (by linarith)
  · have hv : 0 ≤ v := (by positivity : (0 : ℚ) ≤ 1 / 2 ^ k).trans hleast
    rw [IsModerate, pow_succ]
    refine .inr ⟨?_, by linarith⟩
    rw [← one_div_mul_one_div]
    linarith

end IsModerate

namespace Binary64

open Magnitude

variable {m n : Magnitude} {num den : ℕ} {v : ℚ}

/-- Moderate numbers are changed by less than one part in `2 ^ 53` when they are rounded. -/
theorem exists_nearest_close (negative : Bool) (hden : 0 < den) (hv : (num : ℚ) / (den * one) = v)
    (hmoderate : IsModerate 200 v) :
    ∃ m : Magnitude, nearest negative num den = .finite negative m ∧ |m.toRat - v| ≤ v / 2 ^ 53 := by
  have hscale : (0 : ℚ) < den * one := mul_pos (by exact_mod_cast hden) one_cast_pos
  obtain hzero | ⟨hleast, hmost⟩ := hmoderate
  · have hnum : num = 0 := by
      rw [hzero, div_eq_zero_iff] at hv
      exact_mod_cast hv.resolve_right hscale.ne'
    have hnone : nearest negative num den = .finite negative .zero := by
      rw [nearest, hnum, nearestRank_zero hden]
      rfl
    refine ⟨.zero, hnone, ?_⟩
    rw [toRat_eq_zero (by rfl), hzero, sub_zero, abs_zero, zero_div]
  · rw [← hv] at hleast hmost
    obtain ⟨m, hfinite, hunits⟩ := exists_nearest negative hden (log2_div_lt hden hmost)
    refine ⟨m, hfinite, ?_⟩
    have herror := nearestRank_error hden (perExponent_le_div hden hleast)
    rw [← hunits] at herror
    have hdistance : m.toRat - v = ((m.units : ℚ) - num / den) / one := by
      rw [← hv, sub_div, div_div, toRat]
    rw [hdistance, abs_div, abs_of_pos one_cast_pos, ← hv, ← div_div, div_right_comm,
      div_le_div_iff_of_pos_right one_cast_pos]
    exact herror

theorem exists_mul_close (s t : Bool) (h : IsModerate 200 (m.toRat * n.toRat)) :
    ∃ r : Magnitude, mul (.finite s m) (.finite t n) = .finite (s != t) r ∧
      |r.toRat - m.toRat * n.toRat| ≤ m.toRat * n.toRat / 2 ^ 53 := by
  refine exists_nearest_close (s != t) Magnitude.one_pos ?_ h
  rw [toRat, toRat, div_mul_div_comm]
  push_cast
  rfl

theorem exists_div_close (s t : Bool) (hn : 0 < n.units) (h : IsModerate 200 (m.toRat / n.toRat)) :
    ∃ r : Magnitude, div (.finite s m) (.finite t n) = .finite (s != t) r ∧
      |r.toRat - m.toRat / n.toRat| ≤ m.toRat / n.toRat / 2 ^ 53 := by
  have hdiv : div (.finite s m) (.finite t n) =
      nearest (s != t) (m.units * Magnitude.one) n.units := by
    rw [div, if_neg (Nat.pos_iff_ne_zero.1 hn)]
  rw [hdiv]
  refine exists_nearest_close (s != t) hn ?_ h
  have hone := one_cast_pos.ne'
  rw [toRat, toRat]
  push_cast
  field_simp

end Binary64

end TradeNotes
