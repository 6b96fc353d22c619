import TradeNotes.Proofs.Binary64.Nearest

namespace TradeNotes

namespace Magnitude

variable {m : Magnitude} {n : ℕ}

/-- The number that a magnitude is. -/
def toRat (m : Magnitude) : ℚ :=
  m.units / one

theorem one_cast_pos : (0 : ℚ) < one := by exact_mod_cast one_pos

/-- The number that a magnitude with a sign is. -/
def signed (negative : Bool) (m : Magnitude) : ℚ :=
  if negative then -m.toRat else m.toRat

@[simp] theorem signed_false (m : Magnitude) : m.signed false = m.toRat := rfl

@[simp] theorem signed_true (m : Magnitude) : m.signed true = -m.toRat := rfl

theorem toRat_pos (h : 0 < m.units) : 0 < m.toRat :=
  div_pos (by exact_mod_cast h) one_cast_pos

theorem toRat_nonneg (m : Magnitude) : 0 ≤ m.toRat :=
  div_nonneg (Nat.cast_nonneg _) one_cast_pos.le

theorem abs_signed (negative : Bool) (m : Magnitude) : |m.signed negative| = m.toRat := by
  cases negative with
  | false => rw [signed_false, abs_of_nonneg m.toRat_nonneg]
  | true => rw [signed_true, abs_neg, abs_of_nonneg m.toRat_nonneg]

theorem toRat_eq_zero (h : m.units = 0) : m.toRat = 0 := by
  rw [toRat, h, Nat.cast_zero, zero_div]

theorem toRat_eq_natCast_iff : m.toRat = n ↔ m.units = n * one := by
  rw [toRat, div_eq_iff one_cast_pos.ne']
  exact_mod_cast Iff.rfl

/-- The magnitudes that are whole numbers are the natural numbers among them. -/
theorem one_dvd_units_iff : one ∣ m.units ↔ ∃ n : ℕ, m.toRat = n := by
  constructor
  · rintro ⟨n, hn⟩
    exact ⟨n, toRat_eq_natCast_iff.2 (by rw [hn, Nat.mul_comm])⟩
  · rintro ⟨n, hn⟩
    exact ⟨n, by rw [toRat_eq_natCast_iff.1 hn, Nat.mul_comm]⟩

theorem natCast_le_toRat_iff : n ≤ m.toRat ↔ n * one ≤ m.units := by
  rw [toRat, le_div_iff₀ one_cast_pos]
  exact_mod_cast Iff.rfl

/-- A magnitude has a significand of no more than 53 binary digits. -/
theorem exists_units_eq (m : Magnitude) :
    ∃ significand exponent, m.units = significand * 2 ^ exponent ∧ significand < 2 ^ 53 ∧
      exponent < 2047 := by
  obtain ⟨exponent, significand, hrank, hmost, hleast⟩ := exists_rank_eq m.rank
  refine ⟨significand, exponent, ?_, hmost, ?_⟩
  · rw [units, hrank, unitsAt_add hmost.le hleast]
  · by_contra hnot
    have hmore := Nat.mul_le_mul_right perExponent (Nat.le_of_not_lt hnot)
    have hlt : m.rank < 2047 * perExponent := m.rank_lt
    omega

/-- Magnitudes that are not below `2 ^ 53` are whole numbers. -/
theorem one_dvd_units (h : 2 ^ 53 * one ≤ m.units) : one ∣ m.units := by
  obtain ⟨significand, exponent, hunits, hmost, _⟩ := m.exists_units_eq
  obtain ⟨k, hone⟩ := exists_one_eq
  rw [hone, hunits] at h
  rw [hone, hunits]
  refine Dvd.dvd.mul_left (pow_dvd_pow 2 ?_) significand
  by_contra hnot
  have hpow : 2 ^ exponent ≤ 2 ^ k := Nat.pow_le_pow_right Nat.two_pos (by omega)
  have hless : significand * 2 ^ exponent < 2 ^ 53 * 2 ^ k :=
    (Nat.mul_le_mul_left significand hpow).trans_lt (Nat.mul_lt_mul_of_pos_right hmost (Nat.two_pow_pos k))
  omega

end Magnitude

namespace Binary64

/-- The number that a finite number of the format is. -/
def value? : Binary64 → Option ℚ
  | finite negative m => some (m.signed negative)
  | nan | infinite _ => none

theorem exists_finite {x : Binary64} {v : ℚ} (h : x.value? = some v) :
    ∃ negative m, x = finite negative m ∧ v = m.signed negative := by
  cases x with
  | nan => cases h
  | infinite _ => cases h
  | finite negative m => exact ⟨negative, m, rfl, (Option.some.inj h).symm⟩

end Binary64

end TradeNotes
