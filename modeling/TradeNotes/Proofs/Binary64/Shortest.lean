import Mathlib.Algebra.Order.Field.Power
import TradeNotes.Proofs.Binary64.Leading
import TradeNotes.Proofs.Binary64.Midpoint

namespace TradeNotes

section Powers

variable {e : ℤ}

theorem ten_pow_pos (n : ℕ) : 0 < Nat.pow 10 n := by
  rw [Nat.pow_eq]
  positivity

theorem ten_zpow_of_nonneg (he : 0 ≤ e) : (10 : ℚ) ^ e = 10 ^ e.natAbs := by
  rw [← zpow_natCast, Int.natAbs_of_nonneg he]

theorem ten_zpow_of_neg (he : ¬0 ≤ e) : (10 : ℚ) ^ e = 1 / 10 ^ e.natAbs := by
  have hneg : e = -(e.natAbs : ℤ) := by omega
  rw [one_div, ← zpow_natCast, ← zpow_neg, ← hneg]

end Powers

namespace Decimal

/-- The number that a decimal stands for. -/
def toRat (d : Decimal) : ℚ :=
  d.digits * 10 ^ d.exponent

/-- Moving zeros into the exponent does not change the number. -/
theorem toRat_dropZeros (fuel digits : ℕ) (exponent : ℤ) :
    (dropZeros fuel digits exponent).toRat = digits * 10 ^ exponent := by
  induction fuel generalizing digits exponent with
  | zero => rfl
  | succ fuel ih =>
    unfold dropZeros
    split
    · next h =>
      have hdigits : (digits : ℚ) = 10 * (digits / 10 : ℕ) := by
        exact_mod_cast (Nat.mul_div_cancel' (Nat.dvd_of_mod_eq_zero h)).symm
      rw [ih, zpow_add₀ (by norm_num), zpow_one, hdigits]
      ring
    · rfl

theorem digits_dropZeros_le (fuel digits : ℕ) (exponent : ℤ) :
    (dropZeros fuel digits exponent).digits ≤ digits := by
  induction fuel generalizing digits exponent with
  | zero => exact le_rfl
  | succ fuel ih =>
    unfold dropZeros
    split
    · exact (ih _ _).trans (Nat.div_le_self _ _)
    · exact le_rfl

theorem le_exponent_dropZeros (fuel digits : ℕ) (exponent : ℤ) :
    exponent ≤ (dropZeros fuel digits exponent).exponent := by
  induction fuel generalizing digits exponent with
  | zero => exact le_rfl
  | succ fuel ih =>
    unfold dropZeros
    split
    · exact (Int.le_add_one le_rfl).trans (ih _ _)
    · exact le_rfl

end Decimal

namespace Magnitude

variable {m : Magnitude} {rank num den digits : ℕ} {v : ℚ} {tie : Tie} {exponent : ℤ}

theorem reaches_of_even (h : Even rank) : Reaches rank v ↔ midpoint rank ≤ v := by
  rw [Reaches, le_iff_lt_or_eq, and_iff_left h]

theorem reaches_of_odd (h : ¬Even rank) : Reaches rank v ↔ midpoint rank < v := by
  rw [Reaches, iff_false_intro h, and_false, or_false]

/-- Whether a number is rounded to a magnitude. -/
structure RoundsBack (m : Magnitude) (v : ℚ) : Prop where
  reaches : Reaches m.rank (v * one)
  not_reaches : ¬Reaches (m.rank + 1) (v * one)

theorem isNearestTo_iff (hden : 0 < den) :
    m.isNearestTo num den = true ↔
      Reaches m.rank (num / den) ∧ ¬Reaches (m.rank + 1) (num / den) := by
  have hcast : (0 : ℚ) < den := by exact_mod_cast hden
  have hbelow : midpoint m.rank = (unitsAt (m.rank - 1) + m.units) / 2 := rfl
  have habove : midpoint (m.rank + 1) = (m.units + unitsAt (m.rank + 1)) / 2 := rfl
  unfold isNearestTo
  by_cases heven : Even m.rank
  · have hnext : ¬Even (m.rank + 1) := by rwa [Nat.even_add_one, not_not]
    have hkind : m.isEven = true := by rw [isEven, beq_iff_eq, ← Nat.even_iff]; exact heven
    rw [reaches_of_even heven, reaches_of_odd hnext, not_lt, hbelow, habove,
      div_le_div_iff₀ two_pos hcast, div_le_div_iff₀ hcast two_pos, mul_comm (num : ℚ)]
    simp only [hkind, if_true, Bool.and_eq_true, decide_eq_true_eq]
    exact_mod_cast Iff.rfl
  · have hnext : Even (m.rank + 1) := by rwa [Nat.even_add_one]
    have hkind : m.isEven = false := by
      rw [isEven, beq_eq_false_iff_ne, ne_eq, ← Nat.even_iff]
      exact heven
    rw [reaches_of_odd heven, reaches_of_even hnext, not_le, hbelow, habove,
      div_lt_div_iff₀ two_pos hcast, div_lt_div_iff₀ hcast two_pos, mul_comm (num : ℚ)]
    simp only [hkind, Bool.false_eq_true, if_false, Bool.and_eq_true, decide_eq_true_eq]
    exact_mod_cast Iff.rfl

/-- A number of whole digits is tested exactly for whether it is rounded to a magnitude. -/
theorem readsBack_iff : m.readsBack digits exponent = true ↔ m.RoundsBack (digits * 10 ^ exponent) := by
  have hiff : m.RoundsBack (digits * 10 ^ exponent) ↔
      Reaches m.rank (digits * 10 ^ exponent * one) ∧
        ¬Reaches (m.rank + 1) (digits * 10 ^ exponent * one) :=
    ⟨fun h => ⟨h.1, h.2⟩, fun h => ⟨h.1, h.2⟩⟩
  rw [hiff, readsBack]
  by_cases hexponent : 0 ≤ exponent
  · have hvalue : (digits : ℚ) * 10 ^ exponent * one =
        (digits * Nat.pow 10 exponent.natAbs * one : ℕ) / (1 : ℕ) := by
      rw [ten_zpow_of_nonneg hexponent, Nat.pow_eq]
      push_cast
      rw [div_one]
    rw [if_pos hexponent, isNearestTo_iff Nat.one_pos, hvalue]
  · have hvalue : (digits : ℚ) * 10 ^ exponent * one =
        (digits * one : ℕ) / (Nat.pow 10 exponent.natAbs : ℕ) := by
      rw [ten_zpow_of_neg hexponent, Nat.pow_eq]
      push_cast
      ring
    rw [if_neg hexponent, isNearestTo_iff (ten_pow_pos _), hvalue]

theorem scaled_pos (m : Magnitude) (exponent : ℤ) : 0 < (m.scaled exponent).2 := by
  have hone := Magnitude.one_pos
  have hpower := ten_pow_pos exponent.natAbs
  unfold scaled
  generalize one = unit at hone
  split
  · exact Nat.mul_pos hone hpower
  · exact hone

theorem scaled_div (m : Magnitude) (exponent : ℤ) :
    ((m.scaled exponent).1 : ℚ) / (m.scaled exponent).2 = m.toRat / 10 ^ exponent := by
  unfold scaled toRat
  split
  · next h =>
    rw [ten_zpow_of_nonneg h, div_div, Nat.pow_eq]
    push_cast
    rfl
  · next h =>
    rw [ten_zpow_of_neg h, div_div_eq_mul_div, div_one, Nat.pow_eq, div_mul_eq_mul_div]
    push_cast
    rfl

/-- The digits at a power of ten are within half a unit of the magnitude. -/
theorem abs_nearestAt_le (m : Magnitude) (tie : Tie) (exponent : ℤ) :
    |(m.nearestAt tie exponent : ℚ) - m.toRat / 10 ^ exponent| ≤ 1 / 2 := by
  have hden := m.scaled_pos exponent
  obtain ⟨habove, hbelow⟩ := @divNearest_near (m.scaled exponent).1 _ tie hden
  rw [← scaled_div, nearestAt]
  generalize divNearest (m.scaled exponent).1 (m.scaled exponent).2 tie = near at *
  generalize (m.scaled exponent).1 = num at *
  generalize (m.scaled exponent).2 = den at *
  qify at habove hbelow hden
  have hmost : (num : ℚ) / den ≤ near + 1 / 2 := by
    rw [div_le_iff₀ hden]
    linarith
  have hleast : (near : ℚ) - 1 / 2 ≤ num / den := by
    rw [le_div_iff₀ hden]
    linarith
  rw [abs_le]
  constructor <;> linarith

/-- A number that is close enough to a magnitude is rounded to it. -/
theorem roundsBack_of_close (hm : 0 < m.units) (hclose : |v - m.toRat| * (2 * 10 ^ 16) ≤ m.toRat) :
    m.RoundsBack v := by
  have hone := one_cast_pos
  have hunits : (0 : ℚ) < unitsAt m.rank := by exact_mod_cast hm
  have hvalue : m.toRat * one = unitsAt m.rank := div_mul_cancel₀ _ hone.ne'
  have hdistance : |v * one - unitsAt m.rank| * (2 * 10 ^ 16) ≤ unitsAt m.rank := by
    have hscaled := mul_le_mul_of_nonneg_right hclose hone.le
    rwa [mul_right_comm, hvalue, ← abs_of_pos hone, ← abs_mul, sub_mul, hvalue] at hscaled
  -- the neighbours are one part in 2 ^ 53 away, which is more than one in 10 ^ 16
  have hbelow := unitsAt_pred_le_mul m.rank
  have habove := unitsAt_le_mul m.rank
  have hnext := unitsAt_lt_succ m.rank
  rw [shrink] at hbelow habove
  obtain ⟨hleast, hmost⟩ := abs_le.1 ((le_div_iff₀ (by norm_num)).2 hdistance)
  constructor
  · left
    rw [midpoint]
    linarith
  · refine fun hreaches => absurd hreaches.midpoint_le (not_le.2 ?_)
    rw [midpoint, Nat.add_sub_cancel]
    linarith

theorem RoundsBack.pos (h : m.RoundsBack v) (hm : 0 < m.units) : 0 < v := by
  have hunits : (0 : ℚ) < unitsAt m.rank := by exact_mod_cast hm
  have hmid : 0 < midpoint m.rank := by
    rw [midpoint]
    positivity
  exact pos_of_mul_pos_left (hmid.trans_le h.reaches.midpoint_le) one_cast_pos.le

theorem RoundsBack.digits_pos (h : m.RoundsBack (digits * 10 ^ exponent)) (hm : 0 < m.units) :
    0 < digits := by
  have hvalue := h.pos hm
  by_contra hnot
  rw [Nat.eq_zero_of_not_pos hnot, Nat.cast_zero, zero_mul] at hvalue
  exact lt_irrefl 0 hvalue

/-- Seventeen digits are enough. -/
theorem roundsBack_nearestAt (hm : 0 < m.units) (tie : Tie) (hexponent : exponent = m.decimalExponent - 16) :
    m.RoundsBack (m.nearestAt tie exponent * 10 ^ exponent) := by
  have hscale : (0 : ℚ) < 10 ^ exponent := by positivity
  have hdistance := abs_nearestAt_le m tie exponent
  have hplaces : exponent + (16 : ℕ) = Int.log 10 m.toRat := by
    rw [hexponent, decimalExponent_eq_log hm, Nat.cast_ofNat, sub_add_cancel]
  have hleading : (10 : ℚ) ^ exponent * 10 ^ 16 ≤ m.toRat := by
    have hpower := ten_log_le hm
    rwa [← hplaces, zpow_add₀ (by norm_num), zpow_natCast] at hpower
  have hsplit : (m.nearestAt tie exponent : ℚ) * 10 ^ exponent - m.toRat =
      (m.nearestAt tie exponent - m.toRat / 10 ^ exponent) * 10 ^ exponent := by
    rw [sub_mul, div_mul_cancel₀ _ hscale.ne']
  apply roundsBack_of_close hm
  rw [hsplit, abs_mul, abs_of_pos hscale]
  have hhalf := mul_le_mul_of_nonneg_right hdistance hscale.le
  linarith

/-- The digits that are kept up to a power of ten are so many, or the next power of ten. -/
theorem nearestAt_le (hm : 0 < m.units) (tie : Tie) (more : ℕ) :
    m.nearestAt tie (m.decimalExponent - more) ≤ 10 ^ (more + 1) := by
  have hscale : (0 : ℚ) < 10 ^ (m.decimalExponent - more) := by positivity
  have hdistance := (abs_le.1 (abs_nearestAt_le m tie (m.decimalExponent - more))).2
  have hplaces : Int.log 10 m.toRat + 1 = ((more + 1 : ℕ) : ℤ) + (m.decimalExponent - more) := by
    rw [decimalExponent_eq_log hm]
    omega
  have hmost : m.toRat / 10 ^ (m.decimalExponent - more) < 10 ^ (more + 1) := by
    have hpower := lt_ten_log m
    rwa [hplaces, zpow_add₀ (by norm_num), zpow_natCast, ← div_lt_iff₀ hscale] at hpower
  have hcast : (m.nearestAt tie (m.decimalExponent - more) : ℚ) < (10 ^ (more + 1) + 1 : ℕ) := by
    push_cast
    linarith
  exact Nat.lt_succ_iff.1 (by exact_mod_cast hcast)

theorem digitsAt?_spec (h : m.digitsAt? tie exponent = some digits) :
    m.RoundsBack (digits * 10 ^ exponent) ∧ digits ≤ m.nearestAt tie exponent + 1 := by
  unfold digitsAt? at h
  simp only at h
  generalize hother : (if m.nearestAt tie exponent * (m.scaled exponent).2 ≤ (m.scaled exponent).1
    then m.nearestAt tie exponent + 1 else m.nearestAt tie exponent - 1) = other at h
  have hle : other ≤ m.nearestAt tie exponent + 1 := by
    rw [← hother]
    split <;> omega
  split at h
  · next hback =>
    obtain rfl := Option.some.inj h
    exact ⟨readsBack_iff.1 hback, Nat.le_succ _⟩
  · split at h
    · next hback =>
      obtain rfl := Option.some.inj h
      exact ⟨readsBack_iff.1 hback, hle⟩
    · cases h

/-- What is shortest has up to seventeen digits, zeros at their end dropped. -/
theorem exists_shortest_eq (hm : 0 < m.units) (tie : Tie) :
    ∃ digits more : ℕ, more ≤ 16 ∧ digits ≤ 10 ^ 17 + 1 ∧
      m.RoundsBack (digits * 10 ^ (m.decimalExponent - more)) ∧
      m.shortest tie = Decimal.dropZeros 17 digits (m.decimalExponent - more) := by
  have hfits : ∀ more ≤ 16, m.nearestAt tie (m.decimalExponent - (more : ℕ)) + 1 ≤ 10 ^ 17 + 1 := by
    intro more hmore
    have hpower : 10 ^ (more + 1) ≤ 10 ^ 17 := Nat.pow_le_pow_right (by decide) (by omega)
    exact Nat.add_le_add_right ((nearestAt_le hm tie more).trans hpower) 1
  unfold shortest
  simp only
  cases hfound : (List.range 17).findSome? fun (more : ℕ) =>
      (m.digitsAt? tie (m.decimalExponent - more)).map fun digits =>
        Decimal.dropZeros 17 digits (m.decimalExponent - more) with
  | none =>
    -- no length was found, so there are seventeen digits, which read back in any case
    refine ⟨m.nearestAt tie (m.decimalExponent - (16 : ℕ)), 16, le_rfl,
      (Nat.le_succ _).trans (hfits 16 le_rfl), roundsBack_nearestAt hm tie (by simp), ?_⟩
    rw [Option.getD_none, Nat.cast_ofNat]
  | some found =>
    obtain ⟨more, hmore, hdigits⟩ := List.exists_of_findSome?_eq_some hfound
    obtain ⟨digits, hat, rfl⟩ := Option.map_eq_some_iff.1 hdigits
    obtain ⟨hback, hle⟩ := digitsAt?_spec hat
    have hmost : more ≤ 16 := Nat.lt_succ_iff.1 (List.mem_range.1 hmore)
    exact ⟨digits, more, hmost, hle.trans (hfits more hmost), hback, rfl⟩

/-- The decimal number that a magnitude is written as is rounded to it. -/
theorem roundsBack_shortest (hm : 0 < m.units) (tie : Tie) : m.RoundsBack (m.shortest tie).toRat := by
  obtain ⟨digits, more, _, _, hback, heq⟩ := exists_shortest_eq hm tie
  rwa [heq, Decimal.toRat_dropZeros]

theorem digits_shortest_le (hm : 0 < m.units) (tie : Tie) : (m.shortest tie).digits ≤ 10 ^ 17 + 1 := by
  obtain ⟨digits, more, _, hdigits, _, heq⟩ := exists_shortest_eq hm tie
  rw [heq]
  exact (Decimal.digits_dropZeros_le _ _ _).trans hdigits

theorem digits_shortest_pos (hm : 0 < m.units) (tie : Tie) : 0 < (m.shortest tie).digits :=
  (roundsBack_shortest hm tie).digits_pos hm

theorem le_exponent_shortest (hm : 0 < m.units) (tie : Tie) :
    Int.log 10 m.toRat - 16 ≤ (m.shortest tie).exponent := by
  obtain ⟨digits, more, hmore, _, _, heq⟩ := exists_shortest_eq hm tie
  have hle := Decimal.le_exponent_dropZeros 17 digits (m.decimalExponent - more)
  rw [heq, ← decimalExponent_eq_log hm]
  omega

end Magnitude

end TradeNotes
