import TradeNotes.Json.Number
import TradeNotes.Proofs.Binary64.Shortest
import TradeNotes.Proofs.Binary64.Steps

namespace TradeNotes

namespace Magnitude

variable {m : Magnitude} {v : ℚ} {steps num den : ℕ}

/-- A number some steps from one that is rounded to a magnitude is rounded to a magnitude that is no
    more steps away. -/
theorem RoundsBack.near (h : m.RoundsBack v) (hden : 0 < den) (hnear : Near steps v (num / den / one)) :
    nearestRank num den ≤ m.rank + steps ∧ m.rank ≤ nearestRank num den + steps := by
  have hone := one_cast_pos
  have hquotient : (num : ℚ) / den / one * one = num / den := div_mul_cancel₀ _ hone.ne'
  constructor
  · by_contra hnot
    have hreaches : Reaches (m.rank + 1 + steps) (num / den) :=
      (reaches_nearestRank hden).anti (by omega)
    refine h.not_reaches (hreaches.of_mul_le ?_)
    have hscaled := mul_le_mul_of_nonneg_right hnear.above hone.le
    rwa [mul_right_comm, hquotient] at hscaled
  · by_contra hnot
    have hreaches : Reaches (nearestRank num den + 1 + steps) (v * one) := h.reaches.anti (by omega)
    refine not_reaches_succ_nearestRank hden (hreaches.of_mul_le ?_)
    have hscaled := mul_le_mul_of_nonneg_right hnear.below hone.le
    rwa [mul_right_comm, hquotient] at hscaled

/-- Whether magnitudes are no more than so many steps apart. -/
structure Within (steps : ℕ) (m r : Magnitude) : Prop where
  most : r.rank ≤ m.rank + steps
  least : m.rank ≤ r.rank + steps

theorem RoundsBack.le_limit (h : m.RoundsBack v) : v ≤ Binary64.limit := by
  have hmid : v * one ≤ midpoint (m.rank + 1) := le_of_not_gt fun hlt => h.not_reaches (.inl hlt)
  have hcount := midpoint_strictMono.monotone (Nat.succ_le_of_lt m.rank_lt)
  rw [Binary64.midpoint_count] at hcount
  exact le_of_mul_le_mul_right (hmid.trans hcount) one_cast_pos

end Magnitude

namespace Json.NumberText

open Magnitude

variable {m : Magnitude} {x : Binary64} {significand : ℕ} {power : ℤ}

/-- How many steps reading may be from the number that is written: one for a significand with
    more than 53 binary digits, and one for a power of ten that is no number of the format. -/
def scalingSteps (significand : ℕ) (power : ℤ) : ℕ :=
  (if significand ≤ 2 ^ 53 then 0 else 1) + if power.natAbs ≤ 22 then 0 else 1

theorem scalingSteps_le (significand : ℕ) (power : ℤ) : scalingSteps significand power ≤ 2 := by
  unfold scalingSteps
  split <;> split <;> decide

/-- The significand and the power of ten as they are rounded. -/
theorem exists_factors (hpos : 0 < significand) (hfits : (significand : ℚ) < Binary64.limit)
    (hpower : power.natAbs ≤ 308) :
    ∃ (a b : Magnitude) (i j : ℕ), Binary64.ofNat significand = .finite false a ∧
      Binary64.ofNat (Nat.pow 10 power.natAbs) = .finite false b ∧
      one ≤ b.units ∧ Near i significand a.toRat ∧ Near j (10 ^ power.natAbs) b.toRat ∧
      i + j ≤ scalingSteps significand power := by
  obtain ⟨a, i, ha, _, hneara, hi, hexacta⟩ := Binary64.exists_ofNat_near hpos hfits
  obtain ⟨b, j, hb, hone, hnearb, hj, hexactb⟩ := Binary64.exists_ofNat_near
    (n := 10 ^ power.natAbs) (by positivity) (Binary64.ten_pow_lt_limit hpower)
  refine ⟨a, b, i, j, ha, hb, hone, hneara, by exact_mod_cast hnearb, ?_⟩
  unfold scalingSteps
  have hsignificand : i ≤ if significand ≤ 2 ^ 53 then 0 else 1 := by
    split
    · next h => exact (hexacta (Binary64.isExact_of_le h)).le
    · exact hi
  have hscale : j ≤ if power.natAbs ≤ 22 then 0 else 1 := by
    split
    · next h => exact (hexactb (Binary64.isExact_ten_pow h)).le
    · exact hj
  exact Nat.add_le_add hsignificand hscale

theorem power_le (hback : m.RoundsBack (significand * 10 ^ power)) (hpos : 0 < significand) :
    power ≤ 308 := by
  by_contra hnot
  have hone : (1 : ℚ) ≤ significand := by exact_mod_cast hpos
  have hlarge := Binary64.limit_lt_ten_pow (k := power.natAbs) (by omega)
  push_cast at hlarge
  rw [← ten_zpow_of_nonneg (by omega)] at hlarge
  have hscale : (0 : ℚ) < 10 ^ power := by positivity
  have hle := (le_mul_of_one_le_left hscale.le hone).trans hback.le_limit
  exact hlarge.not_ge hle

theorem near_product {a b : Magnitude} {i j : ℕ} (hpower : 0 ≤ power) (hneara : Near i significand a.toRat)
    (hnearb : Near j (10 ^ power.natAbs) b.toRat) :
    Near (i + j) (significand * 10 ^ power) ((a.units * b.units : ℕ) / one / one) := by
  rw [Binary64.units_mul_div, mul_div_cancel_right₀ _ one_cast_pos.ne', ten_zpow_of_nonneg hpower]
  exact hneara.mul hnearb (Nat.cast_nonneg _) a.toRat_nonneg (by positivity) b.toRat_nonneg

/-- What stands between a product with a power of ten and infinity: two magnitudes above the one that
    it should be are enough. -/
theorem mul_ne_infinite (hback : m.RoundsBack (significand * 10 ^ power))
    (hpos : 0 < significand) (hfits : (significand : ℚ) < Binary64.limit) (hpower : 0 ≤ power)
    (hroom : m.rank + 2 < Magnitude.count) :
    (Binary64.ofNat significand).mul (Binary64.ofNat (Nat.pow 10 power.natAbs)) ≠ .infinite false := by
  have hmost := power_le hback hpos
  obtain ⟨a, b, i, j, ha, hb, _, hneara, hnearb, hsteps⟩ := @exists_factors _ power hpos hfits (by omega)
  obtain ⟨hbelow, _⟩ := hback.near Magnitude.one_pos (near_product hpower hneara hnearb)
  have hfew := scalingSteps_le significand power
  have hfinite : a.toRat * b.toRat < Binary64.limit := by
    have hlt := (@Binary64.nearestRank_lt_count_iff (a.units * b.units) _ Magnitude.one_pos).1 (by omega)
    rw [Binary64.units_mul_div] at hlt
    exact lt_of_mul_lt_mul_right hlt one_cast_pos.le
  obtain ⟨r, hmul, _⟩ := Binary64.mul_of_lt false false hfinite
  rw [ha, hb, hmul]
  rintro ⟨⟩

/-- A finite product with a power of ten is within its steps of the magnitude that it should be. -/
theorem exists_scale_of_nonneg (hback : m.RoundsBack (significand * 10 ^ power))
    (hpos : 0 < significand) (hfits : (significand : ℚ) < Binary64.limit) (hpower : 0 ≤ power)
    (hfinite : (Binary64.ofNat significand).mul (Binary64.ofNat (Nat.pow 10 power.natAbs)) ≠
      .infinite false) :
    ∃ r : Magnitude, scale (Binary64.ofNat significand) power = some (.finite false r) ∧
      m.Within (scalingSteps significand power) r := by
  have hmost := power_le hback hpos
  obtain ⟨a, b, i, j, ha, hb, _, hneara, hnearb, hsteps⟩ := @exists_factors _ power hpos hfits (by omega)
  obtain ⟨hbelow, habove⟩ := hback.near Magnitude.one_pos (near_product hpower hneara hnearb)
  obtain hlt | hge := lt_or_ge (a.toRat * b.toRat) Binary64.limit
  · obtain ⟨r, hmul, hrank⟩ := Binary64.mul_of_lt false false hlt
    refine ⟨r, ?_, by omega, by omega⟩
    rw [scale, if_pos (by omega)]
    simp only [ha, hb, if_pos hpower, hmul, bne_self_eq_false]
  · rw [ha, hb] at hfinite
    exact absurd (Binary64.mul_of_le false false hge) hfinite

/-- A quotient by a power of ten is within its steps of the magnitude that it should be. -/
theorem exists_scale_of_neg (hback : m.RoundsBack (significand * 10 ^ power))
    (hpos : 0 < significand) (hfits : (significand : ℚ) < Binary64.limit) (hpower : power < 0)
    (hleast : -308 ≤ power) :
    ∃ r : Magnitude, scale (Binary64.ofNat significand) power = some (.finite false r) ∧
      m.Within (scalingSteps significand power) r := by
  obtain ⟨a, b, i, j, ha, hb, hone, hneara, hnearb, hsteps⟩ := @exists_factors _ power hpos hfits (by omega)
  have hunits : 0 < b.units := Magnitude.one_pos.trans_le hone
  have hquotient : Near (i + j) (significand * 10 ^ power)
      ((a.units * one : ℕ) / b.units / one) := by
    have hvalue : ((a.units * one : ℕ) : ℚ) / b.units / one = a.toRat / b.toRat := by
      have hcast : (b.units : ℚ) ≠ 0 := by exact_mod_cast hunits.ne'
      have hone' := one_cast_pos.ne'
      rw [toRat, toRat]
      push_cast
      field_simp
    rw [hvalue, ten_zpow_of_neg (by omega), mul_one_div]
    exact hneara.div hnearb (Nat.cast_nonneg _) a.toRat_nonneg (by positivity) (toRat_pos hunits)
  obtain ⟨hbelow, habove⟩ := hback.near hunits hquotient
  obtain ⟨r, hdiv, hrank⟩ := Binary64.div_of_one_le false false (m := a) hone
  refine ⟨r, ?_, by omega, by omega⟩
  rw [scale, if_pos (by omega)]
  simp only [ha, hb, if_neg (Int.not_le.2 hpower), hdiv, bne_self_eq_false]

theorem exists_ofNat_ten_pow {k : ℕ} (h : k ≤ 308) :
    ∃ b : Magnitude, Binary64.ofNat (Nat.pow 10 k) = .finite false b ∧ one ≤ b.units := by
  obtain ⟨b, _, hb, hone, _⟩ := @Binary64.exists_ofNat_near (10 ^ k) (by positivity)
    (Binary64.ten_pow_lt_limit h)
  exact ⟨b, hb, hone⟩

/-- A finite number that is divided by a power of ten stays finite. -/
theorem exists_scale_finite (hpower : power < 0) (a : Magnitude) :
    ∃ r : Magnitude, scale (.finite false a) power = some (.finite false r) := by
  -- the induction is on the exponent, which is divided out in parts
  induction hsize : power.natAbs using Nat.strongRecOn generalizing power a with
  | ind size ih =>
    rw [scale]
    by_cases hsmall : power.natAbs ≤ 308
    · obtain ⟨b, hb, hone⟩ := exists_ofNat_ten_pow hsmall
      obtain ⟨r, hdiv, _⟩ := Binary64.div_of_one_le false false (m := a) hone
      refine ⟨r, ?_⟩
      rw [if_pos hsmall]
      simp only [hb, if_neg (Int.not_le.2 hpower), hdiv, bne_self_eq_false]
    · rw [if_neg hsmall]
      by_cases hzero : Binary64.finite false a = .zero
      · exact ⟨a, if_pos hzero⟩
      · rw [if_neg hzero, if_neg (Int.not_le.2 hpower)]
        -- the power of ten stands behind a variable, so that it is not worked out
        have hpart : ∀ part ≤ 308, ∃ r, scale ((Binary64.finite false a).div
            (Binary64.ofNat (Nat.pow 10 part))) (power + 308) = some (.finite false r) := by
          intro part hle
          obtain ⟨b, hb, hone⟩ := exists_ofNat_ten_pow hle
          obtain ⟨q, hdiv, _⟩ := Binary64.div_of_one_le false false (m := a) hone
          rw [hb, hdiv, bne_self_eq_false]
          exact ih (power + 308).natAbs (by omega) (by omega) q rfl
        exact hpart 308 le_rfl

/-- Whether the decimal form of a magnitude is a whole number that is in range when it is scaled. -/
def IsInRange (m : Magnitude) : Prop :=
  0 ≤ (m.shortest .toEven).exponent ∧
    (Binary64.ofNat (m.shortest .toEven).digits).mul
      (Binary64.ofNat (Nat.pow 10 (m.shortest .toEven).exponent.natAbs)) ≠ .infinite false

instance : Decidable (IsInRange m) :=
  inferInstanceAs (Decidable (_ ∧ _))

/-- The two greatest magnitudes are in range, although steps from them lead beyond it. -/
theorem isInRange_of_greatest (hroom : ¬m.rank + 2 < Magnitude.count) : IsInRange m := by
  have hlt := m.rank_lt
  have hrank : m.rank = Magnitude.count - 1 ∨ m.rank = Magnitude.count - 2 := by omega
  have hgreatest : IsInRange ⟨Magnitude.count - 1, by decide⟩ := by decide +kernel
  have hnext : IsInRange ⟨Magnitude.count - 2, by decide⟩ := by decide +kernel
  obtain ⟨rank, _⟩ := m
  obtain rfl | rfl := hrank
  · exact hgreatest
  · exact hnext

/-- The digits that a finite number is written with are in range when they are scaled. -/
theorem mul_shortest_ne_infinite (hback : m.RoundsBack (significand * 10 ^ power)) (hpos : 0 < significand)
    (hfits : (significand : ℚ) < Binary64.limit) (hpower : 0 ≤ power)
    (hdigits : significand = (m.shortest .toEven).digits ∧ power = (m.shortest .toEven).exponent) :
    (Binary64.ofNat significand).mul (Binary64.ofNat (Nat.pow 10 power.natAbs)) ≠ .infinite false := by
  by_cases hroom : m.rank + 2 < Magnitude.count
  · exact mul_ne_infinite hback hpos hfits hpower hroom
  · rw [hdigits.1, hdigits.2]
    exact (isInRange_of_greatest hroom).2

end Json.NumberText

end TradeNotes
