import Mathlib.Data.Int.Log
import Mathlib.Data.Rat.Floor
import Mathlib.Tactic.NormNum
import TradeNotes.Binary64.Shortest
import TradeNotes.Proofs.Binary64.Value

namespace TradeNotes

namespace Magnitude

variable {m : Magnitude} {place : ℕ}

theorem log_eq_of_bounds {v : ℚ} {e : ℤ} (hbelow : 10 ^ e ≤ v) (habove : v < 10 ^ (e + 1)) :
    Int.log 10 v = e := by
  have hpos : 0 < v := (zpow_pos (by norm_num) e).trans_le hbelow
  have hleast : e ≤ Int.log 10 v :=
    (Int.zpow_le_iff_le_log (by decide) hpos).1 (by exact_mod_cast hbelow)
  have hmost : Int.log 10 v < e + 1 :=
    (Int.lt_zpow_iff_log_lt (by decide) hpos).1 (by exact_mod_cast habove)
  omega

theorem toRat_lt_iff : m.toRat < 10 ^ (-(place : ℤ)) ↔ m.units * 10 ^ place < one := by
  rw [zpow_neg, zpow_natCast, toRat, ← one_div, div_lt_div_iff₀ one_cast_pos (by positivity), one_mul]
  exact_mod_cast Iff.rfl

/-- Even the least magnitude above zero reaches the place behind the last. -/
theorem one_le_ten_pow (h : place = 324) : one ≤ 10 ^ place := by
  subst h
  decide +kernel

/-- From one on, the number of digits in front of the point gives the power of ten of the first. -/
theorem length_toDigits_eq_log (h : one ≤ m.units) :
    ((Nat.toDigits 10 (m.units / one)).length : ℤ) - 1 = Int.log 10 m.toRat := by
  have hwhole : 0 < m.units / one := Nat.div_pos h Magnitude.one_pos
  have hlength := Nat.length_toDigits_pos (b := 10) (n := m.units / one)
  rw [eq_comm]
  generalize hdigits : (Nat.toDigits 10 (m.units / one)).length = length at hlength ⊢
  obtain ⟨k, rfl⟩ := Nat.exists_eq_add_of_lt hlength
  have hmost : m.units / one < 10 ^ (0 + k + 1) :=
    (Nat.length_toDigits_le_iff (by decide) hlength).1 hdigits.le
  have hleast : 10 ^ k ≤ m.units / one := by
    by_contra hnot
    obtain rfl | hk := Nat.eq_zero_or_pos k
    · omega
    · have hshort := (Nat.length_toDigits_le_iff (by decide) hk).2 (Nat.lt_of_not_le hnot)
      omega
  have hcast : (((0 + k + 1 : ℕ) : ℤ) - 1) = (k : ℕ) := by omega
  rw [hcast]
  apply log_eq_of_bounds
  · rw [zpow_natCast]
    have hunits : 10 ^ k * one ≤ m.units := (Nat.le_div_iff_mul_le Magnitude.one_pos).1 hleast
    exact_mod_cast natCast_le_toRat_iff.2 hunits
  · have hunits : m.units < 10 ^ (k + 1) * one := by
      rw [← Nat.div_lt_iff_lt_mul Magnitude.one_pos]
      simpa using hmost
    rw [← not_le] at hunits ⊢
    rw [← natCast_le_toRat_iff] at hunits
    exact_mod_cast hunits

/-- Below one, the place that is found is the first one that is reached. -/
theorem leadingPlace_spec (hm : 0 < m.units) :
    one ≤ m.units * 10 ^ m.leadingPlace ∧ ∀ place < m.leadingPlace, m.units * 10 ^ place < one := by
  unfold leadingPlace
  cases hfound : (List.range 324).find? fun place => one ≤ m.units * Nat.pow 10 place with
  | none =>
    obtain ⟨last, hlast⟩ : ∃ last, last = 324 := ⟨_, rfl⟩
    rw [Option.getD_none, ← hlast]
    refine ⟨(one_le_ten_pow hlast).trans (Nat.le_mul_of_pos_left _ hm), fun place hless => ?_⟩
    simpa using List.find?_eq_none.1 hfound place (List.mem_range.2 (hlast ▸ hless))
  | some first =>
    rw [Option.getD_some]
    rw [List.find?_range_eq_some] at hfound
    obtain ⟨hreach, _, hbefore⟩ := hfound
    exact ⟨by simpa using hreach, fun place hless => by simpa using hbefore place hless⟩

/-- The power of ten of the first digit is the whole part of the common logarithm. -/
theorem decimalExponent_eq_log (hm : 0 < m.units) : m.decimalExponent = Int.log 10 m.toRat := by
  unfold decimalExponent
  split
  · next h => exact length_toDigits_eq_log h
  · next h =>
    obtain ⟨hreach, hbefore⟩ := leadingPlace_spec hm
    have hplace : 0 < m.leadingPlace := by
      by_contra hnot
      rw [Nat.eq_zero_of_not_pos hnot, pow_zero, Nat.mul_one] at hreach
      exact h hreach
    symm
    apply log_eq_of_bounds
    · exact not_lt.1 fun hless => Nat.not_lt_of_le hreach (toRat_lt_iff.1 hless)
    · have hless := toRat_lt_iff.2 (hbefore (m.leadingPlace - 1) (Nat.sub_lt hplace Nat.one_pos))
      convert hless using 2
      omega

/-- No magnitude above zero has its first digit behind the place 324. -/
theorem neg_le_log (hm : 0 < m.units) : -324 ≤ Int.log 10 m.toRat := by
  have hplace : m.leadingPlace ≤ 324 := by
    by_contra hnot
    have hlast := (leadingPlace_spec hm).2 324 (Nat.lt_of_not_le hnot)
    exact hlast.not_ge ((one_le_ten_pow rfl).trans (Nat.le_mul_of_pos_left _ hm))
  rw [← decimalExponent_eq_log hm, decimalExponent]
  split
  · exact le_trans (by decide) (Int.sub_nonneg.2 (by exact_mod_cast Nat.length_toDigits_pos))
  · omega

theorem ten_log_le (hm : 0 < m.units) : 10 ^ Int.log 10 m.toRat ≤ m.toRat := by
  exact_mod_cast Int.zpow_log_le_self (b := 10) (by decide) (toRat_pos hm)

theorem lt_ten_log (m : Magnitude) : m.toRat < 10 ^ (Int.log 10 m.toRat + 1) := by
  exact_mod_cast Int.lt_zpow_succ_log_self (b := 10) (by decide) m.toRat

end Magnitude

end TradeNotes
