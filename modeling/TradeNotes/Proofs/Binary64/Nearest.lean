import Mathlib.Algebra.Order.Field.Basic
import Mathlib.Algebra.Order.Field.Rat
import Mathlib.Data.Rat.Cast.Order
import Mathlib.Order.Monotone.Basic
import Mathlib.Tactic.FieldSimp
import Mathlib.Tactic.Linarith
import Mathlib.Tactic.Qify
import Mathlib.Tactic.Ring
import TradeNotes.Proofs.Binary64.Nonnegative

namespace TradeNotes

namespace Magnitude

variable {rank num den n exponent significand : ℕ}

theorem exists_one_eq : ∃ k, one = 2 ^ k :=
  ⟨Nat.log2 one, by decide +kernel⟩

theorem log2_one : Nat.log2 one = 1074 := by decide +kernel

theorem unitsAt_of_lt (h : rank < perExponent) : unitsAt rank = rank := by
  simp [unitsAt, significandAt, exponentAt, Nat.div_eq_of_lt h]

theorem unitsAt_succ_mul_add (h : n < perExponent) :
    unitsAt ((exponent + 1) * perExponent + n) = (perExponent + n) * 2 ^ exponent := by
  have hexponent : exponentAt ((exponent + 1) * perExponent + n) = exponent := by
    rw [exponentAt, Nat.add_comm, Nat.add_mul_div_right _ _ perExponent_pos, Nat.div_eq_of_lt h,
      Nat.zero_add, Nat.add_sub_cancel]
  have hsignificand : (exponent + 1) * perExponent + n - exponent * perExponent = perExponent + n := by
    rw [Nat.succ_mul]
    omega
  rw [unitsAt, significandAt, hexponent, hsignificand, Nat.pow_eq]

/-- A magnitude is its significand times its power of two. The significand may also be the one
    behind the last, which the next power of two begins with. -/
theorem unitsAt_add (hmost : significand ≤ 2 * perExponent)
    (hleast : exponent = 0 ∨ perExponent ≤ significand) :
    unitsAt (exponent * perExponent + significand) = significand * 2 ^ exponent := by
  by_cases hsub : significand < perExponent
  · obtain rfl : exponent = 0 := hleast.resolve_right (Nat.not_le_of_lt hsub)
    rw [Nat.zero_mul, Nat.zero_add, unitsAt_of_lt hsub, pow_zero, Nat.mul_one]
  · by_cases hlast : significand = 2 * perExponent
    · have hnext : unitsAt ((exponent + 1 + 1) * perExponent + 0) =
          (perExponent + 0) * 2 ^ (exponent + 1) := unitsAt_succ_mul_add perExponent_pos
      rw [Nat.add_zero, Nat.succ_mul, Nat.succ_mul, Nat.add_assoc, Nat.add_zero, ← Nat.two_mul,
        ← hlast] at hnext
      rw [hnext, hlast, pow_succ]
      ring
    · have hrank : exponent * perExponent + significand =
          (exponent + 1) * perExponent + (significand - perExponent) := by
        rw [Nat.succ_mul]
        omega
      rw [hrank, unitsAt_succ_mul_add (by omega), Nat.add_sub_cancel' (by omega)]

/-- The rank of a magnitude, taken apart into exponent and significand. -/
theorem exists_rank_eq (rank : ℕ) :
    ∃ exponent significand, rank = exponent * perExponent + significand ∧
      significand < 2 * perExponent ∧ (exponent = 0 ∨ perExponent ≤ significand) := by
  have hpos := perExponent_pos
  have hdiv := Nat.div_add_mod rank perExponent
  have hlt := Nat.mod_lt rank hpos
  rw [Nat.mul_comm] at hdiv
  cases hquotient : rank / perExponent with
  | zero =>
    rw [hquotient] at hdiv
    exact ⟨0, rank, by omega, by omega, .inl rfl⟩
  | succ exponent =>
    rw [hquotient, Nat.succ_mul] at hdiv
    exact ⟨exponent, perExponent + rank % perExponent, by omega, by omega, .inr (by omega)⟩

/-- Magnitudes of higher rank are greater. -/
theorem unitsAt_strictMono : StrictMono unitsAt := by
  refine strictMono_nat_of_lt_succ fun rank => ?_
  obtain ⟨exponent, significand, rfl, hmost, hleast⟩ := exists_rank_eq rank
  have hnext : unitsAt (exponent * perExponent + (significand + 1)) =
      (significand + 1) * 2 ^ exponent :=
    unitsAt_add (by omega) (hleast.imp_right (by omega))
  rw [Nat.add_assoc, hnext, unitsAt_add (by omega) hleast]
  exact Nat.mul_lt_mul_of_pos_right (Nat.lt_succ_self _) (Nat.two_pow_pos _)

/-- The power of two of the significand that a quotient is rounded to. -/
def exponentOf (num den : ℕ) : ℕ :=
  Nat.log2 (num / den) - 52

theorem le_divNearest (num den : ℕ) : num / den ≤ divNearest num den := by
  unfold divNearest
  dsimp only
  split <;> omega

/-- A quotient that is rounded to a multiple of a power of two above one has all binary digits. -/
theorem perExponent_mul_le (hden : 0 < den) (h : exponentOf num den ≠ 0) :
    perExponent * (den * 2 ^ exponentOf num den) ≤ num := by
  have hlog : Nat.log2 (num / den) = 52 + exponentOf num den := by
    unfold exponentOf at h ⊢
    omega
  have hne : num / den ≠ 0 := by
    intro hnone
    rw [hnone, Nat.log2_zero] at hlog
    omega
  have hquotient : perExponent * 2 ^ exponentOf num den ≤ num / den := by
    have hself := Nat.log2_self_le hne
    rwa [hlog, pow_add] at hself
  rwa [Nat.le_div_iff_mul_le hden, Nat.mul_assoc, Nat.mul_comm (2 ^ _)] at hquotient

theorem perExponent_le_divNearest (hden : 0 < den) :
    exponentOf num den = 0 ∨ perExponent ≤ divNearest num (den * 2 ^ exponentOf num den) := by
  have hscale : 0 < den * 2 ^ exponentOf num den := by positivity
  refine or_iff_not_imp_left.2 fun hne => ?_
  exact ((Nat.le_div_iff_mul_le hscale).2 (perExponent_mul_le hden hne)).trans (le_divNearest _ _)

/-- The magnitude nearest to a quotient is the nearest multiple of its power of two. -/
theorem unitsAt_nearestRank (hden : 0 < den) :
    unitsAt (nearestRank num den) =
      divNearest num (den * 2 ^ exponentOf num den) * 2 ^ exponentOf num den :=
  unitsAt_add (divNearest_le hden) (perExponent_le_divNearest hden)

/-- A quotient that is a multiple of its power of two is a magnitude. -/
theorem unitsAt_nearestRank_of_dvd (hdvd : 2 ^ exponentOf n 1 ∣ n) :
    unitsAt (nearestRank n 1) = n := by
  obtain ⟨significand, hsignificand⟩ := hdvd
  rw [unitsAt_nearestRank Nat.one_pos, Nat.one_mul]
  generalize exponentOf n 1 = exponent at hsignificand ⊢
  rw [hsignificand, Nat.mul_comm (2 ^ exponent), divNearest_mul (Nat.two_pow_pos _)]

/-- A quotient that is no smaller than the least magnitude with all binary digits is changed by
    less than one part in `2 ^ 53`. -/
theorem nearestRank_error (hden : 0 < den) (hnormal : perExponent ≤ num / den) :
    |(unitsAt (nearestRank num den) : ℚ) - num / den| ≤ num / den / 2 ^ 53 := by
  have hlog : 2 ^ 52 * 2 ^ exponentOf num den ≤ num / den := by
    have hne : num / den ≠ 0 := by
      have hpos := perExponent_pos
      omega
    have hleast : 52 ≤ Nat.log2 (num / den) := (Nat.le_log2 hne).2 hnormal
    have hself := Nat.log2_self_le hne
    rwa [← Nat.add_sub_cancel' hleast, pow_add] at hself
  have hleast : 2 ^ 52 * (den * 2 ^ exponentOf num den) ≤ num := by
    rw [Nat.le_div_iff_mul_le hden] at hlog
    calc 2 ^ 52 * (den * 2 ^ exponentOf num den) = 2 ^ 52 * 2 ^ exponentOf num den * den := by ring
      _ ≤ num := hlog
  have hscale : 0 < den * 2 ^ exponentOf num den := by positivity
  obtain ⟨hbelow, habove⟩ := @divNearest_near num _ .toEven hscale
  rw [unitsAt_nearestRank hden]
  generalize divNearest num (den * 2 ^ exponentOf num den) = significand at hbelow habove ⊢
  generalize exponentOf num den = exponent at hleast hbelow habove ⊢
  qify at hleast hbelow habove hden
  have hsplit : ((significand * 2 ^ exponent : ℕ) : ℚ) - num / den =
      (significand * (den * 2 ^ exponent) - num) / den := by
    push_cast
    field_simp
  rw [hsplit, abs_div, abs_of_pos hden, div_right_comm, div_le_div_iff_of_pos_right hden, abs_le]
  constructor <;> linarith

end Magnitude

namespace Binary64

open Magnitude

variable {num den n : ℕ}

/-- The nearest number to a quotient between the least magnitude with all binary digits and the
    greatest one is finite. -/
theorem exists_nearest (negative : Bool) (hden : 0 < den) (hlog : Nat.log2 (num / den) < 2097) :
    ∃ m : Magnitude, nearest negative num den = .finite negative m ∧
      m.units = unitsAt (nearestRank num den) := by
  have hlt : nearestRank num den < Magnitude.count :=
    (nearestRank_le hden).trans_lt (Nat.mul_lt_mul_of_pos_right (by omega) perExponent_pos)
  exact ⟨⟨nearestRank num den, hlt⟩, by rw [nearest, ofRank, dif_pos hlt], rfl⟩

/-- A quotient with a significand of no more than 53 binary digits, or with the next one, is a
    multiple of its power of two. -/
theorem two_pow_exponentOf_dvd (hn : n ≤ 2 ^ 53) (k : ℕ) :
    2 ^ exponentOf (n * 2 ^ k) 1 ∣ n * 2 ^ k := by
  rw [exponentOf, Nat.div_one]
  by_cases hlast : n = 2 ^ 53
  · rw [hlast, ← pow_add, Nat.log2_two_pow]
    exact pow_dvd_pow 2 (Nat.sub_le _ _)
  · have hlog : Nat.log2 (n * 2 ^ k) < 53 + k := by
      by_cases hzero : n * 2 ^ k = 0
      · rw [hzero, Nat.log2_zero]
        omega
      · rw [Nat.log2_lt hzero, pow_add]
        exact Nat.mul_lt_mul_of_pos_right (by omega) (Nat.two_pow_pos k)
    exact Dvd.dvd.mul_left (pow_dvd_pow 2 (by omega)) n

/-- Natural numbers of no more than 53 binary digits are numbers, and so is the next one. -/
theorem exists_ofNat (hn : n ≤ 2 ^ 53) :
    ∃ m : Magnitude, ofNat n = .finite false m ∧ m.units = n * Magnitude.one := by
  have hlog : Nat.log2 (n * Magnitude.one / 1) < 2097 := by
    rw [Nat.div_one]
    obtain rfl | hpos := Nat.eq_zero_or_pos n
    · rw [Nat.zero_mul, Nat.log2_zero]
      decide
    · have hbounds := (log2_mul_bounds hpos Magnitude.one_pos).2
      have hdigits : Nat.log2 n < 54 :=
        (Nat.log2_lt (Nat.pos_iff_ne_zero.1 hpos)).2 (by omega)
      rw [log2_one] at hbounds
      omega
  obtain ⟨m, hfinite, hunits⟩ := exists_nearest false Nat.one_pos hlog
  obtain ⟨k, hone⟩ := exists_one_eq
  refine ⟨m, hfinite, ?_⟩
  rw [hunits, hone, unitsAt_nearestRank_of_dvd (two_pow_exponentOf_dvd hn k)]

end Binary64

end TradeNotes
