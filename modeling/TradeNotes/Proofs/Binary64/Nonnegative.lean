import Mathlib.Algebra.Order.Group.Nat
import TradeNotes.Binary64.Basic

namespace TradeNotes

namespace Magnitude

variable {rank num den n : Nat}

theorem perExponent_pos : 0 < perExponent := by decide

theorem one_pos : 0 < one := by decide +kernel

theorem unitsAt_pos (h : 0 < rank) : 0 < unitsAt rank := by
  have hbelow : exponentAt rank * perExponent < rank := by
    have hfloor := Nat.div_mul_le_self rank perExponent
    have hpos := perExponent_pos
    unfold exponentAt
    rw [Nat.sub_mul]
    omega
  exact Nat.mul_pos (Nat.sub_pos_of_lt hbelow) (Nat.two_pow_pos _)

/-- A product has about as many binary digits as its factors together. -/
theorem log2_mul_bounds {m : Nat} (hn : 0 < n) (hm : 0 < m) :
    Nat.log2 m ≤ Nat.log2 (n * m) ∧ Nat.log2 (n * m) < Nat.log2 n + Nat.log2 m + 2 := by
  have hne : n * m ≠ 0 := Nat.pos_iff_ne_zero.1 (Nat.mul_pos hn hm)
  rw [Nat.le_log2 hne, Nat.log2_lt hne]
  constructor
  · exact (Nat.log2_self_le (Nat.pos_iff_ne_zero.1 hm)).trans (Nat.le_mul_of_pos_left m hn)
  · calc n * m < Nat.pow 2 (Nat.log2 n + 1) * Nat.pow 2 (Nat.log2 m + 1) :=
          Nat.mul_lt_mul'' Nat.lt_log2_self Nat.lt_log2_self
      _ = Nat.pow 2 (Nat.log2 n + 1 + (Nat.log2 m + 1)) := (Nat.pow_add 2 _ _).symm
      _ = Nat.pow 2 (Nat.log2 n + Nat.log2 m + 2) := by congr 1; omega

theorem lt_of_log2 (num : Nat) (hden : 0 < den) :
    num < 2 * perExponent * (den * Nat.pow 2 (Nat.log2 (num / den) - 52)) := by
  have hexponent : Nat.log2 (num / den) + 1 ≤ 53 + (Nat.log2 (num / den) - 52) := by omega
  have hlog : num / den < Nat.pow 2 (53 + (Nat.log2 (num / den) - 52)) :=
    Nat.lt_of_lt_of_le Nat.lt_log2_self (Nat.pow_le_pow_right Nat.two_pos hexponent)
  have hsplit : Nat.pow 2 (53 + (Nat.log2 (num / den) - 52)) =
      2 * perExponent * Nat.pow 2 (Nat.log2 (num / den) - 52) := Nat.pow_add 2 53 _
  rw [hsplit, Nat.div_lt_iff_lt_mul hden] at hlog
  calc num < 2 * perExponent * Nat.pow 2 (Nat.log2 (num / den) - 52) * den := hlog
    _ = 2 * perExponent * (den * Nat.pow 2 (Nat.log2 (num / den) - 52)) := by
      rw [Nat.mul_assoc, Nat.mul_comm (Nat.pow 2 _) den]

/-- The significand of a quotient has no more binary digits than there is room for, apart from the
    one that it is rounded up to. -/
theorem divNearest_le (hden : 0 < den) :
    divNearest num (den * Nat.pow 2 (Nat.log2 (num / den) - 52)) ≤ 2 * perExponent := by
  have hquotient := lt_of_log2 num hden
  generalize Nat.log2 (num / den) - 52 = exponent at hquotient ⊢
  have hscale : 0 < den * Nat.pow 2 exponent := Nat.mul_pos hden (Nat.two_pow_pos exponent)
  have hnear : 2 * (divNearest num (den * Nat.pow 2 exponent) * (den * Nat.pow 2 exponent)) ≤
      2 * num + den * Nat.pow 2 exponent := (divNearest_near hscale).2
  by_contra hnot
  have hmore := Nat.mul_le_mul_right (den * Nat.pow 2 exponent) (Nat.lt_of_not_le hnot)
  rw [Nat.succ_mul] at hmore
  omega

/-- The rank of a quotient is bounded by its binary exponent. -/
theorem nearestRank_le (hden : 0 < den) :
    nearestRank num den ≤ (Nat.log2 (num / den) - 52 + 2) * perExponent := by
  rw [Nat.add_mul]
  exact Nat.add_le_add_left (divNearest_le hden) _

end Magnitude

namespace Binary64

open Magnitude

/-- The numbers without a sign, infinity among them. -/
inductive Nonnegative : Binary64 → Prop
  | finite (m : Magnitude) : Nonnegative (.finite false m)
  | infinite : Nonnegative (.infinite false)

variable {x : Binary64} {n : Nat}

/-- Numbers without a sign are numbers, and the bit of the sign is clear. -/
theorem nonnegative_iff : x.Nonnegative ↔ x ≠ .nan ∧ x.toBits < signBit := by
  have hcount : Magnitude.count < signBit := by decide +kernel
  constructor
  · rintro (⟨m⟩ | _)
    · refine ⟨by simp, ?_⟩
      have hrank := m.rank_lt
      simp only [toBits, Bool.toNat_false, Nat.zero_mul, Nat.zero_add]
      omega
    · refine ⟨by simp, ?_⟩
      simpa only [toBits, Bool.toNat_false, Nat.zero_mul, Nat.zero_add] using hcount
  · rintro ⟨hne, hbits⟩
    cases x with
    | nan => exact absurd rfl hne
    | infinite negative =>
      cases negative with
      | false => exact .infinite
      | true =>
        simp only [toBits, Bool.toNat_true, Nat.one_mul] at hbits
        omega
    | finite negative m =>
      cases negative with
      | false => exact .finite m
      | true =>
        simp only [toBits, Bool.toNat_true, Nat.one_mul] at hbits
        omega

theorem nonnegative_nearest (num den : Nat) : (nearest false num den).Nonnegative := by
  unfold nearest ofRank
  split
  · exact .finite _
  · exact .infinite

theorem nonnegative_ofNat (n : Nat) : (ofNat n).Nonnegative :=
  nonnegative_nearest _ _

/-- The quotient by a finite number other than zero has no sign either. -/
theorem Nonnegative.div (h : x.Nonnegative) {m : Magnitude} (hm : 0 < m.units) :
    (x.div (.finite false m)).Nonnegative := by
  cases h with
  | finite k =>
    simp only [Binary64.div, if_neg (Nat.pos_iff_ne_zero.1 hm), bne_self_eq_false]
    exact nonnegative_nearest _ _
  | infinite => exact .infinite

/-- Natural numbers far beyond those of 64 bits are finite, and only zero is zero. -/
theorem exists_ofNat_eq_finite (hpos : 0 < n) (hn : Nat.log2 n < 1000) :
    ∃ m, ofNat n = .finite false m ∧ 0 < m.units := by
  have hone : Nat.log2 one = 1074 := by decide +kernel
  have hbounds := log2_mul_bounds hpos Magnitude.one_pos
  rw [hone, ← Nat.div_one (n * one)] at hbounds
  have hlt : nearestRank (n * one) 1 < Magnitude.count := by
    have hle : nearestRank (n * one) 1 ≤ (Nat.log2 (n * one / 1) - 52 + 2) * perExponent :=
      nearestRank_le Nat.one_pos
    have hexponent : Nat.log2 (n * one / 1) - 52 + 2 < 2047 := by omega
    exact Nat.lt_of_le_of_lt hle (Nat.mul_lt_mul_of_pos_right hexponent perExponent_pos)
  have hrank : 0 < nearestRank (n * one) 1 := by
    have hexponent : 0 < Nat.log2 (n * one / 1) - 52 := by omega
    exact Nat.add_pos_left (Nat.mul_pos hexponent perExponent_pos) _
  refine ⟨⟨nearestRank (n * one) 1, hlt⟩, ?_, unitsAt_pos hrank⟩
  rw [ofNat, nearest, ofRank, dif_pos hlt]

end Binary64

end TradeNotes
