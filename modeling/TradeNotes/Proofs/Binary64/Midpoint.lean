import TradeNotes.Binary64.Shortest
import TradeNotes.Proofs.Binary64.Nearest

namespace TradeNotes

section Ties

variable {num den : ℕ}

/-- A quotient halfway between two whole numbers is rounded to the even one. -/
theorem even_divNearest (hden : 0 < den)
    (h : 2 * num = (2 * divNearest num den + 1) * den ∨
      2 * num + den = 2 * divNearest num den * den) :
    Even (divNearest num den) := by
  have hdiv := Nat.div_add_mod num den
  have hlt := Nat.mod_lt num hden
  rw [Nat.mul_comm] at hdiv
  revert h
  unfold divNearest
  simp only [Tie.isDown, beq_iff_eq]
  generalize num / den = quotient at *
  generalize num % den = rest at *
  split
  · next hdown =>
    intro h
    have hhalf : 2 * rest = den := by
      obtain h | h := h
      · rw [Nat.add_mul, Nat.mul_assoc] at h
        omega
      · rw [Nat.mul_assoc] at h
        omega
    exact Nat.even_iff.2 (hdown.resolve_left (by omega)).2
  · next hup =>
    intro h
    have hhalf : 2 * rest = den := by
      obtain h | h := h
      · rw [Nat.mul_add, Nat.add_mul, Nat.add_mul, Nat.mul_assoc] at h
        omega
      · rw [Nat.mul_add, Nat.add_mul, Nat.mul_assoc] at h
        omega
    rw [Nat.even_iff]
    omega

end Ties

namespace Magnitude

variable {rank rank' num den : ℕ} {v : ℚ}

/-- The number halfway between a magnitude and the one below, counted in the smallest magnitude
    above zero. -/
def midpoint (rank : ℕ) : ℚ :=
  (unitsAt (rank - 1) + unitsAt rank) / 2

/-- Whether a number, counted in the smallest magnitude above zero, is rounded to the magnitude
    with a rank or to a greater one. -/
def Reaches (rank : ℕ) (v : ℚ) : Prop :=
  midpoint rank < v ∨ midpoint rank = v ∧ Even rank

theorem unitsAt_lt_succ (rank : ℕ) : (unitsAt rank : ℚ) < unitsAt (rank + 1) := by
  exact_mod_cast unitsAt_strictMono (Nat.lt_succ_self rank)

theorem midpoint_le (rank : ℕ) : midpoint rank ≤ unitsAt rank := by
  have hle : (unitsAt (rank - 1) : ℚ) ≤ unitsAt rank := by
    exact_mod_cast unitsAt_strictMono.monotone (Nat.sub_le rank 1)
  rw [midpoint]
  linarith

theorem midpoint_lt (h : 0 < rank) : midpoint rank < unitsAt rank := by
  have hlt : (unitsAt (rank - 1) : ℚ) < unitsAt rank := by
    exact_mod_cast unitsAt_strictMono (Nat.sub_lt h Nat.one_pos)
  rw [midpoint]
  linarith

theorem lt_midpoint_succ (rank : ℕ) : unitsAt rank < midpoint (rank + 1) := by
  have hlt := unitsAt_lt_succ rank
  rw [midpoint, Nat.add_sub_cancel]
  linarith

theorem midpoint_strictMono : StrictMono midpoint :=
  strictMono_nat_of_lt_succ fun rank => (midpoint_le rank).trans_lt (lt_midpoint_succ rank)

theorem Reaches.anti (h : Reaches rank v) (hle : rank' ≤ rank) : Reaches rank' v := by
  obtain rfl | hlt := hle.eq_or_lt
  · exact h
  · have hmid := midpoint_strictMono hlt
    exact .inl (h.elim hmid.trans fun heq => heq.1 ▸ hmid)

theorem Reaches.of_le {w : ℚ} (h : Reaches rank v) (hle : v ≤ w) : Reaches rank w :=
  h.elim (fun hlt => .inl (hlt.trans_le hle)) fun heq =>
    hle.lt_or_eq.imp (heq.1.trans_lt ·) fun hsame => ⟨heq.1.trans hsame, heq.2⟩

theorem Reaches.midpoint_le (h : Reaches rank v) : midpoint rank ≤ v :=
  h.elim le_of_lt fun heq => heq.1.le

/-- What a quotient is rounded to, taken apart into a whole number and a power of two. The whole
    number is the nearest one, and of two that are equally near the even one. -/
structure RoundsTo (v : ℚ) (exponent significand : ℕ) : Prop where
  normal : exponent = 0 ∨ perExponent ≤ significand
  fits : significand ≤ 2 * perExponent
  least : exponent = 0 ∨ perExponent * 2 ^ exponent ≤ v
  most : v < 2 * perExponent * 2 ^ exponent
  below : (2 * significand - 1) * 2 ^ exponent ≤ 2 * v
  above : 2 * v ≤ (2 * significand + 1) * 2 ^ exponent
  even : 2 * v = (2 * significand - 1) * 2 ^ exponent ∨ 2 * v = (2 * significand + 1) * 2 ^ exponent →
    Even significand

theorem exists_roundsTo (hden : 0 < den) :
    ∃ exponent significand, nearestRank num den = exponent * perExponent + significand ∧
      unitsAt (nearestRank num den) = significand * 2 ^ exponent ∧
      RoundsTo (num / den) exponent significand := by
  have hscale : 0 < den * 2 ^ exponentOf num den := by positivity
  have hcast : (0 : ℚ) < den := by exact_mod_cast hden
  have hleast := or_iff_not_imp_left.2 (@perExponent_mul_le num den hden)
  have hmost := lt_of_log2 num hden
  obtain ⟨habove, hbelow⟩ := @divNearest_near num _ .toEven hscale
  have heven := @even_divNearest num _ hscale
  have hnormal := @perExponent_le_divNearest num den hden
  have hfits := @divNearest_le num den hden
  refine ⟨exponentOf num den, divNearest num (den * 2 ^ exponentOf num den), rfl,
    unitsAt_nearestRank hden, ?_⟩
  change num < 2 * perExponent * (den * 2 ^ exponentOf num den) at hmost
  change divNearest num (den * 2 ^ exponentOf num den) ≤ _ at hfits
  generalize divNearest num (den * 2 ^ exponentOf num den) = significand at *
  generalize exponentOf num den = exponent at *
  qify at hmost habove hbelow heven
  refine ⟨hnormal, hfits, ?_, ?_, ?_, ?_, ?_⟩
  · refine hleast.imp_right fun h => ?_
    qify at h
    rw [le_div_iff₀ hcast]
    linarith
  · rw [div_lt_iff₀ hcast]
    linarith
  · rw [← mul_div_assoc, le_div_iff₀ hcast]
    linarith
  · rw [← mul_div_assoc, div_le_iff₀ hcast]
    linarith
  · rw [← mul_div_assoc, div_eq_iff hcast.ne', div_eq_iff hcast.ne']
    exact fun h => heven (h.symm.imp (fun h => by linarith) fun h => by linarith)

/-- The rank of a magnitude is even when its significand is. -/
theorem even_rank_iff {exponent significand : ℕ} :
    Even (exponent * perExponent + significand) ↔ Even significand :=
  Nat.even_add.trans (iff_true_left (Even.mul_left (by decide) exponent))

theorem reaches_zero (hv : 0 ≤ v) : Reaches 0 v := by
  have hzero : unitsAt 0 = 0 := by decide
  have hmid : midpoint 0 = 0 := by simp [midpoint, hzero]
  rw [Reaches, hmid]
  exact hv.lt_or_eq.imp_right fun heq => ⟨heq, Even.zero⟩

/-- A quotient reaches the magnitude that it is rounded to. -/
theorem reaches_nearestRank (hden : 0 < den) : Reaches (nearestRank num den) (num / den) := by
  obtain ⟨exponent, significand, hrank, hunits, hrounds⟩ := @exists_roundsTo num den hden
  have hv : (0 : ℚ) ≤ num / den := by positivity
  generalize (num : ℚ) / den = v at *
  generalize nearestRank num den = rank at *
  obtain hzero | hpos := Nat.eq_zero_or_pos rank
  · rw [hzero]
    exact reaches_zero hv
  by_cases habove : (unitsAt rank : ℚ) ≤ v
  · exact .inl ((midpoint_lt hpos).trans_le habove)
  -- The number is rounded up, so the magnitude below has the same power of two.
  have hscale : (0 : ℚ) < 2 ^ exponent := by positivity
  have hleast : exponent = 0 ∨ perExponent < significand := by
    refine hrounds.least.imp_right fun hleast => ?_
    rw [hunits] at habove
    push_cast at habove
    have hlt := lt_of_mul_lt_mul_right (hleast.trans_lt (not_le.1 habove)) hscale.le
    exact_mod_cast hlt
  have hsignificand : 0 < significand := by
    rcases hleast with rfl | hlt
    · rwa [hrank, Nat.zero_mul, Nat.zero_add] at hpos
    · omega
  have hbelow : unitsAt (rank - 1) = (significand - 1) * 2 ^ exponent := by
    rw [hrank, Nat.add_sub_assoc hsignificand]
    exact unitsAt_add ((Nat.sub_le _ 1).trans hrounds.fits) (hleast.imp_right (by omega))
  have hmid : midpoint rank = (2 * significand - 1) * 2 ^ exponent / 2 := by
    rw [midpoint, hbelow, hunits, Nat.cast_mul, Nat.cast_sub hsignificand]
    push_cast
    ring
  rw [Reaches, hmid, hrank, even_rank_iff]
  rcases hrounds.below.lt_or_eq with hlt | heq
  · exact .inl (by linarith)
  · exact .inr ⟨by linarith, hrounds.even (.inl heq.symm)⟩

/-- A quotient does not reach the magnitude above the one that it is rounded to. -/
theorem not_reaches_succ_nearestRank (hden : 0 < den) :
    ¬Reaches (nearestRank num den + 1) (num / den) := by
  obtain ⟨exponent, significand, hrank, hunits, hrounds⟩ := @exists_roundsTo num den hden
  generalize (num : ℚ) / den = v at *
  generalize nearestRank num den = rank at *
  by_cases hbelow : v ≤ unitsAt rank
  · exact fun hreaches => absurd (hreaches.midpoint_le.trans hbelow) (lt_midpoint_succ _).not_ge
  -- The number is rounded down, so the magnitude above has the same power of two.
  have hscale : (0 : ℚ) < 2 ^ exponent := by positivity
  have hmost : significand < 2 * perExponent := by
    rw [hunits] at hbelow
    push_cast at hbelow
    have hlt := lt_of_mul_lt_mul_right ((not_le.1 hbelow).trans hrounds.most) hscale.le
    exact_mod_cast hlt
  have habove : unitsAt (rank + 1) = (significand + 1) * 2 ^ exponent := by
    rw [hrank, Nat.add_assoc]
    exact unitsAt_add hmost (hrounds.normal.imp_right (by omega))
  have hmid : midpoint (rank + 1) = (2 * significand + 1) * 2 ^ exponent / 2 := by
    rw [midpoint, Nat.add_sub_cancel, habove, hunits]
    push_cast
    ring
  rw [Reaches, hmid, hrank, Nat.even_add_one, even_rank_iff]
  rintro (hlt | ⟨heq, hodd⟩)
  · linarith [hrounds.above]
  · exact hodd (hrounds.even (.inr (by linarith)))

/-- A quotient is rounded to the greatest magnitude that it reaches. -/
theorem le_nearestRank_iff (hden : 0 < den) : rank ≤ nearestRank num den ↔ Reaches rank (num / den) := by
  constructor
  · exact (reaches_nearestRank hden).anti
  · intro hreaches
    by_contra hnot
    exact not_reaches_succ_nearestRank hden (hreaches.anti (Nat.lt_of_not_le hnot))

theorem nearestRank_eq_iff (hden : 0 < den) :
    nearestRank num den = rank ↔ Reaches rank (num / den) ∧ ¬Reaches (rank + 1) (num / den) := by
  rw [← le_nearestRank_iff hden, ← le_nearestRank_iff hden]
  omega

theorem nearestRank_mono {num' den' : ℕ} (hden : 0 < den) (hden' : 0 < den')
    (h : (num : ℚ) / den ≤ num' / den') : nearestRank num den ≤ nearestRank num' den' := by
  rw [le_nearestRank_iff hden']
  exact (reaches_nearestRank hden).of_le h

/-- A magnitude is rounded to itself. -/
theorem nearestRank_unitsAt (rank : ℕ) : nearestRank (unitsAt rank) 1 = rank := by
  rw [nearestRank_eq_iff Nat.one_pos, Nat.cast_one, div_one]
  constructor
  · obtain rfl | hpos := Nat.eq_zero_or_pos rank
    · exact reaches_zero (Nat.cast_nonneg _)
    · exact .inl (midpoint_lt hpos)
  · exact fun hreaches => hreaches.midpoint_le.not_gt (lt_midpoint_succ rank)

/-- The part of a magnitude that a smaller one is at most. -/
def shrink : ℚ := 1 - 1 / 2 ^ 53

theorem shrink_pos : 0 < shrink := by norm_num [shrink]

theorem mul_two_pow_le (exponent : ℕ) {significand : ℕ} (h : significand < 2 * perExponent) :
    (significand : ℚ) * 2 ^ exponent ≤ (significand + 1) * 2 ^ exponent * shrink := by
  have hfits : ((significand + 1 : ℕ) : ℚ) ≤ (2 * 2 ^ 52 : ℕ) := by exact_mod_cast h
  push_cast at hfits
  have hstep : (significand : ℚ) ≤ (significand + 1) * shrink := by
    rw [shrink]
    linarith
  rw [mul_right_comm]
  exact mul_le_mul_of_nonneg_right hstep (by positivity)

theorem mul_two_pow_lt (exponent : ℕ) {significand : ℕ} (h : significand + 1 < 2 * perExponent) :
    (significand : ℚ) * 2 ^ exponent < (significand + 1) * 2 ^ exponent * shrink := by
  have hfits : ((significand + 1 : ℕ) : ℚ) < (2 * 2 ^ 52 : ℕ) := by exact_mod_cast h
  push_cast at hfits
  have hstep : (significand : ℚ) < (significand + 1) * shrink := by
    rw [shrink]
    linarith
  rw [mul_right_comm]
  exact mul_lt_mul_of_pos_right hstep (by positivity)

/-- Magnitudes are no closer to each other than one part in `2 ^ 53`. -/
theorem unitsAt_le_mul (rank : ℕ) : unitsAt rank ≤ unitsAt (rank + 1) * shrink := by
  obtain ⟨exponent, significand, rfl, hmost, hleast⟩ := exists_rank_eq rank
  have hnext : unitsAt (exponent * perExponent + significand + 1) = (significand + 1) * 2 ^ exponent := by
    rw [Nat.add_assoc]
    exact unitsAt_add hmost (hleast.imp_right (by omega))
  rw [hnext, unitsAt_add hmost.le hleast]
  exact_mod_cast mul_two_pow_le exponent hmost

theorem unitsAt_pred_le_mul (rank : ℕ) : unitsAt (rank - 1) ≤ unitsAt rank * shrink := by
  obtain rfl | hpos := Nat.eq_zero_or_pos rank
  · have hzero : unitsAt 0 = 0 := by decide
    simp [hzero]
  · have hstep := unitsAt_le_mul (rank - 1)
    rwa [Nat.sub_add_cancel hpos] at hstep

/-- They are that close only in front of a power of two. -/
theorem unitsAt_lt_mul (rank : ℕ) :
    (unitsAt (rank - 1) : ℚ) < unitsAt rank * shrink ∨ (unitsAt rank : ℚ) < unitsAt (rank + 1) * shrink := by
  obtain ⟨exponent, significand, rfl, hmost, hleast⟩ := exists_rank_eq rank
  by_cases hlast : significand + 1 < 2 * perExponent
  · right
    have hnext : unitsAt (exponent * perExponent + significand + 1) =
        (significand + 1) * 2 ^ exponent := by
      rw [Nat.add_assoc]
      exact unitsAt_add hlast.le (hleast.imp_right (by omega))
    rw [hnext, unitsAt_add hmost.le hleast]
    exact_mod_cast mul_two_pow_lt exponent hlast
  · left
    have hper : 2 ≤ perExponent := by decide
    have hpos : significand ≠ 0 := by omega
    obtain ⟨below, rfl⟩ := Nat.exists_eq_succ_of_ne_zero hpos
    have hnormal : perExponent ≤ below := by omega
    have hbelow : unitsAt (exponent * perExponent + below.succ - 1) = below * 2 ^ exponent := by
      rw [Nat.add_succ, Nat.succ_sub_one]
      exact unitsAt_add ((Nat.le_succ below).trans hmost.le) (.inr hnormal)
    rw [hbelow, unitsAt_add hmost.le hleast]
    exact_mod_cast mul_two_pow_lt exponent hmost

/-- Midpoints are farther from each other. -/
theorem midpoint_lt_mul (rank : ℕ) : midpoint rank < midpoint (rank + 1) * shrink := by
  have hbelow := unitsAt_pred_le_mul rank
  have habove := unitsAt_le_mul rank
  rw [midpoint, midpoint, Nat.add_sub_cancel]
  obtain hlt | hlt := unitsAt_lt_mul rank <;> linarith

theorem midpoint_lt_mul_pow (rank steps : ℕ) :
    midpoint rank < midpoint (rank + steps + 1) * shrink ^ (steps + 1) := by
  induction steps with
  | zero => simpa using midpoint_lt_mul rank
  | succ steps ih =>
    have hstep := mul_lt_mul_of_pos_right (midpoint_lt_mul (rank + steps + 1))
      (pow_pos shrink_pos (steps + 1))
    calc midpoint rank < midpoint (rank + steps + 1) * shrink ^ (steps + 1) := ih
      _ < midpoint (rank + steps + 1 + 1) * shrink * shrink ^ (steps + 1) := hstep
      _ = midpoint (rank + (steps + 1) + 1) * shrink ^ (steps + 1 + 1) := by
        rw [pow_succ' shrink (steps + 1), ← mul_assoc, Nat.add_assoc rank steps 1]

/-- A number that is so many steps less reaches a magnitude that is so many ranks below. -/
theorem Reaches.of_mul_le {w : ℚ} {steps : ℕ} (h : Reaches (rank + steps) v)
    (hle : v * shrink ^ steps ≤ w) : Reaches rank w := by
  cases steps with
  | zero =>
    rw [pow_zero, mul_one] at hle
    exact h.of_le hle
  | succ steps =>
    have hmid := mul_le_mul_of_nonneg_right h.midpoint_le (pow_nonneg shrink_pos.le (steps + 1))
    exact .inl ((midpoint_lt_mul_pow rank steps).trans_le (hmid.trans hle))

/-- The midpoint in front of a power of two. -/
theorem midpoint_mul_perExponent (exponent : ℕ) :
    midpoint ((exponent + 2) * perExponent) = (2 ^ 54 - 1) * 2 ^ exponent / 2 := by
  have hper : perExponent = 2 ^ 52 := rfl
  have hpower : unitsAt ((exponent + 1 + 1) * perExponent + 0) =
      (perExponent + 0) * 2 ^ (exponent + 1) := unitsAt_succ_mul_add perExponent_pos
  have hbelow : unitsAt ((exponent + 1) * perExponent + (perExponent - 1)) =
      (perExponent + (perExponent - 1)) * 2 ^ exponent :=
    unitsAt_succ_mul_add (Nat.sub_lt perExponent_pos Nat.one_pos)
  have hrank : (exponent + 2) * perExponent - 1 =
      (exponent + 1) * perExponent + (perExponent - 1) := by
    rw [hper]
    omega
  rw [midpoint, hrank, hbelow]
  rw [Nat.add_zero] at hpower
  rw [hpower, hper]
  push_cast
  ring

end Magnitude

end TradeNotes
