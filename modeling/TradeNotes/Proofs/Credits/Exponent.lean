import TradeNotes.Credits
import TradeNotes.Proofs.Binary64.Leading
import TradeNotes.Proofs.Credits.Logarithm

namespace TradeNotes.Credits

open Magnitude

variable {m : Magnitude} {place : ℕ}

/-- The least rank of the magnitudes that are not below a one at a place behind the point. -/
def rankAtPlace (place : ℕ) : ℕ :=
  let rank := nearestRank one (Nat.pow 10 place)
  if unitsAt rank * Nat.pow 10 place < one then rank + 1 else rank

/-- Whether so many magnitudes below a one at a place are close to it: the distance in parts is no
    more than two units in the last place of the number of the place. -/
def areClose (undercut place : ℕ) : Bool :=
  unitsAt (rankAtPlace place - 1) * Nat.pow 10 place < one &&
    one * (Nat.pow 2 51 - Nat.pow 2 (Nat.log2 place)) ≤
      unitsAt (rankAtPlace place - undercut) * Nat.pow 10 place * Nat.pow 2 51

theorem all_areClose : (undercuts.zipIdx 1).all (fun entry => areClose entry.1 entry.2) = true := by
  decide +kernel

theorem le_of_areClose {undercut : ℕ} (h : areClose undercut place = true)
    (hreach : one ≤ unitsAt (m.rank + undercut) * 10 ^ place) :
    one * (2 ^ 51 - 2 ^ Nat.log2 place) ≤ m.units * 10 ^ place * 2 ^ 51 := by
  simp only [areClose, Bool.and_eq_true, decide_eq_true_eq, Nat.pow_eq] at h
  obtain ⟨hbelow, hclose⟩ := h
  have hless : unitsAt (rankAtPlace place - 1) < unitsAt (m.rank + undercut) :=
    Nat.lt_of_mul_lt_mul_right (hbelow.trans_le hreach)
  have hrank : rankAtPlace place - 1 < m.rank + undercut := unitsAt_strictMono.lt_iff_lt.1 hless
  have hunits : unitsAt (rankAtPlace place - undercut) ≤ m.units :=
    unitsAt_strictMono.monotone (by omega)
  exact hclose.trans (Nat.mul_le_mul_right _ (Nat.mul_le_mul_right _ hunits))

theorem reachesPlace_iff : reachesPlace m place = true ↔
    one ≤ unitsAt (m.rank + undercuts.getD (place - 1) 0) * 10 ^ place := by
  simp [reachesPlace, Nat.pow_eq]

/-- A magnitude that is not below a one at a place counts as reaching it. -/
theorem reachesPlace_of_le (h : one ≤ m.units * 10 ^ place) : reachesPlace m place = true := by
  rw [reachesPlace_iff]
  exact h.trans (Nat.mul_le_mul_right _ (unitsAt_strictMono.monotone (Nat.le_add_right _ _)))

/-- A magnitude that counts as reaching a place is close to it at least. -/
theorem le_of_reachesPlace (hplace : 0 < place) (h : reachesPlace m place = true) :
    one * (2 ^ 51 - 2 ^ Nat.log2 place) ≤ m.units * 10 ^ place * 2 ^ 51 := by
  rw [reachesPlace_iff] at h
  cases hundercut : undercuts[place - 1]? with
  | none =>
    rw [List.getD_eq_getElem?_getD, hundercut, Option.getD_none, Nat.add_zero, ← units] at h
    exact Nat.mul_le_mul h (Nat.sub_le _ _)
  | some undercut =>
    rw [List.getD_eq_getElem?_getD, hundercut, Option.getD_some] at h
    have hmem : (undercut, place) ∈ undercuts.zipIdx 1 := by
      rw [List.mem_zipIdx_iff_le_and_getElem?_sub]
      exact ⟨hplace, hundercut⟩
    have hclose := List.all_eq_true.1 all_areClose (undercut, place) hmem
    exact le_of_areClose hclose h

/-- The place that is found is the first one that is reached, or the one behind the last. -/
theorem firstPlace_cases (m : Magnitude) :
    (0 < firstPlace m ∧ reachesPlace m (firstPlace m) = true ∨ firstPlace m = 324) ∧
      firstPlace m ≤ 324 ∧
      ∀ place, 0 < place → place < firstPlace m → m.units * 10 ^ place < one := by
  have hmissed : ∀ place, 0 < place → (0 < place && reachesPlace m place) = false →
      m.units * 10 ^ place < one := by
    intro place hplace hnot
    by_contra hle
    rw [reachesPlace_of_le (Nat.le_of_not_lt hle)] at hnot
    simp [hplace] at hnot
  cases hfound : (List.range 324).find? fun place => 0 < place && reachesPlace m place with
  | none =>
    have hfirst : firstPlace m = 324 := by rw [firstPlace, hfound, Option.getD_none]
    rw [hfirst]
    refine ⟨.inr rfl, le_rfl, fun place hplace hless => hmissed place hplace ?_⟩
    simpa using List.find?_eq_none.1 hfound place (List.mem_range.2 hless)
  | some first =>
    have hfirst : firstPlace m = first := by rw [firstPlace, hfound, Option.getD_some]
    rw [List.find?_range_eq_some] at hfound
    obtain ⟨hreach, hrange, hbefore⟩ := hfound
    rw [Bool.and_eq_true, decide_eq_true_eq] at hreach
    rw [hfirst]
    refine ⟨.inl hreach, (List.mem_range.1 hrange).le, fun place hplace hless => ?_⟩
    have hnot := hbefore place hless
    rw [Bool.not_eq_true'] at hnot
    exact hmissed place hplace hnot

/-- From one on, the power of ten of the first digit is the right one. -/
theorem exponent_of_one_le (h : one ≤ m.units) : exponent m = Int.log 10 m.toRat := by
  rw [exponent, if_pos h, length_toDigits_eq_log h]

/-- Whether a magnitude is below a one at a place, but close to it: the distance in parts is no more
    than two units in the last place of the number of the place. -/
structure IsJustBelow (m : Magnitude) (place : ℕ) : Prop where
  pos : 0 < place
  le : place ≤ 324
  below : m.toRat < 10 ^ (-(place : ℤ))
  close : 1 - 2 ^ Nat.log2 place / 2 ^ 51 ≤ m.toRat * 10 ^ place

/-- Below one, the place that is found is that of the first digit, or the one in front of it, which
    the magnitude then is close to. -/
theorem exponent_of_lt_one (hm : 0 < m.units) (h : m.units < one) :
    exponent m = Int.log 10 m.toRat ∨ ∃ place : ℕ, exponent m = -place ∧ IsJustBelow m place := by
  obtain ⟨hfirst, hmost, hbefore⟩ := firstPlace_cases m
  have hexponent : exponent m = -(firstPlace m : ℤ) := if_neg (Nat.not_le_of_lt h)
  generalize firstPlace m = place at hfirst hmost hbefore hexponent
  have hplace : 0 < place := by
    obtain ⟨hpos, _⟩ | hlast := hfirst
    · exact hpos
    · omega
  have habove : m.toRat < 10 ^ (-(place : ℤ) + 1) := by
    have hless : m.units * 10 ^ (place - 1) < one := by
      obtain hone | hmore := (Nat.succ_le_of_lt hplace).eq_or_lt
      · rwa [← hone, Nat.sub_self, pow_zero, Nat.mul_one]
      · exact hbefore (place - 1) (by omega) (by omega)
    rw [← toRat_lt_iff] at hless
    convert hless using 2
    omega
  rw [hexponent]
  by_cases hreach : m.units * 10 ^ place < one
  · right
    have hfound : reachesPlace m place = true := by
      obtain ⟨_, hreached⟩ | hlast := hfirst
      · exact hreached
      · have hmany : 10 ^ place ≤ m.units * 10 ^ place := Nat.le_mul_of_pos_left _ hm
        exact absurd hreach (Nat.not_lt_of_le ((one_le_ten_pow hlast).trans hmany))
    refine ⟨place, rfl, hplace, hmost, toRat_lt_iff.2 hreach, ?_⟩
    have hdigits : Nat.log2 place < 51 := (Nat.log2_lt (by omega)).2 (by omega)
    have hlog : 2 ^ Nat.log2 place ≤ 2 ^ 51 := Nat.pow_le_pow_right Nat.two_pos hdigits.le
    have hclose := le_of_reachesPlace hplace hfound
    qify [hlog] at hclose
    rw [toRat, div_mul_eq_mul_div, le_div_iff₀ one_cast_pos]
    linarith
  · left
    rw [← toRat_lt_iff, not_lt] at hreach
    exact (log_eq_of_bounds hreach habove).symm

/-- A number that is a little below one has a common logarithm that is no more than half as far below
    zero. -/
theorem neg_le_logb {x t : ℝ} (ht : t ≤ 1 / 22) (h : 1 - 2 * t ≤ x) (hpos : 0 ≤ t) :
    -t ≤ Real.logb 10 x := by
  have hx : 0 < x := by linarith
  have hten := lt_log_ten
  have hlog := Real.one_sub_inv_le_log_of_pos hx
  have hinv : x⁻¹ ≤ 1 + 11 / 5 * t := by
    rw [inv_le_iff_one_le_mul₀ hx]
    nlinarith
  rw [Real.logb, le_div_iff₀ (by linarith)]
  nlinarith

/-- The common logarithm of such a magnitude is within one unit in its last place of the number of
    the place. -/
theorem IsJustBelow.commonLog_near (h : IsJustBelow m place) (hm : 0 < m.units) :
    |-(place : ℝ) - m.commonLog| ≤ unitInLastPlace m.commonLog := by
  have hpos : (0 : ℝ) < m.toRat := by exact_mod_cast toRat_pos hm
  have hless : m.commonLog < -(place : ℝ) := by
    have hbelow := h.below
    rw [← not_le, ← intCast_le_commonLog_iff hm] at hbelow
    exact_mod_cast not_le.1 hbelow
  have hulp : (2 : ℝ) ^ ((Nat.log2 place : ℤ) - 52) ≤ unitInLastPlace m.commonLog := by
    have hplace : (2 : ℝ) ^ Nat.log2 place ≤ place := by
      exact_mod_cast Nat.log2_self_le h.pos.ne'
    apply le_unitInLastPlace
    rw [abs_of_neg (hless.trans_le (neg_nonpos.2 (Nat.cast_nonneg place)))]
    linarith
  have hlog : -(2 : ℝ) ^ ((Nat.log2 place : ℤ) - 52) ≤ Real.logb 10 (m.toRat * 10 ^ place) := by
    have hdigits : Nat.log2 place < 9 := (Nat.log2_lt h.pos.ne').2 (h.le.trans_lt (by decide))
    apply neg_le_logb
    · calc (2 : ℝ) ^ ((Nat.log2 place : ℤ) - 52) ≤ 2 ^ (-43 : ℤ) :=
            zpow_le_zpow_right₀ (by norm_num) (by omega)
        _ ≤ 1 / 22 := by norm_num
    · have hclose := h.close
      rw [← Rat.cast_le (K := ℝ)] at hclose
      push_cast at hclose
      refine le_of_eq_of_le ?_ hclose
      rw [zpow_sub₀ (by norm_num), zpow_natCast]
      norm_num
      ring
    · positivity
  rw [Real.logb_mul hpos.ne' (by positivity), Real.logb_pow, Real.logb_self_eq_one (by norm_num),
    mul_one] at hlog
  change -_ ≤ m.commonLog + place at hlog
  rw [abs_of_nonneg (by linarith)]
  linarith

/-- A common logarithm that the places of amounts are counted by. -/
noncomputable def computedLog (m : Magnitude) : ℝ :=
  if exponent m = Int.log 10 m.toRat then m.commonLog else exponent m

theorem floor_computedLog (m : Magnitude) : ⌊computedLog m⌋ = exponent m := by
  unfold computedLog
  split
  · next heq => rw [floor_commonLog, heq]
  · exact Int.floor_intCast _

/-- The logarithm is within one unit in the last place. -/
theorem isCommonLog_computedLog : IsCommonLog computedLog := by
  intro m hm
  unfold computedLog
  split
  · rw [sub_self, abs_zero]
    exact zpow_nonneg (by norm_num) _
  · next hne =>
    have hone : m.units < one := by
      by_contra hnot
      exact hne (exponent_of_one_le (Nat.le_of_not_lt hnot))
    obtain heq | ⟨place, hexponent, hnear⟩ := exponent_of_lt_one hm hone
    · exact absurd heq hne
    · rw [hexponent, Int.cast_neg, Int.cast_natCast]
      exact hnear.commonLog_near hm

end TradeNotes.Credits
