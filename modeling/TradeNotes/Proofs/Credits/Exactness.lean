import TradeNotes.Proofs.Binary64.Error
import TradeNotes.Proofs.Credits.Amount
import TradeNotes.Proofs.Tables.Footprint

namespace TradeNotes

namespace Credits

open Magnitude

variable {m : Magnitude} {e : ℤ} {a c k q : ℕ} {amountText : Binary64 → Text}

/-- An amount that is hardly different from a whole number of no more than fifteen digits is written
    as this number, also when the logarithm is one too small. -/
theorem magnitudeText_of_close (he : Int.log 10 m.toRat - 1 ≤ e)
    (hk : k < 10 ^ 15) (hclose : |m.toRat - k| ≤ k * (23 / 10 ^ 17)) :
    magnitudeText e m = Nat.toDigits 10 k := by
  have hunit : (0 : ℚ) < 10 ^ places e m := by positivity
  have hdistance : |m.toRat * 10 ^ places e m - (k * 10 ^ places e m : ℕ)| =
      |m.toRat - k| * 10 ^ places e m := by
    rw [Nat.cast_mul, Nat.cast_pow, Nat.cast_ofNat, ← sub_mul, abs_mul, abs_of_pos hunit]
  have hscaled : (k : ℚ) * 10 ^ places e m < 10 ^ 15 + k * 10 ^ places e m * (23 / 10 ^ 17) := by
    obtain hnone | hsome := Nat.eq_zero_or_pos (places e m)
    · have hcast : (k : ℚ) < 10 ^ 15 := by exact_mod_cast hk
      have hnonneg : (0 : ℚ) ≤ k := Nat.cast_nonneg k
      rw [hnone, pow_zero, mul_one]
      linarith
    · have hbelow := toRat_mul_lt hsome he
      have habove := mul_le_mul_of_nonneg_right (abs_le.1 hclose).1 hunit.le
      linarith
  refine magnitudeText_of_isNearest (.inl ?_)
  rw [Int.cast_natCast, hdistance]
  have hsmall := mul_le_mul_of_nonneg_right hclose hunit.le
  linarith

theorem IsAmountText.eq_of_close (h : IsAmountText amountText) (hk : k < 10 ^ 15)
    (hclose : |m.toRat - k| ≤ k * (23 / 10 ^ 17)) :
    amountText (.finite false m) = Nat.toDigits 10 k := by
  obtain ⟨log10, hlog, rfl⟩ := h
  rw [textBy_positive]
  obtain hzero | hpos := Nat.eq_zero_or_pos m.units
  · have hnone : m.toRat = k := by
      have hbelow := (abs_le.1 hclose).1
      have hnonneg : (0 : ℚ) ≤ k := Nat.cast_nonneg k
      rw [toRat_eq_zero hzero] at hbelow ⊢
      linarith
    exact magnitudeText_of_toRat_eq hnone _
  · exact magnitudeText_of_close (hlog.floor_near hpos).1 hk hclose

/-- Two roundings that change a number by less than one part in `2 ^ 53` each, with a product
    between them. -/
theorem close_of_close {v r y w : ℚ} (hw : 0 ≤ w) (hr : |r - v| ≤ v / 2 ^ 53)
    (hy : |y - w * r| ≤ w * r / 2 ^ 53) : |y - w * v| ≤ w * v * (23 / 10 ^ 17) := by
  have hv : 0 ≤ v := by linarith [abs_nonneg (r - v)]
  obtain ⟨hrbelow, hrabove⟩ := abs_le.1 hr
  have hbelow := mul_le_mul_of_nonneg_left hrbelow hw
  have habove := mul_le_mul_of_nonneg_left hrabove hw
  have hproduct : 0 ≤ w * v := mul_nonneg hw hv
  obtain ⟨hybelow, hyabove⟩ := abs_le.1 hy
  rw [abs_le]
  constructor <;> linarith

/-- What so many units are worth when so many others are worth a whole number of credits: the
    quotient and the product are rounded, which hardly changes the amount. -/
theorem exists_amount (ha : 0 < a) (hale : a ≤ 2 ^ 53) (hqle : q ≤ 2 ^ 53) (hcle : c ≤ 2 ^ 53)
    (hk : q * c = k * a) :
    ∃ m : Magnitude, (Binary64.ofNat q).mul ((Binary64.ofNat c).div (Binary64.ofNat a)) =
      .finite false m ∧ |m.toRat - k| ≤ k * (23 / 10 ^ 17) := by
  obtain ⟨measured, hmeasured, ha'⟩ := Binary64.exists_ofNat hale
  obtain ⟨credits, hcredits, hc'⟩ := Binary64.exists_ofNat hcle
  obtain ⟨asked, hasked, hq'⟩ := Binary64.exists_ofNat hqle
  have hpos : 0 < measured.units := by
    rw [ha']
    exact Nat.mul_pos ha Magnitude.one_pos
  rw [← toRat_eq_natCast_iff] at ha' hc' hq'
  have hmoderate : IsModerate (53 + 53) ((c : ℚ) / a) := (IsModerate.natCast hcle).div (.natCast hale)
  have hratio : IsModerate 200 (credits.toRat / measured.toRat) := by
    rw [hc', ha']
    exact hmoderate.mono (by decide)
  obtain ⟨ratio, hdiv, hclose⟩ := Binary64.exists_div_close false false hpos hratio
  rw [hc', ha'] at hclose
  have hproduct : IsModerate 200 (asked.toRat * ratio.toRat) := by
    rw [hq']
    exact ((IsModerate.natCast hqle).mul (hmoderate.of_close hclose)).mono (by decide)
  obtain ⟨amount, hmul, hclose'⟩ := Binary64.exists_mul_close false false hproduct
  rw [hq'] at hclose'
  refine ⟨amount, ?_, ?_⟩
  · rw [hmeasured, hcredits, hasked, hdiv]
    exact hmul
  · have hexact : (q : ℚ) * (c / a) = k := by
      rw [mul_div_assoc', div_eq_iff (by exact_mod_cast ha.ne')]
      exact_mod_cast hk
    rw [← hexact]
    exact close_of_close (Nat.cast_nonneg q) hclose hclose'

end Credits

namespace Tables

open Credits

variable {t : Tables} {priced asked : List Text} {a c k q : ℕ}

theorem amountText_perUnit {amountText : Binary64 → Text} (h : IsAmountText amountText) (ha : 0 < a)
    (hale : a ≤ 2 ^ 53) (hqle : q ≤ 2 ^ 53) (hcle : c ≤ 2 ^ 53) (hk : q * c = k * a)
    (hfew : k < 10 ^ 15) :
    amountText ((Binary64.ofNat q).mul (perUnit (Binary64.ofNat c) a)) = Nat.toDigits 10 k := by
  obtain ⟨m, hamount, hclose⟩ := exists_amount ha hale hqle hcle hk
  rw [perUnit, if_pos ha, hamount]
  exact h.eq_of_close hfew hclose

/-- A metal is valued by what some units of it are worth. When others are then worth a whole number
    of credits that has no more than fifteen digits, the answer gives just this number. -/
theorem answerCredits_of_whole (hpriced : t.value priced = .ok a) (hasked : t.value asked = .ok q)
    (ha : 0 < a) (hale : a ≤ 2 ^ 53) (hqle : q ≤ 2 ^ 53) (hcle : c ≤ 2 ^ 53) (hk : q * c = k * a)
    (hfew : k < 10 ^ 15) (phrase metal : Text) :
    (∃ t', t.assignMetal priced metal (Binary64.ofNat c) = .ok t' ∧
        t'.answerCredits phrase asked metal =
          .ok (phrase ++ " is ".toList ++ Nat.toDigits 10 k ++ " Credits".toList)) ∧
      ∀ amountText, IsAmountText amountText →
        amountText ((Binary64.ofNat q).mul (perUnit (Binary64.ofNat c) a)) = Nat.toDigits 10 k := by
  refine ⟨⟨t.setRatio metal (perUnit (Binary64.ofNat c) a), ?_, ?_⟩, fun amountText h =>
    amountText_perUnit h ha hale hqle hcle hk hfew⟩
  · rw [assignMetal, hpriced]
    rfl
  · have hratio : (t.setRatio metal (perUnit (Binary64.ofNat c) a)).ratio metal =
        .ok (perUnit (Binary64.ofNat c) a) := by
      rw [ratio_eq_ok_iff, setRatio, NameMap.get?_insert, if_pos rfl]
    have hsame : (t.setRatio metal (perUnit (Binary64.ofNat c) a)).value asked = .ok q := hasked
    have hdigits := amountText_perUnit isAmountText_text ha hale hqle hcle hk hfew
    rw [answerCredits, hratio, hsame, ← hdigits]
    rfl

/-- Three units are worth ten credits, and the question is about the same three. -/
theorem answerCredits_of_whole_thirds :
    let t := empty.assignUnit "glob".toList .I
    let three := ["glob".toList, "glob".toList, "glob".toList]
    ∃ t', t.assignMetal three "iron".toList (Binary64.ofNat 10) = .ok t' ∧
      t'.answerCredits "glob glob glob Iron".toList three "iron".toList =
        .ok "glob glob glob Iron is 10 Credits".toList := by
  intro t three
  have hthree : t.value three = .ok 3 := by decide +kernel
  exact (answerCredits_of_whole hthree hthree (by decide) (by decide) (by decide) (by decide)
    (k := 10) (by decide) (by decide) _ _).1

end Tables

end TradeNotes
