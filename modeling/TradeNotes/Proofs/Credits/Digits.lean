import Mathlib.Data.List.DropRight
import Mathlib.Tactic.FieldSimp
import Mathlib.Tactic.Positivity
import TradeNotes.Credits
import TradeNotes.Proofs.Text.Decimal

namespace TradeNotes.Credits

variable {places n : ℕ}

/-- The digits of a fraction and the zeros that are left out behind them fill its places. -/
theorem exists_fractionDigits_append (places n : ℕ) :
    ∃ zeros, List.leftpad places '0' (Nat.toDigits 10 n) =
      fractionDigits places n ++ List.replicate zeros '0' := by
  let digits := List.leftpad places '0' (Nat.toDigits 10 n)
  refine ⟨(digits.rtakeWhile (· == '0')).length, ?_⟩
  have hzeros : digits.rtakeWhile (· == '0') =
      List.replicate (digits.rtakeWhile (· == '0')).length '0' := by
    rw [List.eq_replicate_length]
    exact fun c hc => by simpa using List.mem_rtakeWhile_imp hc
  rw [← hzeros]
  exact List.rdropWhile_append_rtakeWhile.symm

theorem ofDigitChars_leftpad (places n : ℕ) :
    Nat.ofDigitChars 10 (List.leftpad places '0' (Nat.toDigits 10 n)) 0 = n := by
  rw [List.leftpad, Nat.ofDigitChars_append, Nat.ofDigitChars_replicate_zero, Nat.mul_zero,
    Nat.ofDigitChars_ten_toDigits]

/-- The digits of a fraction make its number, counted at the last of them. -/
theorem fractionDigits_value (hpos : 0 < n) (hn : n < 10 ^ places) :
    (Nat.ofDigitChars 10 (fractionDigits places n) 0 : ℚ) / 10 ^ (fractionDigits places n).length =
      n / 10 ^ places := by
  obtain ⟨zeros, hparts⟩ := exists_fractionDigits_append places n
  have hvalue := congrArg (Nat.ofDigitChars 10 · 0) hparts
  have hlength := congrArg List.length hparts
  have hplaces : 0 < places := by
    by_contra hnot
    rw [Nat.eq_zero_of_not_pos hnot, Nat.pow_zero] at hn
    omega
  have hfits : (Nat.toDigits 10 n).length ≤ places :=
    (Nat.length_toDigits_le_iff (by decide) hplaces).2 hn
  simp only [ofDigitChars_leftpad, Nat.ofDigitChars_append, Nat.ofDigitChars_replicate_zero] at hvalue
  rw [List.length_leftpad, Nat.max_eq_left hfits, List.length_append, List.length_replicate] at hlength
  generalize fractionDigits places n = digits at hvalue hlength ⊢
  rw [hvalue, hlength, pow_add, Nat.cast_mul, Nat.cast_pow, Nat.cast_ofNat]
  field_simp

theorem isFraction_fractionDigits (hpos : 0 < n) : Text.IsFraction (fractionDigits places n) where
  ne_nil hnil := by
    obtain ⟨zeros, hparts⟩ := exists_fractionDigits_append places n
    have hvalue := congrArg (Nat.ofDigitChars 10 · 0) hparts
    simp only [ofDigitChars_leftpad, hnil, List.nil_append, Nat.ofDigitChars_replicate_zero,
      Nat.mul_zero] at hvalue
    exact Nat.pos_iff_ne_zero.1 hpos hvalue
  isDigit c hc := by
    obtain ⟨zeros, hparts⟩ := exists_fractionDigits_append places n
    have hpadded : c ∈ List.leftpad places '0' (Nat.toDigits 10 n) := by
      rw [hparts]
      exact List.mem_append_left _ hc
    obtain hzero | hdigit := List.mem_append.1 hpadded
    · rw [List.eq_of_mem_replicate hzero]
      rfl
    · exact (Text.isWhole_toDigits n).isDigit c hdigit
  last hlast := by
    have hdropped : fractionDigits places n =
        (List.leftpad places '0' (Nat.toDigits 10 n)).rdropWhile (· == '0') := rfl
    have hne : (List.leftpad places '0' (Nat.toDigits 10 n)).rdropWhile (· == '0') ≠ [] := by
      rintro hnil
      rw [hdropped, hnil] at hlast
      cases hlast
    have hnot := List.rdropWhile_last_not (· == '0') _ hne
    rw [hdropped, List.getLast?_eq_some_getLast hne, Option.some.injEq] at hlast
    rw [hlast] at hnot
    exact hnot rfl

theorem decimalText_of_mod_eq_zero (h : n % 10 ^ places = 0) :
    decimalText places n = Nat.toDigits 10 (n / 10 ^ places) := by
  simp only [decimalText, Nat.pow_eq, h, if_pos]

theorem decimalText_of_mod_pos (h : 0 < n % 10 ^ places) :
    decimalText places n = Nat.toDigits 10 (n / 10 ^ places) ++
      '.' :: fractionDigits places (n % 10 ^ places) := by
  simp [decimalText, Nat.pow_eq, Nat.pos_iff_ne_zero.1 h]

/-- A whole number is written without a fraction, whatever its places are. -/
theorem decimalText_mul (places n : ℕ) : decimalText places (n * 10 ^ places) = Nat.toDigits 10 n := by
  rw [decimalText_of_mod_eq_zero (Nat.mul_mod_left _ _), Nat.mul_div_cancel _ (by positivity)]

/-- A number is written so that no zero could be left out. -/
theorem isUnsigned_decimalText (places n : ℕ) : Text.IsUnsigned (decimalText places n) := by
  obtain hzero | hpos := Nat.eq_zero_or_pos (n % 10 ^ places)
  · rw [decimalText_of_mod_eq_zero hzero]
    exact .whole (Text.isWhole_toDigits _)
  · rw [decimalText_of_mod_pos hpos]
    exact .fraction (Text.isWhole_toDigits _) (isFraction_fractionDigits hpos)

/-- What is written stands for the number. -/
theorem unsigned?_decimalText (places n : ℕ) :
    (decimalText places n).unsigned? = some ((n : ℚ) / 10 ^ places) := by
  have hparts := Nat.div_add_mod n (10 ^ places)
  have hwhole : (n : ℚ) / 10 ^ places =
      (n / 10 ^ places : ℕ) + (n % 10 ^ places : ℕ) / 10 ^ places := by
    have hcast : ((10 ^ places * (n / 10 ^ places) + n % 10 ^ places : ℕ) : ℚ) = n := by
      rw [hparts]
    rw [← hcast]
    push_cast
    field_simp
  obtain hzero | hpos := Nat.eq_zero_or_pos (n % 10 ^ places)
  · rw [decimalText_of_mod_eq_zero hzero, (Text.isWhole_toDigits _).unsigned?_eq,
      Nat.ofDigitChars_ten_toDigits, hwhole, hzero]
    simp
  · rw [decimalText_of_mod_pos hpos,
      Text.unsigned?_fraction (Text.isWhole_toDigits _) (isFraction_fractionDigits hpos),
      Nat.ofDigitChars_ten_toDigits, fractionDigits_value hpos (Nat.mod_lt _ (by positivity)), hwhole]

/-- Nothing but zero is written as zero. -/
theorem decimalText_eq_zero_iff : decimalText places n = ['0'] ↔ n = 0 := by
  constructor
  · intro h
    have hvalue := unsigned?_decimalText places n
    have hzero : Text.unsigned? ['0'] = some 0 := by decide +kernel
    rw [h, hzero, Option.some.injEq, eq_comm, div_eq_zero_iff] at hvalue
    simpa using hvalue
  · rintro rfl
    rw [← Nat.zero_mul (10 ^ places), decimalText_mul, Nat.toDigits_zero]

end TradeNotes.Credits
