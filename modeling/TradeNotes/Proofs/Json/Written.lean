import TradeNotes.Json.Writer
import TradeNotes.Proofs.Json.Numbers
import TradeNotes.Proofs.Json.Scaling

namespace TradeNotes.Json.NumberText

/-- Digits of which so many stand before the point, as a number. -/
def plain (negative : Bool) (digits : Text) (before : ℤ) : NumberText :=
  if before ≤ 0 then ⟨negative, ['0'], List.replicate before.natAbs '0' ++ digits, none⟩
  else
    let fraction := digits.drop before.natAbs
    ⟨negative, digits.take before.natAbs ++ List.replicate (before.natAbs - digits.length) '0',
      if fraction.isEmpty then ['0'] else fraction, none⟩

/-- Digits of which one stands before the point, and its power of ten, as a number. -/
def scientific (negative : Bool) (digits : Text) (exponent : ℤ) : NumberText :=
  ⟨negative, digits.take 1, digits.drop 1,
    some (decide (exponent < 0), Nat.toDigits 10 exponent.natAbs)⟩

/-- A finite number as it is written. -/
def ofMagnitude (negative : Bool) (m : Magnitude) : NumberText :=
  if m.units = 0 then ⟨negative, ['0'], ['0'], none⟩
  else
    let decimal := m.shortest layout.tie
    let digits := Nat.toDigits 10 decimal.digits
    let before := decimal.exponent + digits.length
    if layout.least ≤ before - 1 ∧ before - 1 ≤ layout.most then plain negative digits before
    else scientific negative digits (before - 1)

variable {negative : Bool} {digits : Text} {before exponent : ℤ} {m : Magnitude} {d : Decimal}

theorem text_plain (hne : digits ≠ []) :
    (plain negative digits before).text = (if negative then ['-'] else []) ++ Layout.plain digits before := by
  unfold plain Layout.plain
  split
  · simp [text, fractionText, exponentText, hne]
  · by_cases hall : digits.length ≤ before.natAbs
    · simp [text, fractionText, exponentText, List.drop_eq_nil_of_le hall]
    · have hmore : digits.drop before.natAbs ≠ [] := by simpa using hall
      simp [text, fractionText, exponentText, hmore]

theorem text_scientific :
    (scientific negative digits exponent).text =
      (if negative then ['-'] else []) ++ layout.scientific digits exponent := by
  unfold scientific Layout.scientific text fractionText exponentText
  have hplus : layout.plus = ['+'] := rfl
  by_cases hsign : exponent < 0
  · simp [hsign]
  · simp [hsign, hplus]

theorem text_ofMagnitude (negative : Bool) (m : Magnitude) :
    (ofMagnitude negative m).text = layout.text (.finite negative m) := by
  unfold ofMagnitude Layout.text Layout.magnitude
  by_cases hzero : m.units = 0
  · simp only [if_pos hzero]
    simp [text, fractionText, exponentText]
  · simp only [if_neg hzero]
    split
    · exact text_plain Nat.toDigits_ne_nil
    · exact text_scientific

theorem negative_plain : (plain negative digits before).negative = negative := by
  unfold plain
  split <;> rfl

theorem negative_scientific : (scientific negative digits exponent).negative = negative := rfl

theorem negative_ofMagnitude (negative : Bool) (m : Magnitude) :
    (ofMagnitude negative m).negative = negative := by
  unfold ofMagnitude
  by_cases hzero : m.units = 0
  · simp only [if_pos hzero]
  · simp only [if_neg hzero]
    split
    · exact negative_plain
    · exact negative_scientific

/-- Whether a number stands for a decimal, so that it can be read. Its digits are those of the
    decimal, apart from zeros that fill up a whole number. -/
structure Writes (n : NumberText) (d : Decimal) : Prop where
  wellFormed : n.IsWellFormed
  value : (n.significand : ℚ) * 10 ^ n.power = d.toRat
  digits : n.significand = d.digits ∧ n.power = d.exponent ∨ n.power = -1
  fits : n.significand ≤ maxSignificand
  inRange : ∀ negative digits, n.exponent = some (negative, digits) →
    Nat.ofDigitChars 10 digits 0 < 2 ^ 31

theorem isWhole_take {k : ℕ} (hd : 0 < d.digits) (hk : 0 < k) (zeros : ℕ) :
    Text.IsWhole ((Nat.toDigits 10 d.digits).take k ++ List.replicate zeros '0') := by
  have hwhole := Text.isWhole_toDigits d.digits
  have hfirst := Text.head?_toDigits hd
  have hhead : ((Nat.toDigits 10 d.digits).take k ++ List.replicate zeros '0').head? =
      (Nat.toDigits 10 d.digits).head? := by
    cases hdigits : Nat.toDigits 10 d.digits with
    | nil => exact absurd hdigits hwhole.ne_nil
    | cons c rest =>
      obtain ⟨k, rfl⟩ := Nat.exists_eq_succ_of_ne_zero (Nat.pos_iff_ne_zero.1 hk)
      rfl
  refine ⟨?_, ?_, fun hzero => absurd (hhead ▸ hzero) hfirst⟩
  · intro hnil
    rw [hnil, List.head?_nil] at hhead
    exact hwhole.ne_nil (List.head?_eq_none_iff.1 hhead.symm)
  · intro c hc
    obtain hc | hc := List.mem_append.1 hc
    · exact hwhole.isDigit c (List.mem_of_mem_take hc)
    · rw [List.eq_of_mem_replicate hc]
      rfl

theorem Writes.of_eq {n : NumberText} (hn : n.IsWellFormed) (hsignificand : n.significand = d.digits)
    (hpower : n.power = d.exponent) (hfits : d.digits ≤ maxSignificand)
    (hexponent : ∀ negative digits, n.exponent = some (negative, digits) →
      Nat.ofDigitChars 10 digits 0 < 2 ^ 31) : n.Writes d where
  wellFormed := hn
  value := by rw [hsignificand, hpower, Decimal.toRat]
  digits := .inl ⟨hsignificand, hpower⟩
  fits := hsignificand ▸ hfits
  inRange := hexponent

section Digits

variable (hd : 0 < d.digits) (hfits : d.digits ≤ maxSignificand) (hdigits : digits = Nat.toDigits 10 d.digits)

include hdigits

theorem isDigit_digits : ∀ c ∈ digits, c.isDigit = true :=
  hdigits ▸ (Text.isWhole_toDigits d.digits).isDigit

theorem ofDigitChars_digits : Nat.ofDigitChars 10 digits 0 = d.digits :=
  hdigits ▸ Nat.ofDigitChars_ten_toDigits

theorem lt_ten_pow_length : d.digits < 10 ^ digits.length := by
  have hpos : 0 < (Nat.toDigits 10 d.digits).length := Nat.length_toDigits_pos
  rw [hdigits]
  exact (Nat.length_toDigits_le_iff (by decide) hpos).1 le_rfl

include hfits

/-- A fraction with zeros in front of the digits. -/
theorem writes_fraction {zeros : ℕ} (hexponent : d.exponent = -((zeros + digits.length : ℕ) : ℤ)) :
    Writes ⟨negative, ['0'], List.replicate zeros '0' ++ digits, none⟩ d := by
  have hvalue := ofDigitChars_digits hdigits
  have hdigit := isDigit_digits hdigits
  refine .of_eq ⟨Text.isWhole_toDigits 0, ?_, by rintro _ _ ⟨⟩⟩ ?_ ?_ hfits (by rintro _ _ ⟨⟩)
  · intro c hc
    obtain hc | hc := List.mem_append.1 hc
    · rw [List.eq_of_mem_replicate hc]
      rfl
    · exact hdigit c hc
  · simp [significand, Nat.ofDigitChars_append, Nat.ofDigitChars_cons, hvalue]
  · simp only [power, markedPower, List.length_append, List.length_replicate, hexponent]
    omega

include hd

/-- Digits with the point among them. -/
theorem writes_split {k : ℕ} (hk : 0 < k)
    (hexponent : d.exponent = -((digits.length - k : ℕ) : ℤ)) :
    Writes ⟨negative, digits.take k, digits.drop k, none⟩ d := by
  have hvalue := ofDigitChars_digits hdigits
  have hwhole := isWhole_take hd hk 0
  rw [List.replicate_zero, List.append_nil, ← hdigits] at hwhole
  refine .of_eq ⟨hwhole, ?_, by rintro _ _ ⟨⟩⟩ ?_ ?_ hfits (by rintro _ _ ⟨⟩)
  · exact fun c hc => isDigit_digits hdigits c (List.mem_of_mem_drop hc)
  · simp only [significand, List.take_append_drop, hvalue]
  · simp only [power, markedPower, List.length_drop, hexponent]
    omega

omit hfits in
/-- A whole number with zeros behind the digits, and one behind the point. -/
theorem writes_whole {zeros : ℕ} (hexponent : d.exponent = zeros) (hmost : digits.length + zeros ≤ 16) :
    Writes ⟨negative, digits ++ List.replicate zeros '0', ['0'], none⟩ d := by
  have hvalue := ofDigitChars_digits hdigits
  have hless := lt_ten_pow_length hdigits
  have hpos : 0 < digits.length := by
    rw [hdigits]
    exact Nat.length_toDigits_pos
  have hwhole := isWhole_take hd hpos zeros
  rw [← hdigits, List.take_length] at hwhole
  have hsignificand : significand ⟨negative, digits ++ List.replicate zeros '0', ['0'], none⟩ =
      10 * (10 ^ zeros * d.digits) := by
    simp [significand, Nat.ofDigitChars_append, Nat.ofDigitChars_cons, hvalue]
  refine ⟨⟨hwhole, by simp, by rintro _ _ ⟨⟩⟩, ?_, .inr rfl, ?_, by rintro _ _ ⟨⟩⟩
  · have hpower : power ⟨negative, digits ++ List.replicate zeros '0', ['0'], none⟩ = -1 := rfl
    rw [hsignificand, hpower, Decimal.toRat, hexponent, zpow_natCast]
    push_cast
    ring
  · rw [hsignificand]
    have hpower : 10 * (10 ^ zeros * d.digits) ≤ 10 * 10 ^ 16 := by
      refine Nat.mul_le_mul_left 10 ?_
      calc 10 ^ zeros * d.digits ≤ 10 ^ zeros * 10 ^ digits.length := Nat.mul_le_mul_left _ hless.le
        _ = 10 ^ (digits.length + zeros) := by rw [Nat.add_comm, pow_add]
        _ ≤ 10 ^ 16 := Nat.pow_le_pow_right (by decide) hmost
    exact hpower.trans (by decide)

/-- Digits without an exponent stand for the decimal, as long as no more than sixteen stand before
    the point. -/
theorem writes_plain (hbefore : before = d.exponent + digits.length) (hmost : before ≤ 16) :
    (plain negative digits before).Writes d := by
  unfold plain
  split
  · exact writes_fraction hfits hdigits (by omega)
  · by_cases hall : digits.length ≤ before.natAbs
    · rw [List.drop_eq_nil_of_le hall, List.take_of_length_le hall]
      exact writes_whole hd hdigits (by omega) (by omega)
    · have hmore : digits.drop before.natAbs ≠ [] := by simpa using hall
      simp only [List.isEmpty_iff, if_neg hmore, Nat.sub_eq_zero_of_le (Nat.le_of_not_le hall),
        List.replicate_zero, List.append_nil]
      exact writes_split hd hfits hdigits (by omega) (by omega)

/-- Digits with an exponent stand for the decimal, as long as the exponent has 31 bits. -/
theorem writes_scientific (hexponent : exponent = d.exponent + digits.length - 1)
    (hmost : exponent.natAbs < 2 ^ 31) : (scientific negative digits exponent).Writes d := by
  have hpos : 0 < digits.length := by
    rw [hdigits]
    exact Nat.length_toDigits_pos
  have hwhole := isWhole_take hd Nat.one_pos 0
  rw [List.replicate_zero, List.append_nil, ← hdigits] at hwhole
  have hpower : Nat.ofDigitChars 10 (Nat.toDigits 10 exponent.natAbs) 0 = exponent.natAbs :=
    Nat.ofDigitChars_ten_toDigits
  refine .of_eq ⟨hwhole, ?_, ?_⟩ ?_ ?_ hfits ?_
  · exact fun c hc => isDigit_digits hdigits c (List.mem_of_mem_drop hc)
  · rintro _ _ ⟨⟩
    exact ⟨Nat.toDigits_ne_nil, (Text.isWhole_toDigits _).isDigit⟩
  · simp only [significand, scientific, List.take_append_drop]
    exact ofDigitChars_digits hdigits
  · simp only [power, markedPower, scientific, List.length_drop, hpower, decide_eq_true_eq]
    split <;> omega
  · rintro _ _ ⟨⟩
    rwa [hpower]

end Digits

theorem natAbs_exponent_lt (hm : 0 < m.units) :
    ((m.shortest .toEven).exponent + (Nat.toDigits 10 (m.shortest .toEven).digits).length - 1).natAbs <
      2 ^ 31 := by
  have hpos := Magnitude.digits_shortest_pos hm .toEven
  have hdigits := Magnitude.digits_shortest_le hm .toEven
  have hleast := Magnitude.le_exponent_shortest hm .toEven
  have hlog := Magnitude.neg_le_log hm
  have hmost : (m.shortest .toEven).exponent ≤ 308 :=
    power_le (Magnitude.roundsBack_shortest hm .toEven) hpos
  have hlength : (Nat.toDigits 10 (m.shortest .toEven).digits).length ≤ 18 :=
    (Nat.length_toDigits_le_iff (by decide) (by decide)).2 (by omega)
  omega

/-- A magnitude other than zero is written as its shortest decimal. -/
theorem writes_ofMagnitude (negative : Bool) (hm : 0 < m.units) :
    (ofMagnitude negative m).Writes (m.shortest .toEven) := by
  have hpos := Magnitude.digits_shortest_pos hm .toEven
  have hfits : (m.shortest .toEven).digits ≤ maxSignificand :=
    (Magnitude.digits_shortest_le hm .toEven).trans (by decide)
  have hmark := natAbs_exponent_lt hm
  unfold ofMagnitude
  rw [if_neg hm.ne']
  simp only
  split
  · next hplain =>
    have hmost : layout.most = 15 := rfl
    exact writes_plain hpos hfits rfl rfl (by omega)
  · exact writes_scientific hpos hfits rfl rfl hmark

theorem isWellFormed_ofMagnitude (negative : Bool) (m : Magnitude) : (ofMagnitude negative m).IsWellFormed := by
  obtain hzero | hpos := Nat.eq_zero_or_pos m.units
  · rw [ofMagnitude, if_pos hzero]
    exact ⟨Text.isWhole_toDigits 0, by simp, by rintro _ _ ⟨⟩⟩
  · exact (writes_ofMagnitude negative hpos).wellFormed

/-- A finite number is read as it is written. -/
theorem readNumber_layout (negative : Bool) (m : Magnitude) {rest : Text} (hrest : EndsNumber rest) :
    readNumber (layout.text (.finite negative m) ++ rest) = some (ofMagnitude negative m, rest) := by
  rw [← text_ofMagnitude]
  exact readNumber_text (isWellFormed_ofMagnitude negative m) hrest

end TradeNotes.Json.NumberText
