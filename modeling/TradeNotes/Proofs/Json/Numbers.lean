import TradeNotes.Json.Reader
import TradeNotes.Proofs.Text.Decimal

namespace TradeNotes.Json

/-- Whether a text cannot go on with what a number may hold. -/
def EndsNumber (rest : Text) : Prop :=
  ∀ c ∈ rest.head?, c.isDigit = false ∧ c ≠ '.' ∧ c ≠ 'e' ∧ c ≠ 'E'

section Digits

variable {t rest : Text} {start : ℕ}

theorem readDigits_append (hne : t ≠ []) (h : ∀ c ∈ t, c.isDigit = true)
    (hrest : ∀ c ∈ rest.head?, c.isDigit = false) : readDigits (t ++ rest) = some (t, rest) := by
  have hstop : rest.takeWhile Char.isDigit = [] ∧ rest.dropWhile Char.isDigit = rest := by
    cases rest with
    | nil => exact ⟨rfl, rfl⟩
    | cons c rest =>
      have hc := hrest c rfl
      simp [hc]
  unfold readDigits
  rw [List.takeWhile_append_of_pos h, List.dropWhile_append_of_pos h, hstop.1, hstop.2,
    List.append_nil]
  simp [hne]

theorem readWhole_append (h : Text.IsWhole t) (hrest : ∀ c ∈ rest.head?, c.isDigit = false) :
    readWhole (t ++ rest) = some (t, rest) := by
  have halone : ¬(t.head? = some '0' ∧ 1 < t.length) := by
    rintro ⟨hzero, hmore⟩
    rw [h.head hzero] at hmore
    exact absurd hmore (by decide)
  unfold readWhole
  rw [readDigits_append h.ne_nil h.isDigit hrest]
  simp only [Option.bind_eq_bind, Option.bind_some, if_neg halone]
  rfl

end Digits

namespace NumberText

/-- Whether the parts of a number are made of digits, with no zero in front of others. -/
structure IsWellFormed (n : NumberText) : Prop where
  whole : Text.IsWhole n.whole
  fraction : ∀ c ∈ n.fraction, c.isDigit = true
  exponent : ∀ negative digits, n.exponent = some (negative, digits) →
    digits ≠ [] ∧ ∀ c ∈ digits, c.isDigit = true

/-- The text of the point and the digits behind it. -/
def fractionText (n : NumberText) : Text :=
  if n.fraction.isEmpty then [] else '.' :: n.fraction

/-- The text of the exponent with its mark. -/
def exponentText (n : NumberText) : Text :=
  match n.exponent with
  | none => []
  | some (negative, digits) => 'e' :: (if negative then '-' else '+') :: digits

/-- The text of a number. -/
def text (n : NumberText) : Text :=
  (if n.negative then ['-'] else []) ++ n.whole ++ n.fractionText ++ n.exponentText

/-- The digits of a number as one whole number. -/
def significand (n : NumberText) : ℕ :=
  Nat.ofDigitChars 10 (n.whole ++ n.fraction) 0

/-- The power of ten that stands behind the mark. -/
def markedPower (n : NumberText) : ℤ :=
  match n.exponent with
  | none => 0
  | some (negative, digits) =>
    if negative then -(Nat.ofDigitChars 10 digits 0 : ℤ) else Nat.ofDigitChars 10 digits 0

/-- The power of ten of the last digit of a number. -/
def power (n : NumberText) : ℤ :=
  n.markedPower - n.fraction.length

variable {n : NumberText} {rest : Text}

theorem readExponent_append (h : n.IsWellFormed) (hrest : EndsNumber rest) :
    readExponent (n.exponentText ++ rest) = some (n.exponent, rest) := by
  unfold exponentText
  cases hexponent : n.exponent with
  | none =>
    cases rest with
    | nil => rfl
    | cons c rest =>
      obtain ⟨_, _, hlower, hupper⟩ := hrest c rfl
      simp [readExponent, hlower, hupper]
  | some marked =>
    obtain ⟨negative, digits⟩ := marked
    obtain ⟨hne, hdigits⟩ := h.exponent negative digits hexponent
    have hread := readDigits_append hne hdigits fun c hc => (hrest c hc).1
    cases negative with
    | true => simp [readExponent, hread]
    | false => simp [readExponent, hread]

theorem head?_exponentText (hrest : EndsNumber rest) :
    ∀ c ∈ (n.exponentText ++ rest).head?, c.isDigit = false ∧ c ≠ '.' := by
  unfold exponentText
  cases n.exponent with
  | none => exact fun c hc => ⟨(hrest c hc).1, (hrest c hc).2.1⟩
  | some marked =>
    rintro c ⟨⟩
    decide

theorem readFraction_append (h : n.IsWellFormed) (hrest : EndsNumber rest) :
    readFraction (n.fractionText ++ (n.exponentText ++ rest)) =
      some (n.fraction, n.exponentText ++ rest) := by
  have hhead := head?_exponentText (n := n) hrest
  generalize n.exponentText ++ rest = after at hhead
  unfold fractionText
  cases hfraction : n.fraction with
  | nil =>
    cases after with
    | nil => rfl
    | cons c after =>
      obtain ⟨_, hpoint⟩ := hhead c rfl
      simp only [List.isEmpty_nil, if_true, List.nil_append]
      unfold readFraction
      split
      · next heq => exact absurd (List.cons.inj heq).1 hpoint
      · rfl
  | cons digit digits =>
    have hdigits := h.fraction
    rw [hfraction] at hdigits
    exact readDigits_append (List.cons_ne_nil _ _) hdigits fun c hc => (hhead c hc).1

theorem head?_fractionText (hrest : EndsNumber rest) :
    ∀ c ∈ (n.fractionText ++ (n.exponentText ++ rest)).head?, c.isDigit = false := by
  have hhead := head?_exponentText (n := n) hrest
  unfold fractionText
  split
  · exact fun c hc => (hhead c hc).1
  · rintro c ⟨⟩
    decide

/-- A number that is written as it should be is read as it is. -/
theorem readNumber_text (h : n.IsWellFormed) (hrest : EndsNumber rest) :
    readNumber (n.text ++ rest) = some (n, rest) := by
  have hwhole := readWhole_append h.whole (head?_fractionText (n := n) hrest)
  have hfraction := readFraction_append h hrest
  have hexponent := readExponent_append h hrest
  have htext : n.text ++ rest = (if n.negative then ['-'] else []) ++
      (n.whole ++ (n.fractionText ++ (n.exponentText ++ rest))) := by
    simp only [text, List.append_assoc]
  have hsign : (n.whole ++ (n.fractionText ++ (n.exponentText ++ rest))).head? ≠ some '-' := by
    rw [List.head?_append_of_ne_nil _ h.whole.ne_nil]
    exact h.whole.head?_ne
  generalize n.whole ++ (n.fractionText ++ (n.exponentText ++ rest)) = t at hwhole htext hsign
  obtain ⟨negative, whole, fraction, exponent⟩ := n
  unfold readNumber
  rw [htext]
  cases negative with
  | true => simp [hwhole, hfraction, hexponent]
  | false =>
    simp only [Bool.false_eq_true, if_false, List.nil_append]
    split
    · exact absurd rfl hsign
    · simp [hwhole, hfraction, hexponent]

theorem le_ofDigitChars (t : Text) (start : ℕ) : start ≤ Nat.ofDigitChars 10 t start := by
  rw [Nat.ofDigitChars_eq_ofDigitChars_zero]
  exact (Nat.le_mul_of_pos_left _ (Nat.pow_pos (by decide))).trans (Nat.le_add_right _ _)

/-- Digits are gathered as long as they have room. -/
theorem gather_eq {t : Text} {start : ℕ} (h : Nat.ofDigitChars 10 t start ≤ maxSignificand) :
    gather start t = (Nat.ofDigitChars 10 t start, []) := by
  induction t generalizing start with
  | nil => rfl
  | cons c rest ih =>
    rw [Nat.ofDigitChars_cons, Nat.mul_comm 10 start] at h
    have hroom : start * 10 + (c.toNat - '0'.toNat) ≤ maxSignificand := (le_ofDigitChars rest _).trans h
    rw [gather, Nat.ofDigitChars_cons, Nat.mul_comm 10 start, if_neg (Nat.not_lt.2 hroom), ih h]

/-- A number whose digits all have room is read by scaling them as one whole number. -/
theorem magnitude?_eq (hfits : n.significand ≤ maxSignificand)
    (hexponent : ∀ negative digits, n.exponent = some (negative, digits) →
      Nat.ofDigitChars 10 digits 0 < 2 ^ 31) :
    n.magnitude? = scale (Binary64.ofNat n.significand) n.power := by
  have hsignificand : Nat.ofDigitChars 10 n.fraction (Nat.ofDigitChars 10 n.whole 0) = n.significand :=
    (Nat.ofDigitChars_append 0).symm
  have hwhole : Nat.ofDigitChars 10 n.whole 0 ≤ maxSignificand :=
    (le_ofDigitChars n.fraction _).trans (hsignificand ▸ hfits)
  unfold magnitude?
  rw [gather_eq hwhole]
  simp only
  rw [gather_eq (hsignificand ▸ hfits), hsignificand]
  simp only [List.length_nil, Nat.sub_zero, Nat.cast_zero, Int.zero_sub]
  unfold power markedPower
  cases hmark : n.exponent with
  | none => simp only [Int.zero_sub]
  | some marked =>
    obtain ⟨negative, digits⟩ := marked
    have hless := hexponent negative digits hmark
    simp only
    rw [if_neg (by omega)]
    congr 1
    cases negative with
    | true =>
      simp only [if_true]
      omega
    | false =>
      simp only [Bool.false_eq_true, if_false]
      omega

end NumberText

end TradeNotes.Json
