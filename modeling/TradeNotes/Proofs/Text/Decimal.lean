import Mathlib.Algebra.Order.Field.Rat
import Mathlib.Data.List.Infix
import TradeNotes.Proofs.Text.Cutting

namespace TradeNotes.Text

/-- The number that digits make, when a text holds digits and nothing else. -/
def digits? (t : Text) : Option ℕ :=
  if t ≠ [] ∧ t.all Char.isDigit = true then some (Nat.ofDigitChars 10 t 0) else none

/-- The number that digits make, with a point among them or without one. -/
def unsigned? (t : Text) : Option ℚ :=
  match t.cutAt? ['.'] with
  | none => do
    let whole ← t.digits?
    return whole
  | some (before, after) => do
    let whole ← before.digits?
    let fraction ← after.digits?
    return whole + fraction / 10 ^ after.length

/-- The number that a text stands for, in decimal digits and with a sign before them or without
    one. -/
def decimal? : Text → Option ℚ
  | '-' :: t => (fun v => -v) <$> unsigned? t
  | t => unsigned? t

example : decimal? "-10.250".toList = some (-41 / 4) := by decide +kernel
example : decimal? "1e3".toList = none := by decide +kernel

/-- The digits of a whole number: the first of them is zero for zero alone. -/
structure IsWhole (t : Text) : Prop where
  ne_nil : t ≠ []
  isDigit : ∀ c ∈ t, c.isDigit = true
  head : t.head? = some '0' → t = ['0']

/-- The digits behind a point: the last of them is not zero. -/
structure IsFraction (t : Text) : Prop where
  ne_nil : t ≠ []
  isDigit : ∀ c ∈ t, c.isDigit = true
  last : t.getLast? ≠ some '0'

/-- Decimal digits in which no zero could be left out, with a point among them or without one. -/
inductive IsUnsigned : Text → Prop
  | whole {t : Text} (h : IsWhole t) : IsUnsigned t
  | fraction {before after : Text} (hbefore : IsWhole before) (hafter : IsFraction after) :
      IsUnsigned (before ++ '.' :: after)

/-- Decimal digits in which no zero could be left out, with a sign before them or without one. -/
inductive IsDecimal : Text → Prop
  | unsigned {t : Text} (h : IsUnsigned t) : IsDecimal t
  | negative {t : Text} (h : IsUnsigned t) : IsDecimal ('-' :: t)

variable {t before after : Text}

theorem digits?_eq_some (hne : t ≠ []) (h : ∀ c ∈ t, c.isDigit = true) :
    t.digits? = some (Nat.ofDigitChars 10 t 0) :=
  if_pos ⟨hne, List.all_eq_true.2 h⟩

theorem point_notMem (h : ∀ c ∈ t, c.isDigit = true) : '.' ∉ t :=
  fun hpoint => by cases h '.' hpoint

theorem IsWhole.unsigned?_eq (h : IsWhole t) :
    t.unsigned? = some (Nat.ofDigitChars 10 t 0 : ℚ) := by
  have hpoint : t.cutAt? ['.'] = none := by
    rw [cutAt?_eq_none_iff, List.singleton_infix_iff]
    exact point_notMem h.isDigit
  simp only [unsigned?, hpoint, digits?_eq_some h.ne_nil h.isDigit]
  rfl

theorem unsigned?_fraction (hbefore : IsWhole before) (hafter : IsFraction after) :
    (before ++ '.' :: after).unsigned? =
      some ((Nat.ofDigitChars 10 before 0 : ℚ) +
        (Nat.ofDigitChars 10 after 0 : ℚ) / 10 ^ after.length) := by
  have hpoint : (before ++ '.' :: after).cutAt? ['.'] = some (before, after) := by
    rw [List.append_cons]
    refine cutAt?_eq_some_iff.2 (cutAtFirst_append (List.cons_ne_nil _ _) ?_ after)
    rw [List.dropLast_singleton, List.append_nil, List.singleton_infix_iff]
    exact point_notMem hbefore.isDigit
  simp only [unsigned?, hpoint, digits?_eq_some hbefore.ne_nil hbefore.isDigit,
    digits?_eq_some hafter.ne_nil hafter.isDigit]
  rfl

theorem IsWhole.head?_ne (h : IsWhole t) : t.head? ≠ some '-' :=
  fun hsign => by cases h.isDigit '-' (List.mem_of_mem_head? hsign)

/-- Digits begin with no sign. -/
theorem IsUnsigned.head?_ne (h : IsUnsigned t) : t.head? ≠ some '-' := by
  cases h with
  | whole hwhole => exact hwhole.head?_ne
  | fraction hbefore _ =>
    rw [List.head?_append_of_ne_nil _ hbefore.ne_nil]
    exact hbefore.head?_ne

theorem decimal?_of_head?_ne (h : t.head? ≠ some '-') : t.decimal? = t.unsigned? := by
  unfold decimal?
  split
  · exact absurd rfl h
  · rfl

theorem head?_toDigits {n : ℕ} (h : 0 < n) : (Nat.toDigits 10 n).head? ≠ some '0' := by
  induction n using Nat.strongRecOn with
  | ind n ih =>
    by_cases hsmall : n < 10
    · rw [Nat.toDigits_of_lt_base hsmall, List.head?_singleton, ne_eq, Option.some.injEq,
        Nat.digitChar_eq_zero]
      exact Nat.pos_iff_ne_zero.1 h
    · rw [Nat.toDigits_of_base_le (by decide) (Nat.le_of_not_lt hsmall),
        List.head?_append_of_ne_nil _ Nat.toDigits_ne_nil]
      exact ih (n / 10) (Nat.div_lt_self h (by decide)) (Nat.div_pos (Nat.le_of_not_lt hsmall) (by decide))

theorem isWhole_toDigits (n : ℕ) : IsWhole (Nat.toDigits 10 n) where
  ne_nil := Nat.toDigits_ne_nil
  isDigit _ hc := Nat.isDigit_of_mem_toDigits (by decide) (by decide) hc
  head hzero := by
    obtain rfl | hpos := Nat.eq_zero_or_pos n
    · exact Nat.toDigits_zero 10
    · exact absurd hzero (head?_toDigits hpos)

theorem toList_toString_natCast (n : ℕ) : (toString (n : ℤ)).toList = Nat.toDigits 10 n :=
  Nat.toList_repr

theorem toList_toString_neg {n : ℕ} (h : 0 < n) :
    (toString (-(n : ℤ))).toList = '-' :: Nat.toDigits 10 n := by
  obtain ⟨k, rfl⟩ := Nat.exists_eq_succ_of_ne_zero (Nat.pos_iff_ne_zero.1 h)
  have hrepr : toString (-(k.succ : ℤ)) = "-" ++ k.succ.repr := rfl
  rw [hrepr, String.toList_append, Nat.toList_repr]
  rfl

theorem toDigits_eq_zero_iff {n : ℕ} : Nat.toDigits 10 n = ['0'] ↔ n = 0 := by
  constructor
  · intro h
    have hvalue : Nat.ofDigitChars 10 (Nat.toDigits 10 n) 0 = n := Nat.ofDigitChars_ten_toDigits
    rw [h] at hvalue
    exact hvalue.symm
  · rintro rfl
    exact Nat.toDigits_zero 10

end TradeNotes.Text
