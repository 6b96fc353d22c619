import Mathlib.Tactic.GCongr
import Mathlib.Tactic.Ring
import Mathlib.Tactic.SplitIfs
import TradeNotes.Text.Utf8

namespace TradeNotes.Text

theorem eq_of_ofNat_eq_newline {n : Nat} (h : Char.ofNat n = '\n') : n = 0x0A := by
  by_cases hvalid : n.isValidChar
  · rw [Char.ofNat, dif_pos hvalid] at h
    exact congrArg Char.toNat h
  · rw [Char.ofNat, dif_neg hvalid] at h
    cases h

namespace Utf8Progress

/-- What holds of every progress that is reached: the next byte of a longer form is no ASCII
    byte, and the code point to come is none of ASCII either. -/
def Sound : Utf8Progress → Prop
  | idle => True
  | partway value following least _ =>
    0x80 ≤ least.toNat ∧ 1 ≤ following ∧
      0x80 ≤ value * 64 ^ following + (least.toNat - 0x80) * 64 ^ (following - 1)

theorem sound_beginUtf8 (b : UInt8) : (beginUtf8 b).2.Sound := by
  unfold beginUtf8
  simp only [UInt8.lt_iff_toNat_lt, ← UInt8.toNat_inj, UInt8.reduceToNat]
  split_ifs <;> simp [Sound] <;> omega

theorem newline_notMem_beginUtf8 {b : UInt8} (hb : b ≠ 0x0A) : '\n' ∉ (beginUtf8 b).1 := by
  unfold beginUtf8
  split_ifs
  · intro hmem
    have hvalue := eq_of_ofNat_eq_newline (List.mem_singleton.1 hmem).symm
    exact hb (UInt8.toNat_inj.1 hvalue)
  all_goals simp [replacement]

theorem beginUtf8_ascii {b : UInt8} (hb : b < 0x80) :
    beginUtf8 b = ([Char.ofNat b.toNat], idle) := by
  unfold beginUtf8
  rw [if_pos hb]

theorem beginUtf8_progress (b : UInt8) : (beginUtf8 b).1 ≠ [] ∨ (beginUtf8 b).2 ≠ idle := by
  unfold beginUtf8
  split_ifs <;> simp

/-- All that one byte more can do to a longer form: it completes it, continues it, or makes a
    replacement of it and begins a character itself. -/
theorem next_partway_cases (value following : Nat) (least most b : UInt8) :
    (least.toNat ≤ b.toNat ∧ following ≤ 1 ∧ (partway value following least most).next b =
      ([Char.ofNat (value * 0x40 + (b.toNat - 0x80))], idle)) ∨
    (least.toNat ≤ b.toNat ∧ 2 ≤ following ∧ (partway value following least most).next b =
      ([], partway (value * 0x40 + (b.toNat - 0x80)) (following - 1) 0x80 0xBF)) ∨
    (partway value following least most).next b =
      (replacement :: (beginUtf8 b).1, (beginUtf8 b).2) := by
  simp only [next]
  split
  · next hbounds =>
    simp only [Bool.and_eq_true, decide_eq_true_eq, UInt8.le_iff_toNat_le] at hbounds
    split
    · next hlast => exact .inl ⟨hbounds.1, hlast, rfl⟩
    · next hmore => exact .inr (.inl ⟨hbounds.1, by omega, rfl⟩)
  · exact .inr (.inr rfl)

theorem sound_next {p : Utf8Progress} (hp : p.Sound) (b : UInt8) : (p.next b).2.Sound := by
  cases p with
  | idle => exact sound_beginUtf8 b
  | partway value following least most =>
    obtain ⟨hleast, hfollowing, hvalue⟩ := hp
    obtain ⟨_, _, hnext⟩ | ⟨hle, hmore, hnext⟩ | hnext :=
      next_partway_cases value following least most b
    · rw [hnext]
      trivial
    · rw [hnext]
      obtain ⟨left, rfl⟩ : ∃ left, following = left + 2 := ⟨following - 2, by omega⟩
      refine ⟨by decide, by omega, ?_⟩
      calc 0x80 ≤ value * 64 ^ (left + 2) + (least.toNat - 0x80) * 64 ^ (left + 1) := hvalue
        _ ≤ value * 64 ^ (left + 2) + (b.toNat - 0x80) * 64 ^ (left + 1) := by gcongr
        _ = (value * 0x40 + (b.toNat - 0x80)) * 64 ^ (left + 1) := by ring
        _ ≤ _ := Nat.le_add_right _ _
    · rw [hnext]
      exact sound_beginUtf8 b

/-- The character that a byte completes, if any, is a newline only when the byte is one. -/
theorem newline_notMem_next {p : Utf8Progress} (hp : p.Sound) {b : UInt8} (hb : b ≠ 0x0A) :
    '\n' ∉ (p.next b).1 := by
  cases p with
  | idle => exact newline_notMem_beginUtf8 hb
  | partway value following least most =>
    obtain ⟨hleast, hfollowing, hvalue⟩ := hp
    obtain ⟨hle, hlast, hnext⟩ | ⟨_, _, hnext⟩ | hnext :=
      next_partway_cases value following least most b
    · rw [hnext]
      intro hmem
      have hpoint := eq_of_ofNat_eq_newline (List.mem_singleton.1 hmem).symm
      obtain rfl : following = 1 := by omega
      simp only [pow_one, Nat.sub_self, pow_zero] at hvalue
      omega
    · rw [hnext]
      exact List.not_mem_nil
    · rw [hnext]
      simp only [List.mem_cons, not_or]
      exact ⟨by decide, newline_notMem_beginUtf8 hb⟩

/-- A byte completes a character or leaves something open. -/
theorem next_progress (p : Utf8Progress) (b : UInt8) :
    (p.next b).1 ≠ [] ∨ (p.next b).2 ≠ idle := by
  cases p with
  | idle => exact beginUtf8_progress b
  | partway value following least most =>
    obtain ⟨_, _, hnext⟩ | ⟨_, _, hnext⟩ | hnext :=
      next_partway_cases value following least most b <;> simp [hnext]

/-- A byte of ASCII makes a replacement of what is open, as the end of the bytes does, and
    stands for itself. -/
theorem next_ascii {p : Utf8Progress} (hp : p.Sound) {b : UInt8} (hb : b < 0x80) :
    p.next b = (p.decode [] ++ [Char.ofNat b.toNat], idle) := by
  cases p with
  | idle => exact beginUtf8_ascii hb
  | partway value following least most =>
    have hleast : ¬ least ≤ b := by
      rw [UInt8.le_iff_toNat_le]
      rw [UInt8.lt_iff_toNat_lt] at hb
      have hbound := hp.1
      simp only [UInt8.reduceToNat] at hb
      omega
    simp only [next, hleast, decide_false, Bool.false_and, Bool.false_eq_true, if_false,
      beginUtf8_ascii hb, decode, List.singleton_append]

/-- A byte of ASCII cuts the reading: what stands before it is read as if the bytes ended
    there, and what stands behind it as if they began there. -/
theorem decode_append_ascii {p : Utf8Progress} (hp : p.Sound) (bytes : List UInt8) {b : UInt8}
    (hb : b < 0x80) (rest : List UInt8) :
    p.decode (bytes ++ b :: rest) = p.decode bytes ++ Char.ofNat b.toNat :: ofUtf8 rest := by
  induction bytes generalizing p with
  | nil => simp [decode, next_ascii hp hb, ofUtf8]
  | cons first more ih =>
    simp only [List.cons_append, decode]
    rw [ih (sound_next hp first), List.append_assoc]

theorem newline_notMem_decode {p : Utf8Progress} (hp : p.Sound) {bytes : List UInt8}
    (hbytes : 0x0A ∉ bytes) : '\n' ∉ p.decode bytes := by
  induction bytes generalizing p with
  | nil => cases p <;> simp [decode, replacement]
  | cons first more ih =>
    simp only [List.mem_cons, not_or] at hbytes
    simp only [decode, List.mem_append, not_or]
    exact ⟨newline_notMem_next hp (Ne.symm hbytes.1), ih (sound_next hp first) hbytes.2⟩

/-- Bytes stand for at least one character, also when something was open before them. -/
theorem decode_ne_nil (p : Utf8Progress) {bytes : List UInt8} (h : p ≠ idle ∨ bytes ≠ []) :
    p.decode bytes ≠ [] := by
  induction bytes generalizing p with
  | nil =>
    cases p with
    | idle => simp at h
    | partway value following least most => simp [decode]
  | cons first more ih =>
    simp only [decode, ne_eq, List.append_eq_nil_iff, not_and]
    intro hempty
    exact ih _ (.inl ((next_progress p first).resolve_left (not_not_intro hempty)))

end Utf8Progress

theorem ofUtf8_append_ascii (bytes : List UInt8) {b : UInt8} (hb : b < 0x80)
    (rest : List UInt8) :
    ofUtf8 (bytes ++ b :: rest) = ofUtf8 bytes ++ Char.ofNat b.toNat :: ofUtf8 rest :=
  Utf8Progress.decode_append_ascii (p := .idle) trivial bytes hb rest

/-- A text has a newline only where the bytes have one. -/
theorem newline_notMem_ofUtf8 {bytes : List UInt8} (hbytes : 0x0A ∉ bytes) :
    '\n' ∉ ofUtf8 bytes :=
  Utf8Progress.newline_notMem_decode (p := .idle) trivial hbytes

theorem ofUtf8_ne_nil {bytes : List UInt8} (hbytes : bytes ≠ []) : ofUtf8 bytes ≠ [] :=
  Utf8Progress.decode_ne_nil .idle (.inr hbytes)

end TradeNotes.Text
