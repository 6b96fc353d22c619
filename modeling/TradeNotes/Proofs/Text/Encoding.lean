import Mathlib.Tactic.IntervalCases
import TradeNotes.Proofs.Text.Decoding
import TradeNotes.Proofs.Text.Lines

namespace TradeNotes.Text

theorem beginUtf8_two {d : Nat} (hleast : 2 ≤ d) (hmost : d < 32) :
    beginUtf8 (UInt8.ofNat (d + 192)) = ([], .partway d 1 0x80 0xBF) := by
  interval_cases d <;> rfl

/-- The byte that begins a form of three bytes, with the byte after it within bounds when
    the form is not overlong and stands for no surrogate. -/
theorem beginUtf8_three {d e : Nat} (hd : d < 16) (he : e < 64) (hlong : 0x20 ≤ d * 64 + e)
    (hscalar : d * 64 + e < 0x360 ∨ 0x37F < d * 64 + e) :
    ∃ least most, beginUtf8 (UInt8.ofNat (d + 224)) = ([], .partway d 2 least most) ∧
      least.toNat ≤ e + 128 ∧ e + 128 ≤ most.toNat := by
  refine ⟨if d = 0 then 0xA0 else 0x80, if d = 13 then 0x9F else 0xBF, ?_, ?_, ?_⟩
  · interval_cases d <;> rfl
  · split <;> simp only [UInt8.reduceToNat] <;> omega
  · split <;> simp only [UInt8.reduceToNat] <;> omega

/-- The byte that begins a form of four bytes, with the byte after it within bounds when the
    form is not overlong and stands for no code point above U+10FFFF. -/
theorem beginUtf8_four {d e : Nat} (he : e < 64) (hlong : 0x10 ≤ d * 64 + e)
    (hscalar : d * 64 + e < 0x110) :
    ∃ least most, beginUtf8 (UInt8.ofNat (d + 240)) = ([], .partway d 3 least most) ∧
      least.toNat ≤ e + 128 ∧ e + 128 ≤ most.toNat := by
  have hd : d < 5 := by omega
  refine ⟨if d = 0 then 0x90 else 0x80, if d = 4 then 0x8F else 0xBF, ?_, ?_, ?_⟩
  · interval_cases d <;> rfl
  · split <;> simp only [UInt8.reduceToNat] <;> omega
  · split <;> simp only [UInt8.reduceToNat] <;> omega

namespace Utf8Progress

variable {value n d : Nat} {least most : UInt8}

theorem next_partway (hd : d < 64) (hleast : least.toNat ≤ d + 128) (hmost : d + 128 ≤ most.toNat) :
    (partway value n least most).next (UInt8.ofNat (d + 128)) =
      if n ≤ 1 then ([Char.ofNat (value * 64 + d)], idle)
      else ([], partway (value * 64 + d) (n - 1) 0x80 0xBF) := by
  have hbyte : (UInt8.ofNat (d + 128)).toNat = d + 128 :=
    UInt8.toNat_ofNat_of_lt (show d + 128 < 256 by omega)
  have hbounds : least ≤ UInt8.ofNat (d + 128) ∧ UInt8.ofNat (d + 128) ≤ most := by
    rw [UInt8.le_iff_toNat_le, UInt8.le_iff_toNat_le, hbyte]
    exact ⟨hleast, hmost⟩
  simp only [next, hbounds.1, hbounds.2, decide_true, Bool.and_true, if_true, hbyte,
    Nat.add_sub_cancel]

theorem decode_partway (hd : d < 64) (hleast : least.toNat ≤ d + 128)
    (hmost : d + 128 ≤ most.toNat) (rest : List UInt8) :
    (partway value (n + 2) least most).decode (UInt8.ofNat (d + 128) :: rest) =
      (partway (value * 64 + d) (n + 1) 0x80 0xBF).decode rest := by
  rw [decode, next_partway hd hleast hmost, if_neg (by omega)]
  rfl

theorem within_tail (hd : d < 64) :
    (0x80 : UInt8).toNat ≤ d + 128 ∧ d + 128 ≤ (0xBF : UInt8).toNat := by
  simp only [UInt8.reduceToNat]
  omega

theorem decode_partway_tail (hd : d < 64) (rest : List UInt8) :
    (partway value (n + 2) 0x80 0xBF).decode (UInt8.ofNat (d + 128) :: rest) =
      (partway (value * 64 + d) (n + 1) 0x80 0xBF).decode rest :=
  decode_partway hd (within_tail hd).1 (within_tail hd).2 rest

theorem decode_partway_last (hd : d < 64) (rest : List UInt8) :
    (partway value 1 0x80 0xBF).decode (UInt8.ofNat (d + 128) :: rest) =
      Char.ofNat (value * 64 + d) :: ofUtf8 rest := by
  rw [decode, next_partway hd (within_tail hd).1 (within_tail hd).2]
  rfl

end Utf8Progress

theorem ofUtf8_cons (b : UInt8) (rest : List UInt8) :
    ofUtf8 (b :: rest) = (beginUtf8 b).1 ++ (beginUtf8 b).2.decode rest := rfl

open Utf8Progress

/-- The bytes of a character are read as this character, whatever follows them. -/
theorem ofUtf8_utf8EncodeChar_append (c : Char) (rest : List UInt8) :
    ofUtf8 (String.utf8EncodeChar c ++ rest) = c :: ofUtf8 rest := by
  obtain ⟨v, hv⟩ : ∃ v, c.val.toNat = v := ⟨_, rfl⟩
  have hc : Char.ofNat v = c := by
    rw [← hv]
    exact Char.ofNat_toNat c
  have hvalid : v < 0xD800 ∨ (0xDFFF < v ∧ v < 0x110000) := by
    rw [← hv]
    exact c.valid
  -- One case for each length of the form. In each, `hpoint` puts the bits of the code point
  -- together again, as reading does.
  unfold String.utf8EncodeChar
  simp only [hv]
  split
  · next hone =>
    have hbyte : (UInt8.ofNat v).toNat = v := UInt8.toNat_ofNat_of_lt (show v < 256 by omega)
    have hascii : UInt8.ofNat v < 0x80 := by
      rw [UInt8.lt_iff_toNat_lt, hbyte]
      exact Nat.lt_succ_of_le hone
    rw [List.singleton_append, ofUtf8_cons, beginUtf8_ascii hascii, hbyte, hc]
    rfl
  · split
    · next htwo =>
      have hpoint : v / 64 % 32 * 64 + v % 64 = v := by omega
      simp only [List.cons_append, List.nil_append]
      rw [ofUtf8_cons, beginUtf8_two (by omega) (by omega), List.nil_append,
        decode_partway_last (by omega), hpoint, hc]
    · split
      · next hthree =>
        have hpoint : (v / 4096 % 16 * 64 + v / 64 % 64) * 64 + v % 64 = v := by omega
        obtain ⟨least, most, hbegin, hleast, hmost⟩ := beginUtf8_three
          (d := v / 4096 % 16) (e := v / 64 % 64) (by omega) (by omega) (by omega) (by omega)
        simp only [List.cons_append, List.nil_append]
        rw [ofUtf8_cons, hbegin, List.nil_append, decode_partway (by omega) hleast hmost,
          decode_partway_last (by omega), hpoint, hc]
      · have hpoint :
            ((v / 262144 % 8 * 64 + v / 4096 % 64) * 64 + v / 64 % 64) * 64 + v % 64 = v := by
          omega
        obtain ⟨least, most, hbegin, hleast, hmost⟩ := beginUtf8_four
          (d := v / 262144 % 8) (e := v / 4096 % 64) (by omega) (by omega) (by omega)
        simp only [List.cons_append, List.nil_append]
        rw [ofUtf8_cons, hbegin, List.nil_append, decode_partway (by omega) hleast hmost,
          decode_partway_tail (by omega), decode_partway_last (by omega), hpoint, hc]

theorem ofUtf8_utf8 (t : Text) : ofUtf8 t.utf8 = t := by
  induction t with
  | nil => rfl
  | cons c rest ih =>
    unfold utf8 at ih ⊢
    rw [List.flatMap_cons, ofUtf8_utf8EncodeChar_append, ih]

/-- A text without a newline has none in its UTF-8 form. -/
theorem newline_notMem_utf8 {t : Text} (ht : '\n' ∉ t) : 0x0A ∉ t.utf8 := by
  intro hmem
  obtain ⟨before, after, hcut⟩ := List.append_of_mem hmem
  -- Bytes are read apart at a newline, so that one would be among the characters.
  have hread := congrArg ofUtf8 hcut
  rw [ofUtf8_utf8, ofUtf8_append_ascii before (by decide)] at hread
  apply ht
  rw [hread]
  exact List.mem_append_right _ List.mem_cons_self

/-- Lines that are written one by one, each with a newline behind it, are read back trimmed. -/
theorem linesOfBytes_flatMap_utf8 {lines : List Text} (hlines : ∀ line ∈ lines, '\n' ∉ line) :
    linesOfBytes (lines.flatMap fun line => utf8 (line ++ ['\n'])) = lines.map trim := by
  induction lines with
  | nil => rfl
  | cons line rest ih =>
    obtain ⟨hline, hrest⟩ := List.forall_mem_cons.1 hlines
    have hnewline : utf8 (line ++ ['\n']) = utf8 line ++ [0x0A] := List.flatMap_append
    have hread : (ofUtf8 (utf8 line ++ [0x0A])).trim = line.trim := by
      rw [← hnewline, ofUtf8_utf8]
      exact trim_append_blank line (List.forall_mem_singleton.2 (by decide))
    rw [List.flatMap_cons, hnewline, List.append_assoc, List.singleton_append,
      linesOfBytes_append_newline (newline_notMem_utf8 hline), hread, ih hrest, List.map_cons]

end TradeNotes.Text
