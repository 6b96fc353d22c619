import TradeNotes.Json.Reader
import TradeNotes.Json.Writer

namespace TradeNotes.Json

variable {c : Char} {n : Nat} {t : Text}

theorem leftpad_toDigits : ∀ n < 0x20, List.leftpad 4 '0' (Nat.toDigits 16 n) =
    ['0', '0', Nat.digitChar (n / 16), Nat.digitChar (n % 16)] := by
  decide

theorem hexDigit?_digitChar : ∀ d < 16, Text.hexDigit? (Nat.digitChar d) = some d := by
  decide

/-- Four hexadecimal digits are read as the number that they are written for. -/
theorem readString_unit (hn : n < 0x20) (t : Text) :
    readString (['\\', 'u'] ++ List.leftpad 4 '0' (Nat.toDigits 16 n) ++ t) =
      (readString t).map fun (parts, after) => (.unit n :: parts, after) := by
  have hzero : Text.hexDigit? '0' = some 0 := rfl
  have hvalue : ((0 * 16 + 0) * 16 + n / 16) * 16 + n % 16 = n := by omega
  rw [leftpad_toDigits n hn]
  simp only [List.cons_append, List.nil_append, readString, hzero, Option.bind_eq_bind,
    hexDigit?_digitChar (n / 16) (by omega), hexDigit?_digitChar (n % 16) (by omega),
    Option.bind_some, hvalue]
  cases readString t <;> rfl

/-- A character that needs no escape is read as itself. -/
theorem readString_plain (hquote : c ≠ '"') (hslash : c ≠ '\\') (hcontrol : ¬c.toNat < 0x20) (t : Text) :
    readString (c :: t) = (readString t).map fun (parts, after) => (.char c :: parts, after) := by
  rw [readString.eq_def]
  split
  · next heq => cases heq
  · next heq => exact absurd (List.cons.inj heq).1 hquote
  · next heq => exact absurd (List.cons.inj heq).1 hslash
  · next heq => exact absurd (List.cons.inj heq).1 hslash
  · next heq =>
    obtain ⟨rfl, rfl⟩ := List.cons.inj heq
    simp only [hcontrol, decide_false, beq_eq_false_iff_ne.2 hslash, Bool.or_self,
      Bool.false_eq_true, if_false]
    cases readString t <;> rfl

/-- Whatever a character is, what it is written as is read as a part that stands for it. -/
theorem exists_part (c : Char) :
    ∃ part : StringPart,
      (∀ t, readString (escapeChar c ++ t) =
        (readString t).map fun (parts, after) => (part :: parts, after)) ∧
      ∀ parts, stringText? (part :: parts) = (stringText? parts).map (c :: ·) := by
  unfold escapeChar
  split
  case h_8 hquote hslash _ _ _ _ _ =>
    split
    · next hcontrol =>
      refine ⟨.unit c.toNat, readString_unit hcontrol, fun parts => ?_⟩
      have hchar : Char.ofNat c.toNat = c := Char.ofNat_toNat c
      have hlow : (decide (c.toNat < 0xD800) || decide (0xDFFF < c.toNat)) = true := by
        simp only [Bool.or_eq_true, decide_eq_true_eq]
        omega
      rw [stringText?.eq_def]
      simp only [hlow, if_true, hchar]
    · next hcontrol => exact ⟨.char c, readString_plain hquote hslash hcontrol, fun _ => rfl⟩
  all_goals exact ⟨.char _, fun t => by cases h : readString t <;> simp [readString, simpleEscape?, h],
    fun _ => rfl⟩

/-- A text is read as parts that stand for it, whatever its characters are. -/
theorem exists_parts (t : Text) :
    ∃ parts, (∀ rest, readString (t.flatMap escapeChar ++ '"' :: rest) = some (parts, rest)) ∧
      stringText? parts = some t := by
  induction t with
  | nil => exact ⟨[], fun _ => rfl, rfl⟩
  | cons c t ih =>
    obtain ⟨parts, hread, htext⟩ := ih
    obtain ⟨part, hpart, hvalue⟩ := exists_part c
    refine ⟨part :: parts, fun rest => ?_, by rw [hvalue, htext, Option.map_some]⟩
    rw [List.flatMap_cons, List.append_assoc, hpart, hread, Option.map_some]

end TradeNotes.Json
