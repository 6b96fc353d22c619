import TradeNotes.Proofs.Numeral.Bounds
import TradeNotes.Proofs.Tables.Lookup

namespace TradeNotes.Tables

variable {t : Tables} {units : List Text}

/-- Units that all have letters make a numeral, of one letter for each. -/
theorem exists_numeral (h : ∀ unit ∈ units, t.units.get? unit ≠ none) :
    ∃ letters, t.numeral units = .ok letters ∧ letters.length = units.length := by
  obtain ⟨letters, hletters⟩ := exists_forall₂_iff.2 fun unit hunit =>
    Option.ne_none_iff_exists'.1 (h unit hunit)
  exact ⟨letters, numeral_eq_ok_iff.2 hletters, hletters.length_eq.symm⟩

/-- One unit is worth nothing without a division exactly when there are none. -/
theorem perUnit_value (credits : Binary64) (letters : Numeral) :
    perUnit credits letters.value =
      if letters = [] then .zero else credits.div (Binary64.ofNat letters.value) := by
  unfold perUnit
  by_cases hnil : letters = []
  · rw [if_neg (by rw [hnil]; decide), if_pos hnil]
  · have hvalue : letters.value ≠ 0 := mt Numeral.value_eq_zero_iff.1 hnil
    rw [if_pos (Nat.pos_of_ne_zero hvalue), if_neg hnil]

/-- A text is worth nothing exactly when it begins with no letter, and it is worth no more than
    its letters one by one, which is why 64 bits hold every sum on the way to the value of a text
    that is not longer than they can count thousands. Units with letters therefore make a number
    that is zero only when there are no units, and it is then alone that a valuation sets a ratio
    of zero without dividing. -/
theorem values_are_bounded :
    (∀ text : Text, decode text = 0 ↔ text = [] ∨ ¬∃ l : Letter, text.head? = some l.toChar) ∧
    (∀ text : Text, decode text ≤ text.letterTotal ∧ text.letterTotal ≤ 1000 * text.length) ∧
    (∀ text : Text, text.length ≤ 18446744073709551 →
      ∃ last, Reading.decodeChecked text = some last ∧ last.toNat = decode text) ∧
    ∀ (t : Tables) (units : List Text), (∀ unit ∈ units, t.units.get? unit ≠ none) →
      ∃ letters, t.numeral units = .ok letters ∧ letters.text.length = units.length ∧
        t.value units = .ok letters.value ∧ (letters.value = 0 ↔ units = []) ∧
        ∀ metal credits,
          t.assignMetal units metal credits = .ok (t.setRatio metal (perUnit credits letters.value)) ∧
          perUnit credits letters.value =
            if units = [] then .zero else credits.div (Binary64.ofNat letters.value) := by
  refine ⟨Reading.decode_eq_zero_iff, fun text => ?_, fun text htext => ?_, fun t units hunits => ?_⟩
  · exact ⟨Reading.decode_le_letterTotal text, Text.letterTotal_le text⟩
  · have hbound := Reading.decode_le text
    exact Reading.exists_decodeChecked (by omega)
  · obtain ⟨letters, hletters, hlength⟩ := exists_numeral hunits
    have hvalue : t.value units = .ok letters.value := value_eq_ok_iff.2 ⟨letters, hletters, rfl⟩
    have hnil : letters = [] ↔ units = [] := by
      rw [← List.length_eq_zero_iff, hlength, List.length_eq_zero_iff]
    refine ⟨letters, hletters, ?_, hvalue, Numeral.value_eq_zero_iff.trans hnil, fun metal credits => ?_⟩
    · rw [Numeral.text, List.length_map, hlength]
    · refine ⟨bind_eq_ok_iff.2 ⟨_, hvalue, rfl⟩, ?_⟩
      rw [perUnit_value]
      exact if_congr hnil rfl rfl

end TradeNotes.Tables
