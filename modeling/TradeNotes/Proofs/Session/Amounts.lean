import TradeNotes.Proofs.Binary64.Range
import TradeNotes.Proofs.Credits.Shape
import TradeNotes.Proofs.Numeral.Growth
import TradeNotes.Proofs.Session.Ratios

namespace TradeNotes

/-- What is printed for the worth of units of a metal with a ratio. -/
inductive PrintsAmount : Numeral → Binary64 → Text → Prop
  /-- A product below the limit is printed in decimal digits. -/
  | digits {letters : Numeral} {m n : Magnitude} {amount : Text}
      (hvalue : Binary64.ofNat letters.value = .finite false n)
      (hproduct : n.toRat * m.toRat < Binary64.limit) (hamount : amount.IsUnsigned) :
      PrintsAmount letters (.finite false m) amount
  /-- A product from the limit on is out of range. -/
  | beyond {letters : Numeral} {m n : Magnitude}
      (hvalue : Binary64.ofNat letters.value = .finite false n)
      (hproduct : Binary64.limit ≤ n.toRat * m.toRat) :
      PrintsAmount letters (.finite false m) "inf".toList
  /-- The credits of the metal were out of range. -/
  | infinite {letters : Numeral} (hletters : letters ≠ []) : PrintsAmount letters (.infinite false) "inf".toList
  /-- Zero times infinity is not a number. -/
  | nothing : PrintsAmount [] (.infinite false) "NaN".toList

variable {letters : Numeral} {ratio : Binary64} {phrase metal answer : Text} {units : List Text}

/-- Finite products that are not negative are printed in decimal digits. -/
theorem Credits.isUnsigned_text (m : Magnitude) : (Credits.text (.finite false m)).IsUnsigned := by
  rw [text, textBy_positive]
  exact isUnsigned_magnitudeText _ m

theorem printsAmount (hletters : letters.value < 2 ^ 73) (hratio : ratio.Nonnegative) :
    PrintsAmount letters ratio (Credits.text ((Binary64.ofNat letters.value).mul ratio)) := by
  cases hratio with
  | finite m =>
    obtain ⟨n, hvalue, _⟩ := Binary64.ofNat_of_lt (Binary64.natCast_lt_limit hletters (by decide))
    rw [hvalue]
    obtain hproduct | hproduct := lt_or_ge (n.toRat * m.toRat) Binary64.limit
    · obtain ⟨r, hfinite, _⟩ := Binary64.mul_of_lt false false hproduct
      rw [hfinite]
      exact .digits hvalue hproduct (Credits.isUnsigned_text r)
    · rw [Binary64.mul_of_le false false hproduct]
      exact .beyond hvalue hproduct
  | infinite =>
    by_cases hnil : letters = []
    · have hproduct : (Binary64.ofNat (Numeral.value [])).mul (.infinite false) = .nan := by
        decide +kernel
      rw [hnil, hproduct]
      exact .nothing
    · have hpos : 0 < letters.value := Nat.pos_of_ne_zero fun h => hnil (Numeral.value_eq_zero_iff.1 h)
      obtain ⟨n, hvalue, hn⟩ := Binary64.exists_ofNat_eq_finite hpos (Tables.log2_lt hletters)
      have hproduct : (Binary64.finite false n).mul (.infinite false) = .infinite false := by
        simp only [Binary64.mul, if_neg (Nat.pos_iff_ne_zero.1 hn), bne_self_eq_false]
      rw [hvalue, hproduct]
      exact .infinite hnil

/-- The answer to a question about credits is its phrase with the amount. -/
theorem Tables.exists_of_result_queryCredits {t : Tables}
    (h : t.result (.queryCredits phrase units metal) = .ok (some answer)) :
    ∃ letters ratio, t.numeral units = .ok letters ∧ t.metals.get? metal = some ratio ∧
      answer = phrase ++ " is ".toList ++
        (Credits.text ((Binary64.ofNat letters.value).mul ratio) ++ " Credits".toList) := by
  rw [result_queryCredits] at h
  obtain ⟨ratio, hratio, hrest⟩ := bind_eq_ok_iff.1 h
  obtain ⟨measured, hmeasured, hanswer⟩ := bind_eq_ok_iff.1 hrest
  obtain ⟨letters, hletters, rfl⟩ := value_eq_ok_iff.1 hmeasured
  exact ⟨letters, ratio, hletters, ratio_eq_ok_iff.1 hratio, (Option.some.inj (Except.ok.inj hanswer)).symm⟩

namespace Turn

/-- In every state of a session, the amount in the answer to a question about credits is in decimal
    digits as long as the metal has a finite ratio and the product is in range. Otherwise it is
    infinite, and not a number when nothing is asked about and the ratio is infinite. -/
theorem amounts_are_decimal (session : Text) {lines : List Text} {question : Text}
    (hlines : ∀ line ∈ lines, line.length < 2 ^ 63) (hquestion : question.length < 2 ^ 63)
    (hcommand : Command.ofLine question.trim = .ok (.queryCredits phrase units metal))
    (hanswer : (ofLine session (tablesAfter session .empty lines) question).outcome =
      .ok (some answer)) :
    ∃ letters ratio amount, (tablesAfter session .empty lines).numeral units = .ok letters ∧
      (tablesAfter session .empty lines).metals.get? metal = some ratio ∧
      answer = phrase ++ " is ".toList ++ (amount ++ " Credits".toList) ∧
      PrintsAmount letters ratio amount := by
  rw [outcome_of_command hcommand] at hanswer
  obtain ⟨letters, ratio, hletters, hratio, rfl⟩ := Tables.exists_of_result_queryCredits hanswer
  have hunits : units.length ≤ question.length := Command.length_unitsRead_le hcommand
  have hvalue := Tables.value_lt hletters (hunits.trans_lt hquestion)
  have hnonnegative : ratio.Nonnegative :=
    hasNonnegativeRatios_tablesAfter hlines (by rintro _ _ ⟨⟩) metal ratio hratio
  exact ⟨letters, ratio, _, hletters, hratio, rfl, printsAmount hvalue hnonnegative⟩

/-- The worth of two units that is out of range, although that of one is not. -/
theorem amounts_are_decimal_beyond :
    let lines : List Text := ["glob is I".toList,
      "glob Gold is ".toList ++ ('1' :: List.replicate 308 '0') ++ " Credits".toList]
    let question : Text := "how many Credits is glob glob Gold?".toList
    (∀ line ∈ lines, line.length < 2 ^ 63) ∧ question.length < 2 ^ 63 ∧
      Command.ofLine question.trim = .ok (.queryCredits "glob glob Gold".toList
        ["glob".toList, "glob".toList] "gold".toList) ∧
      (ofLine [] (tablesAfter [] .empty lines) question).outcome =
        .ok (some "glob glob Gold is inf Credits".toList) ∧
      ∃ letters ratio, (tablesAfter [] .empty lines).metals.get? "gold".toList = some ratio ∧
        PrintsAmount letters ratio "inf".toList := by
  intro lines question
  have hlines : ∀ line ∈ lines, line.length < 2 ^ 63 := by
    simp only [lines, List.forall_mem_cons]
    decide +kernel
  have hquestion : question.length < 2 ^ 63 := by decide +kernel
  have hcommand : Command.ofLine question.trim = .ok (.queryCredits "glob glob Gold".toList
      ["glob".toList, "glob".toList] "gold".toList) := by decide +kernel
  have hanswer : (ofLine [] (tablesAfter [] .empty lines) question).outcome =
      .ok (some "glob glob Gold is inf Credits".toList) := by decide +kernel
  obtain ⟨letters, ratio, amount, _, hratio, hamount, hprints⟩ :=
    amounts_are_decimal [] hlines hquestion hcommand hanswer
  have hparts : "glob glob Gold is inf Credits".toList =
      "glob glob Gold".toList ++ " is ".toList ++ ("inf".toList ++ " Credits".toList) := by decide +kernel
  rw [hparts] at hamount
  have hinf := List.append_cancel_right (List.append_cancel_left hamount)
  exact ⟨hlines, hquestion, hcommand, hanswer, letters, ratio, hratio, hinf ▸ hprints⟩

/-- Not every amount is in decimal digits. -/
theorem exists_amount_not_decimal :
    ¬∀ (lines : List Text) (question phrase metal amount : Text) (units : List Text),
      Command.ofLine question.trim = .ok (.queryCredits phrase units metal) →
      (ofLine [] (tablesAfter [] .empty lines) question).outcome =
        .ok (some (phrase ++ " is ".toList ++ (amount ++ " Credits".toList))) →
      amount.unsigned?.isSome = true := by
  intro h
  have hamount := h ["glob is I".toList,
      "glob Gold is ".toList ++ ('1' :: List.replicate 308 '0') ++ " Credits".toList]
    "how many Credits is glob glob Gold?".toList "glob glob Gold".toList "gold".toList "inf".toList
    ["glob".toList, "glob".toList] (by decide +kernel) (by decide +kernel)
  revert hamount
  decide +kernel

end Turn

end TradeNotes
