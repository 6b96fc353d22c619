import TradeNotes.Proofs.Tables.Lookup

namespace TradeNotes

/-- A sentence is its line, cut at the first keyword. -/
theorem Sentence.ofLine_eq_ok_iff {line : Text} {sentence : Sentence} :
    ofLine line = .ok sentence ↔ ∃ left right, line.cutAt? keyword = some (left, right) ∧
      sentence = ⟨kindOf line, left.trim, right.strip isPadding⟩ := by
  unfold ofLine
  cases line.cutAt? keyword with
  | none => simp
  | some sides => simp [Prod.ext_iff, eq_comm]

namespace Command

variable {sentence : Sentence} {line : Text} {command : Command} {fault : Fault}

/-- An instruction is read as an assignment first, and as a valuation when its right side is no
    letter. -/
theorem ofInstruction_cases (h : ofInstruction sentence = .ok command) :
    (∃ letter, Letter.ofText? sentence.right = some letter ∧
      command = .assignUnit sentence.left letter) ∨
    (∃ figure, Letter.ofText? sentence.right = none ∧
      creditsFigure? sentence.right = some figure ∧
      command = .assignMetal (Measure.ofPhrase sentence.left).units
        (Measure.ofPhrase sentence.left).metal (Binary64.ofNat figure)) := by
  unfold ofInstruction at h
  split at h
  · next letter hletter =>
    cases h
    exact .inl ⟨letter, hletter, rfl⟩
  · next hletter =>
    split at h
    · next figure hfigure =>
      cases h
      exact .inr ⟨figure, hletter, hfigure, rfl⟩
    · cases h

theorem ofInstruction_eq_error (h : ofInstruction sentence = .error fault) :
    fault = .unrecognizedInstruction sentence.right := by
  unfold ofInstruction at h
  split at h
  · cases h
  · split at h
    · cases h
    · exact (Except.error.inj h).symm

/-- A question is read as one about a number first, and as one about a worth when its left side
    does not hold the words for that. -/
theorem ofQuestion_cases (h : ofQuestion line sentence = .ok command) :
    (sentence.left.holds "how much".toList = true ∧
      command = .queryNumeral sentence.right sentence.right.tokens) ∨
    (sentence.left.holds "how much".toList = false ∧
      sentence.left.holds "how many".toList = true ∧
      command = .queryCredits sentence.right (Measure.ofPhrase sentence.right).units
        (Measure.ofPhrase sentence.right).metal) := by
  unfold ofQuestion at h
  split at h
  · next hmuch =>
    cases h
    exact .inl ⟨hmuch, rfl⟩
  · next hmuch =>
    split at h
    · next hmany =>
      cases h
      exact .inr ⟨Bool.eq_false_iff.2 hmuch, hmany, rfl⟩
    · cases h

theorem ofQuestion_eq_error (h : ofQuestion line sentence = .error fault) :
    fault = .unanswerableQuestion line := by
  unfold ofQuestion at h
  split at h
  · cases h
  · split at h
    · cases h
    · exact (Except.error.inj h).symm

/-- The four forms of a line that gives a command, with what is looked for in each before
    the next one is tried. -/
theorem ofLine_cases (h : ofLine line = .ok command) :
    ∃ sentence, Sentence.ofLine line = .ok sentence ∧ sentence.kind = Sentence.kindOf line ∧
      ((∃ letter, sentence.kind = .instruction ∧ Letter.ofText? sentence.right = some letter ∧
          command = .assignUnit sentence.left letter) ∨
        (∃ figure, sentence.kind = .instruction ∧ Letter.ofText? sentence.right = none ∧
          creditsFigure? sentence.right = some figure ∧
          command = .assignMetal (Measure.ofPhrase sentence.left).units
            (Measure.ofPhrase sentence.left).metal (Binary64.ofNat figure)) ∨
        (sentence.kind = .question ∧ sentence.left.holds "how much".toList = true ∧
          command = .queryNumeral sentence.right sentence.right.tokens) ∨
        (sentence.kind = .question ∧ sentence.left.holds "how much".toList = false ∧
          sentence.left.holds "how many".toList = true ∧
          command = .queryCredits sentence.right (Measure.ofPhrase sentence.right).units
            (Measure.ofPhrase sentence.right).metal)) := by
  obtain ⟨sentence, hsentence, hcommand⟩ := bind_eq_ok_iff.1 h
  obtain ⟨left, right, _, hsides⟩ := Sentence.ofLine_eq_ok_iff.1 hsentence
  have hkind : sentence.kind = Sentence.kindOf line := by rw [hsides]
  refine ⟨sentence, hsentence, hkind, ?_⟩
  cases hform : sentence.kind with
  | instruction =>
    simp only [hform] at hcommand
    obtain ⟨letter, hletter, rfl⟩ | ⟨figure, hletter, hfigure, rfl⟩ := ofInstruction_cases hcommand
    · exact .inl ⟨letter, rfl, hletter, rfl⟩
    · exact .inr (.inl ⟨figure, rfl, hletter, hfigure, rfl⟩)
  | question =>
    simp only [hform] at hcommand
    obtain ⟨hmuch, rfl⟩ | ⟨hmuch, hmany, rfl⟩ := ofQuestion_cases hcommand
    · exact .inr (.inr (.inl ⟨rfl, hmuch, rfl⟩))
    · exact .inr (.inr (.inr ⟨rfl, hmuch, hmany, rfl⟩))

/-- A line that gives no command lacks the keyword, or is an instruction or a question
    that cannot be carried out. -/
theorem ofLine_eq_error (h : ofLine line = .error fault) :
    fault = .missingKeyword line ∨ (∃ right, fault = .unrecognizedInstruction right) ∨
      fault = .unanswerableQuestion line := by
  obtain hsentence | ⟨sentence, hsentence, hcommand⟩ := bind_eq_error_iff.1 h
  · left
    unfold Sentence.ofLine at hsentence
    split at hsentence
    · cases hsentence
    · exact (Except.error.inj hsentence).symm
  · right
    cases hkind : sentence.kind with
    | instruction =>
      simp only [hkind] at hcommand
      exact .inl ⟨sentence.right, ofInstruction_eq_error hcommand⟩
    | question =>
      simp only [hkind] at hcommand
      exact .inr (ofQuestion_eq_error hcommand)

end Command

end TradeNotes
