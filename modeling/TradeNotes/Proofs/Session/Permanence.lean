import TradeNotes.Proofs.Command.Forms
import TradeNotes.Proofs.Session.Reachable
import TradeNotes.Proofs.Tables.Footprint
import TradeNotes.Proofs.Tables.Names

namespace TradeNotes

/-- The phrase that a question is about, with which its answer begins. -/
def Command.phrase? : Command → Option Text
  | queryNumeral phrase _ => some phrase
  | queryCredits phrase _ _ => some phrase
  | assignUnit .. | assignMetal .. => none

/-- The phrase of a question is the right side of its line. -/
theorem Command.right_of_phrase? {line phrase : Text} {command : Command}
    (hcommand : ofLine line = .ok command) (hphrase : command.phrase? = some phrase) :
    ∃ sentence, Sentence.ofLine line = .ok sentence ∧ sentence.right = phrase := by
  obtain ⟨sentence, hsentence, _, hforms⟩ := ofLine_cases hcommand
  refine ⟨sentence, hsentence, ?_⟩
  obtain ⟨letter, _, _, rfl⟩ | ⟨figure, _, _, _, rfl⟩ | ⟨_, _, rfl⟩ | ⟨_, _, _, rfl⟩ := hforms
  · cases hphrase
  · cases hphrase
  · exact Option.some.inj hphrase
  · exact Option.some.inj hphrase

namespace Tables

variable {t t' : Tables} {command : Command}

/-- Whether every name that has a value in some tables has one, if another one, in others. -/
structure Within (t t' : Tables) : Prop where
  units : ∀ unit, (∃ letter, t.units.get? unit = some letter) →
    ∃ letter, t'.units.get? unit = some letter
  metals : ∀ metal, (∃ ratio, t.metals.get? metal = some ratio) →
    ∃ ratio, t'.metals.get? metal = some ratio

theorem Within.refl (t : Tables) : t.Within t := ⟨fun _ => id, fun _ => id⟩

/-- A command that is accepted is accepted wherever as many names have values. -/
theorem Within.exists_result (h : t.Within t') {answer : Option Text}
    (hresult : t.result command = .ok answer) : ∃ later, t'.result command = .ok later := by
  obtain ⟨hunits, hmetal⟩ := exists_result_iff.1 ⟨answer, hresult⟩
  rw [exists_result_iff]
  constructor
  · intro unit hunit
    exact h.units unit (hunits unit hunit)
  · intro metal hread
    exact h.metals metal (hmetal metal hread)

/-- Whether a command that is accepted has an answer, and how that begins, does not hang on
    the tables. -/
theorem answer_of_result {answer : Option Text} (h : t.result command = .ok answer) :
    answer = none ∧ command.phrase? = none ∨
      ∃ phrase amount, answer = some (phrase ++ " is ".toList ++ amount) ∧
        command.phrase? = some phrase := by
  cases command with
  | assignUnit unit letter =>
    cases h
    exact .inl ⟨rfl, rfl⟩
  | assignMetal units metal credits =>
    rw [result_assignMetal] at h
    obtain ⟨value, _, rfl⟩ := map_eq_ok_iff.1 h
    exact .inl ⟨rfl, rfl⟩
  | queryNumeral phrase units =>
    rw [result_queryNumeral] at h
    obtain ⟨value, _, rfl⟩ := map_eq_ok_iff.1 h
    exact .inr ⟨phrase, _, rfl, rfl⟩
  | queryCredits phrase units metal =>
    rw [result_queryCredits] at h
    obtain ⟨ratio, _, hrest⟩ := bind_eq_ok_iff.1 h
    obtain ⟨measured, _, hanswer⟩ := bind_eq_ok_iff.1 hrest
    cases hanswer
    exact .inr ⟨phrase, _, rfl, rfl⟩

/-- A command that is accepted is accepted alike wherever as many names have values: without an
    answer, or with one that begins with the same phrase. -/
theorem Within.result_alike (h : t.Within t') {answer : Option Text}
    (hresult : t.result command = .ok answer) :
    answer = none ∧ t'.result command = .ok none ∨
      ∃ phrase amount amount', command.phrase? = some phrase ∧
        answer = some (phrase ++ " is ".toList ++ amount) ∧
        t'.result command = .ok (some (phrase ++ " is ".toList ++ amount')) := by
  obtain ⟨later, hlater⟩ := h.exists_result hresult
  obtain ⟨hnone, hphrase⟩ | ⟨phrase, amount, hsome, hphrase⟩ := answer_of_result hresult
  · obtain ⟨rfl, _⟩ | ⟨_, _, _, hphrase'⟩ := answer_of_result hlater
    · exact .inl ⟨hnone, hlater⟩
    · cases hphrase.symm.trans hphrase'
  · obtain ⟨_, hphrase'⟩ | ⟨phrase', amount', rfl, hphrase'⟩ := answer_of_result hlater
    · cases hphrase.symm.trans hphrase'
    · cases hphrase.symm.trans hphrase'
      exact .inr ⟨phrase, amount, amount', hphrase, hsome, hlater⟩

end Tables

namespace Turn

variable {session : Text} {t t' : Tables} {line : Text}

/-- No line takes the value from a name. -/
theorem within_ofLine (h : t.Within t') : t.Within (ofLine session t' line).tables := by
  obtain ⟨unit, letter, _, htables⟩ | ⟨units, metal, credits, numeral, _, _, htables⟩ |
    ⟨_, _, htables⟩ := tables_ofLine_cases session t' line
  · rw [htables]
    exact ⟨fun unit hunit => NameMap.exists_get?_insert letter (h.units unit hunit), h.metals⟩
  · rw [htables]
    exact ⟨h.units, fun metal hmetal => NameMap.exists_get?_insert _ (h.metals metal hmetal)⟩
  · rwa [htables]

theorem within_tablesAfter (session : Text) (t : Tables) (lines : List Text) :
    t.Within (tablesAfter session t lines) :=
  tablesAfter_preserves (fun _ _ => within_ofLine) lines (.refl t)

/-- A line that is accepted is accepted alike wherever as many names have values: without an
    answer, or with one about the right side of the line. -/
theorem outcome_alike (h : t.Within t') {answer : Option Text}
    (houtcome : (ofLine session t line).outcome = .ok answer) :
    answer = none ∧ (ofLine session t' line).outcome = .ok none ∨
      ∃ sentence amount amount', Sentence.ofLine line.trim = .ok sentence ∧
        answer = some (sentence.right ++ " is ".toList ++ amount) ∧
        (ofLine session t' line).outcome = .ok (some (sentence.right ++ " is ".toList ++ amount')) := by
  obtain ⟨command, hcommand, _⟩ := outcome_eq_ok_iff.1 houtcome
  rw [outcome_of_command hcommand] at houtcome ⊢
  obtain hnone | ⟨phrase, amount, amount', hphrase, hanswer, hlater⟩ := h.result_alike houtcome
  · exact .inl hnone
  · obtain ⟨sentence, hsentence, rfl⟩ := Command.right_of_phrase? hcommand hphrase
    exact .inr ⟨sentence, amount, amount', hsentence, hanswer, hlater⟩

/-- A line that is rejected for another reason than an unknown name gives no command. -/
theorem no_command_of_outcome {fault : Fault} (h : (ofLine session t line).outcome = .error fault)
    (hkind : fault.kind = .grammar ∨ fault.kind = .unrecognizedInstruction ∨
      fault.kind = .unanswerableQuestion) : Command.ofLine line.trim = .error fault := by
  obtain hcommand | ⟨command, _, happly⟩ := outcome_eq_error_iff.1 h
  · exact hcommand
  · obtain ⟨unit, rfl⟩ | ⟨metal, rfl⟩ := Tables.apply_eq_error happly <;>
      simp [Fault.kind] at hkind

/-- Success is permanent. A line that is accepted at some point of a session is accepted at
    every later one, whatever lines come in between, and again has no answer or an answer about
    the same phrase. A line that is rejected for what it says, and not for a name that it holds,
    is rejected with the same fault always. -/
theorem success_is_permanent (session : Text) (t : Tables) (before : List Text) (line : Text)
    (between : List Text) :
    let earlier := ofLine session (tablesAfter session t before) line
    let later := ofLine session (tablesAfter session t (before ++ line :: between)) line
    (earlier.outcome = .ok none → later.outcome = .ok none) ∧
    (∀ answer, earlier.outcome = .ok (some answer) →
      ∃ sentence amount amount', Sentence.ofLine line.trim = .ok sentence ∧
        answer = sentence.right ++ " is ".toList ++ amount ∧
        later.outcome = .ok (some (sentence.right ++ " is ".toList ++ amount'))) ∧
    (∀ fault, earlier.outcome = .error fault →
      fault.kind = .grammar ∨ fault.kind = .unrecognizedInstruction ∨
        fault.kind = .unanswerableQuestion →
      ∀ session' t', (ofLine session' t' line).outcome = .error fault) := by
  intro earlier later
  have hwithin : (tablesAfter session t before).Within
      (tablesAfter session t (before ++ line :: between)) := by
    rw [tablesAfter_append]
    exact within_tablesAfter session _ (line :: between)
  refine ⟨?_, ?_, ?_⟩
  · intro houtcome
    obtain ⟨_, hlater⟩ | ⟨_, _, _, _, hsome, _⟩ := outcome_alike hwithin houtcome
    · exact hlater
    · cases hsome
  · intro answer houtcome
    obtain ⟨hnone, _⟩ | ⟨sentence, amount, amount', hsentence, hanswer, hlater⟩ :=
      outcome_alike hwithin houtcome
    · cases hnone
    · exact ⟨sentence, amount, amount', hsentence, Option.some.inj hanswer, hlater⟩
  · intro fault houtcome hkind session' t'
    exact outcome_eq_error_iff.2 (.inl (no_command_of_outcome houtcome hkind))

/-- A question is answered again after its unit has been given another letter. -/
theorem success_is_permanent_glob :
    let question : Text := "how much is glob?".toList
    let before : List Text := ["glob is I".toList]
    let between : List Text := ["glob is V".toList]
    (ofLine [] (tablesAfter [] .empty before) question).outcome = .ok (some "glob is 1".toList) ∧
      ∃ sentence amount amount', Sentence.ofLine question.trim = .ok sentence ∧
        "glob is 1".toList = sentence.right ++ " is ".toList ++ amount ∧
        (ofLine [] (tablesAfter [] .empty (before ++ question :: between)) question).outcome =
          .ok (some (sentence.right ++ " is ".toList ++ amount')) := by
  intro question before between
  have houtcome : (ofLine [] (tablesAfter [] .empty before) question).outcome =
      .ok (some "glob is 1".toList) := by decide +kernel
  exact ⟨houtcome, (success_is_permanent [] .empty before question between).2.1 _ houtcome⟩

end Turn

end TradeNotes
