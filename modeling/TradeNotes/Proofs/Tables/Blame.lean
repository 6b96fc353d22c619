import TradeNotes.Proofs.Session.Turns
import TradeNotes.Proofs.Tables.Footprint

namespace TradeNotes

namespace Tables

/-- Whether a unit is the first one of several that has no letter. -/
def IsFirstUnknown (t : Tables) (units : List Text) (unit : Text) : Prop :=
  ∃ before after, units = before ++ unit :: after ∧
    (∀ known ∈ before, t.units.get? known ≠ none) ∧ t.units.get? unit = none

/-- The faults for which commands are refused. A question about credits has its metal looked up
    before its units. -/
inductive Refuses (t : Tables) : Command → Fault → Prop
  | valuation {units : List Text} {metal : Text} {credits : Binary64} {unit : Text}
      (hunit : t.IsFirstUnknown units unit) :
      Refuses t (.assignMetal units metal credits) (.unknownUnit unit)
  | numeral {phrase : Text} {units : List Text} {unit : Text}
      (hunit : t.IsFirstUnknown units unit) :
      Refuses t (.queryNumeral phrase units) (.unknownUnit unit)
  | metal {phrase : Text} {units : List Text} {metal : Text}
      (hmetal : t.metals.get? metal = none) :
      Refuses t (.queryCredits phrase units metal) (.unknownMetal metal)
  | measure {phrase : Text} {units : List Text} {metal unit : Text}
      (hmetal : t.metals.get? metal ≠ none) (hunit : t.IsFirstUnknown units unit) :
      Refuses t (.queryCredits phrase units metal) (.unknownUnit unit)

variable {t : Tables} {command : Command} {units : List Text} {unit metal phrase : Text}
  {fault : Fault}

theorem letter_eq_error_iff :
    t.letter unit = .error fault ↔ t.units.get? unit = none ∧ fault = .unknownUnit unit := by
  unfold letter
  cases t.units.get? unit <;> simp [eq_comm]

theorem ratio_eq_error_iff :
    t.ratio metal = .error fault ↔ t.metals.get? metal = none ∧ fault = .unknownMetal metal := by
  unfold ratio
  cases t.metals.get? metal <;> simp [eq_comm]

/-- Units are gone through from the left, up to the first one without a letter. -/
theorem numeral_of_isFirstUnknown (h : t.IsFirstUnknown units unit) :
    t.numeral units = .error (.unknownUnit unit) := by
  obtain ⟨before, after, rfl, hbefore, hunit⟩ := h
  unfold numeral
  induction before with
  | nil =>
    rw [List.nil_append, List.mapM_cons, letter_eq_error_iff.2 ⟨hunit, rfl⟩]
    rfl
  | cons known rest ih =>
    obtain ⟨hknown, hrest⟩ := List.forall_mem_cons.1 hbefore
    obtain ⟨letter, hletter⟩ := Option.ne_none_iff_exists'.1 hknown
    rw [List.cons_append, List.mapM_cons, letter_eq_ok_iff.2 hletter, ih hrest]
    rfl

theorem value_eq_error_iff :
    t.value units = .error fault ↔ ∃ unit, t.IsFirstUnknown units unit ∧ fault = .unknownUnit unit := by
  rw [value, map_eq_error_iff]
  constructor
  · intro h
    obtain ⟨before, unit, after, hunits, hbefore, hunit, hfault⟩ := numeral_eq_error h
    exact ⟨unit, ⟨before, after, hunits, hbefore, hunit⟩, hfault⟩
  · rintro ⟨unit, hunit, rfl⟩
    exact numeral_of_isFirstUnknown hunit

theorem result_eq_error_iff : t.result command = .error fault ↔ t.apply command = .error fault :=
  map_eq_error_iff

/-- The faults of commands are those for which they are refused, and no others. -/
theorem apply_eq_error_iff : t.apply command = .error fault ↔ t.Refuses command fault := by
  cases command with
  | assignUnit unit letter =>
    constructor
    · intro h
      cases h
    · intro h
      cases h
  | assignMetal units metal credits =>
    rw [← result_eq_error_iff, result_assignMetal, map_eq_error_iff, value_eq_error_iff]
    constructor
    · rintro ⟨unit, hunit, rfl⟩
      exact .valuation hunit
    · intro h
      cases h with
      | valuation hunit => exact ⟨_, hunit, rfl⟩
  | queryNumeral phrase units =>
    rw [← result_eq_error_iff, result_queryNumeral, map_eq_error_iff, value_eq_error_iff]
    constructor
    · rintro ⟨unit, hunit, rfl⟩
      exact .numeral hunit
    · intro h
      cases h with
      | numeral hunit => exact ⟨_, hunit, rfl⟩
  | queryCredits phrase units metal =>
    rw [← result_eq_error_iff, result_queryCredits, bind_eq_error_iff, ratio_eq_error_iff]
    constructor
    · rintro (⟨hmetal, rfl⟩ | ⟨ratio, hratio, hrest⟩)
      · exact .metal hmetal
      · obtain hvalue | ⟨_, _, hanswer⟩ := bind_eq_error_iff.1 hrest
        · obtain ⟨unit, hunit, rfl⟩ := value_eq_error_iff.1 hvalue
          refine .measure ?_ hunit
          rw [ratio_eq_ok_iff.1 hratio]
          exact Option.some_ne_none ratio
        · cases hanswer
    · intro h
      cases h with
      | metal hmetal => exact .inl ⟨hmetal, rfl⟩
      | measure hmetal hunit =>
        obtain ⟨ratio, hratio⟩ := Option.ne_none_iff_exists'.1 hmetal
        exact .inr ⟨ratio, ratio_eq_ok_iff.2 hratio,
          bind_eq_error_iff.2 (.inl (value_eq_error_iff.2 ⟨_, hunit, rfl⟩))⟩

/-- A command fails exactly when something that it reads is not known. -/
theorem exists_apply_eq_error_iff :
    (∃ fault, t.apply command = .error fault) ↔
      (∃ metal ∈ command.metalRead?, t.metals.get? metal = none) ∨
        ∃ unit ∈ command.unitsRead, t.units.get? unit = none := by
  have haccepted := @exists_result_iff t command
  simp only [← Option.ne_none_iff_exists'] at haccepted
  simp only [← result_eq_error_iff]
  cases hresult : t.result command with
  | ok answer =>
    obtain ⟨hunits, hmetal⟩ := haccepted.1 ⟨answer, hresult⟩
    refine iff_of_false (by rintro ⟨_, ⟨⟩⟩) ?_
    rintro (⟨metal, hread, hnone⟩ | ⟨unit, hread, hnone⟩)
    · exact hmetal metal hread hnone
    · exact hunits unit hread hnone
  | error fault =>
    refine iff_of_true ⟨fault, rfl⟩ ?_
    by_contra hnot
    push Not at hnot
    obtain ⟨answer, hanswer⟩ := haccepted.2 ⟨hnot.2, hnot.1⟩
    rw [hresult] at hanswer
    cases hanswer

end Tables

/-- The metal of a question about credits is the last word of its phrase in lower case, and the
    units are the words in front of it. -/
theorem Command.measure_of_ofLine {line phrase metal : Text} {units : List Text}
    (h : ofLine line = .ok (queryCredits phrase units metal)) :
    units = phrase.tokens.dropLast ∧ metal = (phrase.tokens.getLast?.getD []).lowerCase := by
  obtain ⟨sentence, _, _, hforms⟩ := ofLine_cases h
  obtain ⟨_, _, _, hcommand⟩ | ⟨_, _, _, _, hcommand⟩ | ⟨_, _, hcommand⟩ | ⟨_, _, _, hcommand⟩ :=
    hforms
  case inr.inr.inr =>
    cases hcommand
    exact ⟨rfl, rfl⟩
  all_goals cases hcommand

/-- Every fault tells exactly what is not known. An assignment of a unit is always accepted. A
    valuation and a question for a number fail as soon as one of their units has no letter, and the
    first such unit is told. A question about credits fails for its metal in lower case when that
    has no ratio, whatever its units are, and otherwise for the first unit without a letter. A line
    is rejected for these faults and for those of lines that give no command, and so never for a
    fault of a source, a sink or a dump. -/
theorem Turn.faults_are_exact (session : Text) (t : Tables) :
    (∀ unit letter, t.apply (.assignUnit unit letter) = .ok (t.assignUnit unit letter, none)) ∧
    (∀ command fault, t.apply command = .error fault ↔ t.Refuses command fault) ∧
    (∀ command, (∃ fault, t.apply command = .error fault) ↔
      (∃ metal ∈ command.metalRead?, t.metals.get? metal = none) ∨
        ∃ unit ∈ command.unitsRead, t.units.get? unit = none) ∧
    (∀ line phrase units metal, Command.ofLine line = .ok (.queryCredits phrase units metal) →
      units = phrase.tokens.dropLast ∧ metal = (phrase.tokens.getLast?.getD []).lowerCase) ∧
    ∀ line fault,
      ((ofLine session t line).outcome = .error fault ↔
        Command.ofLine line.trim = .error fault ∨
          ∃ command, Command.ofLine line.trim = .ok command ∧ t.Refuses command fault) ∧
      ((ofLine session t line).outcome = .error fault →
        fault.kind ≠ .inputOutput ∧ fault.kind ≠ .serialization) := by
  refine ⟨fun _ _ => rfl, fun _ _ => Tables.apply_eq_error_iff,
    fun _ => Tables.exists_apply_eq_error_iff, fun _ _ _ _ => Command.measure_of_ofLine, ?_⟩
  intro line fault
  constructor
  · rw [outcome_eq_error_iff]
    simp only [Tables.apply_eq_error_iff]
  · intro houtcome
    have hinput := isInput_of_outcome_error houtcome
    constructor <;> (intro hkind; rw [hkind] at hinput; cases hinput)

end TradeNotes
