import TradeNotes.Proofs.Command.Forms
import TradeNotes.Proofs.Session.History
import TradeNotes.Proofs.Tables.Footprint
import TradeNotes.Proofs.Text.Words

namespace TradeNotes

theorem Measure.isBlank_of_mem_units {phrase unit : Text} (h : unit ∈ (ofPhrase phrase).units) :
    ∀ c ∈ unit, Text.isBlank c = false :=
  Text.isBlank_of_mem_tokens (List.mem_of_mem_dropLast h)

/-- The units that a line names, other than the one that it assigns, are single words. -/
theorem Command.isBlank_of_mem_unitsRead {line unit : Text} {command : Command}
    (hcommand : ofLine line = .ok command) (hunit : unit ∈ command.unitsRead) :
    ∀ c ∈ unit, Text.isBlank c = false := by
  obtain ⟨sentence, _, _, hforms⟩ := ofLine_cases hcommand
  obtain ⟨letter, _, _, rfl⟩ | ⟨figure, _, _, _, rfl⟩ | ⟨_, _, rfl⟩ | ⟨_, _, _, rfl⟩ := hforms
  · cases hunit
  · exact Measure.isBlank_of_mem_units hunit
  · exact Text.isBlank_of_mem_tokens hunit
  · exact Measure.isBlank_of_mem_units hunit

/-- Whether tables have the same ratios, and the same letters for all units that are single
    words. -/
structure Tables.AgreeOnWords (t t' : Tables) : Prop where
  units : ∀ unit, (∀ c ∈ unit, Text.isBlank c = false) → t.units.get? unit = t'.units.get? unit
  metals : t.metals = t'.metals

namespace Tables.AgreeOnWords

variable {t t' : Tables} {line : Text} {command : Command}

theorem agreeOn (h : AgreeOnWords t t') (hcommand : Command.ofLine line = .ok command) :
    AgreeOn t t' command where
  units unit hunit := h.units unit (Command.isBlank_of_mem_unitsRead hcommand hunit)
  metal metal _ := by rw [h.metals]

/-- A command that a line gives changes alike what tables agree on. -/
theorem after (h : AgreeOnWords t t') (hcommand : Command.ofLine line = .ok command) :
    AgreeOnWords (t.after command) (t'.after command) := by
  cases command with
  | assignUnit assigned letter =>
    refine ⟨?_, h.metals⟩
    intro unit hunit
    change (t.units.insert assigned letter).get? unit = (t'.units.insert assigned letter).get? unit
    rw [NameMap.get?_insert, NameMap.get?_insert, h.units unit hunit]
  | assignMetal units metal credits =>
    have hvalue : t.value units = t'.value units := value_congr (h.agreeOn hcommand).units
    rw [after_assignMetal, after_assignMetal, hvalue]
    cases t'.value units with
    | error fault => exact h
    | ok value =>
      refine ⟨h.units, ?_⟩
      change t.metals.insert metal _ = t'.metals.insert metal _
      rw [h.metals]
  | queryNumeral phrase units => rwa [after_of_query t rfl, after_of_query t' rfl]
  | queryCredits phrase units metal => rwa [after_of_query t rfl, after_of_query t' rfl]

/-- The letter of a unit that is not a single word does not count. -/
theorem assignUnit {unit : Text} (hunit : ∃ c ∈ unit, Text.isBlank c = true) (letter : Letter)
    (t : Tables) : AgreeOnWords t (t.assignUnit unit letter) := by
  refine ⟨?_, rfl⟩
  intro other hother
  have hne : other ≠ unit := by
    rintro rfl
    obtain ⟨c, hc, hblank⟩ := hunit
    rw [hother c hc] at hblank
    cases hblank
  rw [Tables.assignUnit, NameMap.get?_insert, if_neg hne]

end Tables.AgreeOnWords

namespace Turn

variable {session : Text} {t t' : Tables} {line : Text} {command : Command}

/-- Whether a line is accepted as an assignment of a unit, or as a valuation of a metal, that a
    command reads. -/
def Disturbs (session : Text) (t : Tables) (line : Text) (command : Command) : Prop :=
  (ofLine session t line).outcome = .ok none ∧
    ((∃ unit letter, unit ∈ command.unitsRead ∧
        Command.ofLine line.trim = .ok (.assignUnit unit letter)) ∨
      ∃ units metal credits, command.metalRead? = some metal ∧
        Command.ofLine line.trim = .ok (.assignMetal units metal credits))

/-- A line that does not disturb a command leaves all that the command reads. -/
theorem agreeOn_of_not_disturbs (h : ¬ Disturbs session t line command) :
    t.AgreeOn (ofLine session t line).tables command := by
  obtain ⟨unit, letter, hcommand, htables⟩ | ⟨units, metal, credits, numeral, hcommand, hnumeral,
    htables⟩ | ⟨_, _, htables⟩ := tables_ofLine_cases session t line
  · have haccepted : (ofLine session t line).outcome = .ok none := outcome_of_apply hcommand rfl
    rw [htables]
    refine ⟨?_, fun _ _ => rfl⟩
    intro read hread
    have hother : read ≠ unit := by
      rintro rfl
      exact h ⟨haccepted, .inl ⟨read, letter, hread, hcommand⟩⟩
    rw [Tables.assignUnit, NameMap.get?_insert, if_neg hother]
  · have haccepted : (ofLine session t line).outcome = .ok none :=
      outcome_of_apply hcommand (Tables.apply_assignMetal metal credits hnumeral)
    rw [htables]
    refine ⟨fun _ _ => rfl, ?_⟩
    intro read hread
    have hother : read ≠ metal := by
      rintro rfl
      exact h ⟨haccepted, .inr ⟨units, read, credits, hread, hcommand⟩⟩
    rw [Tables.setRatio, NameMap.get?_insert, if_neg hother]
  · rw [htables]
    exact .refl t command

/-- Lines of which none disturbs a command leave all that the command reads. -/
theorem agreeOn_tablesAfter {lines : List Text}
    (h : ¬ Once (fun before line => Disturbs session (tablesAfter session t before) line command)
      lines) : t.AgreeOn (tablesAfter session t lines) command := by
  induction lines using List.reverseRecOn with
  | nil => exact .refl t command
  | append_singleton lines line ih =>
    rw [once_concat, not_or] at h
    rw [tablesAfter_concat]
    exact (ih h.1).trans (agreeOn_of_not_disturbs h.2)

theorem agreeOnWords_ofLine (session : Text) (h : t.AgreeOnWords t') (line : Text) :
    (ofLine session t line).outcome = (ofLine session t' line).outcome ∧
      (ofLine session t line).tables.AgreeOnWords (ofLine session t' line).tables := by
  cases hcommand : Command.ofLine line.trim with
  | error fault =>
    have houtcome (t : Tables) : (ofLine session t line).outcome = .error fault :=
      outcome_eq_error_iff.2 (.inl hcommand)
    rw [tables_of_outcome_error (houtcome t), tables_of_outcome_error (houtcome t')]
    exact ⟨(houtcome t).trans (houtcome t').symm, h⟩
  | ok command =>
    rw [outcome_of_command hcommand, outcome_of_command hcommand, tables_of_command hcommand,
      tables_of_command hcommand]
    exact ⟨(h.agreeOn hcommand).result_eq, h.after hcommand⟩

theorem agreeOnWords_ofLines (session : Text) (h : t.AgreeOnWords t') (lines : List Text) :
    (ofLines session t lines).map outcome = (ofLines session t' lines).map outcome ∧
      (tablesAfter session t lines).AgreeOnWords (tablesAfter session t' lines) := by
  induction lines generalizing t t' with
  | nil => exact ⟨rfl, h⟩
  | cons line rest ih =>
    obtain ⟨houtcome, htables⟩ := agreeOnWords_ofLine session h line
    obtain ⟨houtcomes, hafter⟩ := ih htables
    refine ⟨?_, hafter⟩
    simp only [ofLines, List.map_cons, houtcome, houtcomes]

/-- An answer depends on nothing but its own symbols. It stays the same through all lines that
    are not accepted as assignments of the question's units or, where it asks for the worth of a
    metal, as valuations of that metal. Units whose names are not single words have no influence
    at all: tables that differ in such units give every line the same outcome. -/
theorem answers_depend_on_own_symbols (session : Text) (t : Tables) :
    (∀ question answer command lines,
      (ofLine session t question).outcome = .ok (some answer) →
      Command.ofLine question.trim = .ok command →
      ¬ Once (fun before line =>
        Disturbs session (tablesAfter session t (question :: before)) line command) lines →
      (ofLine session (tablesAfter session t (question :: lines)) question).outcome =
        .ok (some answer)) ∧
    (∀ unit letter lines, (∃ c ∈ unit, Text.isBlank c = true) →
      (ofLines session (t.assignUnit unit letter) lines).map outcome =
        (ofLines session t lines).map outcome) ∧
    ∀ t', t.AgreeOnWords t' →
      (∀ line, (ofLine session t line).outcome = (ofLine session t' line).outcome ∧
        (ofLine session t line).tables.AgreeOnWords (ofLine session t' line).tables) ∧
      ∀ lines, (ofLines session t lines).map outcome = (ofLines session t' lines).map outcome := by
  refine ⟨?_, ?_, ?_⟩
  · intro question answer command lines houtcome hcommand hlines
    have hquestion : (ofLine session t question).tables = t := by
      obtain ⟨asked, _, happly⟩ := outcome_eq_ok_iff.1 houtcome
      exact Tables.eq_of_apply_query happly (Tables.isMutation_of_apply happly)
    simp only [tablesAfter_cons, hquestion] at hlines ⊢
    rw [outcome_of_command hcommand] at houtcome ⊢
    exact (agreeOn_tablesAfter hlines).result_eq.symm.trans houtcome
  · intro unit letter lines hunit
    exact (agreeOnWords_ofLines session (.assignUnit hunit letter t) lines).1.symm
  · intro t' hagree
    exact ⟨agreeOnWords_ofLine session hagree, fun lines => (agreeOnWords_ofLines session hagree lines).1⟩

/-- Another unit and a unit of two words, one of which is the question's own, come between. -/
theorem answers_depend_on_own_symbols_glob :
    let t : Tables := tablesAfter [] .empty ["glob is V".toList]
    let question : Text := "how much is glob glob?".toList
    let lines : List Text := ["prok is I".toList, "big glob is X".toList]
    (ofLine [] t question).outcome = .ok (some "glob glob is 10".toList) ∧
      (ofLine [] (tablesAfter [] t (question :: lines)) question).outcome =
        .ok (some "glob glob is 10".toList) := by
  intro t question lines
  have houtcome : (ofLine [] t question).outcome = .ok (some "glob glob is 10".toList) := by
    decide +kernel
  have hcommand : Command.ofLine question.trim =
      .ok (.queryNumeral "glob glob".toList ["glob".toList, "glob".toList]) := by decide +kernel
  have hprok : Command.ofLine (Text.trim "prok is I".toList) = .ok (.assignUnit "prok".toList .I) := by
    decide +kernel
  have hbig : Command.ofLine (Text.trim "big glob is X".toList) =
      .ok (.assignUnit "big glob".toList .X) := by decide +kernel
  refine ⟨houtcome, (answers_depend_on_own_symbols [] t).1 question _ _ lines houtcome hcommand ?_⟩
  change ¬ Once _ ([] ++ ["prok is I".toList] ++ ["big glob is X".toList])
  rw [once_concat, once_concat]
  rintro ((hnil | ⟨_, ⟨unit, letter, hunit, hassign⟩ | ⟨_, _, _, hmetal, _⟩⟩) |
    ⟨_, ⟨unit, letter, hunit, hassign⟩ | ⟨_, _, _, hmetal, _⟩⟩)
  · exact not_once_nil hnil
  · cases hprok.symm.trans hassign
    revert hunit
    decide
  · cases hmetal
  · cases hbig.symm.trans hassign
    revert hunit
    decide
  · cases hmetal

end Turn

end TradeNotes
