import TradeNotes.Proofs.Session.Turns

namespace TradeNotes

namespace Command

/-- The units whose letters a command reads. -/
def unitsRead : Command → List Text
  | assignUnit .. => []
  | assignMetal units .. => units
  | queryNumeral _ units => units
  | queryCredits _ units _ => units

/-- The metal whose ratio a command reads. -/
def metalRead? : Command → Option Text
  | queryCredits _ _ metal => some metal
  | assignUnit .. | assignMetal .. | queryNumeral .. => none

end Command

namespace Tables

variable {t t' : Tables} {command : Command} {unit metal : Text} {units : List Text}

/-- What becomes of a command, without the tables after it. -/
def result (t : Tables) (command : Command) : Except Fault (Option Text) :=
  Prod.snd <$> t.apply command

/-- The tables after a command, which are the same as before when it is refused. -/
def after (t : Tables) (command : Command) : Tables :=
  match t.apply command with
  | .ok (after, _) => after
  | .error _ => t

theorem result_assignMetal (units : List Text) (metal : Text) (credits : Binary64) :
    t.result (.assignMetal units metal credits) = (fun _ => none) <$> t.value units := by
  simp only [result, apply, assignMetal]
  cases t.value units <;> rfl

theorem result_queryNumeral (phrase : Text) (units : List Text) :
    t.result (.queryNumeral phrase units) =
      (fun value => some (phrase ++ " is ".toList ++ Nat.toDigits 10 value)) <$> t.value units := by
  simp only [result, apply, answerNumeral]
  cases t.value units <;> rfl

theorem result_queryCredits (phrase : Text) (units : List Text) (metal : Text) :
    t.result (.queryCredits phrase units metal) = do
      let ratio ← t.ratio metal
      let measured ← t.value units
      return some (phrase ++ " is ".toList ++
        (Credits.text ((Binary64.ofNat measured).mul ratio) ++ " Credits".toList)) := by
  simp only [result, apply, answerCredits, List.append_assoc]
  cases t.ratio metal with
  | error fault => rfl
  | ok ratio => cases t.value units <;> rfl

theorem ratio_eq_ok_iff {ratio : Binary64} :
    t.ratio metal = .ok ratio ↔ t.metals.get? metal = some ratio := by
  unfold Tables.ratio
  cases t.metals.get? metal <;> simp

/-- Units make the same numeral in tables that give each of them the same letter. -/
theorem numeral_congr (h : ∀ unit ∈ units, t.units.get? unit = t'.units.get? unit) :
    t.numeral units = t'.numeral units := by
  unfold numeral
  induction units with
  | nil => rfl
  | cons unit rest ih =>
    obtain ⟨hunit, hrest⟩ := List.forall_mem_cons.1 h
    have hletter : t.letter unit = t'.letter unit := by
      unfold letter
      rw [hunit]
    rw [List.mapM_cons, List.mapM_cons, hletter, ih hrest]

theorem value_congr (h : ∀ unit ∈ units, t.units.get? unit = t'.units.get? unit) :
    t.value units = t'.value units := by
  unfold value
  rw [numeral_congr h]

/-- Units make a number exactly when each of them has a letter. -/
theorem exists_value_iff :
    (∃ value, t.value units = .ok value) ↔ ∀ unit ∈ units, ∃ letter, t.units.get? unit = some letter := by
  rw [← exists_forall₂_iff]
  constructor
  · rintro ⟨value, hvalue⟩
    obtain ⟨numeral, hnumeral, _⟩ := value_eq_ok_iff.1 hvalue
    exact ⟨numeral, numeral_eq_ok_iff.1 hnumeral⟩
  · rintro ⟨numeral, hletters⟩
    exact ⟨Numeral.value numeral, value_eq_ok_iff.2 ⟨numeral, numeral_eq_ok_iff.2 hletters, rfl⟩⟩

/-- Whether tables give the same letters and the same ratio to all that a command reads. -/
structure AgreeOn (t t' : Tables) (command : Command) : Prop where
  units : ∀ unit ∈ command.unitsRead, t.units.get? unit = t'.units.get? unit
  metal : ∀ metal ∈ command.metalRead?, t.metals.get? metal = t'.metals.get? metal

theorem AgreeOn.refl (t : Tables) (command : Command) : AgreeOn t t command :=
  ⟨fun _ _ => rfl, fun _ _ => rfl⟩

theorem AgreeOn.trans {t'' : Tables} (h : AgreeOn t t' command) (h' : AgreeOn t' t'' command) :
    AgreeOn t t'' command where
  units unit hunit := (h.units unit hunit).trans (h'.units unit hunit)
  metal metal hmetal := (h.metal metal hmetal).trans (h'.metal metal hmetal)

/-- A command depends on nothing but what it reads. -/
theorem AgreeOn.result_eq (h : AgreeOn t t' command) : t.result command = t'.result command := by
  have hvalue : t.value command.unitsRead = t'.value command.unitsRead := value_congr h.units
  cases command with
  | assignUnit unit letter => rfl
  | assignMetal units metal credits =>
    rw [result_assignMetal, result_assignMetal]
    exact congrArg _ hvalue
  | queryNumeral phrase units =>
    rw [result_queryNumeral, result_queryNumeral]
    exact congrArg _ hvalue
  | queryCredits phrase units metal =>
    have hratio : t.ratio metal = t'.ratio metal := by
      unfold ratio
      rw [h.metal metal rfl]
    simp only [Command.unitsRead] at hvalue
    rw [result_queryCredits, result_queryCredits, hratio, hvalue]

/-- A command is accepted exactly when all that it reads is known. -/
theorem exists_result_iff :
    (∃ answer, t.result command = .ok answer) ↔
      (∀ unit ∈ command.unitsRead, ∃ letter, t.units.get? unit = some letter) ∧
        ∀ metal ∈ command.metalRead?, ∃ ratio, t.metals.get? metal = some ratio := by
  rw [← exists_value_iff]
  simp only [← ratio_eq_ok_iff]
  cases command with
  | assignUnit unit letter =>
    simp [result, apply, Command.unitsRead, Command.metalRead?, exists_value_iff]
  | assignMetal units metal credits =>
    simp [result_assignMetal, map_eq_ok_iff, Command.unitsRead, Command.metalRead?]
  | queryNumeral phrase units =>
    simp [result_queryNumeral, map_eq_ok_iff, Command.unitsRead, Command.metalRead?]
  | queryCredits phrase units metal =>
    rw [result_queryCredits]
    constructor
    · rintro ⟨answer, hresult⟩
      obtain ⟨ratio, hratio, hrest⟩ := bind_eq_ok_iff.1 hresult
      obtain ⟨measured, hmeasured, _⟩ := bind_eq_ok_iff.1 hrest
      refine ⟨⟨measured, hmeasured⟩, ?_⟩
      rintro _ ⟨⟩
      exact ⟨ratio, hratio⟩
    · rintro ⟨⟨measured, hmeasured⟩, hmetal⟩
      obtain ⟨ratio, hratio⟩ := hmetal metal rfl
      exact ⟨_, bind_eq_ok_iff.2 ⟨ratio, hratio, bind_eq_ok_iff.2 ⟨measured, hmeasured, rfl⟩⟩⟩

/-- A valuation sets a ratio as soon as its units make a number. -/
theorem after_assignMetal (t : Tables) (units : List Text) (metal : Text) (credits : Binary64) :
    t.after (.assignMetal units metal credits) =
      match t.value units with
      | .ok value => t.setRatio metal (perUnit credits value)
      | .error _ => t := by
  simp only [after, apply, assignMetal]
  cases t.value units <;> rfl

/-- A question leaves the tables as they are. -/
theorem after_of_query (t : Tables) (h : command.isMutation = false) : t.after command = t := by
  unfold after
  cases happly : t.apply command with
  | error fault => rfl
  | ok applied => exact eq_of_apply_query happly h

end Tables

namespace Turn

variable {session : Text} {t : Tables} {line : Text} {command : Command}

/-- What becomes of a line is what becomes of the command that it gives. -/
theorem outcome_of_command (h : Command.ofLine line.trim = .ok command) :
    (ofLine session t line).outcome = t.result command := by
  unfold Tables.result
  cases happly : t.apply command with
  | error fault =>
    simp only [ofLine, h, happly]
    rfl
  | ok applied =>
    simp only [ofLine, h, happly]
    rfl

theorem tables_of_command (h : Command.ofLine line.trim = .ok command) :
    (ofLine session t line).tables = t.after command := by
  unfold Tables.after
  cases happly : t.apply command with
  | error fault => simp only [ofLine, h, happly]
  | ok applied => simp only [ofLine, h, happly]

end Turn

end TradeNotes
