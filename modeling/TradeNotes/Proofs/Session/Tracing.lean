import TradeNotes.Log.Trace
import TradeNotes.Proofs.Session.Reachable

namespace TradeNotes

/-- The name that a log gives a command. -/
def Command.label : Command → Text
  | assignUnit .. => "assign_unit".toList
  | assignMetal .. => "assign_metal".toList
  | queryNumeral .. => "query_numeral".toList
  | queryCredits .. => "query_credits".toList

/-- The name and the code that a log gives the kind of a fault. -/
def Fault.labels : Fault → Text × Text
  | missingKeyword _ => ("Grammar".toList, "ERR_GRAMMAR".toList)
  | unrecognizedInstruction _ =>
    ("UnrecognizedInstruction".toList, "ERR_UNRECOGNIZED_INSTRUCTION".toList)
  | unanswerableQuestion _ => ("UnanswerableQuestion".toList, "ERR_UNANSWERABLE_QUESTION".toList)
  | unknownUnit _ => ("UnknownUnit".toList, "ERR_UNKNOWN_UNIT".toList)
  | unknownMetal _ => ("UnknownMetal".toList, "ERR_UNKNOWN_METAL".toList)
  | inputOutput _ => ("Io".toList, "ERR_IO".toList)
  | serialization _ => ("Serialization".toList, "ERR_SERIALIZATION".toList)

namespace Event

/-- Whether an event has a level and records fields, by their names and in their order, and no
    others. A message counts as the first of them. -/
structure Records (e : Event) (level : Level) (fields : List Field) : Prop where
  level_eq : e.level = level
  record_eq : e.record = fields

/-- The texts of an event are those of the fields that it records. -/
theorem Records.text?_eq {e : Event} {level : Level} {fields : List Field}
    (h : e.Records level fields) (name : String) :
    e.text? name = (⟨level, [], none, fields⟩ : Event).text? name := by
  rw [text?, h.record_eq]
  rfl

theorem records_start (session : Text) (operation : String) :
    (start session operation).Records .info
      [⟨"component".toList, .quoted "merchant_core::interpreter".toList⟩,
       ⟨"op".toList, .quoted operation.toList⟩, ⟨"event".toList, .quoted "start".toList⟩,
       ⟨"session_id".toList, .quoted session⟩] :=
  ⟨rfl, rfl⟩

/-- What an event at the end records of its operation stands behind the time that it took. -/
theorem records_finish (session : Text) (operation : String) (more : List Field) :
    (finish session operation more).Records .info
      ([⟨"component".toList, .quoted "merchant_core::interpreter".toList⟩,
        ⟨"op".toList, .quoted operation.toList⟩, ⟨"event".toList, .quoted "end".toList⟩,
        ⟨"session_id".toList, .quoted session⟩, ⟨"duration_ms".toList, .elapsed⟩] ++ more) :=
  ⟨rfl, rfl⟩

theorem records_reject (session : Text) (operation : String) (fault : Fault) :
    (reject session operation fault).Records .warn
      [⟨"component".toList, .quoted "merchant_core::interpreter".toList⟩,
       ⟨"op".toList, .quoted operation.toList⟩, ⟨"event".toList, .quoted "end_error".toList⟩,
       ⟨"session_id".toList, .quoted session⟩, ⟨"duration_ms".toList, .elapsed⟩,
       ⟨"err_kind".toList, .shown fault.labels.1⟩, ⟨"err_code".toList, .quoted fault.labels.2⟩,
       ⟨"error".toList, .shown fault.message⟩] := by
  cases fault <;> exact ⟨rfl, rfl⟩

theorem records_classified (session : Text) (command : Command) :
    (classified session command.name).Records .debug
      [⟨"message".toList, .shown "classified line".toList⟩, ⟨"session_id".toList, .quoted session⟩,
       ⟨"command".toList, .quoted command.label⟩] := by
  cases command <;> exact ⟨rfl, rfl⟩

end Event

namespace Turn

/-- The parts that the events of a line consist of: that the line has begun, whether it has been
    recognised as a command, what an accepted assignment has changed, and how it has ended. What
    has changed is told without the session. -/
structure HasParts (session : Text) (t : Tables) (line : Text) (opening : Event)
    (recognition change : Log.Trace) (closing : Event) : Prop where
  begun : opening.Records .info
    [⟨"component".toList, .quoted "merchant_core::interpreter".toList⟩,
     ⟨"op".toList, .quoted "process_command".toList⟩, ⟨"event".toList, .quoted "start".toList⟩,
     ⟨"session_id".toList, .quoted session⟩]
  recognised : ∀ command, Command.ofLine line.trim = .ok command →
    ∃ e, recognition = [e] ∧ e.Records .debug
      [⟨"message".toList, .shown "classified line".toList⟩, ⟨"session_id".toList, .quoted session⟩,
       ⟨"command".toList, .quoted command.label⟩]
  unrecognised : (∀ command, Command.ofLine line.trim ≠ .ok command) → recognition = []
  assigned : ∀ unit letter, Command.ofLine line.trim = .ok (.assignUnit unit letter) →
    ∃ e, change = [e] ∧ e.Records .debug
      [⟨"message".toList, .shown "unit assigned".toList⟩, ⟨"unit".toList, .quoted unit⟩,
       ⟨"letter".toList, .shown [letter.toChar]⟩]
  valued : ∀ units metal credits answer,
    Command.ofLine line.trim = .ok (.assignMetal units metal credits) →
    (ofLine session t line).outcome = .ok answer →
    ∃ measured e, t.value units = .ok measured ∧ change = [e] ∧ e.Records .debug
      [⟨"message".toList, .shown "metal valued".toList⟩, ⟨"metal".toList, .quoted metal⟩,
       ⟨"measured".toList, .number measured⟩,
       ⟨"ratio".toList, .amount (Tables.perUnit credits measured)⟩]
  numeralAsked : ∀ phrase units, Command.ofLine line.trim = .ok (.queryNumeral phrase units) →
    change = []
  creditsAsked : ∀ phrase units metal,
    Command.ofLine line.trim = .ok (.queryCredits phrase units metal) → change = []
  refused : ∀ fault, (ofLine session t line).outcome = .error fault → change = []
  finished : ∀ answer, (ofLine session t line).outcome = .ok answer → closing.Records .info
    [⟨"component".toList, .quoted "merchant_core::interpreter".toList⟩,
     ⟨"op".toList, .quoted "process_command".toList⟩, ⟨"event".toList, .quoted "end".toList⟩,
     ⟨"session_id".toList, .quoted session⟩, ⟨"duration_ms".toList, .elapsed⟩,
     ⟨"answered".toList, .truth answer.isSome⟩]
  rejected : ∀ fault, (ofLine session t line).outcome = .error fault → closing.Records .warn
    [⟨"component".toList, .quoted "merchant_core::interpreter".toList⟩,
     ⟨"op".toList, .quoted "process_command".toList⟩, ⟨"event".toList, .quoted "end_error".toList⟩,
     ⟨"session_id".toList, .quoted session⟩, ⟨"duration_ms".toList, .elapsed⟩,
     ⟨"err_kind".toList, .shown fault.labels.1⟩, ⟨"err_code".toList, .quoted fault.labels.2⟩,
     ⟨"error".toList, .shown fault.message⟩]

/-- The events of lines that are carried out one after the other: line by line the parts of the
    line. -/
inductive Leaves (session : Text) : Tables → List Text → Log.Trace → Prop
  | nil (t : Tables) : Leaves session t [] []
  | cons {t : Tables} {line : Text} {rest : List Text} {opening closing : Event}
      {recognition change more : Log.Trace}
      (hline : HasParts session t line opening recognition change closing)
      (hrest : Leaves session (ofLine session t line).tables rest more) :
      Leaves session t (line :: rest) (opening :: recognition ++ change ++ closing :: more)

variable {session : Text} {t : Tables} {line : Text} {lines : List Text} {trace : Log.Trace}

/-- A valuation that is accepted tells the number that its units make. -/
theorem changes_of_valuation {units : List Text} {metal : Text} {credits : Binary64}
    {after : Tables} {answer : Option Text}
    (h : t.apply (.assignMetal units metal credits) = .ok (after, answer)) :
    ∃ measured e, t.value units = .ok measured ∧
      changes t (.assignMetal units metal credits) = [e] ∧ e.Records .debug
        [⟨"message".toList, .shown "metal valued".toList⟩, ⟨"metal".toList, .quoted metal⟩,
         ⟨"measured".toList, .number measured⟩,
         ⟨"ratio".toList, .amount (Tables.perUnit credits measured)⟩] := by
  obtain ⟨valued, hvalued, _⟩ := map_eq_ok_iff.1 h
  obtain ⟨measured, hmeasured, _⟩ := bind_eq_ok_iff.1 hvalued
  refine ⟨measured, Event.metalValued metal measured (Tables.perUnit credits measured), hmeasured,
    ?_, rfl, rfl⟩
  simp only [changes, hmeasured]

variable {command : Command} {fault : Fault} {after : Tables} {answer : Option Text}

theorem hasParts_of_unrecognised (hcommand : Command.ofLine line.trim = .error fault) :
    HasParts session t line (Event.start session operation) [] []
      (Event.reject session operation fault) := by
  have hnone : ∀ command, Command.ofLine line.trim ≠ .ok command := by simp [hcommand]
  have houtcome : (ofLine session t line).outcome = .error fault :=
    outcome_eq_error_iff.2 (.inl hcommand)
  constructor
  case begun => exact Event.records_start session operation
  case recognised => exact fun command h => absurd h (hnone command)
  case unrecognised => exact fun _ => rfl
  case assigned => exact fun _ _ h => absurd h (hnone _)
  case valued => exact fun _ _ _ _ h => absurd h (hnone _)
  case numeralAsked => exact fun _ _ _ => rfl
  case creditsAsked => exact fun _ _ _ _ => rfl
  case refused => exact fun _ _ => rfl
  case finished => exact fun _ h => by cases houtcome.symm.trans h
  case rejected =>
    intro other h
    cases houtcome.symm.trans h
    exact Event.records_reject session operation fault

theorem hasParts_of_refused (hcommand : Command.ofLine line.trim = .ok command)
    (happly : t.apply command = .error fault) :
    HasParts session t line (Event.start session operation)
      [Event.classified session command.name] [] (Event.reject session operation fault) := by
  have houtcome : (ofLine session t line).outcome = .error fault :=
    outcome_eq_error_iff.2 (.inr ⟨command, hcommand, happly⟩)
  constructor
  case begun => exact Event.records_start session operation
  case recognised =>
    intro other h
    cases hcommand.symm.trans h
    exact ⟨_, rfl, Event.records_classified session command⟩
  case unrecognised => exact fun h => absurd hcommand (h command)
  case assigned =>
    intro unit letter h
    cases hcommand.symm.trans h
    cases happly
  case valued => exact fun _ _ _ _ _ h => by cases houtcome.symm.trans h
  case numeralAsked => exact fun _ _ _ => rfl
  case creditsAsked => exact fun _ _ _ _ => rfl
  case refused => exact fun _ _ => rfl
  case finished => exact fun _ h => by cases houtcome.symm.trans h
  case rejected =>
    intro other h
    cases houtcome.symm.trans h
    exact Event.records_reject session operation fault

theorem hasParts_of_accepted (hcommand : Command.ofLine line.trim = .ok command)
    (happly : t.apply command = .ok (after, answer)) :
    HasParts session t line (Event.start session operation)
      [Event.classified session command.name] (changes t command)
      (Event.finish session operation [⟨"answered".toList, .truth answer.isSome⟩]) := by
  have houtcome : (ofLine session t line).outcome = .ok answer := outcome_of_apply hcommand happly
  constructor
  case begun => exact Event.records_start session operation
  case recognised =>
    intro other h
    cases hcommand.symm.trans h
    exact ⟨_, rfl, Event.records_classified session command⟩
  case unrecognised => exact fun h => absurd hcommand (h command)
  case assigned =>
    intro unit letter h
    cases hcommand.symm.trans h
    exact ⟨_, rfl, rfl, rfl⟩
  case valued =>
    intro units metal credits _ h _
    cases hcommand.symm.trans h
    exact changes_of_valuation happly
  case numeralAsked =>
    intro phrase units h
    cases hcommand.symm.trans h
    rfl
  case creditsAsked =>
    intro phrase units metal h
    cases hcommand.symm.trans h
    rfl
  case refused => exact fun _ h => by cases houtcome.symm.trans h
  case finished =>
    intro other h
    cases houtcome.symm.trans h
    exact Event.records_finish session operation [⟨"answered".toList, .truth answer.isSome⟩]
  case rejected => exact fun _ h => by cases houtcome.symm.trans h

/-- The events of a line consist of its parts, whichever way the line ends. -/
theorem exists_hasParts (session : Text) (t : Tables) (line : Text) :
    ∃ opening recognition change closing,
      HasParts session t line opening recognition change closing ∧
      (ofLine session t line).events = opening :: recognition ++ change ++ [closing] := by
  cases hcommand : Command.ofLine line.trim with
  | error fault =>
    refine ⟨_, _, _, _, hasParts_of_unrecognised hcommand, ?_⟩
    simp only [ofLine, hcommand, List.append_nil, List.cons_append, List.nil_append]
  | ok command =>
    cases happly : t.apply command with
    | error fault =>
      refine ⟨_, _, _, _, hasParts_of_refused hcommand happly, ?_⟩
      simp only [ofLine, hcommand, happly, List.append_nil, List.cons_append, List.nil_append]
    | ok result =>
      refine ⟨_, _, _, _, hasParts_of_accepted hcommand happly, ?_⟩
      simp only [ofLine, hcommand, happly, List.cons_append, List.nil_append]

theorem leaves_ofLines (session : Text) (t : Tables) (lines : List Text) :
    Leaves session t lines ((ofLines session t lines).flatMap events) := by
  induction lines generalizing t with
  | nil => exact .nil t
  | cons line rest ih =>
    obtain ⟨opening, recognition, change, closing, hparts, hevents⟩ := exists_hasParts session t line
    have hleaves := Leaves.cons hparts (ih (ofLine session t line).tables)
    rw [ofLines, List.flatMap_cons, hevents]
    simpa only [List.cons_append, List.append_assoc, List.nil_append] using hleaves

section Parts

variable {recognition change : Log.Trace} {opening closing : Event}

theorem HasParts.opening_spec (h : HasParts session t line opening recognition change closing) :
    (opening.level == .warn) = false ∧ opening.text? "session_id" = some session := by
  rw [h.begun.level_eq]
  exact ⟨rfl, h.begun.text?_eq "session_id"⟩

/-- A line is recognised by one event of its session that is no warning, or not at all. -/
theorem HasParts.recognition_cases
    (h : HasParts session t line opening recognition change closing) :
    (Command.ofLine line.trim).isOk = true ∧
        (∃ e, recognition = [e] ∧ e.level = .debug ∧ e.text? "session_id" = some session) ∨
      (Command.ofLine line.trim).isOk = false ∧ recognition = [] := by
  cases hcommand : Command.ofLine line.trim with
  | ok command =>
    obtain ⟨e, hrecognition, hrecords⟩ := h.recognised command hcommand
    exact .inl ⟨rfl, e, hrecognition, hrecords.level_eq, hrecords.text?_eq "session_id"⟩
  | error fault => exact .inr ⟨rfl, h.unrecognised (by simp [hcommand])⟩

/-- A change is told by one event without a session that is no warning, or not at all. -/
theorem HasParts.change_cases (h : HasParts session t line opening recognition change closing) :
    (∃ e, change = [e] ∧ e.level = .debug ∧ e.text? "session_id" = none) ∨ change = [] := by
  cases houtcome : (ofLine session t line).outcome with
  | error fault => exact .inr (h.refused fault houtcome)
  | ok answer =>
    obtain ⟨command, hcommand, _⟩ := outcome_eq_ok_iff.1 houtcome
    cases command with
    | assignUnit unit letter =>
      obtain ⟨e, hchange, hrecords⟩ := h.assigned unit letter hcommand
      exact .inl ⟨e, hchange, hrecords.level_eq, hrecords.text?_eq "session_id"⟩
    | assignMetal units metal credits =>
      obtain ⟨_, e, _, hchange, hrecords⟩ :=
        h.valued units metal credits answer hcommand houtcome
      exact .inl ⟨e, hchange, hrecords.level_eq, hrecords.text?_eq "session_id"⟩
    | queryNumeral phrase units => exact .inr (h.numeralAsked phrase units hcommand)
    | queryCredits phrase units metal => exact .inr (h.creditsAsked phrase units metal hcommand)

/-- A line is closed by an event of its session, which is a warning when it was rejected. -/
theorem HasParts.closing_spec (h : HasParts session t line opening recognition change closing) :
    (closing.level == .warn) = (ofLine session t line).isRejected ∧
      closing.text? "session_id" = some session := by
  unfold isRejected
  cases houtcome : (ofLine session t line).outcome with
  | ok answer =>
    have hrecords := h.finished answer houtcome
    rw [hrecords.level_eq]
    exact ⟨rfl, hrecords.text?_eq "session_id"⟩
  | error fault =>
    have hrecords := h.rejected fault houtcome
    rw [hrecords.level_eq]
    exact ⟨rfl, hrecords.text?_eq "session_id"⟩

end Parts

/-- There are as many warnings as lines that were rejected. -/
theorem Leaves.warnings_eq (h : Leaves session t lines trace) :
    trace.warnings = (ofLines session t lines).countP isRejected := by
  induction h with
  | nil t => rfl
  | @cons t line rest opening closing recognition change more hline _ ih =>
    have hopening := hline.opening_spec.1
    have hclosing := hline.closing_spec.1
    have hrecognition : recognition.countP (·.level == .warn) = 0 := by
      obtain ⟨_, e, rfl, hlevel, _⟩ | ⟨_, rfl⟩ := hline.recognition_cases <;> simp [*]
    have hchange : change.countP (·.level == .warn) = 0 := by
      obtain ⟨e, rfl, hlevel, _⟩ | rfl := hline.change_cases <;> simp [*]
    unfold Log.Trace.warnings at ih ⊢
    simp only [List.countP_append, List.countP_cons, List.cons_append, hopening, hrecognition,
      hchange, hclosing, ih, ofLines, Bool.false_eq_true, if_false]
    omega

/-- Two events of the session for each line, and one more for each that gives a command. -/
theorem Leaves.length_ofSession (h : Leaves session t lines trace) :
    (trace.ofSession session).length =
      2 * lines.length + lines.countP fun line => (Command.ofLine line.trim).isOk := by
  induction h with
  | nil t => rfl
  | @cons t line rest opening closing recognition change more hline _ ih =>
    have hopening : (opening.text? "session_id" == some session) = true := by
      rw [hline.opening_spec.2, beq_self_eq_true]
    have hclosing : (closing.text? "session_id" == some session) = true := by
      rw [hline.closing_spec.2, beq_self_eq_true]
    have hrecognition : recognition.countP (·.text? "session_id" == some session) =
        if (Command.ofLine line.trim).isOk then 1 else 0 := by
      obtain ⟨hok, e, rfl, _, hsession⟩ | ⟨hok, rfl⟩ := hline.recognition_cases <;> simp [*]
    have hchange : change.countP (·.text? "session_id" == some session) = 0 := by
      obtain ⟨e, rfl, _, hsession⟩ | rfl := hline.change_cases <;> simp [*]
    unfold Log.Trace.ofSession at ih ⊢
    rw [← List.countP_eq_length_filter] at ih ⊢
    simp only [List.countP_append, List.countP_cons, List.cons_append, hopening, hrecognition,
      hchange, hclosing, ih, List.length_cons, if_true]
    omega

end Turn

namespace Batch

/-- The events at the two ends of a batch: one at the start, and one at the end that tells the
    counts of the summary, when there is one. -/
structure HasEnds (session : Text) (result : Except Fault Summary) (opening : Event)
    (closing : Log.Trace) : Prop where
  begun : opening.Records .info
    [⟨"component".toList, .quoted "merchant_core::interpreter".toList⟩,
     ⟨"op".toList, .quoted "process_input".toList⟩, ⟨"event".toList, .quoted "start".toList⟩,
     ⟨"session_id".toList, .quoted session⟩]
  finished : ∀ summary, result = .ok summary → ∃ e, closing = [e] ∧ e.Records .info
    [⟨"component".toList, .quoted "merchant_core::interpreter".toList⟩,
     ⟨"op".toList, .quoted "process_input".toList⟩, ⟨"event".toList, .quoted "end".toList⟩,
     ⟨"session_id".toList, .quoted session⟩, ⟨"duration_ms".toList, .elapsed⟩,
     ⟨"lines_read".toList, .number summary.linesRead⟩, ⟨"answers".toList, .number summary.answers⟩]
  failed : ∀ fault, result = .error fault → closing = []

/-- The events of a batch, which begins with none: those of the lines that it has carried out
    stand behind its event at the start, and before the one at its end if it has a summary. -/
theorem events_run {b : Batch} (hevents : b.events = #[]) (hlines : b.linesRead = 0) :
    ∃ lines next opening closing, b.source.Yields lines next ∧ b.run.2.linesRead = lines.length ∧
      (∀ summary, b.run.1 = .ok summary → summary.linesRead = lines.length) ∧
      HasEnds b.session b.run.1 opening closing ∧
      b.run.2.events.toList =
        opening :: (Turn.ofLines b.session b.tables lines).flatMap Turn.events ++ closing := by
  obtain ⟨lines, next, hyields, ⟨fault, hfault, hcarried⟩ | ⟨after, abortedWith, hcarried, hrun⟩⟩ :=
    b.exists_carriedOut_run
  · have hread : b.run.2.linesRead = lines.length := by
      rw [hcarried.linesRead, hlines, Nat.zero_add]
    refine ⟨lines, next, Event.start b.session operation, [], hyields, hread, ?_, ?_, ?_⟩
    · intro summary hsummary
      cases hfault.symm.trans hsummary
    · refine ⟨Event.records_start b.session operation, fun summary hsummary => ?_, fun _ _ => rfl⟩
      cases hfault.symm.trans hsummary
    · rw [hcarried.events, hevents]
      simp
  · have hread : after.linesRead = lines.length := by
      rw [hcarried.linesRead, hlines, Nat.zero_add]
    rw [hrun]
    refine ⟨lines, next, Event.start b.session operation, [after.finish], hyields, hread, ?_, ?_, ?_⟩
    · rintro _ ⟨⟩
      exact hread
    · refine ⟨Event.records_start b.session operation, ?_, fun _ hfault => nomatch hfault⟩
      rintro _ ⟨⟩
      refine ⟨_, rfl, ?_⟩
      rw [← hcarried.session]
      exact Event.records_finish after.session operation
        [⟨"lines_read".toList, .number after.linesRead⟩, ⟨"answers".toList, .number after.answers⟩]
    · simp [hcarried.events, hevents]

end Batch

/-- The events of a session tell line by line what has become of it: that the line was begun, which
    command it gives if it gives one, what an accepted assignment has changed, and how the line has
    ended, with its fault when it was rejected. So there are as many warnings as rejected lines,
    and two events of the session for each line and one more for each that gives a command. The
    events of the lines that a batch has carried out, whatever becomes of its source and its sink,
    stand behind one event at its start, and before one with its counts at its end exactly when it
    has a summary. -/
theorem Turn.events_tell_each_line (session : Text) (t : Tables) (lines : List Text) (source : Source)
    (sink : Sink) :
    let told (lines : List Text) : Log.Trace := (Turn.ofLines session t lines).flatMap Turn.events
    let run := Batch.run { session, tables := t, source, sink }
    Turn.Leaves session t lines (told lines) ∧
      (told lines).warnings = (Turn.ofLines session t lines).countP Turn.isRejected ∧
      ((told lines).ofSession session).length =
        2 * lines.length + lines.countP (fun line => (Command.ofLine line.trim).isOk) ∧
      ∃ processed next opening closing,
        source.Yields processed next ∧ run.2.linesRead = processed.length ∧
        (∀ summary, run.1 = .ok summary → summary.linesRead = processed.length) ∧
        Batch.HasEnds session run.1 opening closing ∧
        Turn.Leaves session t processed (told processed) ∧
        run.2.events.toList = opening :: told processed ++ closing := by
  intro told run
  have hleaves (lines : List Text) : Turn.Leaves session t lines (told lines) :=
    Turn.leaves_ofLines session t lines
  obtain ⟨processed, next, opening, closing, hyields, hread, hsummary, hends, hevents⟩ :=
    Batch.events_run (b := { session, tables := t, source, sink }) rfl rfl
  exact ⟨hleaves lines, (hleaves lines).warnings_eq, (hleaves lines).length_ofSession,
    processed, next, opening, closing, hyields, hread, hsummary, hends, hleaves processed, hevents⟩

end TradeNotes
