import TradeNotes.Proofs.Command.Forms
import TradeNotes.Proofs.Text.Trimming
import TradeNotes.Session.Turn

namespace TradeNotes

namespace Turn

/-- Whether the line was rejected. -/
def isRejected (turn : Turn) : Bool :=
  match turn.outcome with
  | .ok _ => false
  | .error _ => true

/-- The answer to the line, when it is a question that was answered. -/
def answer? (turn : Turn) : Option Text :=
  match turn.outcome with
  | .ok answer => answer
  | .error _ => none

/-- The kind of fault of a line that was rejected. -/
def faultKind? (turn : Turn) : Option FaultKind :=
  match turn.outcome with
  | .ok _ => none
  | .error fault => some fault.kind

/-- The fault of a line that was rejected. -/
def fault? (turn : Turn) : Option Fault :=
  match turn.outcome with
  | .ok _ => none
  | .error fault => some fault

/-- The place of the first line that was rejected, or the number of lines when none was. -/
def firstRejected (turns : List Turn) : Nat :=
  turns.findIdx isRejected

/-- The tables after lines that are carried out one after the other. -/
def tablesAfter (session : Text) (t : Tables) (lines : List Text) : Tables :=
  lines.foldl (fun t line => (ofLine session t line).tables) t

variable {session : Text} {t : Tables} {line : Text}

/-- A line goes well exactly when it gives a command that is accepted; the tables are those
    that the command leaves. -/
theorem outcome_eq_ok_iff {answer : Option Text} :
    (ofLine session t line).outcome = .ok answer ↔
      ∃ command, Command.ofLine line.trim = .ok command ∧
        t.apply command = .ok ((ofLine session t line).tables, answer) := by
  unfold ofLine
  cases hcommand : Command.ofLine line.trim with
  | error fault => simp
  | ok command =>
    cases happly : t.apply command with
    | error fault => simp [happly]
    | ok result => simp [happly, Prod.ext_iff]

/-- A line is rejected exactly when it gives no command or the command is refused. -/
theorem outcome_eq_error_iff {fault : Fault} :
    (ofLine session t line).outcome = .error fault ↔
      Command.ofLine line.trim = .error fault ∨
        ∃ command, Command.ofLine line.trim = .ok command ∧ t.apply command = .error fault := by
  unfold ofLine
  cases hcommand : Command.ofLine line.trim with
  | error fault => simp
  | ok command =>
    cases happly : t.apply command with
    | error fault => simp [happly]
    | ok result => simp [happly]

/-- A line whose command is accepted goes well. -/
theorem outcome_of_apply {command : Command} {after : Tables} {answer : Option Text}
    (hcommand : Command.ofLine line.trim = .ok command)
    (happly : t.apply command = .ok (after, answer)) :
    (ofLine session t line).outcome = .ok answer := by
  simp only [ofLine, hcommand, happly]

/-- A line that gives a command is rejected only because the command is refused. -/
theorem apply_of_outcome_error {command : Command} {fault : Fault}
    (h : (ofLine session t line).outcome = .error fault)
    (hcommand : Command.ofLine line.trim = .ok command) : t.apply command = .error fault := by
  obtain hparse | ⟨parsed, hparse, happly⟩ := outcome_eq_error_iff.1 h
  · rw [hcommand] at hparse
    cases hparse
  · cases hcommand.symm.trans hparse
    exact happly

/-- A line that is rejected leaves the tables as they are. -/
theorem tables_of_outcome_error {fault : Fault}
    (h : (ofLine session t line).outcome = .error fault) : (ofLine session t line).tables = t := by
  obtain hcommand | ⟨command, hcommand, happly⟩ := outcome_eq_error_iff.1 h
  · simp only [ofLine, hcommand]
  · simp only [ofLine, hcommand, happly]

/-- All that a line can do to the tables: an assignment changes one letter, a valuation by
    units with letters sets one ratio, and any other line leaves the tables as they are. -/
theorem tables_ofLine_cases (session : Text) (t : Tables) (line : Text) :
    (∃ unit letter, Command.ofLine line.trim = .ok (.assignUnit unit letter) ∧
      (ofLine session t line).tables = t.assignUnit unit letter) ∨
    (∃ units metal credits numeral,
      Command.ofLine line.trim = .ok (.assignMetal units metal credits) ∧
      t.numeral units = .ok numeral ∧
      (ofLine session t line).tables = t.setRatio metal (Tables.perUnit credits numeral.value)) ∨
    ((∀ unit letter, Command.ofLine line.trim ≠ .ok (.assignUnit unit letter)) ∧
      (∀ units metal credits numeral,
        Command.ofLine line.trim = .ok (.assignMetal units metal credits) →
          t.numeral units ≠ .ok numeral) ∧
      (ofLine session t line).tables = t) := by
  cases houtcome : (ofLine session t line).outcome with
  | error fault =>
    refine .inr (.inr ⟨?_, ?_, tables_of_outcome_error houtcome⟩)
    · intro unit letter hcommand
      cases apply_of_outcome_error houtcome hcommand
    · intro units metal credits numeral hcommand hnumeral
      have happly := apply_of_outcome_error houtcome hcommand
      rw [Tables.apply_assignMetal metal credits hnumeral] at happly
      cases happly
  | ok answer =>
    obtain ⟨command, hparse, happly⟩ := outcome_eq_ok_iff.1 houtcome
    obtain ⟨unit, letter, rfl, htables, _⟩ | ⟨units, metal, credits, numeral, rfl, hnumeral,
      htables, _⟩ | ⟨hquery, htables, _⟩ := Tables.apply_cases happly
    · exact .inl ⟨unit, letter, hparse, htables⟩
    · exact .inr (.inl ⟨units, metal, credits, numeral, hparse, hnumeral, htables⟩)
    · refine .inr (.inr ⟨?_, ?_, htables⟩)
      · intro unit letter hcommand
        cases hcommand.symm.trans hparse
        cases hquery
      · intro units metal credits numeral hcommand
        cases hcommand.symm.trans hparse
        cases hquery

/-- The fault of a line that is rejected lies in the line: it is never one of reading a
    source, of writing to a sink or of a dump. -/
theorem isInput_of_outcome_error {fault : Fault}
    (h : (ofLine session t line).outcome = .error fault) : fault.kind.isInput = true := by
  obtain hcommand | ⟨command, _, happly⟩ := outcome_eq_error_iff.1 h
  · obtain rfl | ⟨right, rfl⟩ | rfl := Command.ofLine_eq_error hcommand <;> rfl
  · obtain ⟨unit, rfl⟩ | ⟨metal, rfl⟩ := Tables.apply_eq_error happly <;> rfl

/-- White space around a line does not count. -/
theorem ofLine_trim (session : Text) (t : Tables) (line : Text) :
    ofLine session t line.trim = ofLine session t line := by
  unfold ofLine
  rw [Text.trim_trim]

/-- A session names the events of a line and has no effect on what becomes of it. -/
theorem ofLine_session (session session' : Text) (t : Tables) (line : Text) :
    (ofLine session t line).outcome = (ofLine session' t line).outcome ∧
      (ofLine session t line).tables = (ofLine session' t line).tables := by
  unfold ofLine
  cases Command.ofLine line.trim with
  | error fault => exact ⟨rfl, rfl⟩
  | ok command =>
    cases happly : t.apply command with
    | error fault => simp only [happly, and_self]
    | ok result => simp only [happly, and_self]

theorem answer?_of_ok {turn : Turn} {answer : Option Text} (h : turn.outcome = .ok answer) :
    turn.answer? = answer := by
  simp only [answer?, h]

theorem fault?_of_ok {turn : Turn} {answer : Option Text} (h : turn.outcome = .ok answer) :
    turn.fault? = none := by
  simp only [fault?, h]

theorem fault?_of_error {turn : Turn} {fault : Fault} (h : turn.outcome = .error fault) :
    turn.fault? = some fault := by
  simp only [fault?, h]

theorem exists_of_isRejected {turn : Turn} (h : turn.isRejected = true) :
    ∃ fault, turn.outcome = .error fault := by
  cases houtcome : turn.outcome with
  | error fault => exact ⟨fault, rfl⟩
  | ok answer => simp [isRejected, houtcome] at h

theorem exists_of_not_isRejected {turn : Turn} (h : turn.isRejected = false) :
    ∃ answer, turn.outcome = .ok answer := by
  cases houtcome : turn.outcome with
  | ok answer => exact ⟨answer, rfl⟩
  | error fault => simp [isRejected, houtcome] at h

theorem firstRejected_cons_of_error {turn : Turn} {fault : Fault} (h : turn.outcome = .error fault)
    (rest : List Turn) : firstRejected (turn :: rest) = 0 := by
  simp only [firstRejected, List.findIdx_cons, isRejected, h, cond_true]

theorem firstRejected_cons_of_ok {turn : Turn} {answer : Option Text} (h : turn.outcome = .ok answer)
    (rest : List Turn) : firstRejected (turn :: rest) = firstRejected rest + 1 := by
  simp only [firstRejected, List.findIdx_cons, isRejected, h, cond_false]

theorem faultKind?_firstRejected (turns : List Turn) :
    turns[firstRejected turns]?.bind faultKind? = (turns.findSome? fault?).map Fault.kind := by
  induction turns with
  | nil => rfl
  | cons turn rest ih =>
    cases houtcome : turn.outcome with
    | error fault =>
      rw [firstRejected_cons_of_error houtcome]
      simp [faultKind?, fault?, houtcome]
    | ok answer =>
      rw [firstRejected_cons_of_ok houtcome, List.getElem?_cons_succ, ih, List.findSome?_cons,
        fault?_of_ok houtcome]

theorem firstRejected_lt_length_iff (turns : List Turn) :
    firstRejected turns < turns.length ↔ (turns.findSome? fault?).isSome := by
  induction turns with
  | nil => simp [firstRejected]
  | cons turn rest ih =>
    cases houtcome : turn.outcome with
    | error fault =>
      rw [firstRejected_cons_of_error houtcome]
      simp [fault?, houtcome]
    | ok answer =>
      rw [firstRejected_cons_of_ok houtcome, List.length_cons, Nat.add_lt_add_iff_right, ih,
        List.findSome?_cons, fault?_of_ok houtcome]

theorem isRejected_of_mem_take {turns : List Turn} {n : Nat} (hn : n ≤ firstRejected turns) :
    ∀ turn ∈ turns.take n, turn.isRejected = false := by
  intro turn hturn
  obtain ⟨i, hi, rfl⟩ := List.mem_take_iff_getElem.1 hturn
  have hbefore : i < turns.findIdx isRejected := by
    rw [firstRejected] at hn
    omega
  exact List.not_of_lt_findIdx hbefore

theorem length_ofLines (session : Text) (t : Tables) (lines : List Text) :
    (ofLines session t lines).length = lines.length := by
  induction lines generalizing t with
  | nil => rfl
  | cons line rest ih => simp only [ofLines, List.length_cons, ih]

theorem tablesAfter_cons (session : Text) (t : Tables) (line : Text) (rest : List Text) :
    tablesAfter session t (line :: rest) =
      tablesAfter session (ofLine session t line).tables rest := rfl

theorem tablesAfter_session (session session' : Text) (t : Tables) (lines : List Text) :
    tablesAfter session t lines = tablesAfter session' t lines := by
  induction lines generalizing t with
  | nil => rfl
  | cons line rest ih =>
    rw [tablesAfter_cons, tablesAfter_cons, (ofLine_session session session' t line).2, ih]

theorem tablesAfter_append (session : Text) (t : Tables) (lines more : List Text) :
    tablesAfter session t (lines ++ more) =
      tablesAfter session (tablesAfter session t lines) more :=
  List.foldl_append

theorem tablesAfter_concat (session : Text) (t : Tables) (lines : List Text) (line : Text) :
    tablesAfter session t (lines ++ [line]) =
      (ofLine session (tablesAfter session t lines) line).tables :=
  tablesAfter_append session t lines [line]

theorem ofLines_append (session : Text) (t : Tables) (lines more : List Text) :
    ofLines session t (lines ++ more) =
      ofLines session t lines ++ ofLines session (tablesAfter session t lines) more := by
  induction lines generalizing t with
  | nil => rfl
  | cons line rest ih =>
    simp only [List.cons_append, ofLines, ih, tablesAfter_cons]

theorem take_ofLines_append (session : Text) (t : Tables) (lines more : List Text) :
    (ofLines session t (lines ++ more)).take lines.length = ofLines session t lines := by
  rw [ofLines_append, ← length_ofLines session t lines, List.take_left]

theorem ofLines_concat (session : Text) (t : Tables) (lines : List Text) (line : Text) :
    ofLines session t (lines ++ [line]) =
      ofLines session t lines ++ [ofLine session (tablesAfter session t lines) line] :=
  ofLines_append session t lines [line]

theorem take_succ_ofLines (session : Text) (t : Tables) (lines : List Text) (line : Text)
    (rest : List Text) :
    (ofLines session t (lines ++ line :: rest)).take (lines.length + 1) =
      ofLines session t (lines ++ [line]) := by
  rw [List.append_cons, ← take_ofLines_append session t (lines ++ [line]) rest,
    List.length_append, List.length_singleton]

theorem getElem?_ofLines (session : Text) (t : Tables) (lines : List Text) (line : Text)
    (rest : List Text) :
    (ofLines session t (lines ++ line :: rest))[lines.length]? =
      some (ofLine session (tablesAfter session t lines) line) := by
  rw [ofLines_append, ← length_ofLines session t lines, List.getElem?_append_right (le_refl _),
    Nat.sub_self]
  rfl

/-- Either no line is rejected, or there is a first one that is. -/
theorem firstRejected_cases (session : Text) (t : Tables) (lines : List Text) :
    ((∀ turn ∈ ofLines session t lines, turn.isRejected = false) ∧
      firstRejected (ofLines session t lines) = lines.length) ∨
    ∃ before line rest fault, lines = before ++ line :: rest ∧
      (∀ turn ∈ ofLines session t before, turn.isRejected = false) ∧
      (ofLine session (tablesAfter session t before) line).outcome = .error fault ∧
      firstRejected (ofLines session t lines) = before.length := by
  induction lines generalizing t with
  | nil => exact .inl ⟨by simp [ofLines], rfl⟩
  | cons line rest ih =>
    rw [ofLines]
    cases houtcome : (ofLine session t line).outcome with
    | error fault =>
      exact .inr ⟨[], line, rest, fault, rfl, by simp [ofLines], houtcome,
        firstRejected_cons_of_error houtcome _⟩
    | ok answer =>
      have haccept : (ofLine session t line).isRejected = false := by
        simp only [isRejected, houtcome]
      rw [firstRejected_cons_of_ok houtcome]
      obtain ⟨hothers, hfirst⟩ | ⟨before, rejected, after, fault, rfl, hbefore, hfault, hfirst⟩ :=
        ih (ofLine session t line).tables
      · exact .inl ⟨List.forall_mem_cons.2 ⟨haccept, hothers⟩, by rw [hfirst, List.length_cons]⟩
      · refine .inr ⟨line :: before, rejected, after, fault, rfl, ?_, hfault, ?_⟩
        · exact List.forall_mem_cons.2 ⟨haccept, hbefore⟩
        · rw [hfirst, List.length_cons]

theorem ofLines_map_trim (session : Text) (t : Tables) (lines : List Text) :
    ofLines session t (lines.map Text.trim) = ofLines session t lines := by
  induction lines generalizing t with
  | nil => rfl
  | cons line rest ih => simp only [List.map_cons, ofLines, ofLine_trim, ih]

theorem tablesAfter_map_trim (session : Text) (t : Tables) (lines : List Text) :
    tablesAfter session t (lines.map Text.trim) = tablesAfter session t lines := by
  induction lines generalizing t with
  | nil => rfl
  | cons line rest ih => rw [List.map_cons, tablesAfter_cons, tablesAfter_cons, ofLine_trim, ih]

end Turn

end TradeNotes
