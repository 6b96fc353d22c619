import TradeNotes.Cli.Command
import TradeNotes.Proofs.Session.Reading
import TradeNotes.Proofs.Session.Run

namespace TradeNotes.Cli

/-- The text of a notice that is no event. -/
def Notice.line? : Notice → Option Text
  | .event _ => none
  | .line t => some t

namespace Outcome

/-- What the command writes to the standard error when a clock stamps each notice. -/
def errorText (outcome : Outcome) (switches : Switches) (given : Option Text)
    (stamps : Nat → Log.Stamp) : Text :=
  (outcome.notices.mapIdx fun i notice => notice.text switches given (stamps i)).flatten

/-- The lines on the standard error that are not of the log. -/
def errorLines (outcome : Outcome) : List Text :=
  outcome.notices.filterMap Notice.line?

/-- Without a log nothing else is written, whatever the clock tells. -/
theorem errorText_of_profile_none {switches : Switches} (hprofile : switches.profile = none)
    (outcome : Outcome) (given : Option Text) (stamps : Nat → Log.Stamp) :
    outcome.errorText switches given stamps = outcome.errorLines.flatMap fun t => t ++ ['\n'] := by
  unfold errorText errorLines
  generalize outcome.notices = notices
  induction notices generalizing stamps with
  | nil => rfl
  | cons notice rest ih =>
    rw [List.mapIdx_cons, List.flatten_cons, ih fun i => stamps (i + 1), List.filterMap_cons]
    cases notice with
    | event e => simp [Notice.line?, Notice.text, hprofile]
    | line t => simp [Notice.line?, Notice.text]

end Outcome

theorem filterMap_line?_events (events : List Event) :
    (events.map Notice.event).filterMap Notice.line? = [] := by
  rw [List.filterMap_map, List.filterMap_eq_nil_iff]
  intro event _
  rfl

/-- The line that tells the tables, when they are asked for. -/
def dumped (switches : Switches) (t : Tables) : List Text :=
  if switches.dumpTables then [t.dump] else []

theorem filterMap_line?_dump (switches : Switches) (t : Tables) :
    (dump switches t).filterMap Notice.line? = dumped switches t := by
  unfold dump dumped
  split <;> rfl

theorem flatMap_dumped (switches : Switches) (t : Tables) :
    ((dumped switches t).flatMap fun line => line ++ ['\n']) =
      if switches.dumpTables then t.dump ++ ['\n'] else [] := by
  unfold dumped
  split
  · exact List.flatMap_singleton _ _
  · rfl

/-- The line that reports the fault of a line. -/
def report (fault : Fault) : Text :=
  "Error: ".toList ++ (Report.ofFault fault).text

/-- A report begins with the code of the kind of the fault. -/
theorem code_prefix_report (fault : Fault) :
    "Error: ".toList ++ (['['] ++ fault.kind.code ++ [']']) <+: report fault := by
  have hkind : (Report.ofFault fault).kind = fault.kind := by cases fault <;> rfl
  unfold report Report.text
  rw [List.prefix_append_right_inj, hkind]
  simp only [List.append_assoc]
  rw [List.prefix_append_right_inj, List.prefix_append_right_inj]
  exact List.prefix_append _ _

variable (switches : Switches) (session : Text)

/-- A batch over lines that a source gives has a summary, which tells the kind of the first
    fault. It has written the answers before the line with that fault, and for it the
    fallback, and its tables are those before it. -/
theorem exists_run_of_gives {lines : List Text} {s : Source} (h : s.Gives (lines.map Text.trim)) :
    let turns := Turn.ofLines session .empty lines
    let k := Turn.firstRejected turns
    let rejection := turns.findSome? Turn.fault?
    ∃ summary after,
      Batch.run { session, tables := .empty, source := s, sink := {} } = (.ok summary, after) ∧
      summary.abortedWith = rejection.map Fault.kind ∧
      after.sink.taken.toList = Batch.linesOf ((turns.take k).filterMap Turn.answer?) ++
        (if rejection.isSome then Text.utf8 (Batch.fallback ++ ['\n']) else []) ∧
      after.tables = Turn.tablesAfter session .empty (lines.take k) := by
  intro turns k rejection
  have hreplies : Batch.linesOf ((turns.take (k + 1)).filterMap Batch.reply?) =
      Batch.linesOf ((turns.take k).filterMap Turn.answer?) ++
        (if rejection.isSome then Text.utf8 (Batch.fallback ++ ['\n']) else []) := by
    rw [Batch.replies_upto_firstRejected, Batch.linesOf_append,
      if_congr (Turn.firstRejected_lt_length_iff turns) rfl rfl, ← Batch.linesOf_singleton]
    split <;> rfl
  let b : Batch := { session, tables := .empty, source := .ofLines lines, sink := {} }
  have hloop := Batch.loop_lines
    { b with events := b.events.push (Event.start session Batch.operation) } rfl rfl
  obtain ⟨summary, held, hrun, hkind, htaken, htables⟩ : ∃ summary held,
      b.run = (.ok summary, held) ∧
      summary.abortedWith = rejection.map Fault.kind ∧
      held.sink.taken.toList = Batch.linesOf ((turns.take (k + 1)).filterMap Batch.reply?) ∧
      held.tables = Turn.tablesAfter session .empty (lines.take k) :=
    ⟨_, _, Batch.run_of_loop_ok hloop rfl, Turn.faultKind?_firstRejected turns,
      Array.toList_appendList, rfl⟩
  have hgives : (Source.ofLines lines).Gives (lines.map Text.trim) := Source.gives_of_lines rfl
  obtain ⟨hresult, source, hafter⟩ : Batch.Alike { b with source := s }.run b.run :=
    Batch.run_alike h hgives b
  rw [hrun] at hresult hafter
  exact ⟨summary, { held with source }, Prod.ext hresult hafter, hkind, htaken.trans hreplies,
    htables⟩

/-- A run whose batch has a summary ends well and tells the tables that the batch has left. -/
theorem run_of_summary {s : Source} {summary : Summary} {after : Batch}
    (hrun : Batch.run { session, tables := .empty, source := s, sink := {} } =
      (.ok summary, after)) :
    run switches session s = ⟨0, after.sink.taken.toList,
      after.events.toList.map Notice.event ++ dump switches after.tables⟩ := by
  simp only [run, hrun]

section
variable {switches session} {t : Tables} {line : Text}

theorem evalFrom_cons_of_ok {answer : Option Text}
    (houtcome : (Turn.ofLine session t line).outcome = .ok answer) (rest : List Text) :
    evalFrom switches session t (line :: rest) =
      let outcome := evalFrom switches session (Turn.ofLine session t line).tables rest
      ⟨outcome.code, Batch.linesOf answer.toList ++ outcome.out,
        (Turn.ofLine session t line).events.map Notice.event ++ outcome.notices⟩ := by
  rw [evalFrom]
  simp only [houtcome]
  cases answer with
  | none => rfl
  | some answer => simp [Batch.linesOf]

theorem evalFrom_cons_of_error {fault : Fault}
    (houtcome : (Turn.ofLine session t line).outcome = .error fault) (rest : List Text) :
    evalFrom switches session t (line :: rest) =
      ⟨1, [], (Turn.ofLine session t line).events.map Notice.event ++ dump switches t ++
        [.line (report fault)]⟩ := by
  rw [evalFrom]
  simp only [houtcome, Turn.tables_of_outcome_error houtcome]
  rfl

end

/-- Lines that are given as arguments are answered up to the first that is rejected. The
    tables before it are told, and then its fault is reported. -/
theorem evalFrom_ofLines (t : Tables) (lines : List Text) :
    let turns := Turn.ofLines session t lines
    let k := Turn.firstRejected turns
    let rejection := turns.findSome? Turn.fault?
    let outcome := evalFrom switches session t lines
    outcome.code = (if rejection.isSome then 1 else 0) ∧
      outcome.out = Batch.linesOf ((turns.take k).filterMap Turn.answer?) ∧
      outcome.errorLines =
        dumped switches (Turn.tablesAfter session t (lines.take k)) ++
          (rejection.map report).toList := by
  induction lines generalizing t with
  | nil => exact ⟨rfl, rfl, (filterMap_line?_dump switches t).trans (List.append_nil _).symm⟩
  | cons line rest ih =>
    rw [Turn.ofLines]
    dsimp only at ih ⊢
    cases houtcome : (Turn.ofLine session t line).outcome with
    | error fault =>
      rw [Turn.firstRejected_cons_of_error houtcome, List.findSome?_cons,
        Turn.fault?_of_error houtcome, evalFrom_cons_of_error houtcome]
      refine ⟨rfl, rfl, ?_⟩
      simp only [Outcome.errorLines, List.filterMap_append, filterMap_line?_events,
        filterMap_line?_dump]
      rfl
    | ok answer =>
      obtain ⟨hcode, hout, herror⟩ := ih (Turn.ofLine session t line).tables
      rw [Turn.firstRejected_cons_of_ok houtcome, List.findSome?_cons,
        Turn.fault?_of_ok houtcome, evalFrom_cons_of_ok houtcome]
      refine ⟨hcode, ?_, ?_⟩
      · dsimp only
        rw [hout, ← Batch.linesOf_append, List.take_succ_cons, List.filterMap_cons,
          Turn.answer?_of_ok houtcome]
        cases answer <;> rfl
      · simp only [Outcome.errorLines, List.filterMap_append, filterMap_line?_events]
        exact herror

end TradeNotes.Cli
