import TradeNotes.Proofs.Cli.Outcome
import TradeNotes.Proofs.Text.Encoding

namespace TradeNotes.Cli

/-- A file that holds lines gives them, trimmed. -/
theorem gives_linesOf {lines : List Text} (hlines : ∀ line ∈ lines, '\n' ∉ line) :
    (Source.ofBytes (Batch.linesOf lines)).Gives (lines.map Text.trim) := by
  rw [← Text.linesOfBytes_flatMap_utf8 hlines]
  exact Source.gives_of_bytes rfl

/-- But for the events, a session has no effect on what lines come to that are given as
    arguments. -/
theorem evalFrom_session (switches : Switches) (session session' : Text) (t : Tables)
    (lines : List Text) :
    let outcome := evalFrom switches session t lines
    let outcome' := evalFrom switches session' t lines
    outcome.code = outcome'.code ∧ outcome.out = outcome'.out ∧
      outcome.errorLines = outcome'.errorLines := by
  induction lines generalizing t with
  | nil => exact ⟨rfl, rfl, rfl⟩
  | cons line rest ih =>
    obtain ⟨hsame, htables⟩ := Turn.ofLine_session session session' t line
    cases houtcome : (Turn.ofLine session t line).outcome with
    | error fault =>
      rw [evalFrom_cons_of_error houtcome, evalFrom_cons_of_error (hsame.symm.trans houtcome)]
      refine ⟨rfl, rfl, ?_⟩
      simp only [Outcome.errorLines, List.filterMap_append, filterMap_line?_events]
    | ok answer =>
      obtain ⟨hcode, hout, herror⟩ := ih (Turn.ofLine session t line).tables
      rw [evalFrom_cons_of_ok houtcome, evalFrom_cons_of_ok (hsame.symm.trans houtcome), ← htables]
      refine ⟨hcode, congrArg (Batch.linesOf answer.toList ++ ·) hout, ?_⟩
      simp only [Outcome.errorLines, List.filterMap_append, filterMap_line?_events]
      exact herror

/-- Lines that are given as arguments come to the same as a file that holds them. A run
    writes the fallback for the first line that is rejected, and ends well. With arguments
    that line is reported behind the tables, with the code of the kind that the run stopped
    at, and the exit code tells of it. What is dumped are the same tables, and asking for
    them changes neither the answers nor an exit code. -/
theorem eval_agrees_with_run {lines : List Text} (hlines : ∀ line ∈ lines, '\n' ∉ line)
    (session session' : Text) (input : Option Text) (opened : Except Text Source)
    (given given' : Option Text) (stamps stamps' : Nat → Log.Stamp) :
    let file : Source := .ofBytes (Batch.linesOf lines)
    let ran (dumpTables : Bool) : Outcome :=
      Invocation.execute ⟨{ dumpTables }, .run input⟩ session (.ok file)
    let evaluated (dumpTables : Bool) : Outcome :=
      Invocation.execute ⟨{ dumpTables }, .eval lines⟩ session' opened
    let turns := Turn.ofLines session .empty lines
    let rejection := turns.findSome? Turn.fault?
    ∃ summary after,
      Batch.run { session, tables := .empty, source := file, sink := {} } = (.ok summary, after) ∧
      summary.abortedWith = rejection.map Fault.kind ∧
      (∀ fault ∈ rejection,
        "Error: ".toList ++ (['['] ++ fault.kind.code ++ [']']) <+: report fault) ∧
      after.tables =
        Turn.tablesAfter session' .empty (lines.take (Turn.firstRejected turns)) ∧
      (∀ dumpTables,
        let ranError := (ran dumpTables).errorText { dumpTables } given stamps
        let evaluatedError := (evaluated dumpTables).errorText { dumpTables } given' stamps'
        (ran dumpTables).code = 0 ∧
        (evaluated dumpTables).code = (if rejection.isSome then 1 else 0) ∧
        (ran dumpTables).out = (evaluated dumpTables).out ++
          (if rejection.isSome then Text.utf8 (Batch.fallback ++ ['\n']) else []) ∧
        ranError = (if dumpTables then after.tables.dump ++ ['\n'] else []) ∧
        evaluatedError = ranError ++
          (rejection.map fun fault => report fault ++ ['\n']).getD []) ∧
      (ran true).code = (ran false).code ∧ (ran true).out = (ran false).out ∧
      (evaluated true).code = (evaluated false).code ∧
      (evaluated true).out = (evaluated false).out := by
  intro file ran evaluated turns rejection
  obtain ⟨summary, after, hbatch, hkind, htaken, htables⟩ :=
    exists_run_of_gives session (gives_linesOf hlines)
  have hran (dumpTables : Bool) : ran dumpTables = _ := run_of_summary { dumpTables } session hbatch
  have hevaluated (dumpTables : Bool) :
      (evaluated dumpTables).code = (if rejection.isSome then 1 else 0) ∧
      (evaluated dumpTables).out =
        Batch.linesOf ((turns.take (Turn.firstRejected turns)).filterMap Turn.answer?) ∧
      (evaluated dumpTables).errorLines =
        dumped { dumpTables } after.tables ++ (rejection.map report).toList := by
    obtain ⟨hcode, hout, herror⟩ := evalFrom_ofLines { dumpTables } session .empty lines
    -- Both commands have sessions of their own, which show only in the events.
    obtain ⟨hcode', hout', herror'⟩ := evalFrom_session { dumpTables } session' session .empty lines
    rw [htables]
    exact ⟨hcode'.trans hcode, hout'.trans hout, herror'.trans herror⟩
  refine ⟨summary, after, hbatch, hkind, fun fault _ => code_prefix_report fault,
    htables.trans (Turn.tablesAfter_session ..), fun dumpTables => ?_, ?_, ?_, ?_, ?_⟩
  · obtain ⟨hcode, hout, herror⟩ := hevaluated dumpTables
    have hranError : (ran dumpTables).errorText { dumpTables } given stamps =
        if dumpTables then after.tables.dump ++ ['\n'] else [] := by
      rw [Outcome.errorText_of_profile_none rfl, hran]
      simp only [Outcome.errorLines, List.filterMap_append, filterMap_line?_events,
        filterMap_line?_dump, List.nil_append, flatMap_dumped]
    refine ⟨by rw [hran], hcode, by rw [hran, hout, ← htaken], hranError, ?_⟩
    rw [hranError, Outcome.errorText_of_profile_none rfl, herror, List.flatMap_append,
      flatMap_dumped]
    cases rejection with
    | none => rfl
    | some fault => exact congrArg (_ ++ ·) (List.flatMap_singleton _ _)
  · rw [hran, hran]
  · rw [hran, hran]
  · rw [(hevaluated true).1, (hevaluated false).1]
  · rw [(hevaluated true).2.1, (hevaluated false).2.1]

/-- Both stop at the third of these lines, the first of which has white space around it. -/
theorem eval_agrees_with_run_rejected :
    let lines : List Text := ["  glob is I\r".toList, "how much is glob?".toList,
      "prok is Q".toList, "how much is glob glob?".toList]
    let file : Source := .ofBytes (Batch.linesOf lines)
    let ran : Outcome := Invocation.execute ⟨{ dumpTables := true }, .run none⟩ [] (.ok file)
    let evaluated : Outcome :=
      Invocation.execute ⟨{ dumpTables := true }, .eval lines⟩ ['1'] (.ok file)
    let stamp : Nat → Log.Stamp := fun _ => ⟨[], []⟩
    (∀ line ∈ lines, '\n' ∉ line) ∧ ran.code = 0 ∧ evaluated.code = 1 ∧
      ran.out = evaluated.out ++ Text.utf8 (Batch.fallback ++ ['\n']) ∧
      evaluated.errorText { dumpTables := true } none stamp =
        ran.errorText { dumpTables := true } none stamp ++
          (report (.unrecognizedInstruction ['Q']) ++ ['\n']) := by
  intro lines file ran evaluated stamp
  have hlines : ∀ line ∈ lines, '\n' ∉ line := by decide
  have hrejection : (Turn.ofLines [] .empty lines).findSome? Turn.fault? =
      some (.unrecognizedInstruction ['Q']) := by
    decide +kernel
  obtain ⟨_, _, _, _, _, _, hboth, _⟩ :=
    eval_agrees_with_run hlines [] ['1'] none (.ok file) none none stamp stamp
  obtain ⟨hcode, hevaluated, hout, _, herror⟩ := hboth true
  rw [hrejection] at hevaluated hout herror
  exact ⟨hlines, hcode, hevaluated, hout, herror⟩

end TradeNotes.Cli
