import TradeNotes.Proofs.Session.Progress
import TradeNotes.Proofs.Session.Reading

namespace TradeNotes.Batch

variable {b : Batch} {bytes : List UInt8} {reason : Text}

/-- When all lines that end in a newline are accepted, a source that fails behind its bytes
    stops the batch there. The bytes of an unfinished line leave no trace. -/
theorem loop_of_bytes_accepted (hfeed : b.source.feed = .bytes bytes (some reason))
    (hroom : b.sink.room = none)
    (haccepted : ∀ turn ∈ Turn.ofLines b.session b.tables (Text.completeLines bytes),
      turn.isRejected = false) :
    ∃ source : Source,
      source.current = (Text.completeLines bytes).getLast?.or b.source.current ∧
      b.loop = (.error (.inputOutput reason), b.afterLines source (Text.completeLines bytes)) := by
  obtain ⟨next, unfinished, hyields, hnext, hunfinished⟩ := Source.yields_of_bytes hfeed
  have hloop := loop_of_accepted hyields haccepted (Sink.hasRoom_of_room_none hroom _)
  have hfetch := Source.fetch_bytes_failed hnext hunfinished
  refine ⟨{ next with feed := .bytes [] (some reason) }, hyields.current_eq, ?_⟩
  rw [hloop, loop_of_fetch_failed (b := b.afterLines next (Text.completeLines bytes)) hfetch]
  rfl

/-- The first line that is rejected, if it ends in a newline, ends the batch well, however the
    bytes end behind it. -/
theorem loop_of_bytes_rejected {failure : Option Text} {before rest : List Text} {line : Text}
    {fault : Fault} (hfeed : b.source.feed = .bytes bytes failure) (hroom : b.sink.room = none)
    (hlines : Text.completeLines bytes = before ++ line :: rest)
    (haccepted : ∀ turn ∈ Turn.ofLines b.session b.tables before, turn.isRejected = false)
    (houtcome : (Turn.ofLine b.session (Turn.tablesAfter b.session b.tables before) line).outcome =
      .error fault) :
    ∃ source : Source, source.current = some line ∧
      b.loop = (.ok (some fault.kind),
        { (b.afterLines source before).afterTurn source
            (Turn.ofLine b.session (Turn.tablesAfter b.session b.tables before) line) with
          sink := (b.afterLines source before).sink.taking (linesOf [fallback]) }) := by
  obtain ⟨next, unfinished, hyields, -, -⟩ := Source.yields_of_bytes hfeed
  rw [hlines] at hyields
  obtain ⟨between, hbefore, hrest⟩ := hyields.exists_of_append
  have hloop := loop_of_accepted hbefore haccepted (Sink.hasRoom_of_room_none hroom _)
  cases hrest with
  | @cons _ source _ _ _ hfetch hcurrent _ =>
    have hleft : (b.afterLines between before).sink.room = none := by
      simp only [afterLines, Sink.taking, hroom, Option.map_none]
    have hstop := loop_of_rejected (b := b.afterLines between before) hfetch hcurrent houtcome
      (Sink.hasRoom_of_room_none hleft _)
    exact ⟨source, hcurrent, hloop.trans hstop⟩

/-- A batch in which a line is rejected ends well, and the same way whatever stands behind the
    last newline and whether the bytes end there or fail. -/
theorem run_alike_of_rejected {b : Batch} {s r : Source} {bytes' : List UInt8}
    {failure failure' : Option Text} (hfeed : s.feed = .bytes bytes failure)
    (hfeed' : r.feed = .bytes bytes' failure')
    (hsame : Text.completeLines bytes' = Text.completeLines bytes)
    (hroom : b.sink.room = none) (hflush : b.sink.flush = .ok ())
    (hrejected : ∃ turn ∈ Turn.ofLines b.session b.tables (Text.completeLines bytes),
      turn.isRejected = true) :
    let run := { b with source := s }.run
    let run' := { b with source := r }.run
    (∃ summary, run.1 = .ok summary ∧ summary.aborted = true) ∧ Alike run run' ∧
      run.2.source.current = run'.2.source.current := by
  intro run run'
  let started (source : Source) : Batch :=
    { b with source, events := b.events.push (Event.start b.session operation) }
  obtain ⟨haccepted, -⟩ | ⟨before, line, rest, fault, hlines, haccepted, houtcome, -⟩ :=
    Turn.firstRejected_cases b.session b.tables (Text.completeLines bytes)
  · obtain ⟨turn, hturn, hrejected⟩ := hrejected
    rw [haccepted turn hturn] at hrejected
    cases hrejected
  · obtain ⟨stopped, hcurrent, hloop⟩ :=
      loop_of_bytes_rejected (b := started s) hfeed hroom hlines haccepted houtcome
    obtain ⟨stopped', hcurrent', hloop'⟩ := loop_of_bytes_rejected (b := started r) hfeed' hroom
      (hsame.trans hlines) haccepted houtcome
    have hflushed (taken more : List UInt8) : ((b.sink.taking taken).taking more).flush = .ok () :=
      hflush
    have hrun : run = _ := run_of_loop_ok hloop (hflushed _ _)
    have hrun' : run' = _ := run_of_loop_ok hloop' (hflushed _ _)
    rw [hrun, hrun']
    exact ⟨⟨_, rfl, rfl⟩, ⟨rfl, stopped, rfl⟩, hcurrent.trans hcurrent'.symm⟩

/-- A batch in which no line is rejected fails where its source fails, with all lines carried
    out that end in a newline. -/
theorem run_of_accepted_failed {lines : List Text}
    (hfeed : b.source.feed = .bytes bytes (some reason))
    (hlines : Text.completeLines bytes = lines) (hroom : b.sink.room = none)
    (haccepted : ∀ turn ∈ Turn.ofLines b.session b.tables lines, turn.isRejected = false) :
    ∃ source : Source, source.current = lines.getLast?.or b.source.current ∧
      b.run = (.error (.inputOutput reason),
        { b with events := b.events.push (Event.start b.session operation) }.afterLines source
          lines) := by
  subst hlines
  obtain ⟨source, hcurrent, hloop⟩ := loop_of_bytes_accepted
    (b := { b with events := b.events.push (Event.start b.session operation) })
    hfeed hroom haccepted
  exact ⟨source, hcurrent, run_of_loop_failed hloop⟩

/-- A source that fails behind its bytes keeps everything before the failure. When a line that
    ends in a newline is rejected the batch ends as if the source did not fail. Otherwise it
    fails, with all these lines carried out, their answers written and the last of them as the
    current line. What stands behind the last newline has no effect, and a fetch that fails
    leaves the current line as it was. -/
theorem run_from_failing_source (session : Text) (tables : Tables) (taken : Array UInt8)
    (bytes : List UInt8) (reason : Text) :
    let batch (source : Source) : Batch := { session, tables, source, sink := { taken } }
    let lines := Text.completeLines bytes
    let turns := Turn.ofLines session tables lines
    let failing := (batch (.failingAfter bytes reason)).run
    let ending := (batch (.ofBytes bytes)).run
    let cut := (batch (.failingAfter (Text.completePart bytes) reason)).run
    ((∃ turn ∈ turns, turn.isRejected = true) →
        (∃ summary, failing.1 = .ok summary ∧ summary.aborted = true) ∧ Alike failing ending ∧
        failing.2.source.current = ending.2.source.current) ∧
      ((∀ turn ∈ turns, turn.isRejected = false) →
        failing.1 = .error (.inputOutput reason) ∧
        failing.2.sink.taken.toList = taken.toList ++ linesOf (turns.filterMap Turn.answer?) ∧
        failing.2.tables = Turn.tablesAfter session tables lines ∧
        failing.2.source.current = lines.getLast?) ∧
      Alike failing cut ∧
      ∀ (source : Source) (fault : Fault), source.fetch.1 = .error fault →
        source.fetch.2.current = source.current := by
  intro batch lines turns failing ending cut
  have hcutLines : Text.completeLines (Text.completePart bytes) = lines := by
    rw [Text.completeLines, Text.completePart_completePart]
    rfl
  refine ⟨fun hrejected => ?_, fun haccepted => ?_, ?_, fun source fault =>
    Source.current_of_fetch_failed⟩
  · exact run_alike_of_rejected (b := batch (.ofBytes bytes)) (s := .failingAfter bytes reason)
      (r := .ofBytes bytes) rfl rfl rfl rfl rfl hrejected
  · obtain ⟨stopped, hcurrent, hrun⟩ := run_of_accepted_failed
      (b := batch (.failingAfter bytes reason)) rfl rfl rfl haccepted
    have hfailing : failing = _ := hrun
    rw [hfailing]
    exact ⟨rfl, Array.toList_appendList, rfl, hcurrent.trans Option.or_none⟩
  · by_cases hrejected : ∃ turn ∈ turns, turn.isRejected = true
    · exact (run_alike_of_rejected (b := batch (.ofBytes bytes))
        (s := .failingAfter bytes reason)
        (r := .failingAfter (Text.completePart bytes) reason) rfl rfl hcutLines rfl rfl
        hrejected).2.1
    · have haccepted : ∀ turn ∈ turns, turn.isRejected = false := by
        simpa only [not_exists, not_and, Bool.not_eq_true] using hrejected
      obtain ⟨stopped, -, hrun⟩ := run_of_accepted_failed
        (b := batch (.failingAfter bytes reason)) rfl rfl rfl haccepted
      obtain ⟨stoppedCut, -, hrunCut⟩ := run_of_accepted_failed
        (b := batch (.failingAfter (Text.completePart bytes) reason)) rfl hcutLines rfl haccepted
      have hfailing : failing = _ := hrun
      have hcut : cut = _ := hrunCut
      rw [hfailing, hcut]
      exact ⟨rfl, stopped, rfl⟩

end TradeNotes.Batch
