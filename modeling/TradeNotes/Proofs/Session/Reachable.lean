import TradeNotes.Proofs.Session.Room
import TradeNotes.Proofs.Session.Steps
import TradeNotes.Proofs.Session.Yielding

namespace TradeNotes

/-- What every line preserves is preserved by lines that are carried out one after the other. -/
theorem Turn.tablesAfter_preserves {session : Text} {Kept : Tables → Prop} {t : Tables}
    (hline : ∀ t line, Kept t → Kept (ofLine session t line).tables) (lines : List Text)
    (h : Kept t) : Kept (tablesAfter session t lines) := by
  induction lines generalizing t with
  | nil => exact h
  | cons line rest ih =>
    rw [tablesAfter_cons]
    exact ih (hline t line h)

theorem Source.current_of_fetch {s after : Source} (h : s.fetch = (.ok true, after)) :
    after.current = some (after.current.getD []) := by
  unfold fetch at h
  split at h
  · cases h
  · cases h
    rfl
  · simp only at h
    split at h
    · cases h
      rfl
    · cases h
    · split at h
      · cases h
      · cases h
        rfl

namespace Batch

/-- Whether a batch has come from another one by carrying out lines, whatever it has written and
    however much of its source is left. -/
structure CarriedOut (b : Batch) (lines : List Text) (after : Batch) : Prop where
  session : after.session = b.session
  tables : after.tables = Turn.tablesAfter b.session b.tables lines
  events : after.events = b.events ++ (Turn.ofLines b.session b.tables lines).flatMap Turn.events
  linesRead : after.linesRead = b.linesRead + lines.length

theorem CarriedOut.trans {b between after : Batch} {lines more : List Text}
    (h : b.CarriedOut lines between) (h' : between.CarriedOut more after) :
    b.CarriedOut (lines ++ more) after where
  session := h'.session.trans h.session
  tables := by rw [h'.tables, h.session, h.tables, Turn.tablesAfter_append]
  events := by
    rw [h'.events, h.session, h.tables, h.events, appendList_appendList, Turn.ofLines_append,
      List.flatMap_append]
  linesRead := by rw [h'.linesRead, h.linesRead, List.length_append, Nat.add_assoc]

theorem carriedOut_nil (b : Batch) (source : Source) : b.CarriedOut [] { b with source } :=
  ⟨rfl, rfl, (Array.appendList_nil).symm, rfl⟩

/-- A line that the source has given is carried out before anything is written. -/
theorem carriedOut_line (b : Batch) (source : Source) (line : Text) (sink : Sink) (answers : Nat) :
    b.CarriedOut [line]
      { b.afterTurn source (Turn.ofLine b.session b.tables line) with sink, answers } :=
  ⟨rfl, rfl, by simp [afterTurn, Turn.ofLines], rfl⟩

/-- However its source gives lines and whatever becomes of its sink, a batch carries out lines
    that the source yields, one after the other up to some point. -/
theorem exists_carriedOut_loop (b : Batch) :
    ∃ lines next, b.source.Yields lines next ∧ b.CarriedOut lines b.loop.2 := by
  fun_induction loop b with
  | case1 b fault source => exact ⟨[], _, .nil _, b.carriedOut_nil source⟩
  | case2 b source => exact ⟨[], _, .nil _, b.carriedOut_nil source⟩
  | case3 b source hfetch turn linesRead events _ ih =>
    obtain ⟨lines, next, hyields, hlines⟩ := ih
    exact ⟨_ :: lines, next, .cons hfetch (Source.current_of_fetch hfetch) hyields,
      (b.carriedOut_line source _ b.sink b.answers).trans hlines⟩
  | case4 b source hfetch turn linesRead events answer _ sink _ ih =>
    obtain ⟨lines, next, hyields, hlines⟩ := ih
    exact ⟨_ :: lines, next, .cons hfetch (Source.current_of_fetch hfetch) hyields,
      (b.carriedOut_line source _ sink (b.answers + 1)).trans hlines⟩
  -- A line at which the batch stops has been carried out like the others.
  | case5 b source hfetch =>
    exact ⟨_, source, .cons hfetch (Source.current_of_fetch hfetch) (.nil source),
      b.carriedOut_line source _ _ b.answers⟩
  | case6 b source hfetch =>
    exact ⟨_, source, .cons hfetch (Source.current_of_fetch hfetch) (.nil source),
      b.carriedOut_line source _ _ b.answers⟩
  | case7 b source hfetch =>
    exact ⟨_, source, .cons hfetch (Source.current_of_fetch hfetch) (.nil source),
      b.carriedOut_line source _ b.sink b.answers⟩

/-- Between its event at the start and the one at its end, which only a batch with a summary has,
    a batch carries out lines that its source yields. -/
theorem exists_carriedOut_run (b : Batch) :
    let started : Batch := { b with events := b.events.push (Event.start b.session operation) }
    ∃ lines next, b.source.Yields lines next ∧
      ((∃ fault, b.run.1 = .error fault ∧ started.CarriedOut lines b.run.2) ∨
        ∃ after abortedWith, started.CarriedOut lines after ∧
          b.run = (.ok ⟨after.linesRead, after.answers, abortedWith⟩,
            { after with events := after.events.push after.finish })) := by
  intro started
  obtain ⟨lines, next, hyields, hlines⟩ := started.exists_carriedOut_loop
  refine ⟨lines, next, hyields, ?_⟩
  rcases hloop : started.loop with ⟨fault | abortedWith, after⟩
  · rw [hloop] at hlines
    rw [run_of_loop_failed hloop]
    exact .inl ⟨fault, rfl, hlines⟩
  · rw [hloop] at hlines
    cases hflush : after.sink.flush with
    | error fault =>
      rw [run_of_flush_failed hloop hflush]
      exact .inl ⟨fault, rfl, hlines⟩
    | ok _ =>
      rw [run_of_loop_ok hloop hflush]
      exact .inr ⟨after, abortedWith, hlines, rfl⟩

theorem exists_tablesAfter_run (b : Batch) :
    ∃ lines, b.run.2.tables = Turn.tablesAfter b.session b.tables lines := by
  obtain ⟨lines, _, _, ⟨_, _, hlines⟩ | ⟨after, _, hlines, hrun⟩⟩ := b.exists_carriedOut_run
  · exact ⟨lines, hlines.tables⟩
  · rw [hrun]
    exact ⟨lines, hlines.tables⟩

end Batch

namespace Tables

/-- The tables that a session can come to, which begins without any names and carries out lines
    and batches. -/
inductive Reachable : Tables → Prop
  | empty : Reachable .empty
  | line {t : Tables} (session line : Text) (h : Reachable t) :
      Reachable (Turn.ofLine session t line).tables
  | batch (b : Batch) (h : Reachable b.tables) : Reachable b.run.2.tables

/-- Batches lead to no tables that lines alone do not lead to. -/
theorem Reachable.exists_lines {t : Tables} (h : Reachable t) (session : Text) :
    ∃ lines, t = Turn.tablesAfter session .empty lines := by
  induction h with
  | empty => exact ⟨[], rfl⟩
  | @line t other line _ ih =>
    obtain ⟨lines, rfl⟩ := ih
    refine ⟨lines ++ [line], ?_⟩
    rw [Turn.tablesAfter_concat, (Turn.ofLine_session other session _ line).2]
  | batch b _ ih =>
    obtain ⟨before, hbefore⟩ := ih
    obtain ⟨lines, hlines⟩ := b.exists_tablesAfter_run
    refine ⟨before ++ lines, ?_⟩
    rw [hlines, Turn.tablesAfter_append, ← hbefore]
    exact Turn.tablesAfter_session b.session session b.tables lines

end Tables

end TradeNotes
