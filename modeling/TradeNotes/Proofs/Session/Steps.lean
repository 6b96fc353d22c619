import TradeNotes.Proofs.Session.Turns
import TradeNotes.Session.Batch

namespace TradeNotes.Batch

/-- A batch after a line has been carried out, before anything is written. -/
def afterTurn (b : Batch) (source : Source) (turn : Turn) : Batch :=
  { b with
    source, tables := turn.tables, events := b.events ++ turn.events, linesRead := b.linesRead + 1 }

variable {b : Batch} {source : Source} {line : Text} {fault : Fault}

/-- A source that fails stops the batch. -/
theorem loop_of_fetch_failed (hfetch : b.source.fetch = (.error fault, source)) :
    b.loop = (.error fault, { b with source }) := by
  rw [loop]
  split
  · next h =>
    rw [hfetch] at h
    cases h
    rfl
  all_goals next h => rw [hfetch] at h; cases h

/-- The batch ends well where the source has nothing more to give. -/
theorem loop_of_exhausted (hfetch : b.source.fetch = (.ok false, source)) :
    b.loop = (.ok none, { b with source }) := by
  rw [loop]
  split
  · next h => rw [hfetch] at h; cases h
  · next h =>
    rw [hfetch] at h
    cases h
    rfl
  · next h => rw [hfetch] at h; cases h

/-- What the batch does with a line that the source has given: it writes an answer or the
    fallback, and goes on unless the line was rejected or the sink has failed. -/
theorem loop_of_fetched (hfetch : b.source.fetch = (.ok true, source))
    (hcurrent : source.current = some line) :
    let turn := Turn.ofLine b.session b.tables line
    b.loop =
      match turn.outcome with
      | .ok none => (b.afterTurn source turn).loop
      | .ok (some answer) =>
        match b.sink.writeLine answer with
        | (.ok (), sink) =>
          { b.afterTurn source turn with sink, answers := b.answers + 1 }.loop
        | (.error failure, sink) => (.error failure, { b.afterTurn source turn with sink })
      | .error fault =>
        ((b.sink.writeLine fallback).1.map fun () => some fault.kind,
          { b.afterTurn source turn with sink := (b.sink.writeLine fallback).2 }) := by
  have hline : source.current.getD [] = line := by
    rw [hcurrent, Option.getD_some]
  rw [loop]
  split
  · next h => rw [hfetch] at h; cases h
  · next h => rw [hfetch] at h; cases h
  · next h =>
    rw [hfetch] at h
    cases h
    cases houtcome : (Turn.ofLine b.session b.tables line).outcome with
    | ok answer =>
      cases answer with
      | none => simp only [hline, houtcome, afterTurn]
      | some answer =>
        rcases hwrite : b.sink.writeLine answer with ⟨_ | _, sink⟩ <;>
          simp only [hline, houtcome, hwrite, afterTurn]
    | error fault =>
      have hinput := Turn.isInput_of_outcome_error houtcome
      simp only [hline, houtcome, hinput, if_true, afterTurn]

/-- The event at the end of a batch that ends without a fault of the source or the sink. -/
def finish (b : Batch) : Event :=
  Event.finish b.session operation
    [⟨"lines_read".toList, .number b.linesRead⟩, ⟨"answers".toList, .number b.answers⟩]

/-- A batch whose loop ends well and whose sink can be flushed has a summary. -/
theorem run_of_loop_ok {after : Batch} {abortedWith : Option FaultKind}
    (hloop : { b with events := b.events.push (Event.start b.session operation) }.loop =
      (.ok abortedWith, after))
    (hflush : after.sink.flush = .ok ()) :
    b.run = (.ok ⟨after.linesRead, after.answers, abortedWith⟩,
      { after with events := after.events.push after.finish }) := by
  unfold run
  simp only [hloop, hflush, finish]

/-- A batch whose loop is stopped by a fault of the source or the sink has no summary and leaves
    all as it is. -/
theorem run_of_loop_failed {after : Batch}
    (hloop : { b with events := b.events.push (Event.start b.session operation) }.loop =
      (.error fault, after)) : b.run = (.error fault, after) := by
  unfold run
  simp only [hloop]

/-- A batch whose loop ends well has no summary when the sink cannot be flushed. -/
theorem run_of_flush_failed {after : Batch} {abortedWith : Option FaultKind}
    (hloop : { b with events := b.events.push (Event.start b.session operation) }.loop =
      (.ok abortedWith, after))
    (hflush : after.sink.flush = .error fault) : b.run = (.error fault, after) := by
  unfold run
  simp only [hloop, hflush]

end TradeNotes.Batch
