import TradeNotes.Proofs.Session.Room
import TradeNotes.Proofs.Session.Steps
import TradeNotes.Proofs.Session.Yielding

namespace TradeNotes.Batch

/-- The bytes of texts that stand on lines of their own. -/
def linesOf (texts : List Text) : List UInt8 :=
  texts.flatMap fun t => Text.utf8 (t ++ ['\n'])

theorem linesOf_append (texts more : List Text) :
    linesOf (texts ++ more) = linesOf texts ++ linesOf more :=
  List.flatMap_append

theorem linesOf_singleton (t : Text) : linesOf [t] = Text.utf8 (t ++ ['\n']) :=
  List.flatMap_singleton _ t

/-- A batch after lines that were all accepted, with what is left of the source. -/
def afterLines (b : Batch) (source : Source) (lines : List Text) : Batch :=
  let turns := Turn.ofLines b.session b.tables lines
  let answers := turns.filterMap Turn.answer?
  { session := b.session
    tables := Turn.tablesAfter b.session b.tables lines
    source
    sink := b.sink.taking (linesOf answers)
    events := b.events ++ turns.flatMap Turn.events
    linesRead := b.linesRead + lines.length
    answers := b.answers + answers.length }

theorem afterLines_cons_of_none {b : Batch} {line : Text} (source next : Source) (rest : List Text)
    (houtcome : (Turn.ofLine b.session b.tables line).outcome = .ok none) :
    (b.afterTurn source (Turn.ofLine b.session b.tables line)).afterLines next rest =
      b.afterLines next (line :: rest) := by
  have hanswer := Turn.answer?_of_ok houtcome
  simp [afterLines, afterTurn, Turn.ofLines, Turn.tablesAfter_cons, hanswer, appendList_appendList,
    Nat.add_assoc, Nat.add_comm 1]

theorem afterLines_cons_of_some {b : Batch} {line answer : Text} (source next : Source)
    (rest : List Text)
    (houtcome : (Turn.ofLine b.session b.tables line).outcome = .ok (some answer)) :
    { b.afterTurn source (Turn.ofLine b.session b.tables line) with
      sink := b.sink.taking (Text.utf8 (answer ++ ['\n']))
      answers := b.answers + 1 }.afterLines next rest = b.afterLines next (line :: rest) := by
  have hanswer := Turn.answer?_of_ok houtcome
  simp [afterLines, afterTurn, Turn.ofLines, Turn.tablesAfter_cons, hanswer, appendList_appendList,
    linesOf, Sink.taking_append, Nat.add_assoc, Nat.add_comm 1]

/-- As long as lines are accepted and the sink has room for their answers, the batch goes on:
    its loop is the loop from the state that these lines leave. -/
theorem loop_of_accepted {b : Batch} {lines : List Text} {next : Source}
    (hyields : b.source.Yields lines next)
    (haccepted : ∀ turn ∈ Turn.ofLines b.session b.tables lines, turn.isRejected = false)
    (hroom : b.sink.HasRoom
      (linesOf ((Turn.ofLines b.session b.tables lines).filterMap Turn.answer?)).length) :
    b.loop = (b.afterLines next lines).loop := by
  -- Each line changes the batch, so that the induction on the lines is for every batch.
  generalize hsource : b.source = source at hyields
  induction hyields generalizing b with
  | nil source =>
    subst hsource
    simp [afterLines, Turn.ofLines, Turn.tablesAfter, linesOf, Sink.taking_nil]
  | @cons source after next line rest hfetch hcurrent hrest ih =>
    subst hsource
    rw [loop_of_fetched hfetch hcurrent]
    rw [Turn.ofLines] at haccepted hroom
    obtain ⟨haccept, hothers⟩ := List.forall_mem_cons.1 haccepted
    obtain ⟨answer, houtcome⟩ := Turn.exists_of_not_isRejected haccept
    rw [List.filterMap_cons, Turn.answer?_of_ok houtcome] at hroom
    cases answer with
    | none =>
      simp only [houtcome]
      rw [← afterLines_cons_of_none after next rest houtcome]
      exact ih hothers hroom rfl
    | some answer =>
      have hfits : b.sink.HasRoom (Text.utf8 (answer ++ ['\n'])).length := hroom.of_append
      simp only [houtcome, Sink.writeLine_of_hasRoom hfits]
      rw [← afterLines_cons_of_some after next rest houtcome]
      exact ih hothers hroom.taking rfl

theorem afterLines_map_trim (b : Batch) (next : Source) (lines : List Text) :
    b.afterLines next (lines.map Text.trim) = b.afterLines next lines := by
  simp only [afterLines, Turn.ofLines_map_trim, Turn.tablesAfter_map_trim, List.length_map]

/-- The loop over a list of lines goes on behind the first lines when these are accepted and
    the sink has room for their answers. -/
theorem loop_of_accepted_lines {b : Batch} {lines more : List Text}
    (hfeed : b.source.feed = .lines (lines ++ more))
    (haccepted : ∀ turn ∈ Turn.ofLines b.session b.tables lines, turn.isRejected = false)
    (hroom : b.sink.HasRoom
      (linesOf ((Turn.ofLines b.session b.tables lines).filterMap Turn.answer?)).length) :
    ∃ next, next.feed = .lines more ∧ b.loop = (b.afterLines next lines).loop := by
  obtain ⟨next, hyields, hnext⟩ := Source.yields_of_lines hfeed
  refine ⟨next, hnext, ?_⟩
  rw [← afterLines_map_trim]
  rw [← Turn.ofLines_map_trim] at haccepted hroom
  exact loop_of_accepted hyields haccepted hroom

/-- A line that is rejected ends the batch well when the sink has room for the fallback. -/
theorem loop_of_rejected {b : Batch} {source : Source} {line : Text} {fault : Fault}
    (hfetch : b.source.fetch = (.ok true, source)) (hcurrent : source.current = some line)
    (houtcome : (Turn.ofLine b.session b.tables line).outcome = .error fault)
    (hroom : b.sink.HasRoom (linesOf [fallback]).length) :
    b.loop = (.ok (some fault.kind),
      { b.afterTurn source (Turn.ofLine b.session b.tables line) with
        sink := b.sink.taking (linesOf [fallback]) }) := by
  rw [linesOf_singleton] at hroom ⊢
  rw [loop_of_fetched hfetch hcurrent, houtcome]
  simp only [Sink.writeLine_of_hasRoom hroom, Except.map]

end TradeNotes.Batch
