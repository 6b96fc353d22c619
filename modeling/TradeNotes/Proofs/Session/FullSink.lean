import Mathlib.Order.Bounds.Basic
import TradeNotes.Proofs.Session.Run

namespace TradeNotes.Batch

/-- The bytes that a batch writes for turns: the answers, and the fallback for those that
    were rejected, each on a line of its own. -/
def written (turns : List Turn) : List UInt8 :=
  linesOf (turns.filterMap reply?)

theorem written_append (turns more : List Turn) :
    written (turns ++ more) = written turns ++ written more := by
  rw [written, List.filterMap_append, linesOf_append, written, written]

theorem written_singleton {turn : Turn} {text : Text} (h : reply? turn = some text) :
    written [turn] = Text.utf8 (text ++ ['\n']) := by
  rw [written, List.filterMap_cons_some h, List.filterMap_nil, linesOf_singleton]

theorem written_prefix_of_le (turns : List Turn) {m n : Nat} (h : m ≤ n) :
    written (turns.take m) <+: written (turns.take n) := by
  obtain ⟨rest, hrest⟩ := List.take_prefix_take_left (l := turns) h
  rw [← hrest, written_append]
  exact List.prefix_append _ _

/-- When bytes do not suffice for turns, there is a first turn whose reply does not fit. The
    replies before it do. -/
theorem exists_first_unfit {turns : List Turn} {n k : Nat}
    (h : n < (written (turns.take (k + 1))).length) :
    ∃ j, j ≤ k ∧ j < turns.length ∧
      IsLeast {i | n < (written (turns.take (i + 1))).length} j ∧
      (written (turns.take j)).length ≤ n := by
  classical
  have hexists : ∃ i, n < (written (turns.take (i + 1))).length := ⟨k, h⟩
  have hunfit := Nat.find_spec hexists
  have hleast : ∀ i, n < (written (turns.take (i + 1))).length → Nat.find hexists ≤ i :=
    fun i => Nat.find_min' hexists
  have hbefore : (written (turns.take (Nat.find hexists))).length ≤ n := by
    cases hfind : Nat.find hexists with
    | zero => simp [written, linesOf]
    | succ j => exact Nat.not_lt.1 (Nat.find_min hexists (by omega))
  have hinside : Nat.find hexists < turns.length := by
    by_contra hnot
    -- Behind the last turn nothing is added, so that the place before would not fit either.
    have hsame : turns.take (Nat.find hexists + 1) = turns.take (Nat.find hexists) := by
      rw [List.take_of_length_le (by omega), List.take_of_length_le (by omega)]
    rw [hsame] at hunfit
    omega
  exact ⟨Nat.find hexists, hleast k h, hinside, ⟨hunfit, hleast⟩, hbefore⟩

/-- The first turn that does not fit has a reply. -/
theorem exists_reply?_of_unfit {turns : List Turn} {turn : Turn} {n : Nat}
    (hfits : (written turns).length ≤ n) (hunfit : n < (written (turns ++ [turn])).length) :
    ∃ text, reply? turn = some text := by
  rw [written_append, List.length_append] at hunfit
  cases hreply : reply? turn with
  | some text => exact ⟨text, rfl⟩
  | none =>
    have hnothing : written [turn] = [] := by
      rw [written, List.filterMap_cons_none hreply]
      rfl
    rw [hnothing, List.length_nil] at hunfit
    omega

/-- A line whose reply the sink has no room for stops the batch, with the line carried out and
    the sink full. -/
theorem loop_of_full {b : Batch} {source : Source} {line text : Text} {room : Room}
    (hfetch : b.source.fetch = (.ok true, source)) (hcurrent : source.current = some line)
    (hreply : reply? (Turn.ofLine b.session b.tables line) = some text)
    (hroom : b.sink.room = some room)
    (hfull : room.bytes < (Text.utf8 (text ++ ['\n'])).length) :
    b.loop = (.error (.inputOutput room.reason),
      { b.afterTurn source (Turn.ofLine b.session b.tables line) with
        sink := { b.sink with
          taken := b.sink.taken ++ (Text.utf8 (text ++ ['\n'])).take room.bytes
          room := some { room with bytes := 0 } } }) := by
  rw [loop_of_fetched hfetch hcurrent]
  cases houtcome : (Turn.ofLine b.session b.tables line).outcome with
  | error fault =>
    rw [reply?_of_error houtcome, Option.some_inj] at hreply
    subst hreply
    simp only [Sink.writeLine_of_full hroom hfull, Except.map]
  | ok answer =>
    rw [reply?_of_ok houtcome] at hreply
    subst hreply
    simp only [Sink.writeLine_of_full hroom hfull]

/-- The loop over a list of lines, of which the first are accepted and have room for their
    answers, when the next one has not enough room for its reply. That line is carried out,
    and of its reply as much is written as there is room for. -/
theorem loop_of_unfit {b : Batch} {before rest : List Text} {line : Text} {room : Room}
    (hfeed : b.source.feed = .lines (before ++ line :: rest)) (hroom : b.sink.room = some room)
    (haccepted : ∀ turn ∈ Turn.ofLines b.session b.tables before, turn.isRejected = false)
    (hfits : (written (Turn.ofLines b.session b.tables before)).length ≤ room.bytes)
    (hunfit : room.bytes < (written (Turn.ofLines b.session b.tables (before ++ [line]))).length) :
    b.loop = (.error (.inputOutput room.reason),
      { session := b.session
        tables := Turn.tablesAfter b.session b.tables (before ++ [line])
        source := ⟨.lines rest, some line.trim⟩
        sink := { b.sink with
          taken := b.sink.taken ++
            (written (Turn.ofLines b.session b.tables (before ++ [line]))).take room.bytes
          room := some { room with bytes := 0 } }
        events := b.events ++
          (Turn.ofLines b.session b.tables (before ++ [line])).flatMap Turn.events
        linesRead := b.linesRead + (before.length + 1)
        answers := b.answers +
          ((Turn.ofLines b.session b.tables before).filterMap Turn.answer?).length }) := by
  have hanswers : linesOf ((Turn.ofLines b.session b.tables before).filterMap Turn.answer?) =
      written (Turn.ofLines b.session b.tables before) := by
    rw [written, filterMap_reply?_of_accepted haccepted]
  have henough := (Sink.hasRoom_iff hroom).2 hfits
  rw [← hanswers] at henough
  obtain ⟨next, hnext, hloop⟩ := loop_of_accepted_lines hfeed haccepted henough
  rw [Turn.ofLines_concat] at hunfit
  obtain ⟨text, htext⟩ := exists_reply?_of_unfit hfits hunfit
  rw [written_append, List.length_append] at hunfit
  rw [written_singleton htext] at hunfit
  have hleft : (b.afterLines next before).sink.room = some { room with
      bytes := room.bytes - (written (Turn.ofLines b.session b.tables before)).length } := by
    simp only [afterLines, hanswers, Sink.taking, hroom, Option.map_some]
  have hpart : (written (Turn.ofLines b.session b.tables (before ++ [line]))).take room.bytes =
      written (Turn.ofLines b.session b.tables before) ++ (Text.utf8 (text ++ ['\n'])).take
        (room.bytes - (written (Turn.ofLines b.session b.tables before)).length) := by
    rw [Turn.ofLines_concat, written_append, written_singleton htext, List.take_append,
      List.take_of_length_le hfits]
  rw [← Turn.ofLine_trim] at htext
  have hstop := loop_of_full (b := b.afterLines next before) (Source.fetch_lines_cons hnext)
    rfl htext hleft (by simp only; omega)
  rw [hloop, hstop, hpart, Turn.ofLines_concat, Turn.tablesAfter_concat]
  simp [afterLines, afterTurn, hanswers, Sink.taking, Turn.ofLine_trim, appendList_appendList,
    Nat.add_assoc]

/-- The loop over a list of lines, on a sink that has not enough room for the replies, ends
    with the first line whose reply does not fit. -/
theorem loop_lines_of_full (b : Batch) {lines : List Text} {room : Room}
    (hfeed : b.source.feed = .lines lines) (hroom : b.sink.room = some room) :
    let turns := Turn.ofLines b.session b.tables lines
    let replies := written (turns.take (Turn.firstRejected turns + 1))
    room.bytes < replies.length →
    ∃ j, j < lines.length ∧ IsLeast {i | room.bytes < (written (turns.take (i + 1))).length} j ∧
      b.loop = (.error (.inputOutput room.reason),
        { session := b.session
          tables := Turn.tablesAfter b.session b.tables (lines.take (j + 1))
          source := ⟨.lines (lines.drop (j + 1)), lines[j]?.map Text.trim⟩
          sink := { b.sink with
            taken := b.sink.taken ++ replies.take room.bytes
            room := some { room with bytes := 0 } }
          events := b.events ++ (turns.take (j + 1)).flatMap Turn.events
          linesRead := b.linesRead + (j + 1)
          answers := b.answers + ((turns.take j).filterMap Turn.answer?).length }) := by
  intro turns replies hfull
  obtain ⟨j, hj, hinside, hleast, hfits⟩ := exists_first_unfit hfull
  have hlength : turns.length = lines.length := Turn.length_ofLines b.session b.tables lines
  obtain ⟨before, line, rest, rfl, rfl⟩ : ∃ before line rest,
      lines = before ++ line :: rest ∧ before.length = j := by
    have hlt : j < lines.length := by omega
    refine ⟨lines.take j, lines[j], lines.drop (j + 1), ?_, by simp; omega⟩
    rw [← List.drop_eq_getElem_cons hlt, List.take_append_drop]
  have hbefore : turns.take before.length = Turn.ofLines b.session b.tables before :=
    Turn.take_ofLines_append b.session b.tables before (line :: rest)
  have hupto : turns.take (before.length + 1) =
      Turn.ofLines b.session b.tables (before ++ [line]) :=
    Turn.take_succ_ofLines b.session b.tables before line rest
  have haccepted : ∀ turn ∈ Turn.ofLines b.session b.tables before, turn.isRejected = false := by
    rw [← hbefore]
    exact Turn.isRejected_of_mem_take hj
  have hunfit : room.bytes < (written (turns.take (before.length + 1))).length := hleast.1
  obtain ⟨others, hothers⟩ := written_prefix_of_le turns (Nat.succ_le_succ hj)
  have hreplies : replies.take room.bytes =
      (written (turns.take (before.length + 1))).take room.bytes := by
    rw [← List.take_append_of_le_length (Nat.le_of_lt hunfit), hothers]
  have htake : (before ++ line :: rest).take (before.length + 1) = before ++ [line] := by
    rw [List.take_length_add_append]
    rfl
  refine ⟨before.length, by simp, hleast, ?_⟩
  rw [hbefore] at hfits
  rw [hupto] at hunfit
  rw [loop_of_unfit hfeed hroom haccepted hfits hunfit, hreplies, hbefore, hupto, htake]
  simp

/-- A sink that fails loses nothing but the tail. With room for so many bytes it holds just the
    first of those that a sink without bounds takes, and the batch fails exactly when these are
    not all. Then it has carried out the lines up to the first one whose reply did not fit
    completely, that one included: no later line has been fetched, and nothing is rolled back.
    A sink that only cannot be flushed holds everything. -/
theorem run_into_failing_sink (session : Text) (tables : Tables) (lines : List Text) (n : Nat)
    (reason : Text) :
    let batch (sink : Sink) : Batch := { session, tables, source := .ofLines lines, sink }
    let turns := Turn.ofLines session tables lines
    let free := (batch {}).run
    let full := free.2.sink.taken.toList
    let bounded := (batch { room := some ⟨n, reason⟩ }).run
    let unflushed := (batch { flushFailure := some reason }).run
    full = written (turns.take (Turn.firstRejected turns + 1)) ∧
      bounded.2.sink.taken.toList = full.take n ∧
      ((∃ why, bounded.1 = .error (.inputOutput why)) ↔ n < full.length) ∧
      (full.length ≤ n → (∃ summary, free.1 = .ok summary ∧ bounded.1 = .ok summary) ∧
        bounded.2.tables = free.2.tables ∧ bounded.2.source = free.2.source) ∧
      (n < full.length → ∃ j, j < lines.length ∧
        IsLeast {i | n < (written (turns.take (i + 1))).length} j ∧
        bounded.1 = .error (.inputOutput reason) ∧
        bounded.2.tables = Turn.tablesAfter session tables (lines.take (j + 1)) ∧
        bounded.2.events.toList =
          Event.start session operation :: (turns.take (j + 1)).flatMap Turn.events ∧
        bounded.2.linesRead = j + 1 ∧
        bounded.2.source.feed = .lines (lines.drop (j + 1)) ∧
        bounded.2.source.current = lines[j]?.map Text.trim) ∧
      unflushed.1 = .error (.inputOutput reason) ∧
      unflushed.2.sink.taken.toList = full ∧ unflushed.2.tables = free.2.tables := by
  intro batch turns free full bounded unflushed
  let started (sink : Sink) : Batch :=
    { batch sink with events := #[].push (Event.start session operation) }
  have hfree : free = _ := run_of_loop_ok (loop_lines (started {}) rfl rfl) rfl
  have hunflushed : unflushed = _ :=
    run_of_flush_failed (loop_lines (started { flushFailure := some reason }) rfl rfl) rfl
  have hfull : full = written (turns.take (Turn.firstRejected turns + 1)) := by
    change free.2.sink.taken.toList = _
    rw [hfree]
    exact Array.toList_appendList
  refine ⟨hfull, ?_⟩
  have hstill : unflushed.1 = .error (.inputOutput reason) ∧
      unflushed.2.sink.taken.toList = full ∧ unflushed.2.tables = free.2.tables := by
    rw [hfull, hunflushed, hfree]
    exact ⟨rfl, Array.toList_appendList, rfl⟩
  obtain hfits | hunfit := (Nat.lt_or_ge n full.length).symm
  · have hroom : (started { room := some ⟨n, reason⟩ }).sink.HasRoom
        (written (turns.take (Turn.firstRejected turns + 1))).length := by
      rw [← hfull]
      exact (Sink.hasRoom_iff rfl).2 hfits
    have hbounded : bounded = _ :=
      run_of_loop_ok (loop_lines_of_hasRoom (started { room := some ⟨n, reason⟩ }) rfl hroom) rfl
    refine ⟨?_, iff_of_false ?_ (Nat.not_lt.2 hfits), fun _ => ?_, ?_, hstill⟩
    · rw [List.take_of_length_le hfits, hfull, hbounded]
      exact Array.toList_appendList
    · rw [hbounded]
      rintro ⟨why, hfailed⟩
      cases hfailed
    · rw [hbounded, hfree]
      exact ⟨⟨_, rfl, rfl⟩, rfl, rfl⟩
    · intro hunfit
      omega
  · have hfullRoom : n < (written (turns.take (Turn.firstRejected turns + 1))).length := by
      rwa [← hfull]
    obtain ⟨j, hj, hleast, hloop⟩ :=
      loop_lines_of_full (started { room := some ⟨n, reason⟩ }) rfl rfl hfullRoom
    have hbounded : bounded = _ := run_of_loop_failed hloop
    refine ⟨?_, iff_of_true ?_ hunfit, ?_, fun _ => ⟨j, hj, hleast, ?_⟩, hstill⟩
    · rw [hfull, hbounded]
      exact Array.toList_appendList
    · rw [hbounded]
      exact ⟨reason, rfl⟩
    · intro hfits
      omega
    · rw [hbounded]
      refine ⟨rfl, rfl, Array.toList_appendList, ?_, rfl, rfl⟩
      simp [started, batch]

end TradeNotes.Batch
