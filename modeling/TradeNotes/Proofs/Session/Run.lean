import TradeNotes.Proofs.Session.Progress

namespace TradeNotes

namespace Batch

/-- What a batch writes for a line: the answer, or the fallback when it is rejected. -/
def reply? (turn : Turn) : Option Text :=
  match turn.outcome with
  | .ok answer => answer
  | .error _ => some fallback

theorem reply?_of_error {turn : Turn} {fault : Fault} (h : turn.outcome = .error fault) :
    reply? turn = some fallback := by
  simp only [reply?, h]

theorem reply?_of_ok {turn : Turn} {answer : Option Text} (h : turn.outcome = .ok answer) :
    reply? turn = answer := by
  simp only [reply?, h]

/-- Up to the first rejected line the replies are the answers, and there the fallback. -/
theorem replies_upto_firstRejected (turns : List Turn) :
    (turns.take (Turn.firstRejected turns + 1)).filterMap reply? =
      (turns.take (Turn.firstRejected turns)).filterMap Turn.answer? ++
        if Turn.firstRejected turns < turns.length then [fallback] else [] := by
  induction turns with
  | nil => rfl
  | cons turn rest ih =>
    cases houtcome : turn.outcome with
    | error fault =>
      rw [Turn.firstRejected_cons_of_error houtcome]
      simp [reply?_of_error houtcome]
    | ok answer =>
      have hreply : reply? turn = turn.answer? := by
        rw [reply?_of_ok houtcome, Turn.answer?_of_ok houtcome]
      rw [Turn.firstRejected_cons_of_ok houtcome, List.take_succ_cons,
        List.take_succ_cons, List.filterMap_cons, List.filterMap_cons, hreply, ih]
      cases turn.answer? <;> simp

theorem filterMap_reply?_of_accepted {turns : List Turn}
    (haccepted : ∀ turn ∈ turns, turn.isRejected = false) :
    turns.filterMap reply? = turns.filterMap Turn.answer? := by
  apply List.filterMap_congr
  intro turn hturn
  obtain ⟨answer, houtcome⟩ := Turn.exists_of_not_isRejected (haccepted turn hturn)
  rw [reply?_of_ok houtcome, Turn.answer?_of_ok houtcome]

/-- When all lines of a list are accepted, the loop comes to the end of the list. -/
theorem loop_lines_of_accepted {b : Batch} {lines : List Text}
    (hfeed : b.source.feed = .lines lines)
    (haccepted : ∀ turn ∈ Turn.ofLines b.session b.tables lines, turn.isRejected = false)
    (hroom : b.sink.HasRoom
      (linesOf ((Turn.ofLines b.session b.tables lines).filterMap Turn.answer?)).length) :
    b.loop = (.ok none, b.afterLines ⟨.lines [], none⟩ lines) := by
  rw [← List.append_nil lines] at hfeed
  obtain ⟨next, hnext, hloop⟩ := loop_of_accepted_lines hfeed haccepted hroom
  have hfetch : (b.afterLines next lines).source.fetch = (.ok false, ⟨.lines [], none⟩) :=
    Source.fetch_lines_nil hnext
  rw [hloop, loop_of_exhausted hfetch]
  rfl

/-- The loop over a list stops with the first line that is rejected, and leaves the others. -/
theorem loop_lines_of_rejected {b : Batch} {before rest : List Text} {line : Text} {fault : Fault}
    (hfeed : b.source.feed = .lines (before ++ line :: rest))
    (haccepted : ∀ turn ∈ Turn.ofLines b.session b.tables before, turn.isRejected = false)
    (houtcome : (Turn.ofLine b.session (Turn.tablesAfter b.session b.tables before) line).outcome =
      .error fault)
    (hroom : b.sink.HasRoom (linesOf
      ((Turn.ofLines b.session b.tables before).filterMap Turn.answer? ++ [fallback])).length) :
    let stopped : Source := ⟨.lines rest, some line.trim⟩
    b.loop = (.ok (some fault.kind),
      { (b.afterLines stopped before).afterTurn stopped
          (Turn.ofLine b.session (Turn.tablesAfter b.session b.tables before) line) with
        sink := b.sink.taking (linesOf
          ((Turn.ofLines b.session b.tables before).filterMap Turn.answer? ++ [fallback])) }) := by
  intro stopped
  rw [linesOf_append] at hroom ⊢
  obtain ⟨next, hnext, hloop⟩ := loop_of_accepted_lines hfeed haccepted hroom.of_append
  rw [← Turn.ofLine_trim] at houtcome ⊢
  have hstop := loop_of_rejected (b := b.afterLines next before) (Source.fetch_lines_cons hnext)
    rfl houtcome hroom.taking
  rw [hloop, hstop, Sink.taking_append]
  rfl

/-- The loop over a list of lines, on a sink that has room for all replies, is the plain
    succession of the turns up to the first line that is rejected. Every field of the
    batch is told, so that nothing else can have changed. -/
theorem loop_lines_of_hasRoom (b : Batch) {lines : List Text}
    (hfeed : b.source.feed = .lines lines)
    (hroom : b.sink.HasRoom (linesOf (((Turn.ofLines b.session b.tables lines).take
      (Turn.firstRejected (Turn.ofLines b.session b.tables lines) + 1)).filterMap reply?)).length) :
    let turns := Turn.ofLines b.session b.tables lines
    let k := Turn.firstRejected turns
    b.loop = (.ok (turns[k]?.bind Turn.faultKind?),
      { session := b.session
        tables := Turn.tablesAfter b.session b.tables (lines.take k)
        source := ⟨.lines (lines.drop (k + 1)), lines[k]?.map Text.trim⟩
        sink := b.sink.taking (linesOf ((turns.take (k + 1)).filterMap reply?))
        events := b.events ++ (turns.take (k + 1)).flatMap Turn.events
        linesRead := b.linesRead + min lines.length (k + 1)
        answers := b.answers + ((turns.take k).filterMap Turn.answer?).length }) := by
  intro turns k
  obtain ⟨haccepted, hfirst⟩ | ⟨before, line, rest, fault, rfl, haccepted, houtcome, hfirst⟩ :=
    Turn.firstRejected_cases b.session b.tables lines
  · have hk : k = lines.length := hfirst
    have hlength : turns.length = lines.length := Turn.length_ofLines b.session b.tables lines
    have hall : turns.take lines.length = turns := List.take_of_length_le (by omega)
    have hmore : turns.take (lines.length + 1) = turns := List.take_of_length_le (by omega)
    have hend : turns[k]? = none := List.getElem?_eq_none (by omega)
    rw [hfirst, hmore, filterMap_reply?_of_accepted haccepted] at hroom
    rw [loop_lines_of_accepted hfeed haccepted hroom, hend, hk, hmore, hall,
      filterMap_reply?_of_accepted haccepted]
    simp [afterLines, turns]
  · have hk : k = before.length := hfirst
    have hupto : turns.take (before.length + 1) = Turn.ofLines b.session b.tables before ++
        [Turn.ofLine b.session (Turn.tablesAfter b.session b.tables before) line] :=
      (Turn.take_succ_ofLines b.session b.tables before line rest).trans (Turn.ofLines_concat ..)
    have hbefore : turns.take before.length = Turn.ofLines b.session b.tables before :=
      Turn.take_ofLines_append b.session b.tables before (line :: rest)
    have hreplies : (turns.take (before.length + 1)).filterMap reply? =
        (Turn.ofLines b.session b.tables before).filterMap Turn.answer? ++ [fallback] := by
      rw [hupto, List.filterMap_append, filterMap_reply?_of_accepted haccepted]
      simp [reply?_of_error houtcome]
    have hkind : turns[k]?.bind Turn.faultKind? = some fault.kind := by
      rw [hk, Turn.getElem?_ofLines]
      simp only [Option.bind_some, Turn.faultKind?, houtcome]
    rw [hfirst, hreplies] at hroom
    rw [loop_lines_of_rejected hfeed haccepted houtcome hroom, hkind, hk, hreplies, hupto, hbefore]
    simp [afterLines, afterTurn, Turn.tables_of_outcome_error houtcome, appendList_appendList,
      Nat.add_assoc]

/-- On a sink whose room is not bounded there is room for all replies. -/
theorem loop_lines (b : Batch) {lines : List Text} (hfeed : b.source.feed = .lines lines)
    (hroom : b.sink.room = none) :
    let turns := Turn.ofLines b.session b.tables lines
    let k := Turn.firstRejected turns
    b.loop = (.ok (turns[k]?.bind Turn.faultKind?),
      { session := b.session
        tables := Turn.tablesAfter b.session b.tables (lines.take k)
        source := ⟨.lines (lines.drop (k + 1)), lines[k]?.map Text.trim⟩
        sink := { b.sink with
          taken := b.sink.taken ++ linesOf ((turns.take (k + 1)).filterMap reply?) }
        events := b.events ++ (turns.take (k + 1)).flatMap Turn.events
        linesRead := b.linesRead + min lines.length (k + 1)
        answers := b.answers + ((turns.take k).filterMap Turn.answer?).length }) := by
  intro turns k
  rw [← Sink.taking_of_room_none hroom]
  exact loop_lines_of_hasRoom b hfeed (Sink.hasRoom_of_room_none hroom _)

/-- A batch over a list of lines, on a sink that never fails, is the lines carried out one
    after the other up to the first that is rejected. It always has a summary. It writes
    the answers before that line, each followed by a newline, and for that line the
    fallback, which it also counts as read; the lines behind it have not been fetched. -/
theorem run_lines (session : Text) (tables : Tables) (lines : List Text)
    (written : Array UInt8) :
    let turns := Turn.ofLines session tables lines
    let k := Turn.firstRejected turns
    let answers := (turns.take k).filterMap Turn.answer?
    let result :=
      run { session, tables, source := .ofLines lines, sink := { taken := written } }
    result.1 = .ok ⟨min lines.length (k + 1), answers.length, turns[k]?.bind Turn.faultKind?⟩ ∧
      result.2.sink.taken.toList =
        written.toList ++ answers.flatMap (fun answer => Text.utf8 (answer ++ ['\n'])) ++
          (if k < lines.length then Text.utf8 (fallback ++ ['\n']) else []) ∧
      result.2.tables = Turn.tablesAfter session tables (lines.take k) ∧
      result.2.source.feed = .lines (lines.drop (min lines.length (k + 1))) ∧
      result.2.source.current = lines[k]?.map Text.trim := by
  intro turns k answers result
  let b : Batch := { session, tables, source := .ofLines lines, sink := { taken := written } }
  have hloop := loop_lines { b with events := b.events.push (Event.start session operation) } rfl rfl
  have hrun : result = _ := run_of_loop_ok hloop rfl
  have hlength : turns.length = lines.length := Turn.length_ofLines session tables lines
  have hreplies := replies_upto_firstRejected turns
  rw [hrun]
  refine ⟨?_, ?_, rfl, ?_, rfl⟩
  · simp only [b, Nat.zero_add]
    rfl
  · change (written ++ linesOf ((turns.take (k + 1)).filterMap reply?)).toList = _
    rw [Array.toList_appendList, hreplies, hlength, linesOf, List.flatMap_append, List.append_assoc]
    congr 2
    split <;> simp
  · change Feed.lines (lines.drop (k + 1)) = _
    rw [List.drop_eq_drop_min, Nat.min_comm]

end Batch

end TradeNotes
