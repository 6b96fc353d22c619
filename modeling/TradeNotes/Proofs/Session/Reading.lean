import TradeNotes.Proofs.Session.Fetching
import TradeNotes.Proofs.Session.Steps

namespace TradeNotes.Batch

/-- Two batches come to the same when they end alike and differ at most in their sources. -/
def Alike {α : Type} (r r' : Except Fault α × Batch) : Prop :=
  r.1 = r'.1 ∧ ∃ source, r.2 = { r'.2 with source }

/-- The loop sees of a source nothing but the lines that it gives. -/
theorem loop_alike {lines : List Text} {s s' : Source} (h : s.Gives lines)
    (h' : s'.Gives lines) (b : Batch) :
    Alike { b with source := s }.loop { b with source := s' }.loop := by
  induction lines generalizing s s' b with
  | nil =>
    rw [loop_of_exhausted (b := { b with source := s }) h.fetch_nil.1,
      loop_of_exhausted (b := { b with source := s' }) h'.fetch_nil.1]
    exact ⟨rfl, _, rfl⟩
  | cons line rest ih =>
    obtain ⟨hfetch, hcurrent, hrest⟩ := h.fetch_cons
    obtain ⟨hfetch', hcurrent', hrest'⟩ := h'.fetch_cons
    rw [loop_of_fetched (b := { b with source := s }) hfetch hcurrent,
      loop_of_fetched (b := { b with source := s' }) hfetch' hcurrent']
    dsimp only
    generalize Turn.ofLine b.session b.tables line = turn
    cases turn.outcome with
    | error fault => exact ⟨rfl, _, rfl⟩
    | ok answer =>
      cases answer with
      | none => exact ih hrest hrest' ({ b with source := s }.afterTurn s turn)
      | some answer =>
        rcases hwrite : b.sink.writeLine answer with ⟨_ | _, sink⟩
        · simp only [hwrite]
          exact ⟨rfl, _, rfl⟩
        · simp only [hwrite]
          exact ih hrest hrest' { { b with source := s }.afterTurn s turn with
            sink, answers := b.answers + 1 }

/-- A batch sees of its source nothing but the lines that it gives. -/
theorem run_alike {lines : List Text} {s s' : Source} (h : s.Gives lines)
    (h' : s'.Gives lines) (b : Batch) :
    Alike { b with source := s }.run { b with source := s' }.run := by
  have hloop := loop_alike h h' { b with events := b.events.push (Event.start b.session operation) }
  unfold run
  simp only at hloop ⊢
  generalize loop _ = ended at hloop ⊢
  generalize loop _ = ended' at hloop ⊢
  obtain ⟨result, after⟩ := ended
  obtain ⟨result', after'⟩ := ended'
  obtain ⟨hresult, source, hafter⟩ := hloop
  simp only at hresult hafter
  subst hresult hafter
  cases result with
  | error fault => exact ⟨rfl, _, rfl⟩
  | ok abortedWith =>
    cases after'.sink.flush with
    | error fault => exact ⟨rfl, _, rfl⟩
    | ok done => exact ⟨rfl, _, rfl⟩

/-- Reading bytes line by line is the same as decoding all of them, cutting the text behind
    every newline and trimming the pieces: fetching tells these lines one by one and from
    then on that there is none. So a batch over the bytes ends as one over a list of the
    lines does, with any sink, and a carriage return before each newline changes nothing. -/
theorem reading_eq_decoding_whole (bytes : List UInt8) :
    (∀ n, ((Source.ofBytes bytes).after n).fetch.1 =
        .ok (decide (n < (Text.linesOfBytes bytes).length)) ∧
      ((Source.ofBytes bytes).after n).fetch.2.current = (Text.linesOfBytes bytes)[n]?) ∧
    ∀ b : Batch,
      let read := { b with source := .ofBytes bytes }.run
      let held := { b with source := .ofLines (Text.linesOfBytes bytes) }.run
      let returned := { b with source := .ofBytes (Text.returnLines bytes) }.run
      (read.1 = held.1 ∧ read.2.sink = held.2.sink ∧ read.2.tables = held.2.tables) ∧
        returned.1 = read.1 ∧ returned.2.sink = read.2.sink ∧ returned.2.tables = read.2.tables := by
  have hread : (Source.ofBytes bytes).Gives (Text.linesOfBytes bytes) := Source.gives_of_bytes rfl
  have hheld : (Source.ofLines (Text.linesOfBytes bytes)).Gives (Text.linesOfBytes bytes) := by
    have hgives := Source.gives_of_lines (s := .ofLines (Text.linesOfBytes bytes)) rfl
    rwa [Source.map_trim_linesOfBytes] at hgives
  have hreturned :
      (Source.ofBytes (Text.returnLines bytes)).Gives (Text.linesOfBytes bytes) := by
    have hgives := Source.gives_of_bytes (s := .ofBytes (Text.returnLines bytes)) rfl
    rwa [Text.linesOfBytes_returnLines] at hgives
  refine ⟨hread, fun b => ?_⟩
  obtain ⟨hresult, _, hafter⟩ := run_alike hread hheld b
  obtain ⟨hresult', _, hafter'⟩ := run_alike hreturned hread b
  exact ⟨⟨hresult, by rw [hafter], by rw [hafter]⟩, hresult', by rw [hafter'], by rw [hafter']⟩

end TradeNotes.Batch
