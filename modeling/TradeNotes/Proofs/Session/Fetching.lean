import TradeNotes.Proofs.Text.Lines
import TradeNotes.Session.Source

namespace TradeNotes.Source

/-- A source from which so many lines have been asked for. -/
def after (s : Source) : Nat → Source
  | 0 => s
  | n + 1 => s.fetch.2.after n

/-- A source gives lines when asking it again and again tells them one by one, and from then
    on that there is none. -/
def Gives (s : Source) (lines : List Text) : Prop :=
  ∀ n, (s.after n).fetch.1 = .ok (decide (n < lines.length)) ∧
    (s.after n).fetch.2.current = lines[n]?

/-- A source that has nothing to give, and stays so, gives no lines. -/
theorem gives_nil {s ended : Source} (hfetch : s.fetch = (.ok false, ended))
    (hstop : ended.fetch = (.ok false, ended)) (hcurrent : ended.current = none) : s.Gives [] := by
  have hstay : ∀ n, ended.after n = ended := by
    intro n
    induction n with
    | zero => rfl
    | succ n ih => rw [after, hstop, ih]
  intro n
  cases n with
  | zero => simp [after, hfetch, hcurrent]
  | succ n => simp [after, hfetch, hstay, hstop, hcurrent]

theorem gives_cons {s rest : Source} {line : Text} {lines : List Text}
    (hfetch : s.fetch = (.ok true, rest)) (hcurrent : rest.current = some line)
    (hrest : rest.Gives lines) : s.Gives (line :: lines) := by
  intro n
  cases n with
  | zero => simp [after, hfetch, hcurrent]
  | succ n => simpa [after, hfetch] using hrest n

theorem Gives.fetch_nil {s : Source} (h : s.Gives []) :
    s.fetch = (.ok false, s.fetch.2) ∧ s.fetch.2.current = none := by
  obtain ⟨hresult, hcurrent⟩ := h 0
  exact ⟨Prod.ext (by simpa [after] using hresult) rfl, by simpa [after] using hcurrent⟩

theorem Gives.fetch_cons {s : Source} {line : Text} {lines : List Text}
    (h : s.Gives (line :: lines)) :
    s.fetch = (.ok true, s.fetch.2) ∧ s.fetch.2.current = some line ∧ s.fetch.2.Gives lines := by
  obtain ⟨hresult, hcurrent⟩ := h 0
  refine ⟨Prod.ext (by simpa [after] using hresult) rfl, by simpa [after] using hcurrent, ?_⟩
  intro n
  simpa [after] using h (n + 1)

theorem fetch_lines_nil {s : Source} (h : s.feed = .lines []) :
    s.fetch = (.ok false, ⟨.lines [], none⟩) := by
  obtain ⟨feed, current⟩ := s
  cases h
  rfl

theorem fetch_lines_cons {s : Source} {line : Text} {rest : List Text}
    (h : s.feed = .lines (line :: rest)) : s.fetch = (.ok true, ⟨.lines rest, some line.trim⟩) := by
  obtain ⟨feed, current⟩ := s
  cases h
  rfl

/-- A source over a list gives its lines, trimmed. -/
theorem gives_of_lines {s : Source} {lines : List Text} (h : s.feed = .lines lines) :
    s.Gives (lines.map Text.trim) := by
  induction lines generalizing s with
  | nil => exact gives_nil (fetch_lines_nil h) rfl rfl
  | cons line rest ih => exact gives_cons (fetch_lines_cons h) rfl (ih rfl)

/-- Bytes are fetched up to the first newline, whatever comes behind it. -/
theorem fetch_bytes_newline {s : Source} {line rest : List UInt8} {failure : Option Text}
    (h : s.feed = .bytes (line ++ newline :: rest) failure) (hline : newline ∉ line) :
    s.fetch = (.ok true, ⟨.bytes rest failure, some (Text.ofUtf8 (line ++ [newline])).trim⟩) := by
  have hpass : ∀ b ∈ line, (b != newline) = true := Text.bne_newline_of_notMem hline
  unfold fetch
  simp only [h]
  rw [List.takeWhile_append_of_pos hpass, List.dropWhile_append_of_pos hpass]
  simp

theorem fetch_bytes_nil {s : Source} (h : s.feed = .bytes [] none) :
    s.fetch = (.ok false, ⟨.bytes [] none, none⟩) := by
  obtain ⟨feed, current⟩ := s
  cases h
  rfl

/-- Bytes without a newline are fetched to their end. -/
theorem fetch_bytes_last {s : Source} {line : List UInt8} (h : s.feed = .bytes line none)
    (hline : newline ∉ line) (hne : line ≠ []) :
    s.fetch = (.ok true, ⟨.bytes [] none, some (Text.ofUtf8 line).trim⟩) := by
  have hpass : ∀ b ∈ line, (b != newline) = true := Text.bne_newline_of_notMem hline
  unfold fetch
  simp only [h]
  rw [List.takeWhile_eq_self_iff.2 hpass, List.dropWhile_eq_nil_iff.2 hpass]
  simp [hne]

/-- A source over bytes gives the lines of the text that all of them stand for. -/
theorem gives_of_bytes {s : Source} {bytes : List UInt8} (h : s.feed = .bytes bytes none) :
    s.Gives (Text.linesOfBytes bytes) := by
  induction hlength : bytes.length using Nat.strong_induction_on generalizing s bytes with
  | h length ih =>
    obtain hbytes | ⟨line, rest, rfl, hline⟩ := Text.newline_cases bytes
    · cases bytes with
      | nil => exact gives_nil (fetch_bytes_nil h) rfl rfl
      | cons first more =>
        have hne := List.cons_ne_nil first more
        rw [Text.linesOfBytes_of_newline_notMem hbytes hne]
        exact gives_cons (fetch_bytes_last h hbytes hne) rfl (gives_nil rfl rfl rfl)
    · have hshort : rest.length < length := by
        simp only [List.length_append, List.length_cons] at hlength
        omega
      rw [Text.linesOfBytes_append_newline hline]
      exact gives_cons (fetch_bytes_newline h hline) rfl (ih _ hshort rfl rfl)

/-- The lines of bytes do not change when they are trimmed once more. -/
theorem map_trim_linesOfBytes (bytes : List UInt8) :
    (Text.linesOfBytes bytes).map Text.trim = Text.linesOfBytes bytes := by
  unfold Text.linesOfBytes
  rw [List.map_map]
  congr 1
  funext t
  exact Text.trim_trim t

end TradeNotes.Source
