import TradeNotes.Proofs.Session.Fetching

namespace TradeNotes.Source

/-- Fetching again and again tells lines one by one, and after the last of them the source is
    another one. What that one does when it is asked is left open. -/
inductive Yields : Source → List Text → Source → Prop
  | nil (s : Source) : Yields s [] s
  | cons {s after next : Source} {line : Text} {rest : List Text}
      (hfetch : s.fetch = (.ok true, after)) (hcurrent : after.current = some line)
      (hrest : Yields after rest next) : Yields s (line :: rest) next

variable {s next : Source} {lines more : List Text} {failure : Option Text}

theorem Yields.exists_of_append (h : s.Yields (lines ++ more) next) :
    ∃ between, s.Yields lines between ∧ between.Yields more next := by
  induction lines generalizing s with
  | nil => exact ⟨s, .nil s, h⟩
  | cons line rest ih =>
    cases h with
    | cons hfetch hcurrent hrest =>
      obtain ⟨between, hbefore, hafter⟩ := ih hrest
      exact ⟨between, .cons hfetch hcurrent hbefore, hafter⟩

theorem Yields.current_eq (h : s.Yields lines next) :
    next.current = lines.getLast?.or s.current := by
  induction h with
  | nil s => rfl
  | @cons s after next line rest hfetch hcurrent hrest ih =>
    rw [ih, hcurrent, List.getLast?_cons]
    cases rest.getLast? <;> rfl

/-- A source over a list yields its first lines, trimmed, and holds the others. -/
theorem yields_of_lines (h : s.feed = .lines (lines ++ more)) :
    ∃ next, s.Yields (lines.map Text.trim) next ∧ next.feed = .lines more := by
  induction lines generalizing s with
  | nil => exact ⟨s, .nil s, h⟩
  | cons line rest ih =>
    obtain ⟨next, hyields, hfeed⟩ := ih (s := ⟨.lines (rest ++ more), some line.trim⟩) rfl
    exact ⟨next, .cons (fetch_lines_cons h) rfl hyields, hfeed⟩

/-- A source over bytes yields the lines that end in a newline, however the bytes end. What
    stands behind the last newline is not fetched yet. -/
theorem yields_of_bytes {bytes : List UInt8} (h : s.feed = .bytes bytes failure) :
    ∃ next unfinished, s.Yields (Text.completeLines bytes) next ∧
      next.feed = .bytes unfinished failure ∧ newline ∉ unfinished := by
  induction hlength : bytes.length using Nat.strong_induction_on generalizing s bytes with
  | h length ih =>
    obtain hbytes | ⟨line, rest, rfl, hline⟩ := Text.newline_cases bytes
    · rw [Text.completeLines_of_newline_notMem hbytes]
      exact ⟨s, bytes, .nil s, h, hbytes⟩
    · have hshort : rest.length < length := by
        simp only [List.length_append, List.length_cons] at hlength
        omega
      obtain ⟨next, unfinished, hyields, hfeed, hunfinished⟩ := ih _ hshort
        (s := ⟨.bytes rest failure, some (Text.ofUtf8 (line ++ [newline])).trim⟩) rfl rfl
      rw [Text.completeLines_append_newline hline]
      exact ⟨next, unfinished, .cons (fetch_bytes_newline h hline) rfl hyields, hfeed, hunfinished⟩

/-- Bytes that are followed by a failure and have no newline are lost: the line before
    them stays the current one. -/
theorem fetch_bytes_failed {unfinished : List UInt8} {reason : Text}
    (h : s.feed = .bytes unfinished (some reason)) (hunfinished : newline ∉ unfinished) :
    s.fetch = (.error (.inputOutput reason), { s with feed := .bytes [] (some reason) }) := by
  have hpass : unfinished.dropWhile (· != newline) = [] :=
    List.dropWhile_eq_nil_iff.2 (Text.bne_newline_of_notMem hunfinished)
  unfold fetch
  simp only [h, hpass]

/-- A fetch that fails leaves the current line as it was. -/
theorem current_of_fetch_failed {fault : Fault} (h : s.fetch.1 = .error fault) :
    s.fetch.2.current = s.current := by
  unfold fetch at h ⊢
  split at h
  · cases h
  · cases h
  · next unread failure =>
    simp only at h ⊢
    split at h
    · cases h
    · rfl
    · split at h <;> cases h

end TradeNotes.Source
