import TradeNotes.Fault
import TradeNotes.Text.Blank
import TradeNotes.Text.Utf8

namespace TradeNotes

/-- Where lines come from: a list of them, or bytes that are read to their end or
    to a failure with a reason. -/
inductive Feed
  | lines (pending : List Text)
  | bytes (unread : List UInt8) (failure : Option Text)

/-- A source of lines and the line that was fetched last, which is none before the
    first one and at the end. -/
structure Source where
  feed : Feed
  current : Option Text := none

namespace Source

/-- The byte that ends a line. -/
def newline : UInt8 := 0x0A

/-- A source that gives a list of lines. -/
def ofLines (lines : List Text) : Source := { feed := .lines lines }

/-- A source that reads bytes to their end. -/
def ofBytes (bytes : List UInt8) : Source := { feed := .bytes bytes none }

/-- A source that reads bytes and then fails. -/
def failingAfter (bytes : List UInt8) (reason : Text) : Source :=
  { feed := .bytes bytes (some reason) }

/-- How many lines or bytes have not been fetched. -/
def size (s : Source) : Nat :=
  match s.feed with
  | .lines pending => pending.length
  | .bytes unread _ => unread.length

/-- Fetches the next line and tells whether there is one. Bytes are read up to a
    newline or to their end; those of an unfinished line are lost when reading fails.
    The line is kept without the white space around it, and a failure leaves the
    line before. -/
def fetch (s : Source) : Except Fault Bool × Source :=
  match s.feed with
  | .lines [] => (.ok false, { s with current := none })
  | .lines (line :: rest) => (.ok true, ⟨.lines rest, some line.trim⟩)
  | .bytes unread failure =>
    let line := unread.takeWhile (· != newline)
    match unread.dropWhile (· != newline), failure with
    | stop :: rest, _ =>
      (.ok true, ⟨.bytes rest failure, some (Text.ofUtf8 (line ++ [stop])).trim⟩)
    | [], some reason => (.error (.inputOutput reason), { s with feed := .bytes [] failure })
    | [], none =>
      if unread.isEmpty then (.ok false, { s with current := none })
      else (.ok true, ⟨.bytes [] none, some (Text.ofUtf8 line).trim⟩)

/-- A source that has given a line has less to give. -/
theorem size_fetch_lt {s after : Source} (h : s.fetch = (.ok true, after)) :
    after.size < s.size := by
  obtain ⟨feed, current⟩ := s
  unfold fetch at h
  cases feed with
  | lines pending =>
    cases pending with
    | nil => simp at h
    | cons line rest =>
      simp only [Prod.mk.injEq, true_and] at h
      subst h
      simp [size]
  | bytes unread failure =>
    simp only at h
    split at h
    · next stop rest hrest =>
      simp only [Prod.mk.injEq, true_and] at h
      subst h
      have hlength := (List.dropWhile_suffix (· != newline) (l := unread)).length_le
      rw [hrest] at hlength
      simp only [List.length_cons] at hlength
      exact hlength
    · simp at h
    · split at h
      · simp at h
      · next hne =>
        simp only [Prod.mk.injEq, true_and] at h
        subst h
        simpa [size, List.length_pos_iff] using hne

end Source

end TradeNotes
