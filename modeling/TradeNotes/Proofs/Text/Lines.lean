import Mathlib.Data.List.DropRight
import TradeNotes.Proofs.Text.Decoding
import TradeNotes.Proofs.Text.Trimming

namespace TradeNotes.Text

/-- Cuts a text behind every newline. What stands behind the last newline is a piece of its
    own when there is something. -/
def pieces : Text → List Text
  | [] => []
  | c :: rest =>
    if c = '\n' then [c] :: pieces rest
    else match pieces rest with
      | [] => [[c]]
      | first :: more => (c :: first) :: more

example : pieces "a\n\r\n b".toList = ["a\n".toList, "\r\n".toList, " b".toList] := by decide

/-- Cutting a text into pieces loses nothing. -/
theorem flatten_pieces (t : Text) : (pieces t).flatten = t := by
  induction t with
  | nil => rfl
  | cons c rest ih =>
    unfold pieces
    split
    · rw [List.flatten_cons, ih, List.singleton_append]
    · split
      · next hrest =>
        rw [hrest] at ih
        simp [← ih]
      · next first more hrest =>
        rw [hrest] at ih
        simp [← ih]

theorem pieces_append_newline {line : Text} (hline : '\n' ∉ line) (rest : Text) :
    pieces (line ++ '\n' :: rest) = (line ++ ['\n']) :: pieces rest := by
  induction line with
  | nil => simp [pieces]
  | cons c more ih =>
    simp only [List.mem_cons, not_or] at hline
    rw [List.cons_append, pieces, if_neg (Ne.symm hline.1), ih hline.2, List.cons_append]

theorem pieces_of_newline_notMem {t : Text} (ht : '\n' ∉ t) (hne : t ≠ []) : pieces t = [t] := by
  induction t with
  | nil => exact absurd rfl hne
  | cons c more ih =>
    simp only [List.mem_cons, not_or] at ht
    rw [pieces, if_neg (Ne.symm ht.1)]
    cases more with
    | nil => rfl
    | cons next more => rw [ih ht.2 (List.cons_ne_nil next more)]

/-- The lines that bytes stand for, when all of them are decoded at once. -/
def linesOfBytes (bytes : List UInt8) : List Text :=
  (pieces (ofUtf8 bytes)).map trim

/-- Bytes with another ending of lines: every line feed becomes a carriage return and a
    line feed. -/
def returnLines (bytes : List UInt8) : List UInt8 :=
  bytes.flatMap fun b => if b = 0x0A then [0x0D, 0x0A] else [b]

/-- Bytes have no line feed, or there is a first one. -/
theorem newline_cases (bytes : List UInt8) :
    0x0A ∉ bytes ∨ ∃ line rest, bytes = line ++ 0x0A :: rest ∧ 0x0A ∉ line := by
  by_cases hmem : 0x0A ∈ bytes
  · exact .inr (List.eq_append_cons_of_mem hmem)
  · exact .inl hmem

/-- The first line may be decoded on its own. -/
theorem linesOfBytes_append_newline {line : List UInt8} (hline : 0x0A ∉ line)
    (rest : List UInt8) :
    linesOfBytes (line ++ 0x0A :: rest) =
      (ofUtf8 (line ++ [0x0A])).trim :: linesOfBytes rest := by
  unfold linesOfBytes
  rw [ofUtf8_append_ascii line (by decide), ofUtf8_append_ascii line (by decide)]
  change (pieces (ofUtf8 line ++ '\n' :: ofUtf8 rest)).map trim = _
  rw [pieces_append_newline (newline_notMem_ofUtf8 hline)]
  rfl

theorem linesOfBytes_of_newline_notMem {bytes : List UInt8} (hbytes : 0x0A ∉ bytes)
    (hne : bytes ≠ []) : linesOfBytes bytes = [(ofUtf8 bytes).trim] := by
  unfold linesOfBytes
  rw [pieces_of_newline_notMem (newline_notMem_ofUtf8 hbytes) (ofUtf8_ne_nil hne)]
  rfl

/-- Bytes without what stands behind their last newline. -/
def completePart (bytes : List UInt8) : List UInt8 :=
  bytes.rdropWhile (· != 0x0A)

/-- The lines that bytes stand for and that end in a newline. -/
def completeLines (bytes : List UInt8) : List Text :=
  linesOfBytes (completePart bytes)

theorem bne_newline_of_notMem {bytes : List UInt8} (hbytes : 0x0A ∉ bytes) :
    ∀ b ∈ bytes, (b != 0x0A) = true := by
  intro b hb
  rw [bne_iff_ne]
  rintro rfl
  exact hbytes hb

theorem completePart_of_newline_notMem {bytes : List UInt8} (hbytes : 0x0A ∉ bytes) :
    completePart bytes = [] := by
  rw [completePart, List.rdropWhile_eq_nil_iff]
  exact bne_newline_of_notMem hbytes

theorem completePart_append_newline (line rest : List UInt8) :
    completePart (line ++ 0x0A :: rest) = line ++ 0x0A :: completePart rest := by
  unfold completePart List.rdropWhile
  rw [List.reverse_append, List.reverse_cons, List.append_assoc, List.dropWhile_append]
  split
  · next hempty =>
    rw [List.isEmpty_iff] at hempty
    simp [hempty]
  · simp

theorem completePart_completePart (bytes : List UInt8) :
    completePart (completePart bytes) = completePart bytes :=
  List.rdropWhile_idempotent _ bytes

theorem completeLines_of_newline_notMem {bytes : List UInt8} (hbytes : 0x0A ∉ bytes) :
    completeLines bytes = [] := by
  rw [completeLines, completePart_of_newline_notMem hbytes]
  rfl

theorem completeLines_append_newline {line : List UInt8} (hline : 0x0A ∉ line)
    (rest : List UInt8) :
    completeLines (line ++ 0x0A :: rest) =
      (ofUtf8 (line ++ [0x0A])).trim :: completeLines rest := by
  rw [completeLines, completePart_append_newline, linesOfBytes_append_newline hline, completeLines]

theorem returnLines_of_newline_notMem {bytes : List UInt8} (hbytes : 0x0A ∉ bytes) :
    returnLines bytes = bytes := by
  induction bytes with
  | nil => rfl
  | cons b rest ih =>
    simp only [List.mem_cons, not_or] at hbytes
    have hrest := ih hbytes.2
    unfold returnLines at hrest ⊢
    rw [List.flatMap_cons, if_neg (Ne.symm hbytes.1), hrest, List.singleton_append]

/-- A carriage return at the end of a line is trimmed with the newline. -/
theorem trim_ofUtf8_return (line : List UInt8) :
    (ofUtf8 (line ++ [0x0D, 0x0A])).trim = (ofUtf8 (line ++ [0x0A])).trim := by
  have hfeed : ∀ c ∈ ['\n'], isBlank c = true := List.forall_mem_singleton.2 (by decide)
  have hreturn : ∀ c ∈ ['\r', '\n'], isBlank c = true := List.forall_mem_cons.2 ⟨by decide, hfeed⟩
  rw [ofUtf8_append_ascii line (by decide), ofUtf8_append_ascii line (by decide)]
  exact (trim_append_blank _ hreturn).trans (trim_append_blank _ hfeed).symm

/-- The two endings of lines give the same lines. -/
theorem linesOfBytes_returnLines (bytes : List UInt8) :
    linesOfBytes (returnLines bytes) = linesOfBytes bytes := by
  induction hlength : bytes.length using Nat.strong_induction_on generalizing bytes with
  | h length ih =>
    obtain hbytes | ⟨line, rest, rfl, hline⟩ := newline_cases bytes
    · rw [returnLines_of_newline_notMem hbytes]
    · have hreturn : returnLines (line ++ 0x0A :: rest) =
          (line ++ [0x0D]) ++ 0x0A :: returnLines rest := by
        rw [returnLines, List.flatMap_append, ← returnLines, returnLines_of_newline_notMem hline]
        simp [returnLines]
      have hshort : rest.length < length := by
        simp only [List.length_append, List.length_cons] at hlength
        omega
      rw [hreturn, linesOfBytes_append_newline (by simpa using hline),
        linesOfBytes_append_newline hline, ih _ hshort rest rfl, List.append_assoc]
      congr 1
      exact trim_ofUtf8_return line

end TradeNotes.Text
