import TradeNotes.Session.Sink

namespace TradeNotes

theorem appendList_appendList {α : Type} (a : Array α) (l more : List α) :
    a ++ l ++ more = a ++ (l ++ more) := by
  apply Array.ext'
  simp only [Array.toList_appendList, List.append_assoc]

namespace Sink

/-- Whether a sink takes so many bytes more without failing. -/
def HasRoom (s : Sink) (n : Nat) : Prop :=
  ∀ room, s.room = some room → n ≤ room.bytes

/-- A sink after bytes that it had room for. -/
def taking (s : Sink) (bytes : List UInt8) : Sink :=
  { s with
    taken := s.taken ++ bytes
    room := s.room.map fun room => { room with bytes := room.bytes - bytes.length } }

variable {s : Sink} {bytes more : List UInt8} {room : Room} {t : Text} {n : Nat}

theorem hasRoom_of_room_none (h : s.room = none) (n : Nat) : s.HasRoom n := by
  intro room hroom
  rw [h] at hroom
  cases hroom

theorem hasRoom_iff (h : s.room = some room) : s.HasRoom n ↔ n ≤ room.bytes := by
  simp [HasRoom, h]

theorem taking_of_room_none (h : s.room = none) (bytes : List UInt8) :
    s.taking bytes = { s with taken := s.taken ++ bytes } := by
  simp only [taking, h, Option.map_none]

theorem taking_nil (s : Sink) : s.taking [] = s := by
  obtain ⟨taken, room, flushFailure⟩ := s
  cases room <;> simp [taking]

theorem taking_append (s : Sink) (bytes more : List UInt8) :
    s.taking (bytes ++ more) = (s.taking bytes).taking more := by
  obtain ⟨taken, room, flushFailure⟩ := s
  cases room <;> simp [taking, appendList_appendList, Nat.sub_add_eq]

theorem HasRoom.of_append (h : s.HasRoom (bytes ++ more).length) : s.HasRoom bytes.length := by
  intro room hroom
  have hbound := h room hroom
  rw [List.length_append] at hbound
  omega

/-- What is taken leaves room for the rest. -/
theorem HasRoom.taking (h : s.HasRoom (bytes ++ more).length) :
    (s.taking bytes).HasRoom more.length := by
  intro room hroom
  obtain ⟨before, hbefore, rfl⟩ := Option.map_eq_some_iff.1 hroom
  have hbound := h before hbefore
  rw [List.length_append] at hbound
  simp only
  omega

theorem write_of_hasRoom (h : s.HasRoom bytes.length) :
    s.write bytes = (.ok (), s.taking bytes) := by
  cases hroom : s.room with
  | none => simp only [write, hroom, taking_of_room_none hroom]
  | some room => simp only [write, hroom, h room hroom, if_true, taking, Option.map_some]

theorem write_of_full (hroom : s.room = some room) (hfull : room.bytes < bytes.length) :
    s.write bytes = (.error (.inputOutput room.reason),
      { s with
        taken := s.taken ++ bytes.take room.bytes
        room := some { room with bytes := 0 } }) := by
  simp only [write, hroom, if_neg (Nat.not_le.2 hfull)]

/-- A sink that has room for a line takes the text and the newline after it. -/
theorem writeLine_of_hasRoom (h : s.HasRoom (Text.utf8 (t ++ ['\n'])).length) :
    s.writeLine t = (.ok (), s.taking (Text.utf8 (t ++ ['\n']))) := by
  have hline : Text.utf8 (t ++ ['\n']) = Text.utf8 t ++ Text.utf8 ['\n'] := List.flatMap_append
  rw [hline] at h ⊢
  simp only [writeLine, write_of_hasRoom h.of_append, write_of_hasRoom h.taking, taking_append]

/-- A sink takes as much of a line as it has room for, be it a part of the text or the text
    without its newline, and fails. -/
theorem writeLine_of_full (hroom : s.room = some room)
    (hfull : room.bytes < (Text.utf8 (t ++ ['\n'])).length) :
    s.writeLine t = (.error (.inputOutput room.reason),
      { s with
        taken := s.taken ++ (Text.utf8 (t ++ ['\n'])).take room.bytes
        room := some { room with bytes := 0 } }) := by
  have hline : Text.utf8 (t ++ ['\n']) = Text.utf8 t ++ Text.utf8 ['\n'] := List.flatMap_append
  have hnewline : (Text.utf8 ['\n']).length = 1 := by decide
  rw [hline] at hfull ⊢
  rw [List.length_append, hnewline] at hfull
  obtain hpart | hwhole := Nat.lt_or_ge room.bytes (Text.utf8 t).length
  · rw [List.take_append_of_le_length (Nat.le_of_lt hpart)]
    simp only [writeLine, write_of_full hroom hpart]
  · -- the text has taken all the room, so that nothing of the newline is written
    have hexact : room.bytes = (Text.utf8 t).length := by omega
    have hafter : (s.taking (Text.utf8 t)).room = some { room with bytes := 0 } := by
      simp only [taking, hroom, Option.map_some, hexact, Nat.sub_self]
    have hnone : 0 < (Text.utf8 ['\n']).length := by omega
    rw [hexact, List.take_left]
    simp only [writeLine, write_of_hasRoom ((hasRoom_iff hroom).2 hwhole),
      write_of_full hafter hnone]
    simp only [taking, List.take_zero, Array.appendList_nil]

end Sink

end TradeNotes
