import TradeNotes.Proofs.Session.Turns

namespace TradeNotes

/-- A list without the items at some places. -/
def without {α : Type} (deleted : Nat → Bool) (items : List α) : List α :=
  (items.zipIdx.filter fun item => !deleted item.2).map Prod.fst

theorem without_cons {α : Type} (deleted : Nat → Bool) (item : α) (rest : List α) :
    without deleted (item :: rest) =
      if deleted 0 then without (fun i => deleted (i + 1)) rest
      else item :: without (fun i => deleted (i + 1)) rest := by
  have hrest : ((rest.zipIdx 1).filter fun item => !deleted item.2).map Prod.fst =
      without (fun i => deleted (i + 1)) rest := by
    rw [List.zipIdx_succ, List.filter_map, List.map_map]
    rfl
  unfold without at hrest ⊢
  rw [List.zipIdx_cons, List.filter_cons]
  cases deleted 0 <;> simp [hrest]

/-- A line that ends in a question mark gives no command that may change the tables. -/
theorem Command.isMutation_of_question {line : Text} {command : Command}
    (hcommand : Command.ofLine line = .ok command) (hquestion : Sentence.kindOf line = .question) :
    command.isMutation = false := by
  obtain ⟨sentence, _, hkind, hforms⟩ := ofLine_cases hcommand
  rw [hquestion] at hkind
  obtain ⟨_, hother, _⟩ | ⟨_, hother, _⟩ | ⟨_, _, rfl⟩ | ⟨_, _, _, rfl⟩ := hforms
  · cases hkind.symm.trans hother
  · cases hkind.symm.trans hother
  · rfl
  · rfl

namespace Turn

variable {session : Text} {t : Tables} {line : Text}

/-- A question leaves the tables as they are, whether it is answered or rejected. -/
theorem tables_of_question (hquestion : Sentence.kindOf line.trim = .question) :
    (ofLine session t line).tables = t := by
  cases houtcome : (ofLine session t line).outcome with
  | error fault => exact tables_of_outcome_error houtcome
  | ok answer =>
    obtain ⟨command, hcommand, happly⟩ := outcome_eq_ok_iff.1 houtcome
    exact Tables.eq_of_apply_query happly (Command.isMutation_of_question hcommand hquestion)

/-- Whether the line at a place is a question, or is rejected where it stands. -/
def IsInvisible (session : Text) (t : Tables) (lines : List Text) (i : Nat) : Prop :=
  ∃ line turn, lines[i]? = some line ∧ (ofLines session t lines)[i]? = some turn ∧
    (Sentence.kindOf line.trim = .question ∨ turn.isRejected = true)

theorem tables_of_isInvisible {rest : List Text} (h : IsInvisible session t (line :: rest) 0) :
    (ofLine session t line).tables = t := by
  obtain ⟨_, _, hline, hturn, hquestion | hrejected⟩ := h
  · cases hline
    exact tables_of_question hquestion
  · cases hturn
    obtain ⟨fault, houtcome⟩ := exists_of_isRejected hrejected
    exact tables_of_outcome_error houtcome

/-- Questions and rejected lines are invisible: when any of them are left out, every other line
    has the same turn as before, with its answer or its fault, and the tables end the same. -/
theorem ofLines_without (session : Text) (t : Tables) (lines : List Text) (deleted : Nat → Bool)
    (hdeleted : ∀ i < lines.length, deleted i = true → IsInvisible session t lines i) :
    ofLines session t (without deleted lines) = without deleted (ofLines session t lines) ∧
      tablesAfter session t (without deleted lines) = tablesAfter session t lines := by
  induction lines generalizing t deleted with
  | nil => exact ⟨rfl, rfl⟩
  | cons line rest ih =>
    have hrest : ∀ i < rest.length, deleted (i + 1) = true →
        IsInvisible session (ofLine session t line).tables rest i := by
      intro i hi hdelete
      exact hdeleted (i + 1) (Nat.succ_lt_succ hi) hdelete
    obtain ⟨hturns, htables⟩ := ih (ofLine session t line).tables (fun i => deleted (i + 1)) hrest
    rw [ofLines, without_cons, without_cons, tablesAfter_cons, ← htables, ← hturns]
    cases hfirst : deleted 0 with
    | true =>
      rw [tables_of_isInvisible (hdeleted 0 (Nat.succ_pos rest.length) hfirst)]
      exact ⟨rfl, rfl⟩
    | false => exact ⟨rfl, rfl⟩

/-- A question and a line that is rejected are left out between two lines that are accepted. -/
theorem ofLines_without_question_and_rejected :
    let lines : List Text := ["glob is I".toList, "how much is glob?".toList, "prok is Q".toList,
      "glob Silver is 10 Credits".toList]
    let deleted : Nat → Bool := fun i => i == 1 || i == 2
    (∀ i < lines.length, deleted i = true → IsInvisible [] .empty lines i) ∧
      ofLines [] .empty (without deleted lines) = without deleted (ofLines [] .empty lines) ∧
      tablesAfter [] .empty (without deleted lines) = tablesAfter [] .empty lines := by
  intro lines deleted
  have hdeleted : ∀ i < lines.length, deleted i = true → IsInvisible [] .empty lines i := by
    intro i hi hplace
    simp only [deleted, Bool.or_eq_true, beq_iff_eq] at hplace
    obtain rfl | rfl := hplace
    · exact ⟨_, _, rfl, rfl, .inl (by decide +kernel)⟩
    · exact ⟨_, _, rfl, rfl, .inr (by decide +kernel)⟩
  exact ⟨hdeleted, ofLines_without [] .empty lines deleted hdeleted⟩

end Turn

end TradeNotes
