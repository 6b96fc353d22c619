import TradeNotes.Proofs.Binary64.Nonnegative
import TradeNotes.Proofs.Command.Forms
import TradeNotes.Proofs.Numeral.Longest
import TradeNotes.Proofs.Session.Turns
import TradeNotes.Proofs.Tables.Footprint
import TradeNotes.Proofs.Tables.Names
import TradeNotes.Proofs.Text.Trimming
import TradeNotes.Proofs.Text.Words
import TradeNotes.Tables.Checked

namespace TradeNotes

/-- A number is equal to itself, and what is not a number is not. -/
theorem Binary64.isEqual_self_iff {x : Binary64} : x.isEqual x = true ↔ x ≠ .nan := by
  cases x <;> simp [isEqual]

theorem NameMap.isEqual_self_iff {α : Type} {equal : α → α → Bool} {m : NameMap α} :
    m.isEqual equal m = true ↔ ∀ name value, m.get? name = some value → equal value value = true := by
  have hentries : m.isEqual equal m = true ↔ ∀ entry ∈ m.entries, equal entry.2 entry.2 = true := by
    unfold isEqual
    induction m.entries with
    | nil => simp
    | cons entry rest ih => simp [List.isEqv, ih]
  rw [hentries]
  constructor
  · intro h name value hvalue
    exact h (name, value) (mem_entries_iff.2 hvalue)
  · intro h entry hentry
    exact h entry.1 entry.2 (mem_entries_iff.1 hentry)

namespace Tables

variable {t : Tables}

/-- Tables are equal to themselves as long as all ratios are numbers. -/
theorem isEqual_self_iff :
    t.isEqual t = true ↔ ∀ metal ratio, t.metals.get? metal = some ratio → ratio ≠ .nan := by
  have hunits : t.units.isEqual (· == ·) t.units = true :=
    NameMap.isEqual_self_iff.2 fun _ letter _ => beq_self_eq_true letter
  rw [isEqual, hunits, Bool.true_and, NameMap.isEqual_self_iff]
  simp only [Binary64.isEqual_self_iff]

/-- The check of a question finds nothing in tables that are equal to themselves, as a question
    leaves them as they are. -/
theorem applyChecked_of_isEqual_self (h : t.isEqual t = true) (command : Command) :
    t.applyChecked command = some (t.apply command) := by
  unfold applyChecked
  cases hkind : command.isMutation with
  | true => rfl
  | false =>
    cases happly : t.apply command with
    | error fault => simp [h]
    | ok applied => simp [eq_of_apply_query happly hkind, h]

/-- Whether all ratios are numbers without a sign. -/
def HasNonnegativeRatios (t : Tables) : Prop :=
  ∀ metal ratio, t.metals.get? metal = some ratio → ratio.Nonnegative

/-- The worth of one unit is a number without a sign, also when that of them all is infinite. -/
theorem nonnegative_perUnit {credits : Binary64} (h : credits.Nonnegative) {units : Nat}
    (hunits : Nat.log2 units < 1000) : (perUnit credits units).Nonnegative := by
  unfold perUnit
  split
  · next hpos =>
    obtain ⟨m, hfinite, hm⟩ := Binary64.exists_ofNat_eq_finite hpos hunits
    rw [hfinite]
    exact h.div hm
  · exact .finite _

/-- The number that units make grows no faster than their number. -/
theorem value_lt {units : List Text} {numeral : Numeral} (h : t.numeral units = .ok numeral)
    (hunits : units.length < 2 ^ 63) : numeral.value < 2 ^ 73 := by
  have hletters : units.length = numeral.length := (numeral_eq_ok_iff.1 h).length_eq
  have hvalue : numeral.value ≤ 1000 * numeral.text.length := Reading.decode_le numeral.text
  rw [Numeral.text, List.length_map] at hvalue
  omega

theorem log2_lt {n : Nat} (h : n < 2 ^ 73) : Nat.log2 n < 1000 := by
  by_cases hzero : n = 0
  · rw [hzero]
    decide
  · exact Nat.lt_trans ((Nat.log2_lt hzero).2 h) (by decide)

end Tables

/-- The sides of a sentence are no longer than its line. -/
theorem Sentence.length_le {line : Text} {sentence : Sentence}
    (h : ofLine line.trim = .ok sentence) :
    sentence.left.length ≤ line.length ∧ sentence.right.length ≤ line.length := by
  obtain ⟨left, right, hcut, rfl⟩ := ofLine_eq_ok_iff.1 h
  have hline : line.trim = left ++ keyword ++ right := Text.cutAt?_eq_some hcut
  have htrim : line.trim.length ≤ line.length := (Text.strip_infix Text.isBlank line).length_le
  rw [hline, List.length_append, List.length_append] at htrim
  have hleft : left.trim.length ≤ left.length := (Text.strip_infix Text.isBlank left).length_le
  have hright : (right.strip isPadding).length ≤ right.length :=
    (Text.strip_infix isPadding right).length_le
  exact ⟨by simp only; omega, by simp only; omega⟩

/-- A command has no more units than its line has characters. -/
theorem Command.length_unitsRead_le {line : Text} {command : Command}
    (h : ofLine line.trim = .ok command) : command.unitsRead.length ≤ line.length := by
  obtain ⟨sentence, hsentence, _, hforms⟩ := ofLine_cases h
  obtain ⟨hleft, hright⟩ := Sentence.length_le hsentence
  have hwords : ∀ t : Text, t.tokens.dropLast.length ≤ t.length := by
    intro t
    rw [List.length_dropLast]
    exact (Nat.sub_le _ 1).trans (Text.length_tokens_le t)
  obtain ⟨_, _, _, rfl⟩ | ⟨_, _, _, _, rfl⟩ | ⟨_, _, rfl⟩ | ⟨_, _, _, rfl⟩ := hforms
  · exact Nat.zero_le _
  · exact (hwords _).trans hleft
  · exact (Text.length_tokens_le _).trans hright
  · exact (hwords _).trans hright

/-- A valuation gives a natural number of credits. -/
theorem Command.valuation_of_ofLine {line metal : Text} {units : List Text} {credits : Binary64}
    (h : ofLine line = .ok (assignMetal units metal credits)) :
    ∃ figure, credits = Binary64.ofNat figure := by
  obtain ⟨_, _, _, hforms⟩ := ofLine_cases h
  obtain ⟨_, _, _, hcommand⟩ | ⟨figure, _, _, _, hcommand⟩ | ⟨_, _, hcommand⟩ |
    ⟨_, _, _, hcommand⟩ := hforms
  case inr.inl =>
    cases hcommand
    exact ⟨figure, rfl⟩
  all_goals cases hcommand

namespace Turn

section Valuations

variable {Fit : Binary64 → Prop}

/-- What holds of every worth that a line can set is kept by a line. -/
theorem ratios_ofLine {session : Text} {t : Tables} {line : Text}
    (hfit : ∀ figure measured, measured < 2 ^ 73 →
      Fit (Tables.perUnit (Binary64.ofNat figure) measured))
    (hline : line.length < 2 ^ 63) (h : ∀ metal ratio, t.metals.get? metal = some ratio → Fit ratio) :
    ∀ metal ratio, (ofLine session t line).tables.metals.get? metal = some ratio → Fit ratio := by
  obtain ⟨unit, letter, _, htables⟩ | ⟨units, metal, credits, numeral, hcommand, hnumeral, htables⟩ |
    ⟨_, _, htables⟩ := tables_ofLine_cases session t line
  · rwa [htables]
  · rw [htables]
    obtain ⟨figure, rfl⟩ := Command.valuation_of_ofLine hcommand
    have hunits : units.length ≤ line.length := Command.length_unitsRead_le hcommand
    have hmeasured := Tables.value_lt hnumeral (Nat.lt_of_le_of_lt hunits hline)
    exact NameMap.forall_get?_insert (hfit figure _ hmeasured) h
  · rwa [htables]

/-- What holds of every worth that a line can set holds of all ratios of a session. -/
theorem ratios_tablesAfter {session : Text} {t : Tables} {lines : List Text}
    (hfit : ∀ figure measured, measured < 2 ^ 73 →
      Fit (Tables.perUnit (Binary64.ofNat figure) measured))
    (hlines : ∀ line ∈ lines, line.length < 2 ^ 63)
    (h : ∀ metal ratio, t.metals.get? metal = some ratio → Fit ratio) :
    ∀ metal ratio, (tablesAfter session t lines).metals.get? metal = some ratio → Fit ratio := by
  induction lines generalizing t with
  | nil => exact h
  | cons line rest ih =>
    obtain ⟨hline, hrest⟩ := List.forall_mem_cons.1 hlines
    rw [tablesAfter_cons]
    exact ih hrest (ratios_ofLine hfit hline h)

end Valuations

theorem hasNonnegativeRatios_tablesAfter {session : Text} {t : Tables} {lines : List Text}
    (hlines : ∀ line ∈ lines, line.length < 2 ^ 63) (h : t.HasNonnegativeRatios) :
    (tablesAfter session t lines).HasNonnegativeRatios :=
  ratios_tablesAfter (fun figure _ hmeasured =>
    Tables.nonnegative_perUnit (Binary64.nonnegative_ofNat figure) (Tables.log2_lt hmeasured)) hlines h

/-- Whatever lines a session carries out, all ratios are numbers, infinity among them, and the bit
    of the sign is clear. So the tables are equal to themselves, and the check that compares them
    before and after a question always finds them equal. Lines may be as long as texts in memory,
    whose lengths are counted in 63 bits, and credits may have any number of digits. -/
theorem ratios_are_nonnegative_numbers (session : Text) {lines : List Text}
    (hlines : ∀ line ∈ lines, line.length < 2 ^ 63) :
    let t := tablesAfter session .empty lines
    (∀ metal ratio, t.metals.get? metal = some ratio →
        ratio ≠ .nan ∧ ratio.toBits < Binary64.signBit) ∧
      t.isEqual t = true ∧ ∀ command, t.applyChecked command = some (t.apply command) := by
  intro t
  have hratios : t.HasNonnegativeRatios := by
    refine hasNonnegativeRatios_tablesAfter hlines ?_
    intro metal ratio hratio
    cases hratio
  have hsigns : ∀ metal ratio, t.metals.get? metal = some ratio →
      ratio ≠ .nan ∧ ratio.toBits < Binary64.signBit :=
    fun metal ratio hratio => Binary64.nonnegative_iff.1 (hratios metal ratio hratio)
  have hself : t.isEqual t = true :=
    Tables.isEqual_self_iff.2 fun metal ratio hratio => (hsigns metal ratio hratio).1
  exact ⟨hsigns, hself, Tables.applyChecked_of_isEqual_self hself⟩

/-- A figure beyond all finite numbers, and a valuation without units. -/
theorem ratios_are_nonnegative_numbers_infinite :
    let figure : Text := '1' :: List.replicate 400 '0'
    let lines : List Text := ["glob is M".toList,
      "glob Gold is ".toList ++ figure ++ " Credits".toList, "Iron is 5 Credits".toList]
    let t := tablesAfter [] .empty lines
    (∀ line ∈ lines, line.length < 2 ^ 63) ∧ t.metals.get? "gold".toList = some (.infinite false) ∧
      t.metals.get? "iron".toList = some .zero ∧
      (Binary64.infinite false ≠ .nan ∧ (Binary64.infinite false).toBits < Binary64.signBit) ∧
      t.isEqual t = true ∧
      t.applyChecked (.queryCredits "Gold".toList [] "gold".toList) =
        some (t.apply (.queryCredits "Gold".toList [] "gold".toList)) := by
  intro figure lines t
  have hlines : ∀ line ∈ lines, line.length < 2 ^ 63 := by
    simp only [lines, List.forall_mem_cons]
    decide +kernel
  have hgold : t.metals.get? "gold".toList = some (.infinite false) := by decide +kernel
  obtain ⟨hsigns, hself, hchecked⟩ := ratios_are_nonnegative_numbers [] hlines
  exact ⟨hlines, hgold, by decide +kernel, hsigns _ _ hgold, hself, hchecked _⟩

end Turn

end TradeNotes
