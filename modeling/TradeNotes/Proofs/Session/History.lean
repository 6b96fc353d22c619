import TradeNotes.Proofs.Session.Turns
import TradeNotes.Proofs.Tables.Names

namespace TradeNotes

/-- At some point of a list, what holds of the item there and of the items before it. -/
def Once {α : Type} (holds : List α → α → Prop) (items : List α) : Prop :=
  ∃ before item after, items = before ++ item :: after ∧ holds before item

/-- At some point of a list something holds, and at no later point what would undo it. -/
def Latest {α : Type} (holds undoes : List α → α → Prop) (items : List α) : Prop :=
  ∃ before item after, items = before ++ item :: after ∧ holds before item ∧
    ∀ between later rest, after = between ++ later :: rest →
      ¬ undoes (before ++ item :: between) later

section

variable {α : Type} {holds undoes : List α → α → Prop} {items : List α} {item : α}

/-- A point of a longer list is its last one or a point of the list before. -/
theorem concat_eq_append_cons_iff {before after : List α} {last : α} :
    items ++ [last] = before ++ item :: after ↔
      (items = before ∧ last = item ∧ after = []) ∨
        ∃ rest, after = rest ++ [last] ∧ items = before ++ item :: rest := by
  obtain rfl | ⟨rest, final, rfl⟩ := List.eq_nil_or_concat' after
  · rw [List.append_singleton_inj]
    simp
  · rw [← List.cons_append, ← List.append_assoc, List.append_singleton_inj]
    constructor
    · rintro ⟨rfl, rfl⟩
      exact .inr ⟨rest, rfl, rfl⟩
    · rintro (⟨_, _, hnil⟩ | ⟨held, heq, rfl⟩)
      · cases List.append_eq_nil_iff.1 hnil |>.2
      · obtain ⟨rfl, rfl⟩ := List.append_singleton_inj.1 heq
        exact ⟨rfl, rfl⟩

theorem not_once_nil : ¬ Once holds [] := by
  rintro ⟨before, item, after, heq, _⟩
  exact List.append_ne_nil_of_right_ne_nil before (List.cons_ne_nil item after) heq.symm

theorem once_concat : Once holds (items ++ [item]) ↔ Once holds items ∨ holds items item := by
  constructor
  · rintro ⟨before, held, after, heq, hholds⟩
    obtain ⟨rfl, rfl, rfl⟩ | ⟨rest, rfl, rfl⟩ := concat_eq_append_cons_iff.1 heq
    · exact .inr hholds
    · exact .inl ⟨before, held, rest, rfl, hholds⟩
  · rintro (⟨before, held, after, rfl, hholds⟩ | hholds)
    · exact ⟨before, held, after ++ [item], by simp, hholds⟩
    · exact ⟨items, item, [], rfl, hholds⟩

theorem not_latest_nil : ¬ Latest holds undoes [] := by
  rintro ⟨before, item, after, heq, _⟩
  exact List.append_ne_nil_of_right_ne_nil before (List.cons_ne_nil item after) heq.symm

/-- What was latest stays so as long as the next item does not undo it. -/
theorem latest_concat :
    Latest holds undoes (items ++ [item]) ↔
      holds items item ∨ (¬ undoes items item ∧ Latest holds undoes items) := by
  constructor
  · rintro ⟨before, held, after, heq, hholds, hundoes⟩
    obtain ⟨rfl, rfl, rfl⟩ | ⟨rest, rfl, rfl⟩ := concat_eq_append_cons_iff.1 heq
    · exact .inl hholds
    · refine .inr ⟨hundoes rest item [] rfl, before, held, rest, rfl, hholds, ?_⟩
      intro between later final hrest
      exact hundoes between later (final ++ [item]) (by simp [hrest])
  · rintro (hholds | ⟨hitem, before, held, after, rfl, hholds, hundoes⟩)
    · refine ⟨items, item, [], rfl, hholds, ?_⟩
      intro between later rest hnil
      cases List.append_eq_nil_iff.1 hnil.symm |>.2
    · refine ⟨before, held, after ++ [item], by simp, hholds, ?_⟩
      intro between later rest heq
      obtain ⟨rfl, rfl, rfl⟩ | ⟨final, rfl, rfl⟩ := concat_eq_append_cons_iff.1 heq
      · exact hitem
      · exact hundoes between later final rfl

theorem once_append {more : List α} (h : Once holds items) : Once holds (items ++ more) := by
  obtain ⟨before, item, after, rfl, hholds⟩ := h
  exact ⟨before, item, after ++ more, by simp, hholds⟩

/-- When each of several things undoes all of them, one of them is the latest as soon as one
    of them has happened at all. -/
theorem exists_latest_iff {ι : Type} {writes : ι → List α → α → Prop} :
    (∃ i, Latest (writes i) (fun before item => ∃ i, writes i before item) items) ↔
      Once (fun before item => ∃ i, writes i before item) items := by
  induction items using List.reverseRecOn with
  | nil =>
    constructor
    · rintro ⟨i, hlatest⟩
      exact absurd hlatest not_latest_nil
    · intro honce
      exact absurd honce not_once_nil
  | append_singleton items item ih =>
    rw [once_concat, ← ih]
    constructor
    · rintro ⟨i, hlatest⟩
      obtain hwrites | ⟨_, hlatest⟩ := latest_concat.1 hlatest
      · exact .inr ⟨i, hwrites⟩
      · exact .inl ⟨i, hlatest⟩
    · intro h
      by_cases hitem : ∃ i, writes i items item
      · obtain ⟨i, hwrites⟩ := hitem
        exact ⟨i, latest_concat.2 (.inl hwrites)⟩
      · obtain ⟨i, hlatest⟩ := h.resolve_right hitem
        exact ⟨i, latest_concat.2 (.inr ⟨hitem, hlatest⟩)⟩

end

namespace History

/-- Whether a line assigns a letter to a unit. -/
def Assigns (line unit : Text) (letter : Letter) : Prop :=
  Command.ofLine line.trim = .ok (.assignUnit unit letter)

/-- Whether one of the lines assigns a letter to a unit. -/
def IsAssigned (lines : List Text) (unit : Text) : Prop :=
  Once (fun _ line => ∃ letter, Assigns line unit letter) lines

/-- Whether the last of the lines that assign a letter to a unit assigns it this one. -/
def HasLetter (lines : List Text) (unit : Text) (letter : Letter) : Prop :=
  Latest (fun _ line => Assigns line unit letter) (fun _ line => ∃ other, Assigns line unit other)
    lines

/-- Whether a line values a metal by units that the lines before have all assigned. -/
def IsValuation (before : List Text) (line metal : Text) : Prop :=
  ∃ units credits, Command.ofLine line.trim = .ok (.assignMetal units metal credits) ∧
    ∀ unit ∈ units, IsAssigned before unit

/-- Whether a line values a metal at a ratio, by the letters that its units have from the
    lines before. -/
def Values (before : List Text) (line metal : Text) (ratio : Binary64) : Prop :=
  ∃ units credits letters, Command.ofLine line.trim = .ok (.assignMetal units metal credits) ∧
    List.Forall₂ (HasLetter before) units letters ∧
    Tables.perUnit credits (Numeral.value letters) = ratio

/-- Whether one of the lines values a metal. -/
def IsValued (lines : List Text) (metal : Text) : Prop :=
  Once (fun before line => IsValuation before line metal) lines

/-- Whether the last of the lines that value a metal values it at this ratio. -/
def HasRatio (lines : List Text) (metal : Text) (ratio : Binary64) : Prop :=
  Latest (fun before line => Values before line metal ratio)
    (fun before line => IsValuation before line metal) lines

variable {session : Text} {t : Tables} {lines : List Text} {line unit metal : Text}

theorem exists_hasLetter_iff : (∃ letter, HasLetter lines unit letter) ↔ IsAssigned lines unit :=
  exists_latest_iff

/-- Units have letters side by side as soon as each of them has been assigned. -/
theorem exists_letters_iff {units : List Text} :
    (∃ letters, List.Forall₂ (HasLetter lines) units letters) ↔
      ∀ unit ∈ units, IsAssigned lines unit := by
  rw [exists_forall₂_iff]
  simp only [exists_hasLetter_iff]

theorem exists_values_iff :
    (∃ ratio, Values lines line metal ratio) ↔ IsValuation lines line metal := by
  constructor
  · rintro ⟨ratio, units, credits, letters, hcommand, hletters, _⟩
    exact ⟨units, credits, hcommand, exists_letters_iff.1 ⟨letters, hletters⟩⟩
  · rintro ⟨units, credits, hcommand, hunits⟩
    obtain ⟨letters, hletters⟩ := exists_letters_iff.2 hunits
    exact ⟨_, units, credits, letters, hcommand, hletters, rfl⟩

theorem exists_hasRatio_iff : (∃ ratio, HasRatio lines metal ratio) ↔ IsValued lines metal := by
  simp only [HasRatio, IsValued, ← exists_values_iff]
  exact exists_latest_iff

/-- The letters after a line are those that it assigns, and the others as before. -/
theorem units_get?_ofLine {unit : Text} {letter : Letter} :
    (Turn.ofLine session t line).tables.units.get? unit = some letter ↔
      Assigns line unit letter ∨
        ((¬ ∃ other, Assigns line unit other) ∧ t.units.get? unit = some letter) := by
  unfold Assigns
  obtain ⟨assigned, given, hcommand, htables⟩ | ⟨units, metal, credits, numeral, hcommand, _,
    htables⟩ | ⟨hassign, _, htables⟩ := Turn.tables_ofLine_cases session t line
  · rw [htables, Tables.assignUnit, NameMap.get?_insert, hcommand]
    by_cases hunit : unit = assigned
    · subst hunit
      simp
    · simp [hunit, Ne.symm hunit]
  · rw [htables, Tables.setRatio, hcommand]
    simp
  · rw [htables]
    simp [hassign]

/-- The ratios after a line are the one that it sets, and the others as before. -/
theorem metals_get?_ofLine {metal : Text} {ratio : Binary64} :
    (Turn.ofLine session t line).tables.metals.get? metal = some ratio ↔
      (∃ units credits numeral,
        Command.ofLine line.trim = .ok (.assignMetal units metal credits) ∧
        t.numeral units = .ok numeral ∧ Tables.perUnit credits numeral.value = ratio) ∨
      ((¬ ∃ units credits numeral,
        Command.ofLine line.trim = .ok (.assignMetal units metal credits) ∧
        t.numeral units = .ok numeral) ∧ t.metals.get? metal = some ratio) := by
  obtain ⟨unit, letter, hcommand, htables⟩ | ⟨units, valued, credits, numeral, hcommand, hnumeral,
    htables⟩ | ⟨_, hvalue, htables⟩ := Turn.tables_ofLine_cases session t line
  · rw [htables, Tables.assignUnit, hcommand]
    simp
  · rw [htables, Tables.setRatio, NameMap.get?_insert, hcommand]
    by_cases hmetal : metal = valued
    · subst hmetal
      simp [hnumeral]
    · simp [hmetal, Ne.symm hmetal]
  · rw [htables]
    constructor
    · intro hratio
      refine .inr ⟨?_, hratio⟩
      rintro ⟨units, credits, numeral, hcommand, hnumeral⟩
      exact hvalue units metal credits numeral hcommand hnumeral
    · rintro (⟨units, credits, numeral, hcommand, hnumeral, _⟩ | ⟨_, hratio⟩)
      · exact absurd hnumeral (hvalue units metal credits numeral hcommand)
      · exact hratio

/-- A unit has the letter of the last line that assigns one to it. -/
theorem units_get?_tablesAfter {lines : List Text} {unit : Text} {letter : Letter} :
    (Turn.tablesAfter session .empty lines).units.get? unit = some letter ↔
      HasLetter lines unit letter := by
  induction lines using List.reverseRecOn with
  | nil =>
    refine iff_of_false ?_ not_latest_nil
    intro hget
    cases hget
  | append_singleton lines line ih =>
    rw [Turn.tablesAfter_concat, units_get?_ofLine, ih, HasLetter, HasLetter, latest_concat]

theorem numeral_tablesAfter {units : List Text} {letters : Numeral} :
    (Turn.tablesAfter session .empty lines).numeral units = .ok letters ↔
      List.Forall₂ (HasLetter lines) units letters := by
  simp only [Tables.numeral_eq_ok_iff, units_get?_tablesAfter]

theorem values_iff (session : Text) {ratio : Binary64} :
    Values lines line metal ratio ↔ ∃ units credits letters,
      Command.ofLine line.trim = .ok (.assignMetal units metal credits) ∧
      (Turn.tablesAfter session .empty lines).numeral units = .ok letters ∧
      Tables.perUnit credits (Numeral.value letters) = ratio := by
  simp only [Values, numeral_tablesAfter]

theorem isValuation_iff (session : Text) :
    IsValuation lines line metal ↔ ∃ units credits letters,
      Command.ofLine line.trim = .ok (.assignMetal units metal credits) ∧
      (Turn.tablesAfter session .empty lines).numeral units = .ok letters := by
  simp only [IsValuation, numeral_tablesAfter, exists_and_left, exists_letters_iff]

/-- A metal has the ratio at which the last line that values it does. -/
theorem metals_get?_tablesAfter {lines : List Text} {metal : Text} {ratio : Binary64} :
    (Turn.tablesAfter session .empty lines).metals.get? metal = some ratio ↔
      HasRatio lines metal ratio := by
  induction lines using List.reverseRecOn with
  | nil =>
    refine iff_of_false ?_ not_latest_nil
    intro hget
    cases hget
  | append_singleton lines line ih =>
    rw [Turn.tablesAfter_concat, metals_get?_ofLine, ih, ← values_iff, ← isValuation_iff,
      HasRatio, HasRatio, latest_concat]

/-- The lines that value a metal by assigned units are those that are accepted when they are
    carried out after the lines before them. -/
theorem isValuation_iff_accepted (session : Text) :
    IsValuation lines line metal ↔
      ∃ units credits, Command.ofLine line.trim = .ok (.assignMetal units metal credits) ∧
        (Turn.ofLine session (Turn.tablesAfter session .empty lines) line).outcome = .ok none := by
  rw [isValuation_iff session]
  constructor
  · rintro ⟨units, credits, letters, hcommand, hletters⟩
    have happly := Tables.apply_assignMetal metal credits hletters
    exact ⟨units, credits, hcommand, Turn.outcome_of_apply hcommand happly⟩
  · rintro ⟨units, credits, hcommand, houtcome⟩
    obtain ⟨command, hparse, happly⟩ := Turn.outcome_eq_ok_iff.1 houtcome
    cases hcommand.symm.trans hparse
    obtain ⟨_, _, hunit, _⟩ | ⟨_, _, _, letters, hmetal, hletters, _⟩ | ⟨hquery, _⟩ :=
      Tables.apply_cases happly
    · cases hunit
    · cases hmetal
      exact ⟨units, credits, letters, hcommand, hletters⟩
    · cases hquery

/-- An assignment is accepted in any tables, and changes no ratio. -/
theorem accepted_of_assigns {letter : Letter} (t : Tables) (h : Assigns line unit letter) :
    (Turn.ofLine session t line).outcome = .ok none ∧
      (Turn.ofLine session t line).tables.metals = t.metals := by
  unfold Assigns at h
  constructor
  · exact Turn.outcome_of_apply h rfl
  · simp only [Turn.ofLine, h, Tables.apply, Tables.assignUnit]

theorem encard_isAssigned (session : Text) (lines : List Text) :
    {unit | IsAssigned lines unit}.encard = (Turn.tablesAfter session .empty lines).units.size := by
  rw [← NameMap.encard_names]
  simp only [units_get?_tablesAfter, exists_hasLetter_iff]

theorem encard_isValued (session : Text) (lines : List Text) :
    {metal | IsValued lines metal}.encard = (Turn.tablesAfter session .empty lines).metals.size := by
  rw [← NameMap.encard_names]
  simp only [metals_get?_tablesAfter, exists_hasRatio_iff]

/-- The tables that any lines leave, whatever becomes of each line, told from the lines. A
    unit has the letter of the last line that assigns one to it. A metal has the ratio at
    which the last accepted valuation of it did value it, by the letters that its units had
    from the lines before: a later assignment of a unit is accepted but changes no ratio.
    So the tables have as many names as were ever assigned or valued, and never lose one. -/
theorem tables_determined_by_lines (session : Text) (lines : List Text) :
    (∀ unit letter, (Turn.tablesAfter session .empty lines).units.get? unit = some letter ↔
      HasLetter lines unit letter) ∧
    (∀ metal ratio, (Turn.tablesAfter session .empty lines).metals.get? metal = some ratio ↔
      HasRatio lines metal ratio) ∧
    (∀ line metal, IsValuation lines line metal ↔
      ∃ units credits, Command.ofLine line.trim = .ok (.assignMetal units metal credits) ∧
        (Turn.ofLine session (Turn.tablesAfter session .empty lines) line).outcome = .ok none) ∧
    (∀ line unit letter, Assigns line unit letter →
      (Turn.ofLine session (Turn.tablesAfter session .empty lines) line).outcome = .ok none ∧
      (Turn.tablesAfter session .empty (lines ++ [line])).metals =
        (Turn.tablesAfter session .empty lines).metals) ∧
    ((Turn.tablesAfter session .empty lines).units.size = {unit | IsAssigned lines unit}.encard) ∧
    ((Turn.tablesAfter session .empty lines).metals.size = {metal | IsValued lines metal}.encard) ∧
    ∀ more,
      (Turn.tablesAfter session .empty lines).units.size ≤
        (Turn.tablesAfter session .empty (lines ++ more)).units.size ∧
      (Turn.tablesAfter session .empty lines).metals.size ≤
        (Turn.tablesAfter session .empty (lines ++ more)).metals.size := by
  refine ⟨fun unit letter => units_get?_tablesAfter, fun metal ratio => metals_get?_tablesAfter,
    fun line metal => isValuation_iff_accepted session, ?_, (encard_isAssigned session lines).symm,
    (encard_isValued session lines).symm, ?_⟩
  · intro line unit letter hassigns
    rw [Turn.tablesAfter_concat]
    exact accepted_of_assigns _ hassigns
  · intro more
    have hassigned : {unit | IsAssigned lines unit} ⊆ {unit | IsAssigned (lines ++ more) unit} :=
      fun unit => once_append
    have hvalued : {metal | IsValued lines metal} ⊆ {metal | IsValued (lines ++ more) metal} :=
      fun metal => once_append
    have hunits := Set.encard_le_encard hassigned
    have hmetals := Set.encard_le_encard hvalued
    rw [encard_isAssigned session, encard_isAssigned session, Nat.cast_le] at hunits
    rw [encard_isValued session, encard_isValued session, Nat.cast_le] at hmetals
    exact ⟨hunits, hmetals⟩

end History

end TradeNotes
