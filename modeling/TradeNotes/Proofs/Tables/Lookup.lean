import Mathlib.Data.List.Forall2
import TradeNotes.Tables.Basic

namespace TradeNotes

/-- A sequence of two steps succeeds exactly when both do. -/
theorem bind_eq_ok_iff {α β : Type} {x : Except Fault α} {f : α → Except Fault β} {b : β} :
    (x >>= f) = .ok b ↔ ∃ a, x = .ok a ∧ f a = .ok b := by
  cases x <;> simp [Bind.bind, Except.bind]

/-- A sequence of two steps has the fault of the first step that fails. -/
theorem bind_eq_error_iff {α β : Type} {x : Except Fault α} {f : α → Except Fault β}
    {fault : Fault} :
    (x >>= f) = .error fault ↔ x = .error fault ∨ ∃ a, x = .ok a ∧ f a = .error fault := by
  cases x <;> simp [Bind.bind, Except.bind]

theorem map_eq_ok_iff {α β : Type} {x : Except Fault α} {f : α → β} {b : β} :
    f <$> x = .ok b ↔ ∃ a, x = .ok a ∧ f a = b := by
  cases x <;> simp [Functor.map, Except.map]

theorem map_eq_error_iff {α β : Type} {x : Except Fault α} {f : α → β} {fault : Fault} :
    f <$> x = .error fault ↔ x = .error fault := by
  cases x <;> simp [Functor.map, Except.map]

/-- Items have partners side by side as soon as each of them has one. -/
theorem exists_forall₂_iff {α β : Type} {partners : α → β → Prop} {items : List α} :
    (∃ others, List.Forall₂ partners items others) ↔ ∀ item ∈ items, ∃ other, partners item other := by
  induction items with
  | nil => simp
  | cons item rest ih =>
    rw [List.forall_mem_cons, ← ih]
    constructor
    · rintro ⟨others, hforall⟩
      cases hforall with
      | cons hitem hrest => exact ⟨⟨_, hitem⟩, _, hrest⟩
    · rintro ⟨⟨other, hitem⟩, others, hrest⟩
      exact ⟨other :: others, .cons hitem hrest⟩

namespace Tables

theorem letter_eq_ok_iff {t : Tables} {unit : Text} {letter : Letter} :
    t.letter unit = .ok letter ↔ t.units.get? unit = some letter := by
  unfold Tables.letter
  cases t.units.get? unit <;> simp

/-- Units have letters side by side exactly when each of them has its letter. -/
theorem numeral_eq_ok_iff {t : Tables} {units : List Text} {numeral : Numeral} :
    t.numeral units = .ok numeral ↔
      List.Forall₂ (fun unit letter => t.units.get? unit = some letter) units numeral := by
  unfold Tables.numeral
  induction units generalizing numeral with
  | nil =>
    rw [List.mapM_nil, List.forall₂_nil_left_iff]
    exact ⟨fun h => (Except.ok.inj h).symm, fun h => h ▸ rfl⟩
  | cons unit rest ih =>
    rw [List.mapM_cons, bind_eq_ok_iff, List.forall₂_cons_left_iff]
    constructor
    · rintro ⟨letter, hletter, hrest⟩
      obtain ⟨letters, hletters, heq⟩ := bind_eq_ok_iff.1 hrest
      exact ⟨letter, letters, letter_eq_ok_iff.1 hletter, ih.1 hletters, (Except.ok.inj heq).symm⟩
    · rintro ⟨letter, letters, hletter, hletters, rfl⟩
      exact ⟨letter, letter_eq_ok_iff.2 hletter, bind_eq_ok_iff.2 ⟨letters, ih.2 hletters, rfl⟩⟩

/-- Units do not make a numeral when one of them has no letter, and it is the first such
    unit that is at fault. -/
theorem numeral_eq_error {t : Tables} {units : List Text} {fault : Fault}
    (h : t.numeral units = .error fault) :
    ∃ before unit after, units = before ++ unit :: after ∧
      (∀ known ∈ before, t.units.get? known ≠ none) ∧
      t.units.get? unit = none ∧ fault = .unknownUnit unit := by
  unfold Tables.numeral at h
  induction units with
  | nil => cases h
  | cons unit rest ih =>
    rw [List.mapM_cons] at h
    obtain hunit | ⟨letter, hletter, hrest⟩ := bind_eq_error_iff.1 h
    · refine ⟨[], unit, rest, rfl, by simp, ?_⟩
      unfold Tables.letter at hunit
      cases hget : t.units.get? unit with
      | none =>
        rw [hget] at hunit
        exact ⟨rfl, (Except.error.inj hunit).symm⟩
      | some letter =>
        rw [hget] at hunit
        cases hunit
    · obtain hletters | ⟨letters, _, hpure⟩ := bind_eq_error_iff.1 hrest
      · obtain ⟨before, unknown, after, rfl, hbefore, hunknown⟩ := ih hletters
        refine ⟨unit :: before, unknown, after, rfl, ?_, hunknown⟩
        intro known hknown
        obtain rfl | hknown := List.mem_cons.1 hknown
        · rw [letter_eq_ok_iff.1 hletter]
          exact Option.some_ne_none letter
        · exact hbefore known hknown
      · cases hpure

theorem value_eq_ok_iff {t : Tables} {units : List Text} {value : Nat} :
    t.value units = .ok value ↔ ∃ numeral, t.numeral units = .ok numeral ∧ numeral.value = value :=
  map_eq_ok_iff

/-- All that an accepted command can do: an assignment of a unit changes one letter, a
    valuation of a metal by units with letters sets one ratio, and a question, which alone
    has an answer, changes nothing. -/
theorem apply_cases {t after : Tables} {command : Command} {answer : Option Text}
    (h : t.apply command = .ok (after, answer)) :
    (∃ unit letter, command = .assignUnit unit letter ∧
      after = t.assignUnit unit letter ∧ answer = none) ∨
    (∃ units metal credits numeral, command = .assignMetal units metal credits ∧
      t.numeral units = .ok numeral ∧
      after = t.setRatio metal (perUnit credits numeral.value) ∧ answer = none) ∨
    (command.isMutation = false ∧ after = t ∧ answer ≠ none) := by
  cases command with
  | assignUnit unit letter =>
    cases h
    exact .inl ⟨unit, letter, rfl, rfl, rfl⟩
  | assignMetal units metal credits =>
    obtain ⟨valued, hvalued, heq⟩ := map_eq_ok_iff.1 h
    obtain ⟨measured, hmeasured, hset⟩ := bind_eq_ok_iff.1 hvalued
    obtain ⟨numeral, hnumeral, rfl⟩ := value_eq_ok_iff.1 hmeasured
    cases hset
    cases heq
    exact .inr (.inl ⟨units, metal, credits, numeral, rfl, hnumeral, rfl, rfl⟩)
  | queryNumeral phrase units =>
    obtain ⟨text, _, heq⟩ := map_eq_ok_iff.1 h
    cases heq
    exact .inr (.inr ⟨rfl, rfl, Option.some_ne_none text⟩)
  | queryCredits phrase units metal =>
    obtain ⟨text, _, heq⟩ := map_eq_ok_iff.1 h
    cases heq
    exact .inr (.inr ⟨rfl, rfl, Option.some_ne_none text⟩)

/-- Questions have answers, and only they have. -/
theorem isMutation_of_apply {t after : Tables} {command : Command} {answer : Option Text}
    (h : t.apply command = .ok (after, answer)) : command.isMutation = answer.isNone := by
  obtain ⟨_, _, rfl, _, rfl⟩ | ⟨_, _, _, _, rfl, _, _, rfl⟩ | ⟨hquery, _, hanswer⟩ := apply_cases h
  · rfl
  · rfl
  · rw [hquery, Option.isNone_eq_false_iff.2 (Option.isSome_iff_ne_none.2 hanswer)]

theorem eq_of_apply_query {t after : Tables} {command : Command} {answer : Option Text}
    (h : t.apply command = .ok (after, answer)) (hquery : command.isMutation = false) : after = t := by
  obtain ⟨_, _, rfl, _⟩ | ⟨_, _, _, _, rfl, _⟩ | ⟨_, htables, _⟩ := apply_cases h
  · cases hquery
  · cases hquery
  · exact htables

/-- A valuation by units that all have letters is accepted. -/
theorem apply_assignMetal {t : Tables} {units : List Text} {numeral : Numeral} (metal : Text)
    (credits : Binary64) (h : t.numeral units = .ok numeral) :
    t.apply (.assignMetal units metal credits) =
      .ok (t.setRatio metal (perUnit credits numeral.value), none) := by
  have hvalue : t.value units = .ok numeral.value := value_eq_ok_iff.2 ⟨numeral, h, rfl⟩
  exact map_eq_ok_iff.2 ⟨_, bind_eq_ok_iff.2 ⟨_, hvalue, rfl⟩, rfl⟩

theorem value_eq_error {t : Tables} {units : List Text} {fault : Fault}
    (h : t.value units = .error fault) : ∃ unit, fault = .unknownUnit unit := by
  obtain ⟨_, unit, _, _, _, _, heq⟩ := numeral_eq_error (map_eq_error_iff.1 h)
  exact ⟨unit, heq⟩

/-- A command is refused for a unit or a metal that is not known, and for nothing else. -/
theorem apply_eq_error {t : Tables} {command : Command} {fault : Fault}
    (h : t.apply command = .error fault) :
    (∃ unit, fault = .unknownUnit unit) ∨ ∃ metal, fault = .unknownMetal metal := by
  cases command with
  | assignUnit unit letter => cases h
  | assignMetal units metal credits =>
    obtain hvalue | ⟨_, _, hset⟩ := bind_eq_error_iff.1 (map_eq_error_iff.1 h)
    · exact .inl (value_eq_error hvalue)
    · cases hset
  | queryNumeral phrase units =>
    obtain hvalue | ⟨_, _, hanswer⟩ := bind_eq_error_iff.1 (map_eq_error_iff.1 h)
    · exact .inl (value_eq_error hvalue)
    · cases hanswer
  | queryCredits phrase units metal =>
    obtain hratio | ⟨ratio, _, hanswer⟩ := bind_eq_error_iff.1 (map_eq_error_iff.1 h)
    · right
      unfold Tables.ratio at hratio
      cases hget : t.metals.get? metal with
      | none =>
        rw [hget] at hratio
        exact ⟨metal, (Except.error.inj hratio).symm⟩
      | some ratio =>
        rw [hget] at hratio
        cases hratio
    · obtain hvalue | ⟨_, _, htext⟩ := bind_eq_error_iff.1 hanswer
      · exact .inl (value_eq_error hvalue)
      · cases htext

end Tables

end TradeNotes
