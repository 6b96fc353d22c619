import TradeNotes.Text.Blank
import TradeNotes.Text.LowerCase

namespace TradeNotes.Text

/-- The code points of a run, one after the other. -/
def CaseRun.points (run : CaseRun) : List Nat :=
  List.range' run.first ((run.last - run.first) / run.step + 1) run.step

theorem CaseRun.mem_points {run : CaseRun} {n : Nat} (h : run.contains n = true) : n ∈ run.points := by
  simp only [contains, Bool.and_eq_true, decide_eq_true_eq, beq_iff_eq] at h
  obtain ⟨⟨hfirst, hlast⟩, hstep⟩ := h
  have hdistance : n - run.first = run.step * ((n - run.first) / run.step) := by
    have hdiv := Nat.div_add_mod (n - run.first) run.step
    omega
  have hcount : (n - run.first) / run.step ≤ (run.last - run.first) / run.step :=
    Nat.div_le_div_right (by omega)
  exact List.mem_range'.2 ⟨(n - run.first) / run.step, by omega, by omega⟩

/-- A number whose bits stand for code points. -/
def mask (points : List Nat) : Nat :=
  points.foldr (fun n bits => bits ||| 1 <<< n) 0

theorem testBit_mask {points : List Nat} {n : Nat} (h : n ∈ points) :
    (mask points).testBit n = true := by
  induction points with
  | nil => cases h
  | cons first rest ih =>
    change (mask rest ||| 1 <<< first).testBit n = true
    rw [Nat.testBit_or, Bool.or_eq_true]
    obtain rfl | hrest := List.mem_cons.1 h
    · right
      simp [Nat.testBit_shiftLeft]
    · exact .inl (ih hrest)

/-- Code points whose masks have no bit in common are different. -/
theorem notMem_of_mask {points others : List Nat} (hmasks : mask points &&& mask others = 0)
    {n : Nat} (hn : n ∈ points) : n ∉ others := by
  intro hother
  have hboth : (mask points &&& mask others).testBit n = true := by
    rw [Nat.testBit_and, testBit_mask hn, testBit_mask hother, Bool.and_self]
  rw [hmasks, Nat.zero_testBit] at hboth
  cases hboth

/-- The code points that have another lower-case form, and those of white space. -/
def changingPoints : List Nat :=
  0x130 :: caseRuns.flatMap CaseRun.points ++
    blankRanges.flatMap fun (first, last) => List.range' first (last - first + 1)

/-- What the code points of the runs become. -/
def loweredPoints : List Nat :=
  caseRuns.flatMap fun run => run.points.map fun (n : Nat) => (n + run.shift).toNat

theorem mask_lowered : mask loweredPoints &&& mask changingPoints = 0 := by
  decide +kernel

variable {c : Char}

theorem lowerChar_eq_self (h : c.toNat ∉ changingPoints) : lowerChar c = [c] := by
  have hother : c ≠ '\u0130' := by
    rintro rfl
    exact h (List.mem_append_left _ List.mem_cons_self)
  have hruns : caseRuns.find? (·.contains c.toNat) = none := by
    rw [List.find?_eq_none]
    intro run hrun hcontains
    have hpoint := List.mem_flatMap.2 ⟨run, hrun, CaseRun.mem_points hcontains⟩
    exact h (List.mem_append_left _ (List.mem_cons_of_mem _ hpoint))
  rw [lowerChar, if_neg hother, hruns]

theorem isBlank_eq_false (h : c.toNat ∉ changingPoints) : isBlank c = false := by
  rw [isBlank, Ranges.contains, List.any_eq_false]
  rintro ⟨first, last⟩ hrange hcontains
  simp only [Bool.and_eq_true, decide_eq_true_eq] at hcontains
  have hpoint : c.toNat ∈ List.range' first (last - first + 1) := by
    rw [List.mem_range'_1]
    omega
  exact h (List.mem_append_right _ (List.mem_flatMap.2 ⟨(first, last), hrange, hpoint⟩))

/-- What a lower-case form of a character is made of: the character itself, the two that stand
    for U+0130, or what a run gives. -/
theorem lowerChar_cases (c : Char) :
    lowerChar c = [c] ∨ lowerChar c = ['i', '\u0307'] ∨
      ∃ n ∈ loweredPoints, lowerChar c = [Char.ofNat n] := by
  unfold lowerChar
  split
  · exact .inr (.inl rfl)
  · split
    · next run hrun =>
      have hcontains : run.contains c.toNat = true := by simpa using List.find?_some hrun
      have hpoint := CaseRun.mem_points hcontains
      have hlowered : (c.toNat + run.shift).toNat ∈ loweredPoints :=
        List.mem_flatMap.2 ⟨run, List.mem_of_find?_eq_some hrun, List.mem_map.2 ⟨_, hpoint, rfl⟩⟩
      exact .inr (.inr ⟨_, hlowered, rfl⟩)
    · exact .inl rfl

/-- What a run gives is its own lower-case form and is not white space. -/
theorem lowerChar_ofNat {n : Nat} (h : n ∈ loweredPoints) :
    lowerChar (Char.ofNat n) = [Char.ofNat n] ∧ isBlank (Char.ofNat n) = false := by
  by_cases hvalid : n.isValidChar
  · have hvalue : (Char.ofNat n).toNat = n := by
      rw [Char.ofNat, dif_pos hvalid]
      rfl
    have hpoint : (Char.ofNat n).toNat ∉ changingPoints := by
      rw [hvalue]
      exact notMem_of_mask mask_lowered h
    exact ⟨lowerChar_eq_self hpoint, isBlank_eq_false hpoint⟩
  · have hnull : Char.ofNat n = '\x00' := by
      rw [Char.ofNat, dif_neg hvalid]
      rfl
    rw [hnull]
    exact ⟨by decide +kernel, by decide⟩

theorem lowerChar_of_mem_lowerChar {d : Char} (h : d ∈ lowerChar c) : lowerChar d = [d] := by
  obtain hself | hdotted | ⟨n, hn, hrun⟩ := lowerChar_cases c
  · rw [hself] at h
    rwa [List.mem_singleton.1 h]
  · rw [hdotted] at h
    simp only [List.mem_cons, List.not_mem_nil, or_false] at h
    obtain rfl | rfl := h <;> decide +kernel
  · rw [hrun] at h
    rw [List.mem_singleton.1 h]
    exact (lowerChar_ofNat hn).1

theorem isBlank_of_mem_lowerChar (hc : isBlank c = false) {d : Char} (h : d ∈ lowerChar c) :
    isBlank d = false := by
  obtain hself | hdotted | ⟨n, hn, hrun⟩ := lowerChar_cases c
  · rw [hself] at h
    rwa [List.mem_singleton.1 h]
  · rw [hdotted] at h
    simp only [List.mem_cons, List.not_mem_nil, or_false] at h
    obtain rfl | rfl := h <;> decide
  · rw [hrun] at h
    rw [List.mem_singleton.1 h]
    exact (lowerChar_ofNat hn).2

theorem lowerChar_ne_nil (c : Char) : lowerChar c ≠ [] := by
  obtain hself | hdotted | ⟨n, _, hrun⟩ := lowerChar_cases c
  · simp [hself]
  · simp [hdotted]
  · simp [hrun]

/-- A character of a lower-case form comes from one of the text, or is a sigma. -/
theorem mem_lowerAfter {before t : Text} {d : Char} (h : d ∈ lowerAfter before t) :
    d = 'ς' ∨ d = 'σ' ∨ ∃ c ∈ t, d ∈ lowerChar c := by
  induction t generalizing before with
  | nil => cases h
  | cons c rest ih =>
    rw [lowerAfter, List.mem_append] at h
    obtain hfirst | hrest := h
    · split at hfirst
      · rw [List.mem_singleton, lowerSigma] at hfirst
        split at hfirst
        · exact .inl hfirst
        · exact .inr (.inl hfirst)
      · exact .inr (.inr ⟨c, List.mem_cons_self, hfirst⟩)
    · obtain hfinal | hinner | ⟨e, he, hd⟩ := ih hrest
      · exact .inl hfinal
      · exact .inr (.inl hinner)
      · exact .inr (.inr ⟨e, List.mem_cons_of_mem _ he, hd⟩)

theorem lowerAfter_eq_self {t : Text} (h : ∀ c ∈ t, lowerChar c = [c]) (before : Text) :
    lowerAfter before t = t := by
  induction t generalizing before with
  | nil => rfl
  | cons c rest ih =>
    obtain ⟨hc, hrest⟩ := List.forall_mem_cons.1 h
    have hsigma : c ≠ 'Σ' := by
      rintro rfl
      revert hc
      decide +kernel
    rw [lowerAfter, if_neg hsigma, hc, ih hrest, List.singleton_append]

/-- A lower-case form is its own lower-case form. -/
theorem lowerCase_lowerCase (t : Text) : t.lowerCase.lowerCase = t.lowerCase := by
  apply lowerAfter_eq_self
  intro d hd
  obtain rfl | rfl | ⟨c, _, hc⟩ := mem_lowerAfter hd
  · decide +kernel
  · decide +kernel
  · exact lowerChar_of_mem_lowerChar hc

theorem isBlank_of_mem_lowerCase {t : Text} (ht : ∀ c ∈ t, isBlank c = false) :
    ∀ c ∈ t.lowerCase, isBlank c = false := by
  intro d hd
  obtain rfl | rfl | ⟨c, hc, hlower⟩ := mem_lowerAfter hd
  · decide
  · decide
  · exact isBlank_of_mem_lowerChar (ht c hc) hlower

theorem lowerCase_ne_nil {t : Text} (h : t ≠ []) : t.lowerCase ≠ [] := by
  obtain ⟨c, rest, rfl⟩ := List.exists_cons_of_ne_nil h
  rw [lowerCase, lowerAfter]
  apply List.append_ne_nil_of_left_ne_nil
  split
  · exact List.cons_ne_nil _ _
  · exact lowerChar_ne_nil c

end TradeNotes.Text
