import Mathlib.Data.Set.Card
import TradeNotes.NameMap

namespace TradeNotes.NameMap

variable {α : Type}

/-- A name has a value exactly when an entry bears it. -/
theorem exists_get?_iff {m : NameMap α} {name : Text} :
    (∃ value, m.get? name = some value) ↔ name ∈ m.entries.map Prod.fst := by
  unfold get?
  rw [← Option.isSome_iff_exists, List.lookup_isSome_iff, List.mem_map]
  constructor
  · rintro ⟨entry, hentry, hname⟩
    exact ⟨entry, hentry, (beq_iff_eq.1 hname).symm⟩
  · rintro ⟨entry, hentry, rfl⟩
    exact ⟨entry, hentry, beq_self_eq_true entry.1⟩

theorem nodup_names (m : NameMap α) : (m.entries.map Prod.fst).Nodup := by
  rw [List.Nodup, List.pairwise_map]
  refine m.sorted.imp ?_
  intro a b hlt heq
  exact List.lt_irrefl b.1 (heq ▸ hlt)

/-- The size of a map is the number of the names that have a value. -/
theorem encard_names (m : NameMap α) : {name | ∃ value, m.get? name = some value}.encard = m.size := by
  have hnames : {name | ∃ value, m.get? name = some value} = ↑(m.entries.map Prod.fst).toFinset := by
    ext name
    rw [Set.mem_ofPred_eq, exists_get?_iff, Finset.mem_coe, List.mem_toFinset]
  rw [hnames, Set.encard_coe_eq_coe_finsetCard, List.toFinset_card_of_nodup m.nodup_names,
    List.length_map, NameMap.size]

theorem mem_entries_iff {m : NameMap α} {name : Text} {value : α} :
    (name, value) ∈ m.entries ↔ m.get? name = some value := by
  unfold get?
  rw [List.lookup_eq_some_iff]
  constructor
  · intro hentry
    obtain ⟨before, after, heq⟩ := List.append_of_mem hentry
    refine ⟨before, after, heq, ?_⟩
    intro other hother
    have hsorted := m.sorted
    rw [heq] at hsorted
    have hlt : other.1 < name := (List.pairwise_append.1 hsorted).2.2 other hother _ List.mem_cons_self
    have hne : name ≠ other.1 := by
      rintro rfl
      exact List.lt_irrefl _ hlt
    simpa using hne
  · rintro ⟨before, after, heq, _⟩
    rw [heq]
    exact List.mem_append_right before List.mem_cons_self

theorem nodup_entries (m : NameMap α) : m.entries.Nodup :=
  m.nodup_names.of_map Prod.fst

/-- Maps with the same values are equal. -/
theorem eq_of_get? {m m' : NameMap α} (h : ∀ name, m.get? name = m'.get? name) : m = m' := by
  have hperm : m.entries.Perm m'.entries := by
    rw [List.perm_ext_iff_of_nodup m.nodup_entries m'.nodup_entries]
    rintro ⟨name, value⟩
    rw [mem_entries_iff, mem_entries_iff, h]
  have hentries : m.entries = m'.entries := by
    refine hperm.eq_of_pairwise ?_ m.sorted m'.sorted
    intro a b _ _ hlt hgt
    exact absurd hgt (List.lt_asymm hlt)
  cases m
  cases m'
  cases hentries
  rfl

/-- A name keeps a value, if another one, through every insertion. -/
theorem exists_get?_insert {m : NameMap α} {name other : Text} (value : α)
    (h : ∃ held, m.get? other = some held) : ∃ held, (m.insert name value).get? other = some held := by
  rw [get?_insert]
  by_cases hother : other = name
  · exact ⟨value, if_pos hother⟩
  · rwa [if_neg hother]

/-- What holds of the entries of a map and of a further one holds of the map with that one. -/
theorem forall_get?_insert {m : NameMap α} {Fit : Text → α → Prop} {name : Text} {value : α}
    (hvalue : Fit name value) (h : ∀ other held, m.get? other = some held → Fit other held) :
    ∀ other held, (m.insert name value).get? other = some held → Fit other held := by
  intro other held hheld
  rw [get?_insert] at hheld
  by_cases hother : other = name
  · rw [if_pos hother] at hheld
    cases hheld
    rwa [hother]
  · rw [if_neg hother] at hheld
    exact h other held hheld

/-- The map of pairs whose names differ holds these pairs, whatever their order is. -/
theorem get?_ofList_iff {pairs : List (Text × α)} (hnames : (pairs.map Prod.fst).Nodup)
    {name : Text} {value : α} : (ofList pairs).get? name = some value ↔ (name, value) ∈ pairs := by
  induction pairs using List.reverseRecOn with
  | nil => simp [ofList, empty, get?]
  | append_singleton pairs last ih =>
    rw [List.map_append, List.nodup_append] at hnames
    have hlast : ∀ other, (last.1, other) ∉ pairs := by
      intro other hother
      exact hnames.2.2 last.1 (List.mem_map.2 ⟨_, hother, rfl⟩) last.1 List.mem_cons_self rfl
    have hinsert : ofList (pairs ++ [last]) = (ofList pairs).insert last.1 last.2 := List.foldl_append
    rw [hinsert, get?_insert, List.mem_append, List.mem_singleton]
    by_cases hname : name = last.1
    · subst hname
      simp [hlast, Prod.ext_iff, eq_comm]
    · rw [if_neg hname, ih hnames.1]
      simp [Prod.ext_iff, hname]

end TradeNotes.NameMap
