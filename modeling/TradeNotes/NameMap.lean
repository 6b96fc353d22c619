import TradeNotes.Text.Basic

namespace TradeNotes

/-- A finite map from names. Its entries stand in the order of the code points of
    their names, which is also the order of the bytes of their UTF-8 forms, and no
    name occurs twice. So two maps with the same values are equal. -/
structure NameMap (α : Type) where
  entries : List (Text × α)
  sorted : entries.Pairwise fun a b => a.1 < b.1

namespace NameMap

variable {α : Type}

/-- The map without names. -/
def empty : NameMap α := ⟨[], List.Pairwise.nil⟩

/-- Places an entry where its name belongs, instead of the one that has its name. -/
def place (name : Text) (value : α) : List (Text × α) → List (Text × α)
  | [] => [(name, value)]
  | entry :: rest =>
    if name < entry.1 then (name, value) :: entry :: rest
    else if name = entry.1 then (name, value) :: rest
    else entry :: place name value rest

theorem mem_of_mem_place {name : Text} {value : α} {entries : List (Text × α)} {entry : Text × α}
    (h : entry ∈ place name value entries) : entry = (name, value) ∨ entry ∈ entries := by
  induction entries with
  | nil => simpa [place] using h
  | cons first rest ih =>
    unfold place at h
    split at h
    · simpa using h
    · split at h
      · simp only [List.mem_cons] at h ⊢
        exact h.imp_right .inr
      · simp only [List.mem_cons] at h ⊢
        obtain h | h := h
        · exact .inr (.inl h)
        · exact (ih h).imp_right .inr

theorem sorted_place {name : Text} {value : α} {entries : List (Text × α)}
    (h : entries.Pairwise fun a b => a.1 < b.1) :
    (place name value entries).Pairwise fun a b => a.1 < b.1 := by
  induction entries with
  | nil => simp [place]
  | cons first rest ih =>
    have hfirst := List.pairwise_cons.1 h
    unfold place
    split
    · next hlt =>
      refine List.pairwise_cons.2 ⟨fun entry hentry => ?_, h⟩
      obtain rfl | hrest := List.mem_cons.1 hentry
      · exact hlt
      · exact List.lt_trans hlt (hfirst.1 entry hrest)
    · split
      · next heq => exact List.pairwise_cons.2 ⟨heq ▸ hfirst.1, hfirst.2⟩
      · next hge hne =>
        refine List.pairwise_cons.2 ⟨fun entry hentry => ?_, ih hfirst.2⟩
        obtain rfl | hrest := mem_of_mem_place hentry
        · exact (List.le_iff_lt_or_eq.1 (List.not_lt.1 hge)).resolve_right (Ne.symm hne)
        · exact hfirst.1 entry hrest

/-- The map with a value for a name, instead of the one it had. -/
def insert (m : NameMap α) (name : Text) (value : α) : NameMap α :=
  ⟨place name value m.entries, sorted_place m.sorted⟩

/-- The value of a name. -/
def get? (m : NameMap α) (name : Text) : Option α :=
  m.entries.lookup name

/-- The number of names. -/
def size (m : NameMap α) : Nat := m.entries.length

/-- The map of pairs, taken in their order: of several values of one name the last one stays. -/
def ofList (pairs : List (Text × α)) : NameMap α :=
  pairs.foldl (fun m (name, value) => m.insert name value) empty

theorem lookup_place (name other : Text) (value : α) (entries : List (Text × α)) :
    (place name value entries).lookup other =
      if other = name then some value else entries.lookup other := by
  induction entries with
  | nil =>
    by_cases h : other = name
    · simp [place, h]
    · simp [place, List.lookup_cons, beq_false_of_ne h, h]
  | cons first rest ih =>
    obtain ⟨held, kept⟩ := first
    unfold place
    split
    · by_cases h : other = name
      · simp [h]
      · simp [List.lookup_cons, beq_false_of_ne h, h]
    · split
      · next heq =>
        subst heq
        by_cases h : other = name
        · simp [h]
        · simp [List.lookup_cons, beq_false_of_ne h, h]
      · next hne =>
        rw [List.lookup_cons, List.lookup_cons, ih]
        by_cases h : other = held
        · have hother : held ≠ name := fun heq => hne heq.symm
          simp [h, hother]
        · simp [beq_false_of_ne h]

/-- Looking up after an insertion finds the new value, and every other name as before. -/
theorem get?_insert (m : NameMap α) (name other : Text) (value : α) :
    (m.insert name value).get? other = if other = name then some value else m.get? other :=
  lookup_place name other value m.entries

end NameMap

end TradeNotes
