import TradeNotes.Proofs.Json.Objects
import TradeNotes.Proofs.Json.Rereading
import TradeNotes.Proofs.Tables.Lookup
import TradeNotes.Proofs.Tables.Names
import TradeNotes.Tables.Dump

namespace TradeNotes

section Items

variable {α β γ : Type} {items : List α} {others : List β}

theorem mapM_eq_some_iff {f : α → Option β} :
    items.mapM f = some others ↔ List.Forall₂ (fun item other => f item = some other) items others := by
  induction items generalizing others with
  | nil => simp [eq_comm]
  | cons item rest ih =>
    rw [List.mapM_cons, List.forall₂_cons_left_iff]
    simp only [← ih]
    cases f item <;> cases rest.mapM f <;> simp [eq_comm]

theorem mem_of_mapM_iff {f : α → Option β} (h : items.mapM f = some others) {other : β} :
    other ∈ others ↔ ∃ item ∈ items, f item = some other := by
  have hsame : items.map f = others.map some := by
    rw [← List.forall₂_eq_eq_eq, List.forall₂_map_left_iff, List.forall₂_map_right_iff]
    exact mapM_eq_some_iff.1 h
  rw [← List.mem_map, hsame, List.mem_map_of_injective (Option.some_injective β)]

/-- Items that correspond one by one give the same. -/
theorem mapM_eq_of_forall₂ {f : α → Option γ} {g : β → Option γ}
    (h : List.Forall₂ (fun item other => g other = f item) items others) :
    others.mapM g = items.mapM f := by
  induction h with
  | nil => rfl
  | cons hitem _ ih => rw [List.mapM_cons, List.mapM_cons, hitem, ih]

end Items

namespace NameMap

variable {α β : Type} {f : α → Option β} {m : NameMap α} {m' : NameMap β}

/-- The map of the same names with other values. There is none when a value has no other one. -/
def mapValues? (f : α → Option β) (m : NameMap α) : Option (NameMap β) :=
  ofList <$> m.entries.mapM fun (name, value) => (name, ·) <$> f value

theorem get?_of_mapM {pairs : List (Text × β)}
    (h : (m.entries.mapM fun (name, value) => (name, ·) <$> f value) = some pairs) (name : Text) :
    (ofList pairs).get? name = (m.get? name).bind f := by
  have hnames : m.entries.map Prod.fst = pairs.map Prod.fst := by
    rw [← List.forall₂_eq_eq_eq, List.forall₂_map_left_iff, List.forall₂_map_right_iff]
    refine (mapM_eq_some_iff.1 h).imp fun entry pair hpair => ?_
    obtain ⟨other, _, rfl⟩ := Option.map_eq_some_iff.1 hpair
    rfl
  have hnodup : (pairs.map Prod.fst).Nodup := hnames ▸ m.nodup_names
  apply Option.ext
  intro other
  rw [get?_ofList_iff hnodup, Option.bind_eq_some_iff, mem_of_mapM_iff h]
  simp only [← mem_entries_iff]
  constructor
  · rintro ⟨entry, hentry, hpair⟩
    obtain ⟨_, hother, heq⟩ := Option.map_eq_some_iff.1 hpair
    cases heq
    exact ⟨entry.2, hentry, hother⟩
  · rintro ⟨value, hentry, hother⟩
    exact ⟨(name, value), hentry, congrArg (Option.map (name, ·)) hother⟩

/-- A map has other values exactly when each value has one. -/
theorem exists_mapValues?_iff :
    (∃ m', m.mapValues? f = some m') ↔
      ∀ name value, m.get? name = some value → ∃ other, f value = some other := by
  have hpairs : (∃ m', m.mapValues? f = some m') ↔
      ∃ pairs, (m.entries.mapM fun (name, value) => (name, ·) <$> f value) = some pairs := by
    simp [mapValues?]
  rw [hpairs]
  simp only [mapM_eq_some_iff, exists_forall₂_iff, ← mem_entries_iff, Prod.forall]
  refine forall_congr' fun name => forall_congr' fun value => imp_congr_right fun _ => ?_
  simp

theorem get?_of_mapValues? (h : m.mapValues? f = some m') (name : Text) :
    m'.get? name = (m.get? name).bind f := by
  obtain ⟨pairs, hpairs, rfl⟩ := Option.map_eq_some_iff.1 h
  exact get?_of_mapM hpairs name

theorem mapValues?_some (m : NameMap α) : m.mapValues? some = some m := by
  have hvalues : ∀ name value, m.get? name = some value → ∃ other, some value = some other :=
    fun _ value _ => ⟨value, rfl⟩
  obtain ⟨m', hsame⟩ := exists_mapValues?_iff.2 hvalues
  rw [hsame]
  refine congrArg some (eq_of_get? fun name => ?_)
  rw [get?_of_mapValues? hsame]
  cases m.get? name <;> rfl

end NameMap

namespace Json

/-- What a number is read back as. What is written as null is no number any more. -/
def reread? : Binary64 → Option Binary64
  | .finite negative m => (NumberText.ofMagnitude negative m).value?
  | .nan | .infinite _ => none

variable {x y : Binary64}

theorem exists_reread?_iff : (∃ y, reread? x = some y) ↔ ∃ v, x.value? = some v := by
  cases x with
  | nan => simp [reread?, Binary64.value?]
  | infinite negative => simp [reread?, Binary64.value?]
  | finite negative m =>
    obtain ⟨r, hreread, _⟩ := NumberText.exists_value? negative m
    exact iff_of_true ⟨_, hreread⟩ ⟨_, rfl⟩

theorem readsAs_null : ReadsAs "null".toList .null :=
  .of_ne_nil (by decide) fun _ _ _ _ => rfl

theorem exists_readsAs_layout (x : Binary64) :
    ∃ tree, ReadsAs (layout.text x) tree ∧ Tables.ratioOfTree? tree = reread? x := by
  cases x with
  | nan => exact ⟨.null, readsAs_null, rfl⟩
  | infinite negative => exact ⟨.null, readsAs_null, rfl⟩
  | finite negative m =>
    have hreads := (NumberText.isWellFormed_ofMagnitude negative m).readsAs
    rw [NumberText.text_ofMagnitude] at hreads
    exact ⟨_, hreads, rfl⟩

theorem exists_readsAs_letter (letter : Letter) :
    ∃ tree, ReadsAs (quoted [letter.toChar]) tree ∧ Tables.letterOfTree? tree = some letter := by
  obtain ⟨parts, hreads, htext⟩ := exists_readsAs_quoted [letter.toChar]
  refine ⟨.string parts, hreads, ?_⟩
  rw [Tables.letterOfTree?, htext, Option.bind_some, Letter.ofText?_eq_some_iff]

end Json

namespace Tables

variable {α β : Type} {t t' : Tables} {write : α → Text} {read : Json.Tree → Option β}
  {f : α → Option β}

/-- An object of the entries of a map is read as a map of the same names. -/
theorem exists_readsAs_entries (indent : ℕ) (m : NameMap α)
    (h : ∀ value, ∃ tree, Json.ReadsAs (write value) tree ∧ read tree = f value) :
    ∃ tree, Json.ReadsAs (Json.object indent
        (m.entries.map fun (name, value) => (name, write value))) tree ∧
      namesOfTree? read tree = m.mapValues? f := by
  obtain ⟨trees, hreads, hholds⟩ := @Json.exists_readsAs_object indent
    (m.entries.map fun (name, value) => (name, write value)) (by
      intro member hmember
      obtain ⟨entry, _, rfl⟩ := List.mem_map.1 hmember
      obtain ⟨tree, hreads, _⟩ := h entry.2
      exact ⟨tree, hreads⟩)
  refine ⟨.object trees, hreads, congrArg (NameMap.ofList <$> ·) (mapM_eq_of_forall₂ ?_)⟩
  rw [Json.Holds, List.forall₂_map_left_iff] at hholds
  refine hholds.imp fun entry member hmember => ?_
  obtain ⟨hname, hvalue⟩ := hmember
  obtain ⟨tree, hreads, hread⟩ := h entry.2
  -- the text of a value is read as one tree only, so the one that was found is the one meant here
  obtain rfl := hvalue.unique hreads
  simp only [hname, hread]
  cases f entry.2 <;> rfl

/-- An object of two members with the names of a dump is read as their values. -/
theorem exists_partsOfTree? {units metals : Text} {first second : Json.Tree}
    (hunits : Json.ReadsAs units first) (hmetals : Json.ReadsAs metals second) :
    ∃ tree, Json.read? (Json.object 0 [("units".toList, units), ("metals".toList, metals)]) = some tree ∧
      partsOfTree? tree = some (first, second) := by
  obtain ⟨trees, hreads, hholds⟩ := @Json.exists_readsAs_object 0
    [("units".toList, units), ("metals".toList, metals)] (by
      rintro member (_ | ⟨_, _ | ⟨_, ⟨⟩⟩⟩)
      · exact ⟨first, hunits⟩
      · exact ⟨second, hmetals⟩)
  refine ⟨.object trees, hreads.read?_eq, ?_⟩
  rcases hholds with _ | ⟨⟨hname, hvalue⟩, _ | ⟨⟨hname', hvalue'⟩, _ | _⟩⟩
  simp only [partsOfTree?, List.mapM_cons, List.mapM_nil, hname, hname', hvalue.unique hunits,
    hvalue'.unique hmetals]
  rfl

/-- The dump is read as tables with the same letters, in which each ratio is the number that is read
    back for it. -/
theorem ofDump?_dump (t : Tables) :
    ofDump? t.dump = (Tables.mk t.units ·) <$> t.metals.mapValues? Json.reread? := by
  obtain ⟨units, hunits, hletters⟩ := exists_readsAs_entries 2 t.units Json.exists_readsAs_letter
  obtain ⟨metals, hmetals, hratios⟩ := exists_readsAs_entries 2 t.metals Json.exists_readsAs_layout
  obtain ⟨tree, hread, hparts⟩ := exists_partsOfTree? hunits hmetals
  rw [ofDump?, dump, hread]
  simp only [Option.bind_eq_bind, Option.bind_some, hparts, hletters, NameMap.mapValues?_some, hratios]
  cases t.metals.mapValues? Json.reread? <;> rfl

/-- Whether all ratios are finite. -/
def HasFiniteRatios (t : Tables) : Prop :=
  ∀ metal ratio, t.metals.get? metal = some ratio → ∃ v, ratio.value? = some v

theorem hasFiniteRatios_iff :
    t.HasFiniteRatios ↔ ∀ entry ∈ t.metals.entries, entry.2.value?.isSome = true := by
  simp only [HasFiniteRatios, ← NameMap.mem_entries_iff, Option.isSome_iff_exists, Prod.forall]

instance : Decidable t.HasFiniteRatios :=
  decidable_of_iff _ hasFiniteRatios_iff.symm

/-- Tables come back from their dump exactly when their ratios are finite. -/
theorem exists_ofDump?_dump_iff : (∃ t', ofDump? t.dump = some t') ↔ t.HasFiniteRatios := by
  have hmetals : (∃ t', ofDump? t.dump = some t') ↔
      ∃ metals, t.metals.mapValues? Json.reread? = some metals := by
    simp [ofDump?_dump]
  rw [hmetals, NameMap.exists_mapValues?_iff]
  simp only [Json.exists_reread?_iff, HasFiniteRatios]

/-- Tables that come back from their dump have the same letters, and each ratio is what it is read
    back as. -/
theorem restored_eq (h : ofDump? t.dump = some t') :
    t'.units = t.units ∧ ∀ metal, t'.metals.get? metal = (t.metals.get? metal).bind Json.reread? := by
  rw [ofDump?_dump] at h
  obtain ⟨metals, hmetals, rfl⟩ := Option.map_eq_some_iff.1 h
  exact ⟨rfl, NameMap.get?_of_mapValues? hmetals⟩

/-- No metal is lost, and none is made up. -/
theorem exists_ratio_restored_iff (h : ofDump? t.dump = some t') {metal : Text} :
    (∃ ratio, t'.metals.get? metal = some ratio) ↔ ∃ ratio, t.metals.get? metal = some ratio := by
  have hfinite : t.HasFiniteRatios := exists_ofDump?_dump_iff.1 ⟨t', h⟩
  simp only [(restored_eq h).2, Option.bind_eq_some_iff]
  constructor
  · rintro ⟨_, ratio, hratio, _⟩
    exact ⟨ratio, hratio⟩
  · rintro ⟨ratio, hratio⟩
    obtain ⟨other, hother⟩ := Json.exists_reread?_iff.2 (hfinite metal ratio hratio)
    exact ⟨other, ratio, hratio, hother⟩

/-- Whatever texts their names are, tables with finite ratios come back from their dump: with the same
    letters for the same units, and with the same metals. -/
theorem names_survive_dump (h : t.HasFiniteRatios) :
    ∃ t', ofDump? t.dump = some t' ∧ t'.units = t.units ∧
      ∀ metal, (∃ ratio, t'.metals.get? metal = some ratio) ↔
        ∃ ratio, t.metals.get? metal = some ratio := by
  obtain ⟨t', hrestored⟩ := exists_ofDump?_dump_iff.2 h
  exact ⟨t', hrestored, (restored_eq hrestored).1, fun _ => exists_ratio_restored_iff hrestored⟩

/-- Names with quotes, with backslashes, with control characters and without any character, and
    ratios at the ends of the range. -/
theorem names_survive_dump_escaped :
    let t : Tables := ⟨(NameMap.empty.insert "".toList .I).insert "\"\\/\x00\x08\x1F\x7F".toList .M,
      (NameMap.empty.insert "".toList (.finite true .zero)).insert "\x00\n\"é\u2028😀".toList
        (.finite false ⟨1, by decide⟩)⟩
    t.HasFiniteRatios ∧ ∃ t', ofDump? t.dump = some t' ∧
      t'.units.get? "\"\\/\x00\x08\x1F\x7F".toList = some .M ∧
      (∃ ratio, t'.metals.get? "\x00\n\"é\u2028😀".toList = some ratio) ∧
      ¬∃ ratio, t'.metals.get? "\n\"é\u2028😀".toList = some ratio := by
  intro t
  have hfinite : t.HasFiniteRatios := by decide +kernel
  obtain ⟨t', hrestored, hunits, hmetals⟩ := names_survive_dump hfinite
  refine ⟨hfinite, t', hrestored, ?_, ?_, ?_⟩
  · rw [hunits]
    decide +kernel
  · rw [hmetals]
    exact ⟨.finite false ⟨1, by decide⟩, by decide +kernel⟩
  · rw [hmetals]
    have hnone : t.metals.get? "\n\"é\u2028😀".toList = none := by decide +kernel
    rw [hnone]
    rintro ⟨_, ⟨⟩⟩

end Tables

end TradeNotes
