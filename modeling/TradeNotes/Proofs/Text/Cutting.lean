import TradeNotes.Text.Basic

namespace TradeNotes.Text

/-- Two parts of a text with the first mark in it between them. -/
structure CutAtFirst (t mark before after : Text) : Prop where
  parts : t = before ++ mark ++ after
  first : ∀ other rest, t = other ++ mark ++ rest → before.length ≤ other.length

variable {t mark before after : Text}

/-- No mark begins in front of the one at which a text is cut. -/
theorem length_le_of_cutAt? (h : t.cutAt? mark = some (before, after)) {other rest : Text}
    (hother : t = other ++ mark ++ rest) : before.length ≤ other.length := by
  induction t generalizing before other with
  | nil =>
    have hparts := cutAt?_eq_some h
    simp only [List.nil_eq, List.append_eq_nil_iff] at hparts
    rw [hparts.1.1]
    exact Nat.zero_le _
  | cons c t ih =>
    unfold cutAt? at h
    split at h
    · obtain ⟨rfl, _⟩ := Prod.mk.inj (Option.some.inj h)
      exact Nat.zero_le _
    · next hstart =>
      obtain ⟨⟨front, back⟩, hcut, heq⟩ := Option.map_eq_some_iff.1 h
      obtain ⟨rfl, rfl⟩ := Prod.mk.inj heq
      cases other with
      | nil =>
        rw [List.nil_append] at hother
        exact absurd (List.isPrefixOf_iff_prefix.2 ⟨rest, hother.symm⟩) hstart
      | cons d other =>
        obtain ⟨_, htail⟩ := List.cons.inj hother
        exact Nat.succ_le_succ (ih hcut htail)

/-- A text is cut at the first mark in it, wherever others begin behind it, and also where
    another one begins before that one has ended. -/
theorem cutAt?_eq_some_iff : t.cutAt? mark = some (before, after) ↔ t.CutAtFirst mark before after := by
  constructor
  · intro h
    exact ⟨cutAt?_eq_some h, fun _ _ hother => length_le_of_cutAt? h hother⟩
  · rintro ⟨hparts, hfirst⟩
    cases hcut : t.cutAt? mark with
    | none => exact absurd ⟨before, after, hparts.symm⟩ (cutAt?_eq_none_iff.1 hcut)
    | some sides =>
      obtain ⟨front, back⟩ := sides
      have hcutParts := cutAt?_eq_some hcut
      have hlength : before.length = front.length :=
        Nat.le_antisymm (hfirst _ _ hcutParts) (length_le_of_cutAt? hcut hparts)
      rw [hparts, List.append_assoc, List.append_assoc] at hcutParts
      obtain ⟨rfl, hrest⟩ := List.append_inj hcutParts hlength
      rw [List.append_cancel_left hrest]

/-- A mark is the first one when none ends in front of its last character. -/
theorem cutAtFirst_append (hmark : mark ≠ []) (h : ¬ mark <:+: before ++ mark.dropLast)
    (after : Text) : (before ++ mark ++ after).CutAtFirst mark before after := by
  refine ⟨rfl, fun other rest hother => Nat.le_of_not_lt fun hshort => h ?_⟩
  have hpos := List.length_pos_iff.2 hmark
  have hwhole : other ++ mark <+: before ++ mark ++ after := ⟨rest, hother.symm⟩
  have hends : before ++ mark.dropLast <+: before ++ mark ++ after := by
    rw [List.append_assoc]
    exact (List.prefix_append_right_inj before).2 (mark.dropLast_prefix.trans (List.prefix_append _ _))
  have hstart : other ++ mark <+: before ++ mark.dropLast := by
    refine List.prefix_of_prefix_length_le hwhole hends ?_
    rw [List.length_append, List.length_append, List.length_dropLast]
    omega
  exact (List.suffix_append other mark).isInfix.trans hstart.isInfix

end TradeNotes.Text
