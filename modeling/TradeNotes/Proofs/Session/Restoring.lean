import TradeNotes.Proofs.Session.Ratios
import TradeNotes.Proofs.Tables.Restoring

namespace TradeNotes

/-- What one unit of a metal can be worth in a session: nothing, so much that it is infinite, or not
    less than the reciprocal of a number that units make. -/
inductive Tables.Worth : Binary64 → Prop
  | nothing {m : Magnitude} (h : m.units = 0) : Worth (.finite false m)
  | reciprocal {m : Magnitude} (h : Magnitude.one ≤ m.units * 2 ^ 73) : Worth (.finite false m)
  | infinite : Worth (.infinite false)

variable {figure measured : ℕ} {negative : Bool} {m n : Magnitude}

namespace Magnitude

/-- A quotient of a number from one on by a number that units make is no less than its reciprocal. -/
theorem one_le_unitsAt_mul (hm : one ≤ m.units) (hn : one ≤ n.units) (hmost : n.units ≤ 2 ^ 73 * one) :
    one ≤ unitsAt (nearestRank (m.units * one) n.units) * 2 ^ 73 := by
  obtain ⟨k, hone⟩ := exists_one_eq
  have hk : k = 1074 := by rw [← log2_one, hone, Nat.log2_two_pow]
  -- the reciprocal of the greatest divisor is a power of two, and nothing is rounded across it
  have hpower : 2 ^ (k - 73) * 2 ^ 73 = one := by rw [hone, ← pow_add, Nat.sub_add_cancel (by omega)]
  have hpos : (0 : ℚ) < n.units := by exact_mod_cast one_pos.trans_le hn
  have hquotient : 2 ^ (k - 73) * n.units ≤ m.units * one :=
    calc 2 ^ (k - 73) * n.units ≤ 2 ^ (k - 73) * (2 ^ 73 * one) := Nat.mul_le_mul_left _ hmost
      _ = one * one := by rw [← Nat.mul_assoc, hpower]
      _ ≤ m.units * one := Nat.mul_le_mul_right _ hm
  have hleast : 2 ^ (k - 73) ≤ unitsAt (nearestRank (m.units * one) n.units) := by
    refine (Binary64.isExact_two_pow (k - 73)).le_unitsAt (one_pos.trans_le hn) ?_
    rw [le_div_iff₀ hpos]
    exact_mod_cast hquotient
  calc one = 2 ^ (k - 73) * 2 ^ 73 := hpower.symm
    _ ≤ unitsAt (nearestRank (m.units * one) n.units) * 2 ^ 73 := Nat.mul_le_mul_right _ hleast

end Magnitude

namespace Tables

/-- A number that units make is rounded to no more than the power of two above it. -/
theorem units_ofNat_le (hpos : 0 < measured) (h : measured < 2 ^ 73) :
    ∃ n : Magnitude, Binary64.ofNat measured = .finite false n ∧ Magnitude.one ≤ n.units ∧
      n.units ≤ 2 ^ 73 * Magnitude.one := by
  obtain ⟨n, hfinite, hrank⟩ := Binary64.ofNat_of_lt (Binary64.natCast_lt_limit h (by decide))
  have hunits : n.units = Magnitude.unitsAt (Magnitude.nearestRank (measured * Magnitude.one) 1) := by
    rw [Magnitude.units, hrank]
  refine ⟨n, hfinite, hunits ▸ Binary64.one_le_unitsAt hpos, ?_⟩
  rw [hunits]
  refine (Binary64.isExact_two_pow 73).mul_one.unitsAt_le Nat.one_pos ?_
  rw [Nat.cast_one, div_one]
  exact_mod_cast Nat.mul_le_mul_right _ h.le

theorem worth_perUnit (figure : ℕ) (h : measured < 2 ^ 73) :
    Worth (perUnit (Binary64.ofNat figure) measured) := by
  unfold perUnit
  split
  · next hpos =>
    obtain ⟨n, hn, hone, hmost⟩ := units_ofNat_le hpos h
    rw [hn]
    obtain hfigure | hfigure := lt_or_ge (figure : ℚ) Binary64.limit
    · obtain ⟨m, hm, hrank⟩ := Binary64.ofNat_of_lt hfigure
      obtain ⟨r, hdiv, hquotient⟩ := Binary64.div_of_one_le false false (m := m) hone
      have hunits : r.units =
          Magnitude.unitsAt (Magnitude.nearestRank (m.units * Magnitude.one) n.units) := by
        rw [Magnitude.units, hquotient]
      have hcredits : m.units =
          Magnitude.unitsAt (Magnitude.nearestRank (figure * Magnitude.one) 1) := by
        rw [Magnitude.units, hrank]
      rw [hm, hdiv, bne_self_eq_false]
      obtain rfl | hfigure := Nat.eq_zero_or_pos figure
      · have hzero : Binary64.IsExact 0 := Binary64.isExact_of_le (Nat.zero_le _)
        have hnothing : m.units = 0 := by
          rw [hcredits, hzero.mul_one.unitsAt_nearestRank, Nat.zero_mul]
        refine .nothing (Nat.le_zero.1 ?_)
        rw [hunits, hnothing]
        exact hzero.unitsAt_le (Magnitude.one_pos.trans_le hone) (by simp)
      · refine .reciprocal ?_
        rw [hunits]
        exact Magnitude.one_le_unitsAt_mul (hcredits ▸ Binary64.one_le_unitsAt hfigure) hone hmost
    · rw [Binary64.ofNat_of_le hfigure]
      exact .infinite
  · exact .nothing rfl

end Tables

namespace Json.NumberText

/-- The power of ten of a worth is divided out at once. -/
theorem neg_le_power (negative : Bool) (h : Magnitude.one ≤ m.units * 2 ^ 73) :
    -308 ≤ (ofMagnitude negative m).power := by
  have hm : 0 < m.units := by
    by_contra hnot
    rw [Nat.eq_zero_of_not_pos hnot, Nat.zero_mul] at h
    exact absurd Magnitude.one_pos h.not_gt
  have hplace : ¬m.toRat < 10 ^ (-((22 : ℕ) : ℤ)) := by
    rw [Magnitude.toRat_lt_iff, not_lt]
    exact h.trans (Nat.mul_le_mul_left _ (by decide))
  have hlog : -22 ≤ Int.log 10 m.toRat :=
    (Int.zpow_le_iff_le_log (by decide) (Magnitude.toRat_pos hm)).1 (by exact_mod_cast not_lt.1 hplace)
  have hexponent := Magnitude.le_exponent_shortest hm .toEven
  obtain ⟨_, hpower⟩ | hpower := (writes_ofMagnitude negative hm).digits <;> omega

theorem neg_le_power_of_zero (negative : Bool) (h : m.units = 0) :
    -308 ≤ (ofMagnitude negative m).power := by
  have hpower : power ⟨negative, ['0'], ['0'], none⟩ = -1 := rfl
  rw [ofMagnitude, if_pos h, hpower]
  decide

end Json.NumberText

/-- Whether a finite number is so near to the one that is written that no more steps lie between them
    than its digits and its power of ten take. Two numbers with the same sign are as many steps apart
    as their bit patterns. -/
structure Json.RereadsNear (written restored : Binary64) (n : Json.NumberText) : Prop where
  text : Json.readNumber (Json.layout.text written) = some (n, [])
  finite : ∃ v, restored.value? = some v
  most : restored.toBits ≤ written.toBits + NumberText.scalingSteps n.significand n.power
  least : written.toBits ≤ restored.toBits + NumberText.scalingSteps n.significand n.power
  exact : n.significand ≤ 2 ^ 53 → n.power.natAbs ≤ 22 → restored = written

/-- A finite worth is read back as a number that is near to it. -/
theorem Tables.Worth.exists_reread? {ratio : Binary64} {v : ℚ} (h : Worth ratio)
    (hfinite : ratio.value? = some v) :
    ∃ restored n, Json.reread? ratio = some restored ∧ Json.RereadsNear ratio restored n := by
  obtain ⟨m, rfl, hpower⟩ : ∃ m, ratio = .finite false m ∧
      -308 ≤ (Json.NumberText.ofMagnitude false m).power := by
    cases h with
    | nothing hzero => exact ⟨_, rfl, Json.NumberText.neg_le_power_of_zero false hzero⟩
    | reciprocal hleast => exact ⟨_, rfl, Json.NumberText.neg_le_power false hleast⟩
    | infinite => cases hfinite
  obtain ⟨r, hreread, hnear⟩ := Json.NumberText.exists_value? false m
  obtain ⟨hmost, hleast⟩ := hnear hpower
  have htext := Json.NumberText.readNumber_layout false m Json.endsNumber_nil
  rw [List.append_nil] at htext
  have hbits : ∀ n : Magnitude, (Binary64.finite false n).toBits = n.rank := by
    intro n
    simp [Binary64.toBits]
  refine ⟨.finite false r, _, hreread, htext, ⟨_, rfl⟩, ?_, ?_, ?_⟩
  · rwa [hbits, hbits]
  · rwa [hbits, hbits]
  · intro hdigits hscale
    rw [Json.NumberText.scalingSteps, if_pos hdigits, if_pos hscale] at hmost hleast
    have hrank : r.rank = m.rank := by omega
    obtain ⟨rank, _⟩ := r
    obtain ⟨rank', _⟩ := m
    obtain rfl : rank = rank' := hrank
    rfl

namespace Turn

/-- Whatever lines a session carries out, as long as all ratios are finite they come back from the
    dump for the same metals. A ratio comes back as it was when the digits that are written for it
    make a number of no more than 53 binary digits and their power of ten is within 22 of zero.
    Otherwise it may come back as a neighbour: one step away for each of the two that does not hold. -/
theorem ratios_survive_dump (session : Text) {lines : List Text}
    (hlines : ∀ line ∈ lines, line.length < 2 ^ 63)
    (hfinite : (tablesAfter session .empty lines).HasFiniteRatios) :
    ∃ t', Tables.ofDump? (tablesAfter session .empty lines).dump = some t' ∧
      (∀ metal, (∃ restored, t'.metals.get? metal = some restored) ↔
        ∃ ratio, (tablesAfter session .empty lines).metals.get? metal = some ratio) ∧
      ∀ metal ratio, (tablesAfter session .empty lines).metals.get? metal = some ratio →
        ∃ restored n, t'.metals.get? metal = some restored ∧ Json.RereadsNear ratio restored n := by
  obtain ⟨t', hrestored⟩ := Tables.exists_ofDump?_dump_iff.2 hfinite
  refine ⟨t', hrestored, fun _ => Tables.exists_ratio_restored_iff hrestored, ?_⟩
  intro metal ratio hratio
  have hworth : Tables.Worth ratio :=
    ratios_tablesAfter (fun figure _ => Tables.worth_perUnit figure) hlines (by rintro _ _ ⟨⟩)
      metal ratio hratio
  obtain ⟨v, hvalue⟩ := hfinite metal ratio hratio
  obtain ⟨restored, n, hreread, hnear⟩ := hworth.exists_reread? hvalue
  refine ⟨restored, n, ?_, hnear⟩
  rw [(Tables.restored_eq hrestored).2, hratio, Option.bind_some, hreread]

/-- The ratio of silver comes back as it was. That of gold, an eleventh, is written with digits that
    make a number of 54 binary digits, and comes back within one step. -/
theorem ratios_survive_dump_eleventh :
    let lines : List Text := ["glob is I".toList, "pish is X".toList,
      "pish glob Gold is 1 Credits".toList, "glob glob Silver is 34 Credits".toList]
    (∀ line ∈ lines, line.length < 2 ^ 63) ∧ (tablesAfter [] .empty lines).HasFiniteRatios ∧
      ∃ t' gold, Tables.ofDump? (tablesAfter [] .empty lines).dump = some t' ∧
        t'.metals.get? "silver".toList = some (Binary64.ofNat 17) ∧
        t'.metals.get? "gold".toList = some gold ∧
        gold.toBits ≤ 0x3FB745D1745D1746 + 1 ∧ 0x3FB745D1745D1746 ≤ gold.toBits + 1 := by
  intro lines
  have hlines : ∀ line ∈ lines, line.length < 2 ^ 63 := by
    simp only [lines, List.forall_mem_cons]
    decide +kernel
  have hfinite : (tablesAfter [] .empty lines).HasFiniteRatios := by decide +kernel
  obtain ⟨t', hrestored, _, hratios⟩ := ratios_survive_dump [] hlines hfinite
  obtain ⟨silver, n, hsilver, hsilverNear⟩ :=
    hratios "silver".toList (Binary64.ofNat 17) (by decide +kernel)
  obtain ⟨gold, n', hgold, hgoldNear⟩ :=
    hratios "gold".toList (Binary64.ofBits 0x3FB745D1745D1746) (by decide +kernel)
  have hsilverText : (Json.readNumber (Json.layout.text (Binary64.ofNat 17))).map (fun read =>
      (read.1.significand, read.1.power)) = some (170, -1) := by decide +kernel
  have hgoldText : (Json.readNumber (Json.layout.text (Binary64.ofBits 0x3FB745D1745D1746))).map
      (fun read => (read.1.significand, read.1.power)) = some (9090909090909091, -17) := by
    decide +kernel
  rw [hsilverNear.text] at hsilverText
  rw [hgoldNear.text] at hgoldText
  obtain ⟨hdigits, hscale⟩ := Prod.mk.inj (Option.some.inj hsilverText)
  obtain ⟨hdigits', hscale'⟩ := Prod.mk.inj (Option.some.inj hgoldText)
  have hbits : (Binary64.ofBits 0x3FB745D1745D1746).toBits = 0x3FB745D1745D1746 := by decide +kernel
  have hsteps : Json.NumberText.scalingSteps 9090909090909091 (-17) = 1 := by decide
  have hmost := hgoldNear.most
  have hleast := hgoldNear.least
  rw [hbits, hdigits', hscale', hsteps] at hmost hleast
  have hsame : silver = Binary64.ofNat 17 :=
    hsilverNear.exact (hdigits.le.trans (by decide)) (by rw [hscale]; decide)
  exact ⟨hlines, hfinite, t', gold, hrestored, hsame ▸ hsilver, hgold, hmost, hleast⟩

/-- Not every ratio comes back as it was. -/
theorem exists_ratio_changed_by_dump :
    ¬∀ lines : List Text, (tablesAfter [] .empty lines).HasFiniteRatios →
      ∃ t', Tables.ofDump? (tablesAfter [] .empty lines).dump = some t' ∧
        ∀ metal ratio, (tablesAfter [] .empty lines).metals.get? metal = some ratio →
          t'.metals.get? metal = some ratio := by
  intro h
  obtain ⟨t', hrestored, hratios⟩ := h ["glob is I".toList, "pish is X".toList,
    "pish glob Gold is 1 Credits".toList] (by decide +kernel)
  have hgold := hratios "gold".toList (Binary64.ofBits 0x3FB745D1745D1746) (by decide +kernel)
  have hchanged : (Tables.ofDump? (tablesAfter [] .empty ["glob is I".toList, "pish is X".toList,
      "pish glob Gold is 1 Credits".toList]).dump).map (fun t => t.metals.get? "gold".toList) =
      some (some (Binary64.ofBits 0x3FB745D1745D1747)) := by decide +kernel
  rw [hrestored, Option.map_some, hgold] at hchanged
  revert hchanged
  decide +kernel

end Turn

end TradeNotes
