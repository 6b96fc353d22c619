import TradeNotes.Proofs.Json.Written

namespace TradeNotes.Json.NumberText

open Magnitude

variable {negative : Bool} {m : Magnitude}

/-- Zero is read as it is written. -/
theorem magnitude?_of_zero (hzero : m.units = 0) :
    (ofMagnitude negative m).magnitude? = some (.finite false m) := by
  have hrank : m.rank = 0 := by
    by_contra hne
    exact (unitsAt_pos (Nat.pos_of_ne_zero hne)).ne' hzero
  obtain ⟨rank, hlt⟩ := m
  obtain rfl : rank = 0 := hrank
  have hwritten : ofMagnitude negative ⟨0, hlt⟩ = ⟨negative, ['0'], ['0'], none⟩ := if_pos hzero
  have hsignificand : significand ⟨negative, ['0'], ['0'], none⟩ = 0 := rfl
  have hpower : power ⟨negative, ['0'], ['0'], none⟩ = -1 := rfl
  have hquotient : (Binary64.ofNat 0).div (Binary64.ofNat (Nat.pow 10 1)) = .finite false .zero := by
    decide +kernel
  rw [hwritten, magnitude?_eq (hsignificand ▸ Nat.zero_le _) (by rintro _ _ ⟨⟩), hsignificand, hpower,
    scale, if_pos (by decide)]
  exact congrArg some hquotient

/-- What a number is written as is read as a finite number again. It is no more steps away than it
    takes to scale the digits, when the power of ten is not divided out in parts. -/
theorem exists_magnitude? (negative : Bool) (m : Magnitude) :
    ∃ r : Magnitude, (ofMagnitude negative m).magnitude? = some (.finite false r) ∧
      (-308 ≤ (ofMagnitude negative m).power → m.Within
        (scalingSteps (ofMagnitude negative m).significand (ofMagnitude negative m).power) r) := by
  obtain hzero | hm := Nat.eq_zero_or_pos m.units
  · exact ⟨m, magnitude?_of_zero hzero, fun _ => ⟨Nat.le_add_right _ _, Nat.le_add_right _ _⟩⟩
  have hwrites := writes_ofMagnitude negative hm
  have hback : m.RoundsBack ((ofMagnitude negative m).significand * 10 ^ (ofMagnitude negative m).power) :=
    hwrites.value ▸ roundsBack_shortest hm .toEven
  rw [magnitude?_eq hwrites.fits hwrites.inRange]
  have hdigits := hwrites.digits
  have hmost : maxSignificand < 2 ^ 64 := by decide
  have hfits := Binary64.natCast_lt_limit (hwrites.fits.trans_lt hmost) (by decide)
  generalize (ofMagnitude negative m).power = power at *
  generalize (ofMagnitude negative m).significand = significand at *
  have hpos := hback.digits_pos hm
  obtain hneg | hnonneg := lt_or_ge power 0
  · by_cases hleast : -308 ≤ power
    · obtain ⟨r, hscale, hbounds⟩ := exists_scale_of_neg hback hpos hfits hneg hleast
      exact ⟨r, hscale, fun _ => hbounds⟩
    · obtain ⟨a, ha, _⟩ := Binary64.ofNat_of_lt hfits
      obtain ⟨r, hscale⟩ := exists_scale_finite hneg a
      exact ⟨r, by rw [ha, hscale], fun hle => absurd hle hleast⟩
  · have hfinite := mul_shortest_ne_infinite hback hpos hfits hnonneg (hdigits.resolve_right (by omega))
    obtain ⟨r, hscale, hbounds⟩ := exists_scale_of_nonneg hback hpos hfits hnonneg hfinite
    exact ⟨r, hscale, fun _ => hbounds⟩

/-- A finite number is read back with its sign. -/
theorem exists_value? (negative : Bool) (m : Magnitude) :
    ∃ r : Magnitude, (ofMagnitude negative m).value? = some (.finite negative r) ∧
      (-308 ≤ (ofMagnitude negative m).power → m.Within
        (scalingSteps (ofMagnitude negative m).significand (ofMagnitude negative m).power) r) := by
  obtain ⟨r, hmagnitude, hnear⟩ := exists_magnitude? negative m
  refine ⟨r, ?_, hnear⟩
  rw [value?, hmagnitude, Option.map_some, negative_ofMagnitude]
  cases negative <;> rfl

end TradeNotes.Json.NumberText
