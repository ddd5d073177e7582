import TapeProbe.Pointer

/-!
# Pointers in range

What `Verdict.check` says, in unbounded numbers: a pointer is in bounds with offset `n` exactly when
the base plus `n` is the pointer and `n` is at most the size. Nothing is assumed about where the
tape ends, so a tape may reach beyond the last address.

That is what comparing with the end of the tape would get wrong (`Verdict.betweenEnds`). An end
beyond the last address goes around to an address before the base (`Verdict.wrapped_end_lt`), so the
comparison then finds nothing on the tape. Everywhere else the two agree.
-/

namespace TapeProbe.Verdict

theorem check_eq_inBounds_iff {base size pointer offset : UInt64} :
    check base size pointer = .inBounds offset ↔
      base.toNat + offset.toNat = pointer.toNat ∧ offset.toNat ≤ size.toNat := by
  unfold check
  constructor
  · intro h
    split at h
    · next hin =>
      cases h
      have hle := UInt64.le_iff_toNat_le.mp hin.1
      have hsize := UInt64.le_iff_toNat_le.mp hin.2
      rw [UInt64.toNat_sub_of_le _ _ hin.1] at hsize ⊢
      omega
    · cases h
  · rintro ⟨hsum, hsize⟩
    have hle : base ≤ pointer := UInt64.le_iff_toNat_le.mpr (by omega)
    have hoffset : pointer - base = offset := by
      apply UInt64.toNat.inj
      rw [UInt64.toNat_sub_of_le _ _ hle]
      omega
    rw [hoffset, if_pos ⟨hle, UInt64.le_iff_toNat_le.mpr hsize⟩]

/-- The offset of a pointer, as a number of any size. -/
theorem check_offset_iff {base size pointer : UInt64} {n : Nat} :
    (∃ offset, check base size pointer = .inBounds offset ∧ offset.toNat = n) ↔
      base.toNat + n = pointer.toNat ∧ n ≤ size.toNat := by
  constructor
  · rintro ⟨offset, h, rfl⟩
    exact check_eq_inBounds_iff.mp h
  · rintro ⟨hsum, hsize⟩
    have hn : (UInt64.ofNat n).toNat = n :=
      UInt64.toNat_ofNat_of_lt' (Nat.lt_of_le_of_lt hsize size.toNat_lt)
    exact ⟨UInt64.ofNat n, check_eq_inBounds_iff.mpr (by omega), hn⟩

theorem check_eq_outOfBounds_iff {base size pointer : UInt64} :
    check base size pointer = .outOfBounds ↔
      ¬ ∃ n : Nat, base.toNat + n = pointer.toNat ∧ n ≤ size.toNat := by
  constructor
  · rintro h ⟨n, hn⟩
    obtain ⟨offset, hin, -⟩ := check_offset_iff.mpr hn
    rw [h] at hin
    cases hin
  · intro h
    cases hv : check base size pointer with
    | outOfBounds => rfl
    | inBounds offset => exact absurd ⟨_, check_eq_inBounds_iff.mp hv⟩ h

/-- Somewhere in the inclusive range, said with its two ends. -/
theorem exists_offset_iff {base size pointer : UInt64} :
    (∃ n : Nat, base.toNat + n = pointer.toNat ∧ n ≤ size.toNat) ↔
      base.toNat ≤ pointer.toNat ∧ pointer.toNat ≤ base.toNat + size.toNat := by
  constructor
  · rintro ⟨n, hsum, hn⟩
    omega
  · rintro ⟨hlow, hhigh⟩
    exact ⟨pointer.toNat - base.toNat, by omega, by omega⟩

/-! ### Comparing with the end -/

variable {base size pointer : UInt64}

theorem isInBounds_iff (v : Verdict) : v.isInBounds = true ↔ v ≠ .outOfBounds := by
  cases v with
  | inBounds offset => exact ⟨fun _ h => (by cases h), fun _ => rfl⟩
  | outOfBounds => exact ⟨fun h => (by cases h), fun h => absurd rfl h⟩

theorem isInBounds_check_iff :
    (check base size pointer).isInBounds = true ↔
      base.toNat ≤ pointer.toNat ∧ pointer.toNat ≤ base.toNat + size.toNat := by
  rw [isInBounds_iff, Ne, check_eq_outOfBounds_iff, exists_offset_iff, Decidable.not_not]

/-- Does the pointer lie between the base and the end, when the end is computed as an address? -/
def betweenEnds (base size pointer : UInt64) : Bool := base ≤ pointer && pointer ≤ base + size

theorem betweenEnds_iff :
    betweenEnds base size pointer = true ↔
      base.toNat ≤ pointer.toNat ∧ pointer.toNat ≤ (base + size).toNat := by
  rw [betweenEnds, Bool.and_eq_true, decide_eq_true_eq, decide_eq_true_eq, UInt64.le_iff_toNat_le,
    UInt64.le_iff_toNat_le]

/-- An end beyond the last address goes around to before the base. -/
theorem wrapped_end_lt (h : UInt64.size ≤ base.toNat + size.toNat) :
    (base + size).toNat < base.toNat := by
  have hbase := base.toNat_lt
  have hsize := size.toNat_lt
  rw [UInt64.size] at h
  rw [UInt64.toNat_add]
  omega

theorem betweenEnds_of_wrapped (h : UInt64.size ≤ base.toNat + size.toNat) :
    betweenEnds base size pointer = false := by
  rw [← Bool.not_eq_true, betweenEnds_iff]
  rintro ⟨hlow, hhigh⟩
  exact absurd (wrapped_end_lt h) (by omega)

/-- An end that is an address gives both checks the same two ends. -/
theorem betweenEnds_of_fits (h : base.toNat + size.toNat < UInt64.size) :
    betweenEnds base size pointer = (check base size pointer).isInBounds := by
  have hend : (base + size).toNat = base.toNat + size.toNat := by
    rw [UInt64.toNat_add]
    exact Nat.mod_eq_of_lt h
  rw [Bool.eq_iff_iff, betweenEnds_iff, isInBounds_check_iff, hend]

theorem betweenEnds_of_lt (h : pointer.toNat < base.toNat) :
    betweenEnds base size pointer = (check base size pointer).isInBounds := by
  rw [Bool.eq_iff_iff, betweenEnds_iff, isInBounds_check_iff]
  exact iff_of_false (by omega) (by omega)

/-- Where the end is no address, every pointer from the base on is in bounds, and none is found
between the ends. -/
theorem check_differs_iff :
    (check base size pointer).isInBounds = true ∧ betweenEnds base size pointer = false ↔
      UInt64.size ≤ base.toNat + size.toNat ∧ base.toNat ≤ pointer.toNat := by
  constructor
  · rintro ⟨hin, hout⟩
    have hlow := (isInBounds_check_iff.mp hin).1
    refine ⟨Nat.le_of_not_lt fun hfits => ?_, hlow⟩
    rw [betweenEnds_of_fits hfits, hin] at hout
    cases hout
  · rintro ⟨hwraps, hlow⟩
    have hpointer : pointer.toNat < UInt64.size := pointer.toNat_lt
    exact ⟨isInBounds_check_iff.mpr ⟨hlow, by omega⟩, betweenEnds_of_wrapped hwraps⟩

/-- **The check is exact at every address.** Whatever the base, the size and the pointer, in numbers
without bound: the verdict is in bounds with an offset exactly when the base plus the offset is the
pointer and the offset is at most the size, and out of bounds exactly when the pointer lies before
the base or behind the end, also where the end is no address.

The comparison with a computed end agrees with it exactly when the end is an address or the pointer
lies before the base. For all others the check says in bounds and the comparison does not. -/
theorem check_exact (base size pointer : UInt64) :
    (∀ offset, check base size pointer = .inBounds offset ↔
      base.toNat + offset.toNat = pointer.toNat ∧ offset.toNat ≤ size.toNat)
    ∧ (∀ n : Nat, (∃ offset, check base size pointer = .inBounds offset ∧ offset.toNat = n) ↔
        base.toNat + n = pointer.toNat ∧ n ≤ size.toNat)
    ∧ (check base size pointer = .outOfBounds ↔
        pointer.toNat < base.toNat ∨ base.toNat + size.toNat < pointer.toNat)
    ∧ ((check base size pointer).isInBounds = betweenEnds base size pointer ↔
        base.toNat + size.toNat < UInt64.size ∨ pointer.toNat < base.toNat)
    ∧ ((check base size pointer).isInBounds = true ∧ betweenEnds base size pointer = false ↔
        ¬ (base.toNat + size.toNat < UInt64.size ∨ pointer.toNat < base.toNat)) := by
  have hdiffers :
      (check base size pointer).isInBounds = true ∧ betweenEnds base size pointer = false ↔
        ¬ (base.toNat + size.toNat < UInt64.size ∨ pointer.toNat < base.toNat) := by
    rw [check_differs_iff, not_or, Nat.not_lt, Nat.not_lt]
  refine ⟨fun offset => check_eq_inBounds_iff, fun n => check_offset_iff, ?_, ?_, hdiffers⟩
  · rw [check_eq_outOfBounds_iff, exists_offset_iff]
    omega
  · constructor
    · intro hagree
      refine Decidable.byContradiction fun hnot => ?_
      obtain ⟨hin, hout⟩ := hdiffers.mpr hnot
      rw [hin, hout] at hagree
      cases hagree
    · rintro (hfits | hlow)
      · exact (betweenEnds_of_fits hfits).symm
      · exact (betweenEnds_of_lt hlow).symm

-- a tape that ends with the last address: its base is on it, and is not between its ends
example : check 0xffffffffffff8ad0 30000 0xffffffffffff8ad0 = .inBounds 0
    ∧ betweenEnds 0xffffffffffff8ad0 30000 0xffffffffffff8ad0 = false := by
  decide

end TapeProbe.Verdict
