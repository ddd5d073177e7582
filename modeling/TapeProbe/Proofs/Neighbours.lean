import TapeProbe.Proofs.Range
import TapeProbe.Proofs.TapeHistory

/-!
# Tapes side by side

The end of a tape counts as on it, and the end may be where another tape begins. So a pointer can be
on two tapes that have no cell in common; but then one tape begins where the other ends, and the
pointer is there (`Tape.check_both_iff`).

This rests on the least size. A tape without cells could lie in the middle of another and share its
address with it, but no such tape is ever made (`Tape.Live.le_size`). Two tapes with cells, on the
other hand, lie one behind the other as soon as the first cell of neither is on the other
(`Tape.Apart.le_or_le`).
-/

namespace TapeProbe

/-- The answer of a session that is asked about a pointer and one of its tapes. -/
theorem Session.validate_answer {s : Session} {name : String} {t : Tape}
    (h : s.tapes.tape? name = some t) (pointer : UInt64) :
    (s.step (.validate name (some pointer))).answer
      = .verdict (Verdict.check t.base t.size pointer) := by
  have hstep : s.step (.validate name (some pointer))
      = ⟨s, .verdict (Verdict.check t.base t.size pointer), []⟩ := withTape_some h _
  rw [hstep]

namespace Tape

variable {t u : Tape} {pointer : UInt64}

/-! ### Tapes that there are -/

/-- A tape that is there at some point of some session. -/
def Live (t : Tape) : Prop :=
  ∃ (b : Bench) (v : Log.Verbosity) (ops : List Session.Op) (name : String),
    ((Session.start b v).final ops).tapes.tape? name = some t

/-- No tape has fewer cells than the least number, whatever was asked for and whatever was done. -/
theorem Live.le_size (h : t.Live) : 30000 ≤ t.size.toNat := by
  obtain ⟨b, v, ops, name, ht⟩ := h
  rw [Session.tape?_final] at ht
  obtain ⟨_, requested, a, after, hg, -, -, -, rfl⟩ := Session.exists_of_foldl_slotAfter ht
  rw [replay_size, Allocator.tape_size, effectiveSize_toNat]
  omega

/-! ### Tapes without a common cell -/

/-- No address is that of a cell of both. -/
def Apart (t u : Tape) : Prop := ∀ address, t.index? address = none ∨ u.index? address = none

theorem index?_eq_none_iff {address : UInt64} :
    t.index? address = none ↔
      address.toNat < t.base.toNat ∨ t.base.toNat + t.size.toNat ≤ address.toNat := by
  have hcell : t.base ≤ address ∧ address - t.base < t.size ↔
      t.base.toNat ≤ address.toNat ∧ address.toNat < t.base.toNat + t.size.toNat := by
    rw [UInt64.le_iff_toNat_le, UInt64.lt_iff_toNat_lt]
    refine and_congr_right fun hle => ?_
    rw [UInt64.toNat_sub_of_le _ _ (UInt64.le_iff_toNat_le.mpr hle)]
    omega
  rw [index?, ite_eq_right_iff, hcell]
  simp only [reduceCtorEq, imp_false]
  omega

/-- Two tapes with cells lie one behind the other: the first cell of each is not on the other. -/
theorem Apart.le_or_le (h : t.Apart u) (ht : 0 < t.size.toNat) (hu : 0 < u.size.toNat) :
    t.base.toNat + t.size.toNat ≤ u.base.toNat ∨ u.base.toNat + u.size.toNat ≤ t.base.toNat := by
  -- the tape that begins first ends before the first cell of the other
  have hfirst := h t.base
  have hfirst' := h u.base
  simp only [index?_eq_none_iff] at hfirst hfirst'
  omega

theorem apart_of_le (h : t.base.toNat + t.size.toNat ≤ u.base.toNat) : t.Apart u := by
  intro address
  rw [index?_eq_none_iff, index?_eq_none_iff]
  omega

/-! ### Pointers on both -/

/-- The second tape begins where the first ends, and the pointer is there. -/
structure Seam (t u : Tape) (pointer : UInt64) : Prop where
  /-- The end of the first is the base of the second. -/
  meets : t.base.toNat + t.size.toNat = u.base.toNat
  /-- The pointer is this address. -/
  here : pointer = u.base

/-- At the seam the pointer is one past the first tape, and on the first cell of the second. -/
theorem Seam.check (h : Seam t u pointer) :
    Verdict.check t.base t.size pointer = .inBounds t.size
      ∧ Verdict.check u.base u.size pointer = .inBounds 0 := by
  obtain ⟨hmeets, rfl⟩ := h
  exact ⟨Verdict.check_eq_inBounds_iff.mpr ⟨hmeets, Nat.le_refl _⟩,
    Verdict.check_eq_inBounds_iff.mpr ⟨Nat.add_zero _, Nat.zero_le _⟩⟩

/-- A pointer on both of two tapes, one behind the other, is at the seam. -/
theorem seam_of_isInBounds (hle : t.base.toNat + t.size.toNat ≤ u.base.toNat)
    (ht : (Verdict.check t.base t.size pointer).isInBounds = true)
    (hu : (Verdict.check u.base u.size pointer).isInBounds = true) : Seam t u pointer := by
  rw [Verdict.isInBounds_check_iff] at ht hu
  have hhere : pointer.toNat = u.base.toNat := by omega
  exact ⟨by omega, UInt64.toNat_inj.mp hhere⟩

theorem isInBounds_both_iff (ht : 0 < t.size.toNat) (hu : 0 < u.size.toNat) (h : t.Apart u) :
    (Verdict.check t.base t.size pointer).isInBounds = true
      ∧ (Verdict.check u.base u.size pointer).isInBounds = true ↔
        Seam t u pointer ∨ Seam u t pointer := by
  constructor
  · rintro ⟨hin, hin'⟩
    rcases h.le_or_le ht hu with hle | hle
    · exact Or.inl (seam_of_isInBounds hle hin hin')
    · exact Or.inr (seam_of_isInBounds hle hin' hin)
  · rintro (hseam | hseam)
    · rw [hseam.check.1, hseam.check.2]
      exact ⟨rfl, rfl⟩
    · rw [hseam.check.1, hseam.check.2]
      exact ⟨rfl, rfl⟩

/-- The offsets of a pointer on both. -/
theorem check_both_iff (ht : 0 < t.size.toNat) (hu : 0 < u.size.toNat) (h : t.Apart u)
    {offset offset' : UInt64} :
    Verdict.check t.base t.size pointer = .inBounds offset
      ∧ Verdict.check u.base u.size pointer = .inBounds offset' ↔
        Seam t u pointer ∧ offset = t.size ∧ offset' = 0
          ∨ Seam u t pointer ∧ offset = 0 ∧ offset' = u.size := by
  constructor
  · rintro ⟨hin, hin'⟩
    have hboth : Seam t u pointer ∨ Seam u t pointer :=
      (isInBounds_both_iff ht hu h).mp ⟨by rw [hin]; rfl, by rw [hin']; rfl⟩
    rcases hboth with hseam | hseam
    · obtain ⟨hfirst, hsecond⟩ := hseam.check
      rw [hin] at hfirst
      rw [hin'] at hsecond
      exact Or.inl ⟨hseam, Verdict.inBounds.inj hfirst, Verdict.inBounds.inj hsecond⟩
    · obtain ⟨hfirst, hsecond⟩ := hseam.check
      rw [hin'] at hfirst
      rw [hin] at hsecond
      exact Or.inr ⟨hseam, Verdict.inBounds.inj hsecond, Verdict.inBounds.inj hfirst⟩
  · rintro (⟨hseam, rfl, rfl⟩ | ⟨hseam, rfl, rfl⟩)
    · exact hseam.check
    · exact hseam.check.symm

-- an empty tape in the middle of another would share its address with it
example : Verdict.check 0x200000000 30000 0x200000005 = .inBounds 5
    ∧ Verdict.check 0x200000005 0 0x200000005 = .inBounds 0 := by
  decide

/-- **A pointer is on one tape at most, up to the end that counts as on it.** Take any two tapes
that there can be, wherever they end, so that no address is that of a cell of both, and any pointer.

* The pointer is in bounds of both exactly if one of them begins where the other ends, and the
  pointer is there. Its offset is then the size of the lower tape in this, and zero in the other.
* So a session that has both tapes and is asked about the pointer gives two offsets exactly then,
  and just these. -/
theorem pointer_on_two_tapes {t u : Tape} (ht : t.Live) (hu : u.Live) (hapart : t.Apart u)
    (pointer : UInt64) :
    ((Verdict.check t.base t.size pointer).isInBounds = true
      ∧ (Verdict.check u.base u.size pointer).isInBounds = true ↔
        Seam t u pointer ∨ Seam u t pointer)
    ∧ (Seam t u pointer → Verdict.check t.base t.size pointer = .inBounds t.size
        ∧ Verdict.check u.base u.size pointer = .inBounds 0)
    ∧ (Seam u t pointer → Verdict.check u.base u.size pointer = .inBounds u.size
        ∧ Verdict.check t.base t.size pointer = .inBounds 0)
    ∧ ∀ (s : Session) (name other : String),
        s.tapes.tape? name = some t → s.tapes.tape? other = some u →
        ∀ offset offset' : UInt64,
          (s.step (.validate name (some pointer))).answer = .verdict (.inBounds offset)
            ∧ (s.step (.validate other (some pointer))).answer = .verdict (.inBounds offset') ↔
              Seam t u pointer ∧ offset = t.size ∧ offset' = 0
                ∨ Seam u t pointer ∧ offset = 0 ∧ offset' = u.size := by
  have hcells : 0 < t.size.toNat := Nat.lt_of_lt_of_le (by decide) ht.le_size
  have hcells' : 0 < u.size.toNat := Nat.lt_of_lt_of_le (by decide) hu.le_size
  refine ⟨isInBounds_both_iff hcells hcells' hapart, Seam.check, Seam.check, ?_⟩
  intro s name other hname hother offset offset'
  rw [Session.validate_answer hname, Session.validate_answer hother,
    Session.Answer.verdict.injEq, Session.Answer.verdict.injEq]
  exact check_both_iff hcells hcells' hapart

/-- Two tapes, one right behind the other: where the one ends and the other begins, a session that
has both says that the pointer is on either; one address further on it is not on both. -/
theorem pointer_on_two_tapes_adjacent :
    ∃ s : Session,
      (s.step (.validate "low" (some 0x200007530))).answer = .verdict (.inBounds 30000)
      ∧ (s.step (.validate "high" (some 0x200007530))).answer = .verdict (.inBounds 0)
      ∧ ¬ ∃ offset offset',
          (s.step (.validate "low" (some 0x200007531))).answer = .verdict (.inBounds offset)
          ∧ (s.step (.validate "high" (some 0x200007531))).answer
              = .verdict (.inBounds offset') := by
  have hgrants : Allocator.Grants {} (effectiveSize 0) := by decide
  have hgrants' : Allocator.Grants { base := 0x200007530 } (effectiveSize 0) := by decide
  have hlow : ((Session.start {} .off).final
      [.provision "low" 0 {}, .provision "high" 0 { base := 0x200007530 }]).tapes.tape? "low"
        = some (Allocator.tape {} (effectiveSize 0) hgrants.possible) := by
    rw [Session.tape?_final]
    simp [Session.slotAfter, Session.start, Tapes.tape?, hgrants]
  have hhigh : ((Session.start {} .off).final
      [.provision "low" 0 {}, .provision "high" 0 { base := 0x200007530 }]).tapes.tape? "high"
        = some (Allocator.tape { base := 0x200007530 } (effectiveSize 0) hgrants'.possible) := by
    rw [Session.tape?_final]
    simp [Session.slotAfter, Session.start, Tapes.tape?, hgrants']
  have hsize : (Allocator.tape {} (effectiveSize 0) hgrants.possible).size = 30000 :=
    Allocator.tape_size ..
  have hseam : Seam (Allocator.tape {} (effectiveSize 0) hgrants.possible)
      (Allocator.tape { base := 0x200007530 } (effectiveSize 0) hgrants'.possible) 0x200007530 := by
    refine ⟨?_, rfl⟩
    rw [hsize, Allocator.tape_base, Allocator.tape_base]
    decide
  have hboth := pointer_on_two_tapes ⟨{}, .off, _, "low", hlow⟩ ⟨{}, .off, _, "high", hhigh⟩
    (apart_of_le (Nat.le_of_eq hseam.meets))
  obtain ⟨-, -, -, hthere⟩ := hboth 0x200007530
  obtain ⟨-, -, -, hbeyond⟩ := hboth 0x200007531
  obtain ⟨hanswer, hanswer'⟩ :=
    (hthere _ _ _ hlow hhigh 30000 0).mpr (Or.inl ⟨hseam, hsize.symm, rfl⟩)
  refine ⟨_, hanswer, hanswer', ?_⟩
  rintro ⟨offset, offset', hanswers⟩
  rcases (hbeyond _ _ _ hlow hhigh offset offset').mp hanswers with
    ⟨⟨-, hhere⟩, -⟩ | ⟨⟨-, hhere⟩, -⟩
  · rw [Allocator.tape_base] at hhere
    exact absurd hhere (by decide)
  · rw [Allocator.tape_base] at hhere
    exact absurd hhere (by decide)

end Tape

end TapeProbe
