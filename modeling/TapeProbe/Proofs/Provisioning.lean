import TapeProbe.Proofs.Course

/-!
# Provisioning

Two bounds decide whether there is a tape: the limit of the allocator, and the largest block that
there can be. Both are held against the size that the tape would have, never against the size that
was asked for. So a smaller request fares no worse (`Allocator.Grants.mono`), and asking for the
size of a tape gives a tape of that size (`Allocator.size_provision_again`).

What the memory has held is nowhere to be seen (`Allocator.provision_content`).
-/

namespace TapeProbe

namespace Tape

theorem effectiveSize_mono {fewer more : UInt64} (h : fewer ≤ more) :
    effectiveSize fewer ≤ effectiveSize more := by
  have hle := UInt64.le_iff_toNat_le.mp h
  rw [UInt64.le_iff_toNat_le, effectiveSize_toNat, effectiveSize_toNat]
  omega

/-- A size that a tape can have is not raised again. -/
theorem effectiveSize_idem (requested : UInt64) :
    effectiveSize (effectiveSize requested) = effectiveSize requested := by
  apply UInt64.toNat_inj.mp
  rw [effectiveSize_toNat, effectiveSize_toNat]
  omega

end Tape

namespace Allocator

variable {a : Allocator} {sink : Log.Sink} {requested : UInt64}

/-! ### When a tape is granted -/

theorem grants_iff {size : UInt64} :
    a.Grants size ↔ size.toNat ≤ a.limit.toNat ∧ size.toNat ≤ 0x7fffffffffffffff := by
  have hmax : size ≤ Tape.maxBlock ↔ size.toNat ≤ 0x7fffffffffffffff := UInt64.le_iff_toNat_le
  rw [← UInt64.le_iff_toNat_le, ← hmax]
  exact ⟨fun h => ⟨h.within, h.possible⟩, fun h => ⟨h.2, h.1⟩⟩

theorem Grants.mono {smaller larger : UInt64} (h : a.Grants larger) (hle : smaller ≤ larger) :
    a.Grants smaller :=
  ⟨UInt64.le_trans hle h.possible, UInt64.le_trans hle h.within⟩

theorem provision_ok_iff {t : Tape} :
    (a.provision sink requested).1 = .ok t ↔
      ∃ h : a.Grants (Tape.effectiveSize requested),
        t = a.tape (Tape.effectiveSize requested) h.possible := by
  by_cases h : a.Grants (Tape.effectiveSize requested)
  · rw [provision_granted h]
    exact ⟨fun heq => ⟨h, (Except.ok.inj heq).symm⟩, fun heq => congrArg Except.ok heq.2.symm⟩
  · rw [provision_refused h]
    exact ⟨fun heq => (by cases heq), fun heq => absurd heq.1 h⟩

theorem provision_error_iff {f : Failure} :
    (a.provision sink requested).1 = .error f ↔
      ¬ a.Grants (Tape.effectiveSize requested)
        ∧ f = .resourceExhaustion (Tape.effectiveSize requested) := by
  by_cases h : a.Grants (Tape.effectiveSize requested)
  · rw [provision_granted h]
    exact ⟨fun heq => (by cases heq), fun heq => absurd h heq.1⟩
  · rw [provision_refused h]
    exact ⟨fun heq => ⟨h, (Except.error.inj heq).symm⟩, fun heq => congrArg Except.error heq.2.symm⟩

theorem exists_provision_ok_iff :
    (∃ t, (a.provision sink requested).1 = .ok t) ↔ a.Grants (Tape.effectiveSize requested) := by
  simp only [provision_ok_iff]
  constructor
  · rintro ⟨_, h, _⟩
    exact h
  · intro h
    exact ⟨_, h, rfl⟩

/-! ### What provisioning does -/

theorem effects_provision_granted (h : a.Grants (Tape.effectiveSize requested)) :
    effects (a.provision sink requested).2 = [.alloc (Tape.effectiveSize requested)] := by
  rw [provision_granted h, ← List.singleton_append, effects_append, effects_emit]
  rfl

theorem effects_provision_refused (h : ¬ a.Grants (Tape.effectiveSize requested)) :
    effects (a.provision sink requested).2 = refusal (Tape.effectiveSize requested) := by
  rw [provision_refused h, effects_append, effects_emit, List.append_nil, refusal]
  split <;> rfl

/-- What the memory has held does not show. -/
theorem provision_content (a : Allocator) (content : Nat → UInt8) (sink : Log.Sink)
    (requested : UInt64) :
    ({ a with content := content } : Allocator).provision sink requested
      = a.provision sink requested := by
  by_cases h : a.Grants (Tape.effectiveSize requested)
  · have h' : ({ a with content := content } : Allocator).Grants (Tape.effectiveSize requested) :=
      ⟨h.possible, h.within⟩
    rw [provision_granted h, provision_granted h', tape_eq_zeroed, tape_eq_zeroed]
  · have h' : ¬ ({ a with content := content } : Allocator).Grants (Tape.effectiveSize requested) :=
      fun hg => h ⟨hg.possible, hg.within⟩
    rw [provision_refused h, provision_refused h']

/-- Asking for the size of a tape gives a tape of that size. -/
theorem size_provision_again {b : Allocator} {said : Log.Sink} {t u : Tape}
    (ht : (a.provision sink requested).1 = .ok t) (hu : (b.provision said t.size).1 = .ok u) :
    u.size = t.size := by
  obtain ⟨_, rfl⟩ := provision_ok_iff.mp ht
  obtain ⟨_, rfl⟩ := provision_ok_iff.mp hu
  rw [tape_size, tape_size, Tape.effectiveSize_idem]

/-- The allocator that has given a tape would give it again. -/
theorem exists_provision_again {said : Log.Sink} {t : Tape}
    (ht : (a.provision sink requested).1 = .ok t) :
    ∃ u, (a.provision said t.size).1 = .ok u := by
  obtain ⟨h, rfl⟩ := provision_ok_iff.mp ht
  rw [exists_provision_ok_iff, tape_size, Tape.effectiveSize_idem]
  exact h

/-- **What provisioning gives.** Whatever is asked for, whatever the limit of the allocator and
whatever the memory holds, let the size be what was asked for, raised to 30000 if it is less.

* There is a tape exactly when the size is within the limit and below `2 ^ 63`. It has just so many
  cells, each of them zero, and one block of this size was given out.
* Otherwise the failure is fatal and names the size, which need not be what was asked for. No block
  was given out, and the allocator has refused one exactly if there can be a block of this size.
* What the memory held makes no difference. Where there is a tape there is one for every smaller
  request. Asking for the size of a tape gives a tape of the same size. -/
theorem provision_exact (a : Allocator) (sink : Log.Sink) (requested : UInt64) :
    ∃ size : UInt64, size.toNat = max requested.toNat 30000
    ∧ ((∃ t, (a.provision sink requested).1 = .ok t) ↔
        size.toNat ≤ a.limit.toNat ∧ size.toNat ≤ 0x7fffffffffffffff)
    ∧ (∀ t, (a.provision sink requested).1 = .ok t →
        t.base = a.base ∧ t.cells.size = size.toNat ∧ (∀ cell ∈ t.cells, cell = 0)
        ∧ effects (a.provision sink requested).2 = [.alloc size])
    ∧ (∀ f, (a.provision sink requested).1 = .error f →
        f = .resourceExhaustion size ∧ f.isFatal = true
        ∧ effects (a.provision sink requested).2
            = if size.toNat ≤ 0x7fffffffffffffff then [.refuse size] else [])
    ∧ (∀ content : Nat → UInt8,
        ({ a with content := content } : Allocator).provision sink requested
          = a.provision sink requested)
    ∧ (∀ fewer, fewer ≤ requested → (∃ t, (a.provision sink requested).1 = .ok t) →
        ∃ t, (a.provision sink fewer).1 = .ok t)
    ∧ ∀ t, (a.provision sink requested).1 = .ok t →
        (∃ u, (a.provision sink t.size).1 = .ok u)
        ∧ ∀ (b : Allocator) (said : Log.Sink) (u : Tape),
            (b.provision said t.size).1 = .ok u → u.size = t.size := by
  refine ⟨Tape.effectiveSize requested, Tape.effectiveSize_toNat requested,
    exists_provision_ok_iff.trans grants_iff, fun t ht => ?_, fun f hf => ?_,
    fun content => a.provision_content content sink requested, fun fewer hle ht => ?_,
    fun t ht => ⟨exists_provision_again ht, fun b said u => size_provision_again ht⟩⟩
  · obtain ⟨h, rfl⟩ := provision_ok_iff.mp ht
    have hcells := a.tape_cells (Tape.effectiveSize requested) h.possible
    refine ⟨rfl, by rw [hcells, Array.size_replicate], fun cell hcell => ?_,
      effects_provision_granted h⟩
    rw [hcells] at hcell
    exact Array.eq_of_mem_replicate hcell
  · obtain ⟨h, rfl⟩ := provision_error_iff.mp hf
    have hmax : Tape.effectiveSize requested ≤ Tape.maxBlock ↔
        (Tape.effectiveSize requested).toNat ≤ 0x7fffffffffffffff := UInt64.le_iff_toNat_le
    refine ⟨rfl, rfl, ?_⟩
    rw [effects_provision_refused h, refusal]
    simp only [hmax]
  · rw [exists_provision_ok_iff] at ht ⊢
    exact ht.mono (Tape.effectiveSize_mono hle)

/-- Seven bytes are too many for an allocator that stops one short of the least tape. A byte more than
the largest block is refused without asking an allocator that has no limit of its own. -/
theorem provision_exact_edges :
    (¬ ∃ t, (provision { limit := 29999 } Log.Verbosity.off.sink 7).1 = .ok t)
    ∧ (∃ t, (provision { limit := 30000 } Log.Verbosity.off.sink 7).1 = .ok t
        ∧ t.cells.size = 30000)
    ∧ (provision { limit := 0xffffffffffffffff } Log.Verbosity.off.sink 0x8000000000000000).1
        = .error (.resourceExhaustion 0x8000000000000000)
    ∧ effects (provision { limit := 0xffffffffffffffff } Log.Verbosity.off.sink
        0x8000000000000000).2 = [] := by
  obtain ⟨size₁, hsize₁, htape₁, -⟩ := provision_exact { limit := 29999 } Log.Verbosity.off.sink 7
  obtain ⟨size₂, hsize₂, htape₂, hok₂, -⟩ :=
    provision_exact { limit := 30000 } Log.Verbosity.off.sink 7
  obtain ⟨size₃, hsize₃, -, -, herror₃, -⟩ :=
    provision_exact { limit := 0xffffffffffffffff } Log.Verbosity.off.sink 0x8000000000000000
  have hlarge : (provision { limit := 0xffffffffffffffff } Log.Verbosity.off.sink
      0x8000000000000000).1 = .error (.resourceExhaustion 0x8000000000000000) :=
    provision_error_iff.mpr ⟨by decide, rfl⟩
  refine ⟨?_, ?_, hlarge, ?_⟩
  · rw [htape₁, hsize₁]
    decide
  · obtain ⟨t, ht⟩ := htape₂.mpr (by rw [hsize₂]; decide)
    exact ⟨t, ht, (hok₂ t ht).2.1.trans hsize₂⟩
  · rw [(herror₃ _ hlarge).2.2, hsize₃]
    rfl

end Allocator

end TapeProbe
