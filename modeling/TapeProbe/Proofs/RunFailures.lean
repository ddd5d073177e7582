import Mathlib.Data.List.TFAE
import TapeProbe.Command
import TapeProbe.Proofs.Course

/-!
# The failures of a run

A run fails for two reasons that lie far apart. Without a tape it fails at once, and nothing has
happened; this failure alone is fatal. A report that cannot be written is held back until attention
has been requested and the tape is given back. A pointer outside the tape is no failure at all.
-/

namespace TapeProbe

namespace Bench

variable {b : Bench} {sink : Log.Sink} {c : Config} {a : Allocator} {p : Program}

/-! ### The two failures -/

/-- A run that fails had no tape, or its report could not be written. -/
theorem run_failed_inv {f : Failure} (hf : (b.run sink c a p).outcome = .failed f) :
    (¬ a.Grants c.tapeSize ∧ f = .resourceExhaustion c.tapeSize)
    ∨ ∃ (h : a.Grants c.tapeSize) (pointer : UInt64) (e : IoError),
        (p.exec (a.tape c.tapeSize h.possible) a.base).outcome = .returned pointer
        ∧ (b.delivery c a pointer).error = some e ∧ f = .io e := by
  rcases run_cases c a p with h | ⟨h, text, hcall⟩ | ⟨h, pointer, hcall⟩
  · rw [run_refused h] at hf
    cases hf
    exact Or.inl ⟨h, rfl⟩
  · rw [run_panicked h hcall] at hf
    cases hf
  · rw [run_returned h hcall] at hf
    cases he : (b.delivery c a pointer).error with
    | none =>
        simp only [he] at hf
        cases hf
    | some e =>
        simp only [he] at hf
        cases hf
        exact Or.inr ⟨h, pointer, e, hcall, he, rfl⟩

theorem run_exhausted_iff :
    (b.run sink c a p).outcome = .failed (.resourceExhaustion c.tapeSize) ↔
      ¬ a.Grants c.tapeSize := by
  refine ⟨fun hf => ?_, fun h => by rw [run_refused h]⟩
  obtain ⟨h, -⟩ | ⟨_, _, _, _, _, he⟩ := run_failed_inv hf
  · exact h
  · cases he

theorem run_io_iff (e : IoError) :
    (b.run sink c a p).outcome = .failed (.io e) ↔
      ∃ (h : a.Grants c.tapeSize) (pointer : UInt64),
        (p.exec (a.tape c.tapeSize h.possible) a.base).outcome = .returned pointer
        ∧ (b.delivery c a pointer).error = some e := by
  constructor
  · intro hf
    obtain ⟨-, hne⟩ | ⟨h, pointer, e', hcall, he, heq⟩ := run_failed_inv hf
    · cases hne
    · cases heq
      exact ⟨h, pointer, hcall, he⟩
  · rintro ⟨h, pointer, hcall, he⟩
    rw [run_returned h hcall]
    simp only [he]

/-- Only the lack of a tape is fatal. -/
theorem run_fatal_iff {f : Failure} (hf : (b.run sink c a p).outcome = .failed f) :
    f.isFatal = true ↔ f = .resourceExhaustion c.tapeSize := by
  obtain ⟨_, rfl⟩ | ⟨_, _, _, _, _, rfl⟩ := run_failed_inv hf
  · exact ⟨fun _ => rfl, fun _ => rfl⟩
  · exact ⟨fun h => (by cases h), fun h => (by cases h)⟩

/-- The three ways for a run to end whose entry point returns. -/
theorem run_outcome_cases (hp : p.Returns) :
    (b.run sink c a p).outcome = .failed (.resourceExhaustion c.tapeSize)
    ∨ (∃ e, (b.run sink c a p).outcome = .failed (.io e))
    ∨ ∃ r, (b.run sink c a p).outcome = .finished r := by
  by_cases h : a.Grants c.tapeSize
  · obtain ⟨pointer, hcall⟩ := hp.exec (a.tape c.tapeSize h.possible) a.base
    cases he : (b.delivery c a pointer).error with
    | none => exact Or.inr (Or.inr ⟨_, run_outcome_of_sent h hcall he⟩)
    | some e => exact Or.inr (Or.inl ⟨e, (run_io_iff e).mpr ⟨h, pointer, hcall, he⟩⟩)
  · exact Or.inl (run_exhausted_iff.mpr h)

/-! ### What is missing without a tape -/

/-- A refused run does nothing that a run does itself, but for the refusal. -/
theorem not_mem_run_refused (h : ¬ a.Grants c.tapeSize) {e : Event} (he : e.isFrame = true)
    (hrefuse : e ≠ .refuse c.tapeSize) : e ∉ (b.run sink c a p).events := by
  rw [← mem_effects (isEffect_of_isFrame he), effects_run_refused h, Allocator.refusal]
  split
  · exact fun hmem => hrefuse (List.mem_singleton.mp hmem)
  · exact List.not_mem_nil

/-- What a run with a tape causes itself is missing exactly from a run without one. Events come in
families here: the entry point is called with no base whatever. -/
theorem forall_not_mem_run_iff (hp : p.Returns) {ι : Type} {event : ι → Event} {i : ι}
    (hframe : ∀ j, (event j).isFrame = true) (hrefuse : ∀ j, event j ≠ .refuse c.tapeSize)
    (hmem : event i ∈ [.alloc c.tapeSize, .call a.base, .trap, .release c.tapeSize]) :
    (∀ j, event j ∉ (b.run sink c a p).events) ↔ ¬ a.Grants c.tapeSize := by
  refine ⟨fun hnot h => hnot i ?_, fun h j => not_mem_run_refused h (hframe j) (hrefuse j)⟩
  obtain ⟨pointer, hcall⟩ := hp.exec (a.tape c.tapeSize h.possible) a.base
  exact (mem_run_returned h hcall (hframe i)).mpr hmem

theorem run_hits_iff (hp : p.Returns) :
    (b.run sink c a p).bench.trap.hits = b.trap.hits ↔ ¬ a.Grants c.tapeSize := by
  refine ⟨fun hhits h => ?_, fun h => by rw [run_refused h]⟩
  obtain ⟨pointer, hcall⟩ := hp.exec (a.tape c.tapeSize h.possible) a.base
  rw [run_returned h hcall] at hhits
  exact absurd hhits (Nat.succ_ne_self b.trap.hits)

/-- Without a tape: the failure of the run, and what does not happen. -/
theorem run_exhausted_tfae (hp : p.Returns) :
    [(b.run sink c a p).outcome = .failed (.resourceExhaustion c.tapeSize),
      ∀ n, .alloc n ∉ (b.run sink c a p).events,
      ∀ x, .call x ∉ (b.run sink c a p).events,
      .trap ∉ (b.run sink c a p).events,
      (b.run sink c a p).bench.trap.hits = b.trap.hits].TFAE := by
  have halloc : (∀ n, .alloc n ∉ (b.run sink c a p).events) ↔ ¬ a.Grants c.tapeSize :=
    forall_not_mem_run_iff hp (i := c.tapeSize) (fun _ => rfl) (fun _ h => by cases h) (by simp)
  have hcall : (∀ x, .call x ∉ (b.run sink c a p).events) ↔ ¬ a.Grants c.tapeSize :=
    forall_not_mem_run_iff hp (i := a.base) (fun _ => rfl) (fun _ h => by cases h) (by simp)
  have htrap : (∀ _ : Unit, .trap ∉ (b.run sink c a p).events) ↔ ¬ a.Grants c.tapeSize :=
    forall_not_mem_run_iff hp (i := ()) (fun _ => rfl) (fun _ h => by cases h) (by simp)
  rw [forall_const] at htrap
  refine List.tfae_of_forall (¬ a.Grants c.tapeSize) _ ?_
  simp only [List.forall_mem_cons, List.not_mem_nil, false_imp_iff, implies_true, and_true]
  exact ⟨run_exhausted_iff, halloc, hcall, htrap, run_hits_iff hp⟩

end Bench

/-! ### The command -/

namespace Setting

/-- The run of the command. -/
def run (s : Setting) : Run :=
  Bench.run ⟨s.output, ⟨.breakpoint, 0⟩⟩ (Log.Filter.ofText ({} : Config).logFilter).wants {}
    s.allocator s.program

theorem execute_exit (s : Setting) :
    s.execute.exit =
      if 0 < s.run.bench.trap.hits ∧ !s.debugger then .breakpoint
      else (ending (Log.Filter.ofText ({} : Config).logFilter).wants s.run.outcome).1 := by
  unfold execute run
  exact apply_ite Finished.exit _ _ _

/-- The command aborts after a run exactly when the run has failed fatally. -/
theorem ending_abort_iff (sink : Log.Sink) (o : Outcome) :
    (ending sink o).1 = .abort ↔ ∃ f, o = .failed f ∧ f.isFatal = true := by
  cases o with
  | finished r => exact ⟨fun h => (by cases h), fun ⟨_, h, _⟩ => (by cases h)⟩
  | panicked text => exact ⟨fun h => (by cases h), fun ⟨_, h, _⟩ => (by cases h)⟩
  | failed f =>
      cases hf : f.isFatal with
      | true => exact ⟨fun _ => ⟨f, rfl, hf⟩, fun _ => by rw [ending, hf]; rfl⟩
      | false =>
          refine ⟨fun h => ?_, fun ⟨g, hg, hfatal⟩ => ?_⟩
          · rw [ending, hf] at h
            cases h
          · cases hg
            rw [hf] at hfatal
            cases hfatal

theorem ending_run_abort_iff (sink said : Log.Sink) (b : Bench) (c : Config) (a : Allocator)
    (p : Program) :
    (ending said (b.run sink c a p).outcome).1 = .abort ↔ ¬ a.Grants c.tapeSize := by
  rw [ending_abort_iff]
  constructor
  · rintro ⟨f, hf, hfatal⟩
    rw [(Bench.run_fatal_iff hf).mp hfatal] at hf
    exact Bench.run_exhausted_iff.mp hf
  · intro h
    exact ⟨_, Bench.run_exhausted_iff.mpr h, rfl⟩

/-- The command aborts exactly when there is no tape for its run. -/
theorem execute_abort_iff (s : Setting) :
    s.execute.exit = .abort ↔ ¬ s.allocator.Grants (Config.tapeSize {}) := by
  rw [execute_exit]
  split
  · next hhit =>
    refine ⟨fun h => (by cases h), fun h => ?_⟩
    -- without a tape the trap is not reached
    rw [run, Bench.run_refused h] at hhit
    exact absurd hhit.1 (Nat.lt_irrefl 0)
  · exact ending_run_abort_iff _ _ _ _ _ _

end Setting

/-! ### The classes of failure -/

namespace Bench

/-- **How a run can fail.** Of a run whose entry point returns:

* it fails for the lack of a tape exactly when no tape is made, exactly when the entry point is not
  called, and exactly when attention is not requested. This failure alone is fatal, and it is the
  one on which the command aborts;
* it fails with an error of the writer exactly when there is a tape and the report on the pointer
  that the entry point returned meets this error. Attention has then been requested once, and the
  tape has been given back once;
* otherwise it finishes. A configuration is no matter of a run, and where the writer takes
  everything there is a result for every pointer, on the tape or not. -/
theorem run_failure_classes (b : Bench) (sink : Log.Sink) (c : Config) (a : Allocator) (p : Program)
    (hp : p.Returns) :
    c.tapeSize.toNat = max c.requestedSize.toNat 30000
    ∧ [(b.run sink c a p).outcome = .failed (.resourceExhaustion c.tapeSize),
        ∀ n, .alloc n ∉ (b.run sink c a p).events,
        ∀ x, .call x ∉ (b.run sink c a p).events,
        .trap ∉ (b.run sink c a p).events,
        (b.run sink c a p).bench.trap.hits = b.trap.hits].TFAE
    ∧ (∀ f, (b.run sink c a p).outcome = .failed f →
        (f.isFatal = true ↔ f = .resourceExhaustion c.tapeSize))
    ∧ ((Setting.ending sink (b.run sink c a p).outcome).1 = .abort ↔
        (b.run sink c a p).outcome = .failed (.resourceExhaustion c.tapeSize))
    ∧ (∀ s : Setting, s.execute.exit = .abort ↔
        s.run.outcome = .failed (.resourceExhaustion (Config.tapeSize {})))
    ∧ (∀ e, (b.run sink c a p).outcome = .failed (.io e) ↔
        .alloc c.tapeSize ∈ (b.run sink c a p).events
        ∧ ∃ (h : a.Grants c.tapeSize) (pointer : UInt64),
          (p.exec (a.tape c.tapeSize h.possible) a.base).outcome = .returned pointer
          ∧ (Report.send ⟨a.base, pointer, Verdict.check a.base c.tapeSize pointer⟩ b.writer).error
              = some e)
    ∧ (∀ e, (b.run sink c a p).outcome = .failed (.io e) →
        (b.run sink c a p).events.count .trap = 1
        ∧ (b.run sink c a p).bench.trap.hits = b.trap.hits + 1
        ∧ (b.run sink c a p).events.count (.release c.tapeSize) = 1)
    ∧ ((b.run sink c a p).outcome = .failed (.resourceExhaustion c.tapeSize)
      ∨ (∃ e, (b.run sink c a p).outcome = .failed (.io e))
      ∨ ∃ r, (b.run sink c a p).outcome = .finished r)
    ∧ (∀ e, (b.run sink c a p).outcome ≠ .failed (.config e))
    ∧ (b.writer.Regular → b.writer.limit = none → b.writer.flushError = none →
        a.Grants c.tapeSize → ∃ r, (b.run sink c a p).outcome = .finished r
          ∧ r.verdict = Verdict.check a.base c.tapeSize r.dataPointer) := by
  refine ⟨c.tapeSize_toNat, run_exhausted_tfae hp, fun f => run_fatal_iff, ?_, ?_, ?_, ?_,
    run_outcome_cases hp, ?_, ?_⟩
  · rw [Setting.ending_run_abort_iff, run_exhausted_iff]
  · intro s
    rw [s.execute_abort_iff]
    exact run_exhausted_iff.symm
  · intro e
    rw [run_io_iff]
    refine ⟨fun hio => ⟨?_, hio⟩, And.right⟩
    obtain ⟨h, pointer, hcall, -⟩ := hio
    exact (mem_run_returned h hcall rfl).mpr (by simp)
  · intro e hio
    obtain ⟨h, pointer, hcall, -⟩ := (run_io_iff e).mp hio
    refine ⟨?_, by rw [run_returned h hcall]; rfl, ?_⟩
    · rw [count_run_returned h hcall rfl]
      rfl
    · rw [count_run_returned h hcall rfl]
      simp
  · intro e hconfig
    obtain ⟨-, hne⟩ | ⟨_, _, _, _, _, hne⟩ := run_failed_inv hconfig <;> cases hne
  · intro hw hlimit hflush h
    obtain ⟨pointer, hcall⟩ := hp.exec (a.tape c.tapeSize h.possible) a.base
    exact ⟨_, run_outcome_of_sent h hcall (Report.send_error_of_unlimited _ hw hlimit hflush), rfl⟩

/-- The writer is full after 20 bytes and the entry point steps off the tape: the error of the
writer comes out, after attention has been requested once and the tape is given back. -/
theorem run_failure_classes_narrow :
    (run ⟨.narrow, {}⟩ Log.Verbosity.debug.sink {} {} [.move (-1), .set 7]).outcome
      = .failed (.io .brokenPipe)
    ∧ (run ⟨.narrow, {}⟩ Log.Verbosity.debug.sink {} {} [.move (-1), .set 7]).events.count .trap = 1
    ∧ (run ⟨.narrow, {}⟩ Log.Verbosity.debug.sink {} {} [.move (-1), .set 7]).events.count
        (.release 30000) = 1 := by
  have hreturns : Program.Returns [.move (-1), .set 7] := by simp [Program.Returns]
  have hgrants : Allocator.Grants {} (Config.tapeSize {}) := by decide
  have hio : (run ⟨.narrow, {}⟩ Log.Verbosity.debug.sink {} {} [.move (-1), .set 7]).outcome
      = .failed (.io .brokenPipe) :=
    (run_io_iff _).mpr ⟨hgrants, 0x1ffffffff, rfl, Report.send_narrow_error _⟩
  obtain ⟨-, -, -, -, -, -, hcounts, -⟩ :=
    run_failure_classes ⟨.narrow, {}⟩ Log.Verbosity.debug.sink {} {} _ hreturns
  obtain ⟨htrap, -, hrelease⟩ := hcounts _ hio
  exact ⟨hio, htrap, hrelease⟩

end Bench

end TapeProbe
