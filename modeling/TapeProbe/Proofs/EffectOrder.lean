import TapeProbe.Proofs.Course

/-!
# The order of effects

A run whose entry point returns has its effects in one fixed order: the tape is made, the entry
point is called and does what it does, the report is written, attention is requested, and the tape
is given back. Nothing that fails on the way changes that order. The records of stages stand between
the effects they separate, and each of them goes from one stage to the next.
-/

namespace TapeProbe

/-! ### Records of stages -/

/-- The stages that a record says the run has come from and to. -/
def Event.stageStep? : Event → Option (Stage × Stage)
  | .log (.advanced before after) => some (before, after)
  | _ => none

/-- The steps from stage to stage that a trace records. -/
def stageSteps (es : List Event) : List (Stage × Stage) := es.filterMap Event.stageStep?

/-- The chain of all stages. -/
def Stage.chain : List (Stage × Stage) := Stage.all.zip Stage.all.tail

@[simp] theorem stageSteps_append (es fs : List Event) :
    stageSteps (es ++ fs) = stageSteps es ++ stageSteps fs := List.filterMap_append ..

/-- Records of stages are milestones. -/
theorem stageSteps_milestones (es : List Event) : stageSteps (milestones es) = stageSteps es := by
  induction es with
  | nil => rfl
  | cons e es ih =>
      rw [milestones_cons]
      cases he : e.isMilestone with
      | true =>
          rw [if_pos rfl]
          unfold stageSteps at ih ⊢
          rw [List.filterMap_cons, List.filterMap_cons, ih]
      | false =>
          have hnone : e.stageStep? = none := by
            cases e with
            | log m => cases m <;> first | rfl | cases he
            | _ => rfl
          rw [if_neg (by simp), ih]
          unfold stageSteps
          rw [List.filterMap_cons, hnone]

/-- Effects record no stages. -/
theorem stageSteps_of_isEffect {es : List Event} (h : ∀ e ∈ es, e.isEffect = true) :
    stageSteps es = [] := by
  refine List.filterMap_eq_nil_iff.mpr fun e he => ?_
  have heff := h e he
  cases e with
  | log m => cases heff
  | _ => rfl

theorem Stage.chain_increases : ∀ s ∈ Stage.chain, Stage.compare s.1 s.2 = .lt := by decide

namespace Bench

variable {b : Bench} {sink : Log.Sink} {c : Config} {a : Allocator} {p : Program}

/-- Where stages are recorded, a run whose entry point returns records all of them. -/
theorem stageSteps_run_returned (hall : ∀ before after, sink (.advanced before after) = true)
    (h : a.Grants c.tapeSize) {pointer : UInt64}
    (hcall : (p.exec (a.tape c.tapeSize h.possible) a.base).outcome = .returned pointer) :
    stageSteps (b.run sink c a p).events = Stage.chain := by
  have hemit : ∀ before after,
      sink.emit (.advanced before after) = [.log (.advanced before after)] := by
    intro before after
    rw [Log.Sink.emit, if_pos (hall before after)]
  have hown : stageSteps (p.exec (a.tape c.tapeSize h.possible) a.base).events = [] :=
    stageSteps_of_isEffect fun e he => isEffect_of_isOwn (p.exec_events _ _ e he)
  have hsent : stageSteps (b.delivery c a pointer).events = [] :=
    stageSteps_of_isEffect fun e he => isEffect_of_isDelivery (Report.mem_send_events _ _ e he)
  rw [← stageSteps_milestones, milestones_run_returned h hcall]
  simp only [stageSteps_append, hemit, hown, hsent]
  rfl

/-! ### The order -/

/-- **Effects come in one order.** Of a run whose entry point returns, without its log records: a
refused tape leaves at most the refusal. Otherwise the run makes the tape, calls the entry point
with the base of the tape, and once the entry point is done writes the report, requests attention
and gives the tape back. No byte is written up to the end of the call, and none from the request on.

Where stages are recorded, each record stands between the effect that completes its stage and the
next effect, so that the records run through all stages, each step to a later one. -/
theorem run_effect_order (b : Bench) (sink : Log.Sink) (c : Config) (a : Allocator) (p : Program)
    (hw : b.writer.Regular) (hp : p.Returns) :
    c.tapeSize.toNat = max c.requestedSize.toNat 30000
    ∧ (¬ a.Grants c.tapeSize →
        effects (b.run sink c a p).events = Allocator.refusal c.tapeSize)
    ∧ ∀ h : a.Grants c.tapeSize, ∃ output : Event,
        (output = .writeFailed ∨ output = .flush (b.run sink c a p).bench.writer.kept.length)
        ∧ effects (b.run sink c a p).events =
            [.alloc c.tapeSize, .call a.base]
              ++ (p.exec (a.tape c.tapeSize h.possible) a.base).events
              ++ [output, .trap, .release c.tapeSize]
        ∧ (b.moments sink c a p []).map Moment.event = (b.run sink c a p).events
        ∧ (∃ called reported ended : List Moment,
            b.moments sink c a p [] = called ++ reported ++ ended
            ∧ effects (called.map Moment.event) =
                [.alloc c.tapeSize, .call a.base]
                  ++ (p.exec (a.tape c.tapeSize h.possible) a.base).events
            ∧ effects (reported.map Moment.event) = [output]
            ∧ effects (ended.map Moment.event) = [.trap, .release c.tapeSize]
            ∧ (∀ m ∈ called, m.bench = b)
            ∧ ∀ m ∈ ended, m.bench = (b.run sink c a p).bench)
        ∧ ((∀ before after, sink (.advanced before after) = true) →
            milestones (b.run sink c a p).events =
              [.alloc c.tapeSize, .log (.advanced .start .provisioned), .call a.base]
                ++ (p.exec (a.tape c.tapeSize h.possible) a.base).events
                ++ [.log (.advanced .provisioned .invoked), .log (.advanced .invoked .validated),
                  output, .log (.advanced .validated .reported),
                  .trap, .log (.advanced .reported .trapped),
                  .release c.tapeSize, .log (.advanced .trapped .released),
                  .log (.advanced .released .finished)]
            ∧ stageSteps (b.run sink c a p).events = Stage.chain
            ∧ ∀ s ∈ stageSteps (b.run sink c a p).events, Stage.compare s.1 s.2 = .lt)
        ∧ ∀ r, (b.run sink c a p).outcome = .finished r → r.stages = Stage.all := by
  refine ⟨c.tapeSize_toNat, effects_run_refused, ?_⟩
  intro h
  obtain ⟨pointer, hcall⟩ := hp.exec (a.tape c.tapeSize h.possible) a.base
  obtain ⟨output, hkind, houtput⟩ := delivery_events hw c a pointer
  refine ⟨output, ?_, ?_, moments_events .., ?_, ?_, ?_⟩
  · rw [run_returned h hcall]
    exact hkind
  · rw [effects_run_returned h hcall, houtput, List.append_assoc]
    rfl
  · rw [← houtput]
    exact moments_phases h hcall
  · intro hall
    have hchain : stageSteps (b.run sink c a p).events = Stage.chain :=
      stageSteps_run_returned hall h hcall
    refine ⟨?_, hchain, ?_⟩
    · rw [milestones_run_returned h hcall, houtput]
      simp only [Log.Sink.emit, hall, if_true, List.append_assoc, List.cons_append,
        List.nil_append]
    · rw [hchain]
      exact Stage.chain_increases
  · intro r hr
    obtain ⟨-, -, -, -, rfl⟩ := run_finished_inv hr
    rfl

/-- The writer is full after 20 bytes and the entry point steps off the tape: the order is kept and
all stages are recorded. -/
theorem run_effect_order_narrow :
    stageSteps (run ⟨.narrow, {}⟩ Log.Verbosity.debug.sink {} {} [.move (-1), .set 7]).events
      = Stage.chain
    ∧ ∃ output,
        effects (run ⟨.narrow, {}⟩ Log.Verbosity.debug.sink {} {} [.move (-1), .set 7]).events
          = [.alloc 30000, .call 0x200000000, .skip .set, output, .trap, .release 30000] := by
  have hreturns : Program.Returns [.move (-1), .set 7] := by simp [Program.Returns]
  obtain ⟨-, -, h⟩ := run_effect_order ⟨.narrow, {}⟩ Log.Verbosity.debug.sink {} {} _
    Writer.narrow_regular hreturns
  obtain ⟨output, -, heffects, -, -, hstages, -⟩ := h (by decide)
  exact ⟨(hstages fun _ _ => rfl).2.1, output, heffects⟩

end Bench

end TapeProbe
