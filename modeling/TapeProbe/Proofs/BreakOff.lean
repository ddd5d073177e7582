import TapeProbe.Proofs.Timeline

/-!
# Runs and calls that break off

A run breaks off when its tape is refused, and when its entry point does. Everything around it then
stays as it was: `Session.Untouched` says this of a step, for the session after it and for writer
and trap after each of its events.

A call with a tape of the session is different. The tape stays, and so do the steps that were done:
a call that breaks off leaves what the steps before the break leave (`Session.invoke_breaks`).
-/

namespace TapeProbe

/-! ### Events that reach the writer or the trap -/

/-- Something that is asked of the writer or the trap. -/
def Event.isOutward : Event → Bool
  | .writeFailed | .flush _ | .trap => true
  | _ => false

theorem isEffect_of_isOutward {e : Event} (h : e.isOutward = true) : e.isEffect = true := by
  cases e with
  | log m => cases h
  | _ => rfl

theorem isOutward_of_isOwn {e : Event} (h : e.IsOwn) : e.isOutward = false := by
  cases e with
  | nonzero _ | cell _ | skip _ => rfl
  | _ => cases h

/-! ### Runs -/

namespace Bench

variable {b : Bench} {sink : Log.Sink} {c : Config} {a : Allocator} {p : Program}

/-- The two ways for a run to break off. -/
theorem run_broken_cases (hbreak : ¬ a.Grants c.tapeSize ∨ ¬ p.Returns) :
    ¬ a.Grants c.tapeSize
    ∨ ∃ (h : a.Grants c.tapeSize) (text : String),
        (p.exec (a.tape c.tapeSize h.possible) a.base).outcome = .panicked text := by
  rcases run_cases c a p with h | hpanic | ⟨h, pointer, hcall⟩
  · exact Or.inl h
  · exact Or.inr hpanic
  · have hreturns : p.Returns := (p.exec_returned_iff _ _).mp ⟨pointer, hcall⟩
    rcases hbreak with hrefused | hnot
    · exact Or.inl hrefused
    · exact absurd hreturns hnot

theorem run_broken_bench (hbreak : ¬ a.Grants c.tapeSize ∨ ¬ p.Returns) :
    (b.run sink c a p).bench = b := by
  rcases run_broken_cases hbreak with h | ⟨h, text, hcall⟩
  · rw [run_refused h]
  · rw [run_panicked h hcall]

theorem moments_broken_bench (hbreak : ¬ a.Grants c.tapeSize ∨ ¬ p.Returns)
    {others : List UInt64} : ∀ m ∈ b.moments sink c a p others, m.bench = b := by
  intro m hm
  rcases run_broken_cases hbreak with h | ⟨h, text, hcall⟩
  · rw [moments_refused h] at hm
    exact (mem_during hm).2.1
  · rw [moments_panicked h hcall] at hm
    rcases List.mem_append.mp hm with hm | hm
    · exact (mem_during hm).2.1
    · exact (mem_during hm).2.1

/-- A run that breaks off asks nothing of the writer or the trap. -/
theorem not_mem_run_broken (hbreak : ¬ a.Grants c.tapeSize ∨ ¬ p.Returns) {e : Event}
    (he : e.isOutward = true) : e ∉ (b.run sink c a p).events := by
  rw [← mem_effects (isEffect_of_isOutward he)]
  rcases run_broken_cases hbreak with h | ⟨h, text, hcall⟩
  · rw [effects_run_refused h, Allocator.refusal]
    split
    · intro hmem
      rw [List.mem_singleton.mp hmem] at he
      cases he
    · exact List.not_mem_nil
  · rw [effects_run_panicked h hcall]
    intro hmem
    simp only [List.mem_append, List.mem_cons, List.not_mem_nil, or_false] at hmem
    rcases hmem with ((rfl | rfl) | hown) | rfl
    · cases he
    · cases he
    · rw [isOutward_of_isOwn (p.exec_events _ _ e hown)] at he
      cases he
    · cases he

/-- A run whose entry point breaks off says nothing after the call is announced. -/
theorem run_panicked_events (h : a.Grants c.tapeSize) {text : String}
    (hcall : (p.exec (a.tape c.tapeSize h.possible) a.base).outcome = .panicked text) :
    ∃ before, effects before = [.alloc c.tapeSize]
      ∧ (b.run sink c a p).events =
        before ++ sink.emit (.invoking a.base) ++ [.call a.base]
          ++ (p.exec (a.tape c.tapeSize h.possible) a.base).events ++ [.release c.tapeSize] := by
  refine ⟨[.alloc c.tapeSize] ++ sink.emit (.provisioned a.base c.tapeSize c.requestedSize)
      ++ sink.emit (.advanced .start .provisioned), ?_, ?_⟩
  · simp only [effects_append, effects_emit, List.append_nil]
    rfl
  · rw [run_panicked h hcall, Course.opening]

end Bench

/-! ### Steps of a session -/

namespace Session

variable {s : Session} {job : Job} {c : Config}

/-- A step that leaves everything around it as it was. -/
structure Untouched (s : Session) (op : Op) : Prop where
  /-- The tapes with their cells, the writer, the trap and the last pointer are as before. -/
  session : (s.step op).session = s
  /-- So are writer and trap after every event on the way. -/
  throughout : ∀ m ∈ s.moments op, m.bench = s.bench
  /-- Attention is not requested. -/
  no_trap : .trap ∉ (s.step op).events
  /-- Nothing is written. -/
  no_write : .writeFailed ∉ (s.step op).events
  /-- Nothing is flushed. -/
  no_flush : ∀ n, .flush n ∉ (s.step op).events

theorem untouched_run (hc : job.config = .ok c)
    (hbreak : ¬ job.allocator.Grants c.tapeSize ∨ ¬ job.program.Returns) :
    s.Untouched (.run job) where
  session := by rw [step_run_ok hc, Bench.run_broken_bench hbreak]
  throughout := by
    change ∀ m ∈ job.moments s.bench s.sink s.tapes.sizes, m.bench = s.bench
    rw [Job.moments_ok hc]
    exact Bench.moments_broken_bench hbreak
  no_trap := by
    rw [step_run_ok hc]
    exact Bench.not_mem_run_broken hbreak rfl
  no_write := by
    rw [step_run_ok hc]
    exact Bench.not_mem_run_broken hbreak rfl
  no_flush n := by
    rw [step_run_ok hc]
    exact Bench.not_mem_run_broken hbreak rfl

/-- A call that breaks off: its tape is left as by the steps before the break, all else is as it
was. -/
theorem invoke_breaks {name : String} {t : Tape} (ht : s.tapes.tape? name = some t) {p : Program}
    (hp : ¬ p.Returns) :
    ∃ text rest, p = p.untilPanic ++ .panic text :: rest
      ∧ s.step (.invoke name p) =
        ⟨{ s with tapes := s.tapes.put name (p.untilPanic.exec t t.base).tape }, .panicked text,
          s.sink.emit (.invoking t.base) ++ [.call t.base]
            ++ (p.untilPanic.exec t t.base).events⟩ := by
  obtain ⟨text, rest, heq, hexec⟩ := Program.exec_breaks hp t t.base
  refine ⟨text, rest, heq, ?_⟩
  have hcall := Tape.invoke_panicked s.sink (congrArg Call.outcome hexec)
  simp only [step, withTape, ht, invoke, hcall, hexec]

end Session

/-! ### What is left of a break -/

namespace Session

/-- **What breaks off leaves its surroundings alone.** In every state of a session:

* a run without a tape, and a run whose entry point breaks off at any of its steps, leave the tapes
  of the session with their cells, the writer, the trap and the last pointer as they were, also
  while the run is on; nothing is written or flushed, and attention is not requested;
* without a tape, the run fails for the lack of it, and the refusal is all that happens;
* when the entry point breaks off, the run has made its tape and called the entry point, which has
  done its steps before the break; the tape is given back once, and no message follows the one that
  announces the call;
* a call that breaks off with a tape of the session leaves that tape in its place, with the cells
  that the steps before the break leave, and everything else as it was. -/
theorem break_leaves_surroundings (s : Session) :
    (∀ (job : Job) (c : Config), job.config = .ok c →
      ¬ job.allocator.Grants c.tapeSize ∨ ¬ job.program.Returns →
        s.Untouched (.run job)
        ∧ (s.moments (.run job)).map Moment.event = (s.step (.run job)).events)
    ∧ (∀ (job : Job) (c : Config), job.config = .ok c → ¬ job.allocator.Grants c.tapeSize →
        (s.step (.run job)).answer
          = .ran (.failed (.resourceExhaustion c.tapeSize)) s.bench.trap.hits
        ∧ effects (s.step (.run job)).events = Allocator.refusal c.tapeSize)
    ∧ (∀ (job : Job) (c : Config), job.config = .ok c → ∀ h : job.allocator.Grants c.tapeSize,
      ¬ job.program.Returns →
        ∃ text rest, job.program = job.program.untilPanic ++ .panic text :: rest
          ∧ (s.step (.run job)).answer = .ran (.panicked text) s.bench.trap.hits
          ∧ (∀ n, (s.step (.run job)).events.count (.release n)
              = if c.tapeSize = n then 1 else 0)
          ∧ (∀ m, .log m ∉ (job.program.untilPanic.exec (job.allocator.tape c.tapeSize h.possible)
              job.allocator.base).events)
          ∧ ∃ before, effects before = [.alloc c.tapeSize]
              ∧ (s.step (.run job)).events =
                before ++ s.sink.emit (.invoking job.allocator.base) ++ [.call job.allocator.base]
                  ++ (job.program.untilPanic.exec (job.allocator.tape c.tapeSize h.possible)
                      job.allocator.base).events
                  ++ [.release c.tapeSize])
    ∧ ∀ (name : String) (t : Tape) (p : Program), s.tapes.tape? name = some t → ¬ p.Returns →
        ∃ text rest, p = p.untilPanic ++ .panic text :: rest
          ∧ (s.step (.invoke name p)).answer = .panicked text
          ∧ (∃ u, (s.step (.invoke name p)).session.tapes.tape? name = some u
              ∧ u.base = t.base ∧ u.size = t.size
              ∧ u.cells = (p.untilPanic.exec t t.base).tape.cells)
          ∧ (∀ other, other ≠ name →
              (s.step (.invoke name p)).session.tapes.tape? other = s.tapes.tape? other)
          ∧ (s.step (.invoke name p)).session.pointer = s.pointer
          ∧ (s.step (.invoke name p)).session.bench = s.bench := by
  refine ⟨?_, ?_, ?_, ?_⟩
  · intro job c hc hbreak
    exact ⟨untouched_run hc hbreak, s.moments_events _⟩
  · intro job c hc h
    rw [step_run_ok hc]
    exact ⟨by rw [Bench.run_refused h], Bench.effects_run_refused h⟩
  · intro job c hc h hp
    obtain ⟨text, rest, heq, hexec⟩ :=
      Program.exec_breaks hp (job.allocator.tape c.tapeSize h.possible) job.allocator.base
    have hcall := congrArg Call.outcome hexec
    refine ⟨text, rest, heq, ?_⟩
    rw [step_run_ok hc]
    refine ⟨by rw [Bench.run_panicked h hcall], fun n => ?_, fun m hlog => ?_, ?_⟩
    · rw [Bench.count_run_panicked h hcall rfl]
      simp [List.count_cons]
    · exact job.program.untilPanic.exec_events _ _ _ hlog
    · have hown := congrArg Call.events hexec
      dsimp only at hown
      rw [← hown]
      exact Bench.run_panicked_events h hcall
  · intro name t p ht hp
    obtain ⟨text, rest, heq, hstep⟩ := invoke_breaks ht hp
    refine ⟨text, rest, heq, ?_⟩
    rw [hstep]
    refine ⟨rfl, ⟨_, by rw [Tapes.tape?_put, if_pos rfl], ?_, ?_, rfl⟩, fun other hother => ?_,
      rfl, rfl⟩
    · exact p.untilPanic.exec_base t t.base
    · exact p.untilPanic.exec_size t t.base
    · rw [Tapes.tape?_put, if_neg hother.symm]

/-- The entry point stores a mark and breaks off: a run of it leaves the session as it is, a call of
it leaves the mark on the tape and the last pointer as it was. -/
theorem break_leaves_surroundings_marked :
    Untouched ⟨[("a", Allocator.tape {} 30000 (by decide))], ⟨.narrow, {}⟩, .debug, 5⟩
      (.run { program := [.set 7, .panic "stop", .set 0] })
    ∧ (∃ u, (step ⟨[("a", Allocator.tape {} 30000 (by decide))], ⟨.narrow, {}⟩, .debug, 5⟩
          (.invoke "a" [.set 7, .panic "stop", .set 0])).session.tapes.tape? "a" = some u
        ∧ u.size = 30000 ∧ u.read 0 = 7)
    ∧ (step ⟨[("a", Allocator.tape {} 30000 (by decide))], ⟨.narrow, {}⟩, .debug, 5⟩
        (.invoke "a" [.set 7, .panic "stop", .set 0])).session.pointer = 5 := by
  have hbreaks : ¬ Program.Returns [.set 7, .panic "stop", .set 0] := by simp [Program.Returns]
  obtain ⟨hrun, -, -, hinvoke⟩ := break_leaves_surroundings
    ⟨[("a", Allocator.tape {} 30000 (by decide))], ⟨.narrow, {}⟩, .debug, 5⟩
  obtain ⟨-, -, -, -, ⟨u, hu, -, hsize, hcells⟩, -, hpointer, -⟩ :=
    hinvoke "a" (Allocator.tape {} 30000 (by decide)) [.set 7, .panic "stop", .set 0]
      (by rw [Tapes.tape?_cons, if_pos rfl]) hbreaks
  have hmark : ∀ t : Tape, 0 < t.size →
      (Program.exec (Program.untilPanic [.set 7, .panic "stop", .set 0]) t t.base).tape
        = t.write 0 7 := by
    intro t ht
    simp [Program.untilPanic, Step.isPanic, Program.exec, Tape.access, Tape.index?, ht]
  refine ⟨(hrun _ {} rfl (Or.inr hbreaks)).1, ⟨u, hu, ?_, ?_⟩, hpointer⟩
  · rw [hsize, Allocator.tape_size]
  · rw [Tape.read, hcells, hmark _ (by rw [Allocator.tape_size]; decide)]
    simp [Tape.write, Allocator.tape_cells]

end Session

end TapeProbe
