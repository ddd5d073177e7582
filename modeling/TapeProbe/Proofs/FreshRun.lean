import TapeProbe.Proofs.Provisioning
import TapeProbe.Proofs.Relocation
import TapeProbe.Proofs.SharedWriter

/-!
# Runs without a past

A run in a session meets what earlier steps have left: memory with old contents, a writer that has
taken other reports, a trap that has been requested before. With a writer that takes everything it
shows none of that.

* The tape is made of zeros whatever the memory holds (`Allocator.provision_content`), so the entry
  point does the same (`Job.perform_over`).
* Writer and trap are only added to. `Bench.run_resumed` compares a run on a bench in use with the
  run on a fresh one; the count of bytes in a flush is all that differs in the trace
  (`Event.later`).
-/

namespace TapeProbe

/-! ### Counts that have gone on -/

/-- The event on a writer that held `n` bytes more. -/
def Event.later (n : Nat) : Event → Event
  | .flush size => .flush (n + size)
  | e => e

/-- The trace on a writer that held `n` bytes more. -/
def later (n : Nat) (es : List Event) : List Event := es.map (Event.later n)

@[simp] theorem later_append (n : Nat) (es fs : List Event) :
    later n (es ++ fs) = later n es ++ later n fs := List.map_append

@[simp] theorem later_emit (n : Nat) (sink : Log.Sink) (m : Log.Message) :
    later n (sink.emit m) = sink.emit m := by
  unfold Log.Sink.emit
  cases sink m <;> rfl

@[simp] theorem later_exec (n : Nat) (p : Program) (t : Tape) (cursor : UInt64) :
    later n (p.exec t cursor).events = (p.exec t cursor).events := by
  refine (List.map_congr_left fun e he => ?_).trans (List.map_id _)
  have hown := p.exec_events t cursor e he
  cases e with
  | flush size => cases hown
  | _ => rfl

@[simp] theorem later_refusal (n : Nat) (size : UInt64) :
    later n (Allocator.refusal size) = Allocator.refusal size := by
  unfold Allocator.refusal
  split <;> rfl

@[simp] theorem later_complaint (n : Nat) (written : Writer.Written) (sink : Log.Sink) :
    later n (written.complaint sink) = written.complaint sink := by
  unfold Writer.Written.complaint
  cases written.error with
  | none => rfl
  | some e => exact later_emit n sink _

namespace Course

theorem later_opening (n : Nat) (sink : Log.Sink) (c : Config) (a : Allocator) (p : Program)
    (h : a.Grants c.tapeSize) : later n (opening sink c a p h) = opening sink c a p h := by
  have halloc : later n [.alloc c.tapeSize] = [.alloc c.tapeSize] := rfl
  have hcall : later n [.call a.base] = [.call a.base] := rfl
  simp only [opening, later_append, later_emit, later_exec, halloc, hcall]

theorem later_checking (n : Nat) (sink : Log.Sink) (base size pointer : UInt64) :
    later n (checking sink base size pointer) = checking sink base size pointer := by
  unfold checking
  cases Verdict.check base size pointer with
  | inBounds offset =>
      simp only [later_append, later_emit]
      rfl
  | outOfBounds => simp only [later_append, later_emit]

theorem later_trapping (n : Nat) (sink : Log.Sink) (t : Trap) :
    later n (trapping sink t) = trapping sink t := by
  have hrequest : later n (t.request sink).2 = (t.request sink).2 := by
    unfold Trap.request
    cases t.kind with
    | counting => rfl
    | breakpoint => exact congrArg (Event.trap :: ·) (later_emit n sink _)
  simp only [trapping, later_append, later_emit, hrequest]

theorem later_releasing (n : Nat) (sink : Log.Sink) (size : UInt64) :
    later n (releasing sink size) = releasing sink size := by
  have hrelease : later n [.release size] = [.release size] := rfl
  simp only [releasing, later_append, later_emit, hrelease]

/-- A request is told alike by traps of one kind. -/
theorem trapping_congr (sink : Log.Sink) {t u : Trap} (h : t.kind = u.kind) :
    trapping sink t = trapping sink u := by
  simp only [trapping, Trap.request, h]

end Course

/-! ### Writers that take everything -/

/-- A writer that makes progress and has no limit. -/
structure Writer.Accepting (w : Writer) : Prop where
  regular : w.Regular
  unlimited : w.limit = none

theorem Writer.Took.accepting {w w' : Writer} {cs : List Char} (h : w.Took cs w')
    (hw : w.Accepting) : w'.Accepting := by
  refine ⟨h.regular hw.regular, ?_⟩
  rw [h]
  exact hw.unlimited

/-- A report to such a writer is kept whole, and the writer is flushed. -/
theorem Report.send_accepting (r : Report) {w : Writer} (hw : w.Accepting) :
    r.send w =
      ⟨{ w with interrupts := 0, kept := w.kept ++ r.text }, w.flushError,
        [.flush (w.kept.length + r.text.length)]⟩ := by
  have hroom : w.hasRoom r.text.length = true := by rw [Writer.hasRoom, hw.unlimited]
  rw [r.send_eq hw.regular, if_pos hroom, Writer.absorb, Writer.fitting_of_hasRoom hroom,
    List.length_append]

/-! ### Memory with contents -/

/-- The allocator over memory that holds something else. -/
def Allocator.over (a : Allocator) (content : Nat → UInt8) : Allocator := { a with content := content }

/-- The job over memory that holds something else. -/
def Job.over (j : Job) (content : Nat → UInt8) : Job :=
  { j with allocator := j.allocator.over content }

theorem Bench.run_over (b : Bench) (sink : Log.Sink) (c : Config) (a : Allocator)
    (content : Nat → UInt8) (p : Program) : b.run sink c (a.over content) p = b.run sink c a p := by
  unfold run course
  rw [Allocator.over, a.provision_content]

/-- What the memory holds does not matter to a job. -/
theorem Job.perform_over (j : Job) (content : Nat → UInt8) (b : Bench) (sink : Log.Sink) :
    (j.over content).perform b sink = j.perform b sink := by
  have hconfig : (j.over content).config = j.config := rfl
  unfold perform
  rw [hconfig]
  cases j.config with
  | ok c => exact b.run_over sink c j.allocator content j.program
  | error e => rfl

/-! ### A bench in use and a fresh one -/

namespace Bench

variable {b fresh : Bench}

/-- `b` is the bench `fresh` after it has been in use: what was written and how often attention was
requested has gone on from nothing, and only interruptions may be behind it. -/
structure UseOf (fresh b : Bench) : Prop where
  accepting : b.writer.Accepting
  accepting_fresh : fresh.writer.Accepting
  flushError : b.writer.flushError = fresh.writer.flushError
  kind : b.trap.kind = fresh.trap.kind
  empty : fresh.writer.kept = []
  unhit : fresh.trap.hits = 0

/-- `r` is what the run `alone` on a fresh bench becomes on the bench `b` in use. -/
structure Resumes (b : Bench) (r alone : Run) : Prop where
  outcome : r.outcome = alone.outcome
  kept : r.bench.writer.kept = b.writer.kept ++ alone.bench.writer.kept
  hits : r.bench.trap.hits = b.trap.hits + alone.bench.trap.hits
  events : r.events = later b.writer.kept.length alone.events

/-- What leaves the bench alone and flushes nothing goes the same way on a bench in use. -/
theorem UseOf.resumes_untouched (h : fresh.UseOf b) (o : Outcome) {es : List Event}
    (hes : later b.writer.kept.length es = es) : b.Resumes ⟨o, b, es⟩ ⟨o, fresh, es⟩ where
  outcome := rfl
  kept := by rw [h.empty, List.append_nil]
  hits := by rw [h.unhit, Nat.add_zero]
  events := hes.symm

theorem run_resumed (h : fresh.UseOf b) (sink : Log.Sink) (c : Config) (a : Allocator)
    (p : Program) : b.Resumes (b.run sink c a p) (fresh.run sink c a p) := by
  rcases run_cases c a p with hg | ⟨hg, text, hcall⟩ | ⟨hg, pointer, hcall⟩
  · rw [run_refused hg, run_refused hg]
    refine h.resumes_untouched _ ?_
    rw [later_append, later_refusal, later_emit]
  · rw [run_panicked hg hcall, run_panicked hg hcall]
    refine h.resumes_untouched _ ?_
    rw [later_append, Course.later_opening]
    rfl
  · have hsent := Report.send_accepting
      ⟨a.base, pointer, Verdict.check a.base c.tapeSize pointer⟩ h.accepting
    have hsent' := Report.send_accepting
      ⟨a.base, pointer, Verdict.check a.base c.tapeSize pointer⟩ h.accepting_fresh
    rw [run_returned hg hcall, run_returned hg hcall]
    simp only [delivery, hsent, hsent', h.flushError]
    refine ⟨rfl, ?_, ?_, ?_⟩
    · simp only [h.empty, List.nil_append]
    · simp only [Trap.hit, h.unhit]
    · simp only [later_append, Course.later_opening, Course.later_checking, Course.later_trapping,
        Course.later_releasing, Course.reporting, later_emit, later_complaint,
        Course.trapping_congr sink h.kind, h.empty, List.length_nil, Nat.zero_add]
      rfl

theorem run_trap_kind (b : Bench) (sink : Log.Sink) (c : Config) (a : Allocator) (p : Program) :
    (b.run sink c a p).bench.trap.kind = b.trap.kind := by
  rcases run_cases c a p with h | ⟨h, text, hcall⟩ | ⟨h, pointer, hcall⟩
  · rw [run_refused h]
  · rw [run_panicked h hcall]
  · rw [run_returned h hcall]
    rfl

end Bench

theorem Job.perform_resumed {fresh b : Bench} (h : fresh.UseOf b) (j : Job) (sink : Log.Sink) :
    b.Resumes (j.perform b sink) (j.perform fresh sink) := by
  unfold perform
  cases j.config with
  | ok c => exact Bench.run_resumed h sink c j.allocator j.program
  | error e => exact h.resumes_untouched _ rfl

namespace Session

/-! ### Sessions -/

theorem trap_kind_step (s : Session) (op : Op) :
    (s.step op).session.bench.trap.kind = s.bench.trap.kind := by
  have hwith : ∀ (name : String) (act : Tape → Stepped),
      (∀ t, (act t).session.bench.trap = s.bench.trap) →
        (s.withTape name act).session.bench.trap.kind = s.bench.trap.kind := by
    intro name act hact
    refine withTape_cases (P := fun done => done.session.bench.trap.kind = s.bench.trap.kind) rfl ?_
    intro t _
    rw [hact t]
  cases op with
  | provision name requested a =>
      exact congrArg (fun b : Bench => b.trap.kind) (s.provision_bench name requested a)
  | invoke name p => exact hwith name _ fun t => congrArg Bench.trap (s.invoke_bench name p t)
  | validate name pointer => exact hwith name _ fun t => rfl
  | report name =>
      refine hwith name _ fun t => ?_
      unfold report
      dsimp only
      split <;> rfl
  | read name start count => exact hwith name _ fun t => rfl
  | geometry name => exact hwith name _ fun t => rfl
  | drop name => exact congrArg (fun b : Bench => b.trap.kind) (s.drop_bench name)
  | trap => rfl
  | run job =>
      change (job.perform s.bench s.sink).bench.trap.kind = _
      unfold Job.perform
      cases job.config with
      | ok c => exact s.bench.run_trap_kind s.sink c job.allocator job.program
      | error e => rfl
  | setVerbosity v => rfl

theorem trap_kind_final (s : Session) (ops : List Op) :
    (s.final ops).bench.trap.kind = s.bench.trap.kind := by
  induction ops generalizing s with
  | nil => rfl
  | cons op ops ih => rw [final_cons, ih, trap_kind_step]

/-- The steps of a session are a use of the bench that it began with. -/
theorem useOf_final {b : Bench} (hw : b.writer.Accepting) (hempty : b.writer.kept = [])
    (hhits : b.trap.hits = 0) (v : Log.Verbosity) (ops : List Op) :
    b.UseOf ((start b v).final ops).bench := by
  have htook := took_final (s := start b v) hw.regular ops
  exact ⟨htook.accepting hw, hw, htook.flushError, (start b v).trap_kind_final ops, hempty, hhits⟩

/-- `here` is what the run `alone` becomes after all that has happened in the session. -/
structure Continues (s : Session) (here alone : Stepped) : Prop where
  /-- The run ends in the same way. -/
  answer : ∃ o n, alone.answer = .ran o n ∧ here.answer = .ran o (s.bench.trap.hits + n)
  /-- The same text is added to the output. -/
  output : here.session.bench.writer.output
    = s.bench.writer.output ++ alone.session.bench.writer.output
  /-- Attention is requested equally often. -/
  hits : here.session.bench.trap.hits = s.bench.trap.hits + alone.session.bench.trap.hits
  /-- The trace is the same, where a flush counts what was written before. -/
  events : here.events = later s.bench.writer.kept.length alone.events

theorem continues_run {s : Session} {fresh : Bench} (h : fresh.UseOf s.bench) (job : Job)
    (content : Nat → UInt8) :
    s.Continues (s.step (.run job)) ((start fresh s.verbosity).step (.run (job.over content))) := by
  have hrun := job.perform_resumed h s.sink
  have halone : (start fresh s.verbosity).step (.run (job.over content))
      = (start fresh s.verbosity).perform job := by
    simp only [step, perform, job.perform_over]
  rw [halone]
  refine ⟨⟨_, _, rfl, ?_⟩, ?_, hrun.hits, hrun.events⟩
  · simp only [step, perform, hrun.outcome, hrun.hits]
    rfl
  · simp only [step, perform, Writer.output, hrun.kept, String.ofList_append]
    rfl

/-- **Runs do not see what came before.** A session begins with an empty writer that takes
everything, and with a trap that was never requested. After any steps, a run goes as the same run
would go as the first step of such a session, at the same level, where the memory may have held
anything before either of them: it has the same result, or fails in the same way, or breaks off with
the same text; it adds the same text to the output and requests attention equally often; it has the
same trace, where the count of a flush includes the bytes that were written before.

The entry point finds every cell of its tape zero, so it does what it does with a tape of zeros. -/
theorem run_does_not_see_history (b : Bench) (v : Log.Verbosity) (hw : b.writer.Regular)
    (hopen : b.writer.limit = none) (hempty : b.writer.kept = []) (hhits : b.trap.hits = 0)
    (ops : List Op) (job : Job) (content : Nat → UInt8) :
    ((start b v).final ops).Continues (((start b v).final ops).step (.run job))
      ((start b ((start b v).final ops).verbosity).step (.run (job.over content)))
    ∧ ∀ (c : Config), job.config = .ok c → ∀ h : job.allocator.Grants c.tapeSize,
        (job.allocator.tape c.tapeSize h.possible).cells.size = c.tapeSize.toNat
        ∧ (∀ i < c.tapeSize.toNat,
            (job.allocator.tape c.tapeSize h.possible).cells[i]? = some 0)
        ∧ ownEvents (((start b v).final ops).step (.run job)).events
            = (job.program.exec (Tape.zeroed job.allocator.base c.tapeSize h.possible)
                job.allocator.base).events := by
  refine ⟨continues_run (useOf_final ⟨hw, hopen⟩ hempty hhits v ops) job content, ?_⟩
  intro c hc h
  refine ⟨by rw [Allocator.tape_cells, Array.size_replicate], fun i hi => ?_, ?_⟩
  · rw [Allocator.tape_cells, Array.getElem?_replicate, if_pos hi]
  · rw [step_run_ok hc, ← Allocator.tape_eq_zeroed]
    cases hcall : (job.program.exec (job.allocator.tape c.tapeSize h.possible)
        job.allocator.base).outcome with
    | panicked text => exact Bench.ownEvents_run_panicked h hcall
    | returned pointer => exact Bench.ownEvents_run_returned h hcall

/-- A run marks its first cell and a request for attention follows. The next run counts cells that
are not zero over the same memory, which still holds the mark: there are none, and all is as in a
session of its own. -/
theorem run_does_not_see_history_marked :
    ((start {} .debug).final [.run { program := [.set 7] }, .trap]).Continues
      (((start {} .debug).final [.run { program := [.set 7] }, .trap]).step
        (.run { allocator := { content := fun i => if i = 0 then 7 else 0 }, program := [.zeros] }))
      ((start {} .debug).step (.run { program := [.zeros] }))
    ∧ ownEvents (((start {} .debug).final [.run { program := [.set 7] }, .trap]).step
        (.run { allocator := { content := fun i => if i = 0 then 7 else 0 },
                program := [.zeros] })).events
      = [.nonzero 0] := by
  have hregular : Writer.Regular {} := ⟨by decide, by decide⟩
  obtain ⟨hcontinues, hzero⟩ :=
    run_does_not_see_history {} .debug hregular rfl rfl rfl [.run { program := [.set 7] }, .trap]
      { allocator := { content := fun i => if i = 0 then 7 else 0 }, program := [.zeros] }
      fun _ => 0xaa
  obtain ⟨-, -, hown⟩ := hzero {} rfl (by decide)
  refine ⟨hcontinues, hown.trans ?_⟩
  simp [Program.exec, Call.after, Tape.nonzero, Tape.zeroed, Array.countP_replicate]

end Session

end TapeProbe
