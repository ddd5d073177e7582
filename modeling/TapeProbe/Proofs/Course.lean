import TapeProbe.Proofs.Call
import TapeProbe.Proofs.Delivery
import TapeProbe.Run

/-!
# The course of a run

A run takes one of three courses, and each is told once: the tape is refused
(`Bench.course_refused`), the entry point breaks off (`Bench.course_panicked`), or it returns
(`Bench.course_returned`). What the run comes to and what its moments are is read off there
(`Bench.run_refused`, `Bench.moments_refused` and so on), and facts about runs are read off these
equations, not off the definitions.

Two views of what happens in a run:

* `effects` drops the log records from a trace, `milestones` drops all of them but the records of
  stages;
* `Bench.moments` tells the run event by event **together with the state it leaves**: the writer and
  the trap as they are right after the event, and the sizes of the tapes that are there. The state
  is that of the phase in which the event happens. Forgetting the states gives the trace of the run
  (`Bench.moments_events`).
-/

namespace TapeProbe

/-! ### Effects and milestones -/

/-- Something other than a log record. -/
def Event.isEffect : Event → Bool
  | .log _ => false
  | _ => true

/-- Something other than a log record, or the record of a stage. -/
def Event.isMilestone : Event → Bool
  | .log (.advanced _ _) => true
  | .log _ => false
  | _ => true

/-- A trace without its log records. -/
def effects (es : List Event) : List Event := es.filter Event.isEffect

/-- A trace without its log records, those of stages excepted. -/
def milestones (es : List Event) : List Event := es.filter Event.isMilestone

@[simp] theorem effects_append (es fs : List Event) :
    effects (es ++ fs) = effects es ++ effects fs := List.filter_append ..

@[simp] theorem milestones_append (es fs : List Event) :
    milestones (es ++ fs) = milestones es ++ milestones fs := List.filter_append ..

@[simp] theorem milestones_cons (e : Event) (es : List Event) :
    milestones (e :: es) = if e.isMilestone then e :: milestones es else milestones es :=
  List.filter_cons

theorem mem_effects {e : Event} {es : List Event} (he : e.isEffect = true) :
    e ∈ effects es ↔ e ∈ es := by
  rw [effects, List.mem_filter]
  exact ⟨And.left, fun h => ⟨h, he⟩⟩

/-- Every effect is a milestone. -/
theorem effects_milestones (es : List Event) : effects (milestones es) = effects es := by
  unfold effects milestones
  rw [List.filter_filter]
  congr 1
  funext e
  cases e with
  | log m => rfl
  | _ => rfl

/-- Records have no effect. -/
@[simp] theorem effects_emit (sink : Log.Sink) (m : Log.Message) : effects (sink.emit m) = [] := by
  unfold Log.Sink.emit
  cases sink m <;> rfl

@[simp] theorem milestones_emit (sink : Log.Sink) (m : Log.Message) :
    milestones (sink.emit m) = if (Event.log m).isMilestone then sink.emit m else [] := by
  unfold Log.Sink.emit milestones
  cases sink m with
  | true => exact List.filter_cons
  | false => simp

theorem isEffect_of_isOwn {e : Event} (h : e.IsOwn) : e.isEffect = true := by
  cases e with
  | log m => cases h
  | _ => rfl

theorem isEffect_of_isDelivery {e : Event} (h : Writer.IsDelivery e) : e.isEffect = true := by
  obtain rfl | ⟨n, rfl⟩ := h <;> rfl

/-- Something that a run does itself, and neither its entry point nor its writer. -/
def Event.isFrame : Event → Bool
  | .alloc _ | .refuse _ | .release _ | .call _ | .trap => true
  | _ => false

theorem isEffect_of_isFrame {e : Event} (h : e.isFrame = true) : e.isEffect = true := by
  cases e with
  | log m => cases h
  | _ => rfl

theorem isFrame_of_isOwn {e : Event} (h : e.IsOwn) : e.isFrame = false := by
  cases e with
  | nonzero _ | cell _ | skip _ => rfl
  | _ => cases h

theorem isFrame_of_isDelivery {e : Event} (h : Writer.IsDelivery e) : e.isFrame = false := by
  obtain rfl | ⟨n, rfl⟩ := h <;> rfl

theorem count_effects {e : Event} (he : e.isEffect = true) (es : List Event) :
    (effects es).count e = es.count e := List.count_filter he

/-- Events of which none is in the frame of a run do not count there. -/
theorem count_eq_zero_of_isFrame {e : Event} (he : e.isFrame = true) {es : List Event}
    (h : ∀ f ∈ es, f.isFrame = false) : es.count e = 0 := by
  refine List.count_eq_zero.mpr fun hmem => ?_
  rw [h e hmem] at he
  cases he

theorem isMilestone_of_isEffect {e : Event} (h : e.isEffect = true) : e.isMilestone = true := by
  cases e with
  | log m => cases h
  | _ => rfl

theorem effects_eq_self {es : List Event} (h : ∀ e ∈ es, e.isEffect = true) : effects es = es :=
  List.filter_eq_self.mpr h

theorem milestones_eq_self {es : List Event} (h : ∀ e ∈ es, e.isEffect = true) :
    milestones es = es :=
  List.filter_eq_self.mpr fun e he => isMilestone_of_isEffect (h e he)

@[simp] theorem effects_exec (p : Program) (t : Tape) (cursor : UInt64) :
    effects (p.exec t cursor).events = (p.exec t cursor).events :=
  effects_eq_self fun e he => isEffect_of_isOwn (p.exec_events t cursor e he)

@[simp] theorem milestones_exec (p : Program) (t : Tape) (cursor : UInt64) :
    milestones (p.exec t cursor).events = (p.exec t cursor).events :=
  milestones_eq_self fun e he => isEffect_of_isOwn (p.exec_events t cursor e he)

@[simp] theorem effects_send (r : Report) (w : Writer) :
    effects (r.send w).events = (r.send w).events :=
  effects_eq_self fun e he => isEffect_of_isDelivery (r.mem_send_events w e he)

@[simp] theorem milestones_send (r : Report) (w : Writer) :
    milestones (r.send w).events = (r.send w).events :=
  milestones_eq_self fun e he => isEffect_of_isDelivery (r.mem_send_events w e he)

@[simp] theorem milestones_complaint (written : Writer.Written) (sink : Log.Sink) :
    milestones (written.complaint sink) = [] := by
  unfold Writer.Written.complaint
  cases written.error with
  | none => rfl
  | some e => exact milestones_emit sink _

@[simp] theorem milestones_request (t : Trap) (sink : Log.Sink) :
    milestones (t.request sink).2 = [.trap] := by
  unfold Trap.request
  cases t.kind with
  | counting => rfl
  | breakpoint => simp [Event.isMilestone]

/-! ### Moments -/

/-- An event together with the state it leaves. -/
structure Moment where
  /-- What happened. -/
  event : Event
  /-- Writer and trap right after it. -/
  bench : Bench
  /-- The sizes of the tapes that are there right after it. -/
  alive : List UInt64

/-- Events that leave writer, trap and tapes as they are given. -/
def during (b : Bench) (alive : List UInt64) (es : List Event) : List Moment :=
  es.map fun e => ⟨e, b, alive⟩

@[simp] theorem during_events (b : Bench) (alive : List UInt64) (es : List Event) :
    (during b alive es).map Moment.event = es := by
  rw [during, List.map_map]
  exact List.map_id es

theorem during_append (b : Bench) (alive : List UInt64) (es fs : List Event) :
    during b alive (es ++ fs) = during b alive es ++ during b alive fs := List.map_append

theorem mem_during {m : Moment} {b : Bench} {alive : List UInt64} {es : List Event}
    (h : m ∈ during b alive es) : m.event ∈ es ∧ m.bench = b ∧ m.alive = alive := by
  obtain ⟨e, he, rfl⟩ := List.mem_map.mp h
  exact ⟨he, rfl, rfl⟩

/-- The moments of a phase, with tapes of other sizes around. -/
def Phase.moments (ph : Phase) (others : List UInt64) : List Moment :=
  during ph.bench (ph.held.toList ++ others) ph.events

/-- The moments of a run, with tapes of other sizes around. -/
def Course.moments (c : Course) (others : List UInt64) : List Moment :=
  c.phases.flatMap (·.moments others)

namespace Course

theorem run_after (c : Course) (first : Phase) :
    (c.after first).run = { c.run with events := first.events ++ c.run.events } := rfl

/-- Forgetting the states gives what happens. -/
theorem moments_events (c : Course) (others : List UInt64) :
    (c.moments others).map Moment.event = c.run.events := by
  rw [moments, List.map_flatMap]
  simp only [Phase.moments, during_events]
  rfl

/-- What a run comes to, read off its moments. -/
theorem run_eq (c : Course) (others : List UInt64) :
    c.run = ⟨c.outcome, c.last.bench, (c.moments others).map Moment.event⟩ := by
  rw [moments_events]
  rfl

end Course

namespace Bench

/-- The moments of `Bench.run`, with tapes of other sizes around. -/
def moments (b : Bench) (sink : Log.Sink) (config : Config) (allocator : Allocator)
    (program : Program) (others : List UInt64) : List Moment :=
  (b.course sink config allocator program).moments others

/-- Forgetting the states gives the trace of the run. -/
theorem moments_events (b : Bench) (sink : Log.Sink) (c : Config) (a : Allocator) (p : Program)
    (others : List UInt64) :
    (b.moments sink c a p others).map Moment.event = (b.run sink c a p).events :=
  (b.course sink c a p).moments_events others

end Bench

/-! ### The phases of a run -/

/-- The number of bytes a run asks for. -/
def Config.tapeSize (c : Config) : UInt64 := Tape.effectiveSize c.requestedSize

theorem Config.tapeSize_toNat (c : Config) :
    c.tapeSize.toNat = max c.requestedSize.toNat 30000 := Tape.effectiveSize_toNat _

/-- The trap after one more request. -/
def Trap.hit (t : Trap) : Trap := { t with hits := t.hits + 1 }

namespace Course

/-- Up to the end of the call. -/
def opening (sink : Log.Sink) (c : Config) (a : Allocator) (p : Program)
    (h : a.Grants c.tapeSize) : List Event :=
  [.alloc c.tapeSize] ++ sink.emit (.provisioned a.base c.tapeSize c.requestedSize)
    ++ sink.emit (.advanced .start .provisioned) ++ sink.emit (.invoking a.base)
    ++ [.call a.base] ++ (p.exec (a.tape c.tapeSize h.possible) a.base).events

/-- From the return of the entry point to the verdict. -/
def checking (sink : Log.Sink) (base size pointer : UInt64) : List Event :=
  sink.emit (.returned pointer) ++ sink.emit (.advanced .provisioned .invoked)
    ++ (match Verdict.check base size pointer with
      | .inBounds _ => []
      | .outOfBounds => sink.emit (.leftTape pointer base (base + size)))
    ++ sink.emit (.advanced .invoked .validated)

/-- The report. -/
def reporting (sink : Log.Sink) (written : Writer.Written) : List Event :=
  written.events ++ written.complaint sink ++ sink.emit (.advanced .validated .reported)

/-- The request for attention. -/
def trapping (sink : Log.Sink) (t : Trap) : List Event :=
  (t.request sink).2 ++ sink.emit (.advanced .reported .trapped)

/-- The tape is given back. -/
def releasing (sink : Log.Sink) (size : UInt64) : List Event :=
  [.release size] ++ sink.emit (.advanced .trapped .released)
    ++ sink.emit (.advanced .released .finished)

theorem milestones_opening (sink : Log.Sink) (c : Config) (a : Allocator) (p : Program)
    (h : a.Grants c.tapeSize) :
    milestones (opening sink c a p h) =
      [.alloc c.tapeSize] ++ sink.emit (.advanced .start .provisioned) ++ [.call a.base]
        ++ (p.exec (a.tape c.tapeSize h.possible) a.base).events := by
  simp [opening, Event.isMilestone]

theorem milestones_checking (sink : Log.Sink) (base size pointer : UInt64) :
    milestones (checking sink base size pointer) =
      sink.emit (.advanced .provisioned .invoked) ++ sink.emit (.advanced .invoked .validated) := by
  unfold checking
  cases Verdict.check base size pointer <;> simp [Event.isMilestone]

theorem milestones_reporting (sink : Log.Sink) (r : Report) (w : Writer) :
    milestones (reporting sink (r.send w)) =
      (r.send w).events ++ sink.emit (.advanced .validated .reported) := by
  simp [reporting, Event.isMilestone]

theorem milestones_trapping (sink : Log.Sink) (t : Trap) :
    milestones (trapping sink t) = [.trap] ++ sink.emit (.advanced .reported .trapped) := by
  simp [trapping, Event.isMilestone]

theorem milestones_releasing (sink : Log.Sink) (size : UInt64) :
    milestones (releasing sink size) =
      [.release size] ++ sink.emit (.advanced .trapped .released)
        ++ sink.emit (.advanced .released .finished) := by
  simp [releasing, Event.isMilestone]

/-! The effects of each phase are those of its milestones. -/

theorem effects_opening (sink : Log.Sink) (c : Config) (a : Allocator) (p : Program)
    (h : a.Grants c.tapeSize) :
    effects (opening sink c a p h) =
      [.alloc c.tapeSize, .call a.base]
        ++ (p.exec (a.tape c.tapeSize h.possible) a.base).events := by
  rw [← effects_milestones, milestones_opening]
  simp only [effects_append, effects_emit, effects_exec, List.append_assoc]
  rfl

theorem effects_checking (sink : Log.Sink) (base size pointer : UInt64) :
    effects (checking sink base size pointer) = [] := by
  rw [← effects_milestones, milestones_checking, effects_append, effects_emit, effects_emit]
  rfl

theorem effects_reporting (sink : Log.Sink) (r : Report) (w : Writer) :
    effects (reporting sink (r.send w)) = (r.send w).events := by
  rw [← effects_milestones, milestones_reporting, effects_append, effects_send, effects_emit,
    List.append_nil]

theorem effects_trapping (sink : Log.Sink) (t : Trap) : effects (trapping sink t) = [.trap] := by
  rw [← effects_milestones, milestones_trapping, effects_append, effects_emit]
  rfl

theorem effects_releasing (sink : Log.Sink) (size : UInt64) :
    effects (releasing sink size) = [.release size] := by
  rw [← effects_milestones, milestones_releasing]
  simp only [effects_append, effects_emit, List.append_nil]
  rfl

end Course

namespace Bench

open Course

variable {b : Bench} {sink : Log.Sink} {c : Config} {a : Allocator} {p : Program}

/-- The report on a pointer that the entry point returned, sent to the writer. -/
def delivery (b : Bench) (c : Config) (a : Allocator) (pointer : UInt64) : Writer.Written :=
  Report.send ⟨a.base, pointer, Verdict.check a.base c.tapeSize pointer⟩ b.writer

/-- The tape of a run whose allocator grants it. -/
theorem provision_tapeSize (h : a.Grants c.tapeSize) (sink : Log.Sink) :
    a.provision sink c.requestedSize =
      (.ok (a.tape c.tapeSize h.possible),
        .alloc c.tapeSize :: sink.emit (.provisioned a.base c.tapeSize c.requestedSize)) :=
  Allocator.provision_granted h sink

/-! The three courses, told once: how the run ends, what it leaves, and its moments. -/

theorem course_refused (b : Bench) (sink : Log.Sink) (p : Program) (h : ¬ a.Grants c.tapeSize)
    (others : List UInt64) :
    (b.course sink c a p).outcome = .failed (.resourceExhaustion c.tapeSize)
    ∧ (b.course sink c a p).last.bench = b
    ∧ (b.course sink c a p).moments others =
        during b others (Allocator.refusal c.tapeSize ++ sink.emit (.refused c.tapeSize)) := by
  unfold course
  rw [Allocator.provision_refused h]
  exact ⟨rfl, rfl, List.append_nil _⟩

theorem course_panicked (b : Bench) (sink : Log.Sink) (h : a.Grants c.tapeSize) {text : String}
    (hcall : (p.exec (a.tape c.tapeSize h.possible) a.base).outcome = .panicked text)
    (others : List UInt64) :
    (b.course sink c a p).outcome = .panicked text
    ∧ (b.course sink c a p).last.bench = b
    ∧ (b.course sink c a p).moments others =
        during b (c.tapeSize :: others) (opening sink c a p h)
          ++ during b others [.release c.tapeSize] := by
  have hsize := Program.exec_size p (a.tape c.tapeSize h.possible) a.base
  unfold course courseOn
  rw [provision_tapeSize h]
  simp only [Tape.invoke_panicked sink hcall, Allocator.tape_base, hsize, Allocator.tape_size,
    Walk.advance]
  refine ⟨rfl, rfl, ?_⟩
  simp [Course.moments, phases, Course.after, Phase.moments, opening, during]

theorem course_returned (b : Bench) (sink : Log.Sink) (h : a.Grants c.tapeSize) {pointer : UInt64}
    (hcall : (p.exec (a.tape c.tapeSize h.possible) a.base).outcome = .returned pointer)
    (others : List UInt64) :
    (b.course sink c a p).outcome = (match (b.delivery c a pointer).error with
        | some e => .failed (.io e)
        | none => .finished ⟨a.base, c.tapeSize, pointer,
            Verdict.check a.base c.tapeSize pointer, Stage.all⟩)
    ∧ (b.course sink c a p).last.bench = ⟨(b.delivery c a pointer).writer, b.trap.hit⟩
    ∧ (b.course sink c a p).moments others =
        during b (c.tapeSize :: others)
            (opening sink c a p h ++ checking sink a.base c.tapeSize pointer)
          ++ during ⟨(b.delivery c a pointer).writer, b.trap⟩ (c.tapeSize :: others)
            (reporting sink (b.delivery c a pointer))
          ++ during ⟨(b.delivery c a pointer).writer, b.trap.hit⟩ (c.tapeSize :: others)
            (trapping sink b.trap)
          ++ during ⟨(b.delivery c a pointer).writer, b.trap.hit⟩ others
            (releasing sink c.tapeSize) := by
  -- the call leaves base and size of the tape, so the report is on the tape as it was made
  have hbase := Program.exec_base p (a.tape c.tapeSize h.possible) a.base
  have hsize := Program.exec_size p (a.tape c.tapeSize h.possible) a.base
  unfold course courseOn
  rw [provision_tapeSize h]
  simp only [Tape.invoke_returned sink hcall, conclude, Allocator.tape_base, hbase, hsize,
    Allocator.tape_size, Verdict.warning, Walk.advance, Walk.stages]
  refine ⟨rfl, rfl, ?_⟩
  simp only [Course.moments, phases, after, Phase.moments, during, opening, checking, reporting,
    trapping, releasing, delivery, Option.toList_some, Option.toList_none, List.flatMap_cons,
    List.flatMap_nil, List.map_append, List.map_cons, List.append_assoc, List.cons_append,
    List.nil_append, List.append_nil]
  rfl

theorem run_refused (h : ¬ a.Grants c.tapeSize) :
    b.run sink c a p = ⟨.failed (.resourceExhaustion c.tapeSize), b,
      Allocator.refusal c.tapeSize ++ sink.emit (.refused c.tapeSize)⟩ := by
  obtain ⟨houtcome, hbench, hmoments⟩ := b.course_refused sink p h []
  rw [run, Course.run_eq _ [], houtcome, hbench, hmoments, during_events]

theorem run_panicked (h : a.Grants c.tapeSize) {text : String}
    (hcall : (p.exec (a.tape c.tapeSize h.possible) a.base).outcome = .panicked text) :
    b.run sink c a p =
      ⟨.panicked text, b, opening sink c a p h ++ [.release c.tapeSize]⟩ := by
  obtain ⟨houtcome, hbench, hmoments⟩ := b.course_panicked sink h hcall []
  rw [run, Course.run_eq _ [], houtcome, hbench, hmoments, List.map_append, during_events,
    during_events]

theorem run_returned (h : a.Grants c.tapeSize) {pointer : UInt64}
    (hcall : (p.exec (a.tape c.tapeSize h.possible) a.base).outcome = .returned pointer) :
    b.run sink c a p =
      { outcome := match (b.delivery c a pointer).error with
          | some e => .failed (.io e)
          | none => .finished ⟨a.base, c.tapeSize, pointer,
              Verdict.check a.base c.tapeSize pointer, Stage.all⟩
        bench := ⟨(b.delivery c a pointer).writer, b.trap.hit⟩
        events := opening sink c a p h ++ checking sink a.base c.tapeSize pointer
          ++ reporting sink (b.delivery c a pointer) ++ trapping sink b.trap
          ++ releasing sink c.tapeSize } := by
  obtain ⟨houtcome, hbench, hmoments⟩ := b.course_returned sink h hcall []
  rw [run, Course.run_eq _ [], houtcome, hbench, hmoments]
  simp only [List.map_append, during_events]

/-- Every run takes one of the three courses. -/
theorem run_cases (c : Config) (a : Allocator) (p : Program) :
    ¬ a.Grants c.tapeSize
    ∨ (∃ (h : a.Grants c.tapeSize) (text : String),
        (p.exec (a.tape c.tapeSize h.possible) a.base).outcome = .panicked text)
    ∨ ∃ (h : a.Grants c.tapeSize) (pointer : UInt64),
        (p.exec (a.tape c.tapeSize h.possible) a.base).outcome = .returned pointer := by
  by_cases h : a.Grants c.tapeSize
  · cases hcall : (p.exec (a.tape c.tapeSize h.possible) a.base).outcome with
    | panicked text => exact Or.inr (Or.inl ⟨h, text, hcall⟩)
    | returned pointer => exact Or.inr (Or.inr ⟨h, pointer, hcall⟩)
  · exact Or.inl h

theorem run_outcome_of_sent (h : a.Grants c.tapeSize) {pointer : UInt64}
    (hcall : (p.exec (a.tape c.tapeSize h.possible) a.base).outcome = .returned pointer)
    (hsent : (b.delivery c a pointer).error = none) :
    (b.run sink c a p).outcome = .finished ⟨a.base, c.tapeSize, pointer,
      Verdict.check a.base c.tapeSize pointer, Stage.all⟩ := by
  rw [run_returned h hcall]
  simp only [hsent]

/-- A run that finishes had its tape, its entry point returned, and its report arrived. -/
theorem run_finished_inv {r : RunReport} (hr : (b.run sink c a p).outcome = .finished r) :
    ∃ (h : a.Grants c.tapeSize) (pointer : UInt64),
      (p.exec (a.tape c.tapeSize h.possible) a.base).outcome = .returned pointer
      ∧ (b.delivery c a pointer).error = none
      ∧ r = ⟨a.base, c.tapeSize, pointer, Verdict.check a.base c.tapeSize pointer, Stage.all⟩ := by
  rcases run_cases c a p with h | ⟨h, text, hcall⟩ | ⟨h, pointer, hcall⟩
  · rw [run_refused h] at hr
    cases hr
  · rw [run_panicked h hcall] at hr
    cases hr
  · rw [run_returned h hcall] at hr
    refine ⟨h, pointer, hcall, ?_⟩
    cases he : (b.delivery c a pointer).error with
    | some e =>
        simp only [he] at hr
        cases hr
    | none =>
        simp only [he, Outcome.finished.injEq] at hr
        exact ⟨rfl, hr.symm⟩

/-! ### What the three courses show -/

theorem effects_run_refused (h : ¬ a.Grants c.tapeSize) :
    effects (b.run sink c a p).events = Allocator.refusal c.tapeSize := by
  rw [run_refused h, effects_append, effects_emit, List.append_nil]
  unfold Allocator.refusal
  split <;> rfl

theorem milestones_run_returned (h : a.Grants c.tapeSize) {pointer : UInt64}
    (hcall : (p.exec (a.tape c.tapeSize h.possible) a.base).outcome = .returned pointer) :
    milestones (b.run sink c a p).events =
      [.alloc c.tapeSize] ++ sink.emit (.advanced .start .provisioned)
        ++ [.call a.base] ++ (p.exec (a.tape c.tapeSize h.possible) a.base).events
        ++ sink.emit (.advanced .provisioned .invoked) ++ sink.emit (.advanced .invoked .validated)
        ++ (b.delivery c a pointer).events ++ sink.emit (.advanced .validated .reported)
        ++ [.trap] ++ sink.emit (.advanced .reported .trapped)
        ++ [.release c.tapeSize] ++ sink.emit (.advanced .trapped .released)
        ++ sink.emit (.advanced .released .finished) := by
  rw [run_returned h hcall]
  simp only [delivery, milestones_append, milestones_opening, milestones_checking,
    milestones_reporting, milestones_trapping, milestones_releasing, List.append_assoc]

theorem effects_run_returned (h : a.Grants c.tapeSize) {pointer : UInt64}
    (hcall : (p.exec (a.tape c.tapeSize h.possible) a.base).outcome = .returned pointer) :
    effects (b.run sink c a p).events =
      [.alloc c.tapeSize, .call a.base] ++ (p.exec (a.tape c.tapeSize h.possible) a.base).events
        ++ (b.delivery c a pointer).events ++ [.trap, .release c.tapeSize] := by
  rw [run_returned h hcall]
  simp only [delivery, effects_append, effects_opening, effects_checking, effects_reporting,
    effects_trapping, effects_releasing, List.append_assoc]
  rfl

/-- What a run does itself: it makes the tape, calls the entry point, requests attention and gives
the tape back, each of them once. -/
theorem count_run_returned (h : a.Grants c.tapeSize) {pointer : UInt64}
    (hcall : (p.exec (a.tape c.tapeSize h.possible) a.base).outcome = .returned pointer)
    {e : Event} (he : e.isFrame = true) :
    (b.run sink c a p).events.count e =
      [.alloc c.tapeSize, .call a.base, .trap, .release c.tapeSize].count e := by
  have hown : (p.exec (a.tape c.tapeSize h.possible) a.base).events.count e = 0 :=
    count_eq_zero_of_isFrame he fun f hf => isFrame_of_isOwn (p.exec_events _ _ f hf)
  have hsent : (b.delivery c a pointer).events.count e = 0 :=
    count_eq_zero_of_isFrame he fun f hf => isFrame_of_isDelivery (Report.mem_send_events _ _ f hf)
  rw [← count_effects (isEffect_of_isFrame he), effects_run_returned h hcall]
  simp only [List.count_append, hown, hsent, Nat.add_zero]
  rw [← List.count_append]
  rfl

theorem effects_run_panicked (h : a.Grants c.tapeSize) {text : String}
    (hcall : (p.exec (a.tape c.tapeSize h.possible) a.base).outcome = .panicked text) :
    effects (b.run sink c a p).events =
      [.alloc c.tapeSize, .call a.base] ++ (p.exec (a.tape c.tapeSize h.possible) a.base).events
        ++ [.release c.tapeSize] := by
  rw [run_panicked h hcall, effects_append, effects_opening]
  rfl

/-- A run whose entry point breaks off gives its tape back, and does not request attention. -/
theorem count_run_panicked (h : a.Grants c.tapeSize) {text : String}
    (hcall : (p.exec (a.tape c.tapeSize h.possible) a.base).outcome = .panicked text)
    {e : Event} (he : e.isFrame = true) :
    (b.run sink c a p).events.count e =
      [.alloc c.tapeSize, .call a.base, .release c.tapeSize].count e := by
  have hown : (p.exec (a.tape c.tapeSize h.possible) a.base).events.count e = 0 :=
    count_eq_zero_of_isFrame he fun f hf => isFrame_of_isOwn (p.exec_events _ _ f hf)
  rw [← count_effects (isEffect_of_isFrame he), effects_run_panicked h hcall]
  simp only [List.count_append, hown, Nat.add_zero]
  rw [← List.count_append]
  rfl

theorem mem_run_returned (h : a.Grants c.tapeSize) {pointer : UInt64}
    (hcall : (p.exec (a.tape c.tapeSize h.possible) a.base).outcome = .returned pointer)
    {e : Event} (he : e.isFrame = true) :
    e ∈ (b.run sink c a p).events ↔
      e ∈ [.alloc c.tapeSize, .call a.base, .trap, .release c.tapeSize] := by
  rw [← List.count_pos_iff, count_run_returned h hcall he, List.count_pos_iff]

/-- A regular writer is found full or flushed, once in a run. -/
theorem delivery_events (hw : b.writer.Regular) (c : Config) (a : Allocator) (pointer : UInt64) :
    ∃ output, (output = .writeFailed ∨ output = .flush (b.delivery c a pointer).writer.kept.length)
      ∧ (b.delivery c a pointer).events = [output] := by
  rcases Report.send_events ⟨a.base, pointer, Verdict.check a.base c.tapeSize pointer⟩ hw with h | h
  · exact ⟨_, Or.inl rfl, h⟩
  · exact ⟨_, Or.inr rfl, h⟩

/-! ### The same three courses, moment by moment -/

variable {others : List UInt64}

theorem moments_refused (h : ¬ a.Grants c.tapeSize) :
    b.moments sink c a p others =
      during b others (Allocator.refusal c.tapeSize ++ sink.emit (.refused c.tapeSize)) :=
  (b.course_refused sink p h others).2.2

theorem moments_panicked (h : a.Grants c.tapeSize) {text : String}
    (hcall : (p.exec (a.tape c.tapeSize h.possible) a.base).outcome = .panicked text) :
    b.moments sink c a p others =
      during b (c.tapeSize :: others) (opening sink c a p h)
        ++ during b others [.release c.tapeSize] :=
  (b.course_panicked sink h hcall others).2.2

theorem moments_returned (h : a.Grants c.tapeSize) {pointer : UInt64}
    (hcall : (p.exec (a.tape c.tapeSize h.possible) a.base).outcome = .returned pointer) :
    b.moments sink c a p others =
      during b (c.tapeSize :: others)
          (opening sink c a p h ++ checking sink a.base c.tapeSize pointer)
        ++ during ⟨(b.delivery c a pointer).writer, b.trap⟩ (c.tapeSize :: others)
          (reporting sink (b.delivery c a pointer))
        ++ during ⟨(b.delivery c a pointer).writer, b.trap.hit⟩ (c.tapeSize :: others)
          (trapping sink b.trap)
        ++ during ⟨(b.delivery c a pointer).writer, b.trap.hit⟩ others
          (releasing sink c.tapeSize) :=
  (b.course_returned sink h hcall others).2.2

/-- The report is written in one phase, after the call and before the request for attention: up to
it the writer is as it was, from the request on it is as the run leaves it. -/
theorem moments_phases (h : a.Grants c.tapeSize) {pointer : UInt64}
    (hcall : (p.exec (a.tape c.tapeSize h.possible) a.base).outcome = .returned pointer) :
    ∃ called reported ended : List Moment,
      b.moments sink c a p others = called ++ reported ++ ended
      ∧ effects (called.map Moment.event) =
          [.alloc c.tapeSize, .call a.base] ++ (p.exec (a.tape c.tapeSize h.possible) a.base).events
      ∧ effects (reported.map Moment.event) = (b.delivery c a pointer).events
      ∧ effects (ended.map Moment.event) = [.trap, .release c.tapeSize]
      ∧ (∀ m ∈ called, m.bench = b)
      ∧ ∀ m ∈ ended, m.bench = (b.run sink c a p).bench := by
  rw [moments_returned h hcall, List.append_assoc, List.append_assoc]
  refine ⟨_, _, _, (List.append_assoc ..).symm, ?_, ?_, ?_, ?_, ?_⟩
  · rw [during_events, effects_append, effects_opening, effects_checking, List.append_nil]
  · rw [during_events]
    exact effects_reporting sink _ b.writer
  · rw [List.map_append, during_events, during_events, effects_append, effects_trapping,
      effects_releasing]
    rfl
  · intro m hm
    exact (mem_during hm).2.1
  · intro m hm
    rw [run_returned h hcall]
    rcases List.mem_append.mp hm with hm | hm
    · exact (mem_during hm).2.1
    · exact (mem_during hm).2.1

end Bench

end TapeProbe
