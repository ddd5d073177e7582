import TapeProbe.Proofs.Timeline

/-!
# Recording

A sink decides which messages are recorded, and nothing else depends on it. The trace under a sink
is the trace under any sink that wants more, with the unwanted messages taken out (`recorded`).

The argument is made once for a message (`recorded_emit`) and carried along the phases of a run to
`Bench.run_eq_recorded`. For sessions there is one more thing to say, since the level may be changed
on the way. So every session is compared with the **loud** one, in which all levels are the highest:
`Session.softens_step` for one step, `Session.loud_final` for all of them.
-/

namespace TapeProbe

/-! ### Taking messages out of a trace -/

/-- Does the event stay in a trace in which only the messages that `sink` wants are recorded? -/
def Event.staysUnder (sink : Log.Sink) : Event → Bool
  | .log m => sink m
  | _ => true

/-- The trace with all messages taken out that `sink` does not want. -/
def recorded (sink : Log.Sink) (es : List Event) : List Event := es.filter (Event.staysUnder sink)

/-- Whatever `sink` wants, `louder` wants too. -/
def Log.Sink.Within (sink louder : Log.Sink) : Prop := ∀ m, sink m = true → louder m = true

section

variable {sink louder : Log.Sink}

@[simp] theorem recorded_append (sink : Log.Sink) (es fs : List Event) :
    recorded sink (es ++ fs) = recorded sink es ++ recorded sink fs := List.filter_append ..

theorem recorded_cons_of_isEffect (sink : Log.Sink) {e : Event} (he : e.isEffect = true)
    (es : List Event) : recorded sink (e :: es) = e :: recorded sink es := by
  cases e with
  | log m => cases he
  | _ => rfl

theorem recorded_eq_self (sink : Log.Sink) {es : List Event} (h : ∀ e ∈ es, e.isEffect = true) :
    recorded sink es = es := by
  refine List.filter_eq_self.mpr fun e he => ?_
  have heffect := h e he
  cases e with
  | log m => cases heffect
  | _ => rfl

/-- A message that is said to `louder` and taken out again is a message that is said to `sink`. -/
theorem recorded_emit (h : sink.Within louder) (m : Log.Message) :
    recorded sink (louder.emit m) = sink.emit m := by
  unfold Log.Sink.emit
  cases hsink : sink m with
  | true =>
      rw [if_pos (h m hsink)]
      simp [recorded, Event.staysUnder, hsink]
  | false =>
      cases hlouder : louder m with
      | true => simp [recorded, Event.staysUnder, hsink]
      | false => rfl

/-- Taking out more and more is taking out at once. -/
theorem recorded_recorded (h : sink.Within louder) (es : List Event) :
    recorded sink (recorded louder es) = recorded sink es := by
  unfold recorded
  rw [List.filter_filter]
  refine List.filter_congr fun e _ => ?_
  cases e with
  | log m =>
      cases hsink : sink m with
      | true => simp [Event.staysUnder, hsink, h m hsink]
      | false => simp [Event.staysUnder, hsink]
  | _ => rfl

theorem effects_recorded (sink : Log.Sink) (es : List Event) :
    effects (recorded sink es) = effects es := by
  unfold effects recorded
  rw [List.filter_filter]
  refine List.filter_congr fun e _ => ?_
  cases e <;> rfl

@[simp] theorem recorded_exec (sink : Log.Sink) (p : Program) (t : Tape) (cursor : UInt64) :
    recorded sink (p.exec t cursor).events = (p.exec t cursor).events :=
  recorded_eq_self sink fun e he => isEffect_of_isOwn (p.exec_events t cursor e he)

@[simp] theorem recorded_send (sink : Log.Sink) (r : Report) (w : Writer) :
    recorded sink (r.send w).events = (r.send w).events :=
  recorded_eq_self sink fun e he => isEffect_of_isDelivery (r.mem_send_events w e he)

theorem recorded_request (h : sink.Within louder) (t : Trap) :
    recorded sink (t.request louder).2 = (t.request sink).2 := by
  unfold Trap.request
  cases t.kind with
  | counting => rfl
  | breakpoint =>
      simp only [recorded_cons_of_isEffect sink (e := .trap) rfl, recorded_emit h]

theorem recorded_complaint (h : sink.Within louder) (written : Writer.Written) :
    recorded sink (written.complaint louder) = written.complaint sink := by
  unfold Writer.Written.complaint
  cases written.error with
  | none => rfl
  | some e => exact recorded_emit h _

theorem recorded_refusal (sink : Log.Sink) (size : UInt64) :
    recorded sink (Allocator.refusal size) = Allocator.refusal size := by
  unfold Allocator.refusal
  split <;> rfl

end

/-! ### Runs -/

namespace Course

variable {sink louder : Log.Sink}

theorem recorded_opening (hsink : sink.Within louder) (c : Config) (a : Allocator) (p : Program)
    (h : a.Grants c.tapeSize) :
    recorded sink (opening louder c a p h) = opening sink c a p h := by
  have halloc : recorded sink [.alloc c.tapeSize] = [.alloc c.tapeSize] := rfl
  have hcall : recorded sink [.call a.base] = [.call a.base] := rfl
  simp only [opening, recorded_append, recorded_emit hsink, recorded_exec, halloc, hcall]

theorem recorded_checking (hsink : sink.Within louder) (base size pointer : UInt64) :
    recorded sink (checking louder base size pointer) = checking sink base size pointer := by
  unfold checking
  cases Verdict.check base size pointer with
  | inBounds offset =>
      simp only [recorded_append, recorded_emit hsink]
      rfl
  | outOfBounds => simp only [recorded_append, recorded_emit hsink]

theorem recorded_reporting (hsink : sink.Within louder) (r : Report) (w : Writer) :
    recorded sink (reporting louder (r.send w)) = reporting sink (r.send w) := by
  simp only [reporting, recorded_append, recorded_send, recorded_complaint hsink,
    recorded_emit hsink]

theorem recorded_trapping (hsink : sink.Within louder) (t : Trap) :
    recorded sink (trapping louder t) = trapping sink t := by
  simp only [trapping, recorded_append, recorded_request hsink, recorded_emit hsink]

theorem recorded_releasing (hsink : sink.Within louder) (size : UInt64) :
    recorded sink (releasing louder size) = releasing sink size := by
  have hrelease : recorded sink [.release size] = [.release size] := rfl
  simp only [releasing, recorded_append, recorded_emit hsink, hrelease]

end Course

/-- The run with all messages taken out that `sink` does not want. -/
def Run.recorded (r : Run) (sink : Log.Sink) : Run :=
  { r with events := TapeProbe.recorded sink r.events }

namespace Bench

variable {sink louder : Log.Sink}

open Course

/-- A run under a sink is the run under a louder one without the messages that are not wanted. -/
theorem run_eq_recorded (hsink : sink.Within louder) (b : Bench) (c : Config) (a : Allocator)
    (p : Program) : b.run sink c a p = (b.run louder c a p).recorded sink := by
  unfold Run.recorded
  rcases run_cases c a p with h | ⟨h, text, hcall⟩ | ⟨h, pointer, hcall⟩
  · simp only [run_refused h, recorded_append, recorded_refusal, recorded_emit hsink]
  · have hrelease : recorded sink [.release c.tapeSize] = [.release c.tapeSize] := rfl
    simp only [run_panicked h hcall, recorded_append, recorded_opening hsink, hrelease]
  · simp only [run_returned h hcall, delivery, recorded_append, recorded_opening hsink,
      recorded_checking hsink, recorded_reporting hsink, recorded_trapping hsink,
      recorded_releasing hsink]

end Bench

theorem Job.perform_eq_recorded {sink louder : Log.Sink} (hsink : sink.Within louder) (j : Job)
    (b : Bench) : j.perform b sink = (j.perform b louder).recorded sink := by
  unfold perform
  cases j.config with
  | ok c => exact b.run_eq_recorded hsink c j.allocator j.program
  | error e => rfl

/-! ### Levels -/

namespace Log.Verbosity

theorem sink_within {v w : Verbosity} (h : v.rank ≤ w.rank) : v.sink.Within w.sink := by
  intro m hm
  simp only [sink, admits, decide_eq_true_eq] at hm ⊢
  omega

theorem rank_le_trace (v : Verbosity) : v.rank ≤ Verbosity.trace.rank := by
  cases v <;> decide

end Log.Verbosity

/-! ### Sessions -/

namespace Session

/-- The session with all messages recorded from now on. -/
def loud (s : Session) : Session := { s with verbosity := .trace }

/-- The same step, where a level that it sets is the highest. -/
def Op.loud : Op → Op
  | .setVerbosity _ => .setVerbosity .trace
  | op => op

theorem sink_within_loud (s : Session) : s.sink.Within s.loud.sink :=
  Log.Verbosity.sink_within s.verbosity.rank_le_trace

/-- Of the loud step, what is left at the level of the session. -/
structure Softens (s : Session) (quiet loud : Stepped) : Prop where
  answer : quiet.answer = loud.answer
  session : quiet.session.loud = loud.session
  events : quiet.events = recorded s.sink loud.events

variable {s : Session}

theorem softens_withTape {name : String} {act act' : Tape → Stepped}
    (h : ∀ t, s.Softens (act t) (act' t)) :
    s.Softens (s.withTape name act) (s.loud.withTape name act') := by
  cases hname : s.tapes.tape? name with
  | some t =>
      have hname' : s.loud.tapes.tape? name = some t := hname
      rw [withTape_some hname, withTape_some hname']
      exact h t
  | none =>
      have hname' : s.loud.tapes.tape? name = none := hname
      unfold withTape
      rw [hname, hname']
      exact ⟨rfl, rfl, rfl⟩

theorem softens_provision (s : Session) (name : String) (requested : UInt64) (a : Allocator) :
    s.Softens (s.provision name requested a) (s.loud.provision name requested a) := by
  cases hname : s.tapes.tape? name with
  | some t =>
      have hname' : s.loud.tapes.tape? name = some t := hname
      unfold provision
      rw [hname, hname']
      exact ⟨rfl, rfl, rfl⟩
  | none =>
      have hname' : s.loud.tapes.tape? name = none := hname
      by_cases hg : a.Grants (Tape.effectiveSize requested)
      · rw [provision_granted hname hg, provision_granted hname' hg]
        refine ⟨rfl, rfl, ?_⟩
        rw [recorded_cons_of_isEffect _ rfl, recorded_emit s.sink_within_loud]
      · rw [provision_refused hname hg, provision_refused hname' hg]
        refine ⟨rfl, rfl, ?_⟩
        rw [recorded_append, recorded_refusal, recorded_emit s.sink_within_loud]

theorem softens_invoke (s : Session) (name : String) (p : Program) (t : Tape) :
    s.Softens (s.invoke name p t) (s.loud.invoke name p t) := by
  have hannounce : recorded s.sink (s.loud.sink.emit (.invoking t.base) ++ [.call t.base]
        ++ (p.exec t t.base).events)
      = s.sink.emit (.invoking t.base) ++ [.call t.base] ++ (p.exec t t.base).events := by
    have hcall : recorded s.sink [.call t.base] = [.call t.base] := rfl
    rw [recorded_append, recorded_append, recorded_emit s.sink_within_loud, recorded_exec, hcall]
  unfold invoke
  cases hcall : (p.exec t t.base).outcome with
  | returned pointer =>
      simp only [Tape.invoke_returned _ hcall]
      refine ⟨rfl, rfl, ?_⟩
      rw [recorded_append, hannounce, recorded_emit s.sink_within_loud]
  | panicked text =>
      simp only [Tape.invoke_panicked _ hcall]
      exact ⟨rfl, rfl, hannounce.symm⟩

theorem softens_report (s : Session) (t : Tape) : s.Softens (s.report t) (s.loud.report t) := by
  have hevents := recorded_send s.sink
    ⟨t.base, s.pointer, Verdict.check t.base t.size s.pointer⟩ s.bench.writer
  cases he : (Report.send ⟨t.base, s.pointer, Verdict.check t.base t.size s.pointer⟩
      s.bench.writer).error with
  | some e =>
      have he' : (Report.send ⟨t.base, s.loud.pointer, Verdict.check t.base t.size s.loud.pointer⟩
          s.loud.bench.writer).error = some e := he
      simp only [report, he, he']
      exact ⟨rfl, rfl, hevents.symm⟩
  | none =>
      have he' : (Report.send ⟨t.base, s.loud.pointer, Verdict.check t.base t.size s.loud.pointer⟩
          s.loud.bench.writer).error = none := he
      simp only [report, he, he']
      exact ⟨rfl, rfl, hevents.symm⟩

theorem softens_drop (s : Session) (name : String) : s.Softens (s.drop name) (s.loud.drop name) := by
  cases hname : s.tapes.tape? name with
  | some t =>
      have hname' : s.loud.tapes.tape? name = some t := hname
      unfold drop
      rw [hname, hname']
      exact ⟨rfl, rfl, rfl⟩
  | none =>
      have hname' : s.loud.tapes.tape? name = none := hname
      unfold drop
      rw [hname, hname']
      exact ⟨rfl, rfl, rfl⟩

theorem softens_trap (s : Session) : s.Softens s.trap s.loud.trap :=
  ⟨rfl, rfl, (recorded_request s.sink_within_loud s.bench.trap).symm⟩

theorem softens_perform (s : Session) (job : Job) :
    s.Softens (s.perform job) (s.loud.perform job) := by
  have hrun := job.perform_eq_recorded s.sink_within_loud s.bench
  unfold perform
  rw [hrun]
  exact ⟨rfl, rfl, rfl⟩

/-- Whatever the levels, a step is what is left of the loud step. -/
theorem softens_step (s : Session) (op : Op) : s.Softens (s.step op) (s.loud.step op.loud) := by
  cases op with
  | provision name requested a => exact s.softens_provision name requested a
  | invoke name p => exact softens_withTape fun t => s.softens_invoke name p t
  | validate name pointer => exact softens_withTape fun t => ⟨rfl, rfl, rfl⟩
  | report name => exact softens_withTape s.softens_report
  | read name start count => exact softens_withTape fun t => ⟨rfl, rfl, rfl⟩
  | geometry name => exact softens_withTape fun t => ⟨rfl, rfl, rfl⟩
  | drop name => exact s.softens_drop name
  | trap => exact s.softens_trap
  | run job => exact s.softens_perform job
  | setVerbosity v => exact ⟨rfl, rfl, rfl⟩

theorem loud_final (s : Session) (ops : List Op) :
    (s.final ops).loud = s.loud.final (ops.map Op.loud) := by
  induction ops generalizing s with
  | nil => rfl
  | cons op ops ih =>
      rw [List.map_cons, final_cons, final_cons, ih, (s.softens_step op).session]

/-! ### Levels and what happens -/

/-- Two steps, done at the levels `v` and `w`, that differ in what is recorded of them and in nothing
else. -/
structure SameButRecords (v w : Log.Verbosity) (x y : Stepped) : Prop where
  /-- The answers are the same. -/
  answer : x.answer = y.answer
  /-- Tapes, writer, trap and last pointer are the same afterwards. -/
  session : x.session.loud = y.session.loud
  /-- What happened is the same, but for records. -/
  effects : effects x.events = effects y.events
  /-- Of two levels, the lower leaves out the records above it. -/
  records : v.rank ≤ w.rank → x.events = recorded v.sink y.events

theorem sameButRecords_step {s t : Session} (hst : s.loud = t.loud) {op op' : Op}
    (hop : op.loud = op'.loud) :
    SameButRecords s.verbosity t.verbosity (s.step op) (t.step op') := by
  have hs := s.softens_step op
  have ht := t.softens_step op'
  rw [← hst, ← hop] at ht
  refine ⟨hs.answer.trans ht.answer.symm, hs.session.trans ht.session.symm, ?_, fun hle => ?_⟩
  · rw [hs.events, ht.events, effects_recorded, effects_recorded]
  · rw [hs.events, ht.events]
    exact (recorded_recorded (Log.Verbosity.sink_within hle) _).symm

/-- **Recording does not interfere.** Whatever the configuration, the memory, the entry point, the
trap and the writer, two runs at two levels end alike, leave the same output and as many requests
for attention, and have the same trace but for log records; the trace at the lower level is the
trace at the higher one without the records above the lower level.

The same is true of every step of two sessions that start alike and take the same steps, each at its
own level and setting its own levels on the way, and of what happens when the two sessions end. -/
theorem levels_do_not_interfere :
    (∀ (b : Bench) (c : Config) (a : Allocator) (p : Program) (v w : Log.Verbosity),
      (b.run v.sink c a p).outcome = (b.run w.sink c a p).outcome
      ∧ (b.run v.sink c a p).bench.writer.output = (b.run w.sink c a p).bench.writer.output
      ∧ (b.run v.sink c a p).bench.trap.hits = (b.run w.sink c a p).bench.trap.hits
      ∧ (b.run v.sink c a p).bench = (b.run w.sink c a p).bench
      ∧ effects (b.run v.sink c a p).events = effects (b.run w.sink c a p).events
      ∧ (v.rank ≤ w.rank →
          (b.run v.sink c a p).events = recorded v.sink (b.run w.sink c a p).events))
    ∧ ∀ (s t : Session) (ops ops' : List Op), s.loud = t.loud →
        ops.map Op.loud = ops'.map Op.loud →
          (s.final ops).loud = (t.final ops').loud
          ∧ (s.final ops).cleanUp = (t.final ops').cleanUp
          ∧ ∀ op op' : Op, op.loud = op'.loud →
              SameButRecords (s.final ops).verbosity (t.final ops').verbosity
                ((s.final ops).step op) ((t.final ops').step op') := by
  refine ⟨?_, ?_⟩
  · intro b c a p v w
    -- both runs are what is left of the run in which everything is recorded
    have hv := b.run_eq_recorded (Log.Verbosity.sink_within v.rank_le_trace) c a p
    have hw := b.run_eq_recorded (Log.Verbosity.sink_within w.rank_le_trace) c a p
    have hbench : (b.run v.sink c a p).bench = (b.run w.sink c a p).bench := by
      rw [hv, hw]
      rfl
    refine ⟨?_, by rw [hbench], by rw [hbench], hbench, ?_, fun hle => ?_⟩
    · rw [hv, hw]
      rfl
    · rw [hv, hw]
      exact (effects_recorded _ _).trans (effects_recorded _ _).symm
    · exact congrArg Run.events (b.run_eq_recorded (Log.Verbosity.sink_within hle) c a p)
  · intro s t ops ops' hst hops
    have hfinal : (s.final ops).loud = (t.final ops').loud := by
      rw [loud_final, loud_final, hst, hops]
    have hclose : (s.final ops).loud.cleanUp = (t.final ops').loud.cleanUp := by rw [hfinal]
    exact ⟨hfinal, hclose, fun op op' => sameButRecords_step hfinal⟩

/-- A session that records errors and one that records everything. Both run an entry point which
leaves its tape with a writer that has no room for the report, the first after turning the level
down to nothing: it says nothing, and all else is the same. -/
theorem levels_do_not_interfere_turned_down :
    SameButRecords .off .trace
      (((start ⟨.narrow, {}⟩ .error).final [.setVerbosity .off]).step
        (.run { program := [.move (-1), .set 7] }))
      (((start ⟨.narrow, {}⟩ .trace).final [.setVerbosity .trace]).step
        (.run { program := [.move (-1), .set 7] })) :=
  (levels_do_not_interfere.2 (start ⟨.narrow, {}⟩ .error) (start ⟨.narrow, {}⟩ .trace)
    [.setVerbosity .off] [.setVerbosity .trace] rfl rfl).2.2 _ _ rfl

end Session

end TapeProbe
