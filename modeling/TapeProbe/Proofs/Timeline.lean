import TapeProbe.Proofs.Course
import TapeProbe.Proofs.Tapes

/-!
# Sessions, moment by moment

The trace of a session says what happened, not what was there meanwhile. `Session.timeline` tells a
session as moments, each event together with the state it leaves; forgetting the states gives the
trace (`Session.timeline_events`).

What holds at every point of a session is proved with `Leads`: every event takes what is in view
before it to what is in view after it. `leads_timeline` is the induction over the steps, so a proof
says how one step leads from session to session.
-/

namespace TapeProbe

/-! ### Moments that lead from state to state -/

section

variable {σ : Type} {view : Bench → List UInt64 → σ} {R : σ → Event → σ → Prop}

/-- The moments lead from `x` to `y`: each event takes what was in view to what is in view after it,
as `R` says. -/
def Leads (view : Bench → List UInt64 → σ) (R : σ → Event → σ → Prop) :
    σ → List Moment → σ → Prop
  | x, [], y => x = y
  | x, m :: ms, y => R x m.event (view m.bench m.alive) ∧ Leads view R (view m.bench m.alive) ms y

theorem Leads.append {x y z : σ} {ms ns : List Moment} (h : Leads view R x ms y)
    (h' : Leads view R y ns z) : Leads view R x (ms ++ ns) z := by
  induction ms generalizing x with
  | nil =>
      cases h
      exact h'
  | cons m ms ih => exact ⟨h.1, ih h.2⟩

/-- Moments can be stopped after any of them. -/
theorem Leads.upTo {x y : σ} {before after : List Moment} {m : Moment}
    (h : Leads view R x (before ++ m :: after) y) :
    Leads view R x (before ++ [m]) (view m.bench m.alive) := by
  induction before generalizing x with
  | nil => exact ⟨h.1, rfl⟩
  | cons m' before ih => exact ⟨h.1, ih h.2⟩

/-- Events that change nothing in view. -/
theorem leads_during {b : Bench} {alive : List UInt64} {es : List Event}
    (h : ∀ e ∈ es, R (view b alive) e (view b alive)) :
    Leads view R (view b alive) (during b alive es) (view b alive) := by
  induction es with
  | nil => rfl
  | cons e es ih =>
      exact ⟨h e List.mem_cons_self, ih fun f hf => h f (List.mem_cons_of_mem e hf)⟩

/-- Events of which only the first changes what is in view. -/
theorem leads_during_cons {b : Bench} {alive : List UInt64} {x : σ} {e : Event} {es : List Event}
    (he : R x e (view b alive)) (h : ∀ f ∈ es, R (view b alive) f (view b alive)) :
    Leads view R x (during b alive (e :: es)) (view b alive) :=
  ⟨he, leads_during h⟩

end

/-! ### What the steps do -/

namespace Session

variable {s : Session}

/-- A session before its first step. -/
def start (b : Bench) (v : Log.Verbosity) : Session := { bench := b, verbosity := v }

theorem final_cons (s : Session) (op : Op) (ops : List Op) :
    s.final (op :: ops) = (s.step op).session.final ops := rfl

theorem final_append (s : Session) (before after : List Op) :
    s.final (before ++ after) = (s.final before).final after := List.foldl_append

theorem final_concat (s : Session) (ops : List Op) (op : Op) :
    s.final (ops ++ [op]) = ((s.final ops).step op).session := s.final_append ops [op]

theorem withTape_some {name : String} {t : Tape} (ht : s.tapes.tape? name = some t)
    (act : Tape → Stepped) : s.withTape name act = act t := by
  unfold withTape
  rw [ht]

/-- What holds without a tape and of what is done with one, holds of the step. -/
theorem withTape_cases {P : Stepped → Prop} {name : String} {act : Tape → Stepped}
    (hnone : P { session := s, answer := .noTape })
    (hsome : ∀ t, s.tapes.tape? name = some t → P (act t)) : P (s.withTape name act) := by
  cases ht : s.tapes.tape? name with
  | some t =>
      rw [withTape_some ht]
      exact hsome t ht
  | none =>
      unfold withTape
      rw [ht]
      exact hnone

theorem provision_granted {name : String} {requested : UInt64} {a : Allocator}
    (hname : s.tapes.tape? name = none) (h : a.Grants (Tape.effectiveSize requested)) :
    s.provision name requested a =
      ⟨{ s with tapes := s.tapes.put name (a.tape _ h.possible) },
        .provisioned a.base (a.tape _ h.possible).size,
        .alloc (Tape.effectiveSize requested)
          :: s.sink.emit (.provisioned a.base (Tape.effectiveSize requested) requested)⟩ := by
  unfold provision
  rw [hname, Allocator.provision_granted h]
  rfl

theorem provision_refused {name : String} {requested : UInt64} {a : Allocator}
    (hname : s.tapes.tape? name = none) (h : ¬ a.Grants (Tape.effectiveSize requested)) :
    s.provision name requested a =
      ⟨s, .failed (.resourceExhaustion (Tape.effectiveSize requested)),
        Allocator.refusal (Tape.effectiveSize requested)
          ++ s.sink.emit (.refused (Tape.effectiveSize requested))⟩ := by
  unfold provision
  rw [hname, Allocator.provision_refused h]

/-- A call changes a tape, whether it returns or breaks off. -/
theorem invoke_tapes (s : Session) (name : String) (p : Program) (t : Tape) :
    (s.invoke name p t).session.tapes = s.tapes.put name (p.exec t t.base).tape := by
  rw [← t.invoke_tape s.sink]
  unfold invoke
  dsimp only
  split <;> rfl

theorem invoke_events (s : Session) (name : String) (p : Program) (t : Tape) :
    (s.invoke name p t).events = (t.invoke s.sink p).events := by
  unfold invoke
  dsimp only
  split <;> rfl

/-- A report changes the writer, whether it arrives or not. -/
theorem report_tapes (s : Session) (t : Tape) : (s.report t).session.tapes = s.tapes := by
  unfold report
  dsimp only
  split <;> rfl

theorem report_events (s : Session) (t : Tape) :
    (s.report t).events =
      (Report.send ⟨t.base, s.pointer, Verdict.check t.base t.size s.pointer⟩
        s.bench.writer).events := by
  unfold report
  dsimp only
  split <;> rfl

end Session

/-! ### The moments of a session -/

/-- The moments of a job, with tapes of other sizes around. -/
def Job.moments (j : Job) (b : Bench) (sink : Log.Sink) (others : List UInt64) : List Moment :=
  match j.config with
  | .ok c => b.moments sink c j.allocator j.program others
  | .error _ => []

theorem Job.moments_events (j : Job) (b : Bench) (sink : Log.Sink) (others : List UInt64) :
    (j.moments b sink others).map Moment.event = (j.perform b sink).events := by
  unfold Job.moments perform
  cases j.config with
  | ok c => exact b.moments_events sink c j.allocator j.program others
  | error e => rfl

theorem Job.perform_ok {j : Job} {c : Config} (hc : j.config = .ok c) (b : Bench)
    (sink : Log.Sink) : j.perform b sink = b.run sink c j.allocator j.program := by
  unfold perform
  rw [hc]

theorem Job.moments_ok {j : Job} {c : Config} (hc : j.config = .ok c) (b : Bench)
    (sink : Log.Sink) (others : List UInt64) :
    j.moments b sink others = b.moments sink c j.allocator j.program others := by
  unfold Job.moments
  rw [hc]

/-- The moments in which tapes are given back one after another. -/
def Tapes.closing (b : Bench) : Tapes → List Moment
  | [] => []
  | e :: ts => ⟨.release e.2.size, b, sizes ts⟩ :: closing b ts

theorem Tapes.closing_events (b : Bench) (ts : Tapes) :
    (ts.closing b).map Moment.event = ts.release := by
  induction ts with
  | nil => rfl
  | cons e ts ih =>
      rw [closing, List.map_cons, ih]
      rfl

namespace Session

/-- The moments of a step. A run has a tape of its own for a while; every other step has done its
work on the tapes with its first event. -/
def moments (s : Session) : Op → List Moment
  | .run job => job.moments s.bench s.sink s.tapes.sizes
  | op => during (s.step op).session.bench (s.step op).session.tapes.sizes (s.step op).events

/-- The moments of all steps. -/
def timeline (s : Session) : List Op → List Moment
  | [] => []
  | op :: ops => s.moments op ++ (s.step op).session.timeline ops

/-- The moments of the clean-up. -/
def closing (s : Session) : List Moment := s.tapes.closing s.bench

theorem step_run_ok {s : Session} {job : Job} {c : Config} (hc : job.config = .ok c) :
    s.step (.run job) =
      ⟨{ s with bench := (s.bench.run s.sink c job.allocator job.program).bench },
        .ran (s.bench.run s.sink c job.allocator job.program).outcome
          (s.bench.run s.sink c job.allocator job.program).bench.trap.hits,
        (s.bench.run s.sink c job.allocator job.program).events⟩ := by
  rw [← job.perform_ok hc]
  rfl

theorem moments_of_ne_run (s : Session) {op : Op} (hop : ∀ job, op ≠ .run job) :
    s.moments op =
      during (s.step op).session.bench (s.step op).session.tapes.sizes (s.step op).events := by
  cases op with
  | run job => exact absurd rfl (hop job)
  | _ => rfl

theorem moments_events (s : Session) (op : Op) :
    (s.moments op).map Moment.event = (s.step op).events := by
  cases op with
  | run job => exact job.moments_events s.bench s.sink s.tapes.sizes
  | _ => exact during_events _ _ _

/-- Forgetting the states gives the trace of the session. -/
theorem timeline_events (s : Session) (ops : List Op) :
    (s.timeline ops).map Moment.event = (s.steps ops).flatMap Stepped.events := by
  induction ops generalizing s with
  | nil => rfl
  | cons op ops ih =>
      rw [timeline, List.map_append, moments_events, ih]
      rfl

/-- What every step leads to, all steps lead to. -/
theorem leads_timeline {σ : Type} {view : Bench → List UInt64 → σ} {R : σ → Event → σ → Prop}
    {f : Session → σ} {I : Session → Prop}
    (hstep : ∀ s op, I s → I (s.step op).session
      ∧ Leads view R (f s) (s.moments op) (f (s.step op).session))
    {s : Session} (hs : I s) (ops : List Op) :
    I (s.final ops) ∧ Leads view R (f s) (s.timeline ops) (f (s.final ops)) := by
  induction ops generalizing s with
  | nil => exact ⟨hs, rfl⟩
  | cons op ops ih =>
      obtain ⟨hI, hfirst⟩ := hstep s op hs
      obtain ⟨hend, hrest⟩ := ih hI
      exact ⟨hend, hfirst.append hrest⟩

end Session

end TapeProbe
