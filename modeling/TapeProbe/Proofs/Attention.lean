import TapeProbe.Proofs.SharedWriter

/-!
# Requests for attention

The trap of a session counts the requests for attention. It counts the requests that are in the
trace, one by one (`Tallies`), so at every event the count is known from the trace up to there.

Between steps it is known from the steps alone. A step requests attention once if it is a request,
or a run that came as far as its report, and not otherwise (`Session.count_trap_step`). That the
report could not be written makes no difference. Within a run the request has one place: the report
is behind it, and the tape is still there (`Asked`).
-/

namespace TapeProbe

/-! ### Requests, event by event -/

/-- The requests so far, in view. -/
def requests (b : Bench) (_ : List UInt64) : Nat := b.trap.hits

/-- A request counts once, and nothing else counts. -/
def Tallies (before : Nat) (e : Event) (after : Nat) : Prop := after = before + [e].count .trap

/-- The tally of a whole stretch. -/
theorem Leads.tally {x y : Nat} {ms : List Moment} (h : Leads requests Tallies x ms y) :
    y = x + (ms.map Moment.event).count .trap := by
  induction ms generalizing x with
  | nil =>
      cases h
      rfl
  | cons m ms ih =>
      obtain ⟨hm, hms⟩ := h
      have hcons : ((m :: ms).map Moment.event).count .trap
          = [m.event].count .trap + (ms.map Moment.event).count .trap := by
        rw [List.map_cons, ← List.count_append, List.singleton_append]
      rw [ih hms, hm, hcons, Nat.add_assoc]

theorem tallies_of_ne {e : Event} (h : e ≠ .trap) (x : Nat) : Tallies x e x := by
  unfold Tallies
  rw [List.count_singleton, if_neg (by simpa using h), Nat.add_zero]

theorem leads_unrequested {b : Bench} {alive : List UInt64} {es : List Event} {n : Nat}
    (hn : b.trap.hits = n) (h : .trap ∉ es) : Leads requests Tallies n (during b alive es) n := by
  subst hn
  change Leads requests Tallies (requests b alive) _ (requests b alive)
  exact leads_during fun _ he => tallies_of_ne (fun heq => h (heq ▸ he)) _

/-! ### Events without a request -/

theorem not_mem_exec_of_isFrame {e : Event} (he : e.isFrame = true) (p : Program) (t : Tape)
    (cursor : UInt64) : e ∉ (p.exec t cursor).events := by
  intro hmem
  rw [isFrame_of_isOwn (p.exec_events t cursor e hmem)] at he
  cases he

theorem not_isDelivery_of_isFrame {e : Event} (he : e.isFrame = true) :
    ¬ Writer.IsDelivery e := by
  intro hdelivery
  rw [isFrame_of_isDelivery hdelivery] at he
  cases he

theorem not_mem_send_of_isFrame {e : Event} (he : e.isFrame = true) (r : Report) (w : Writer) :
    e ∉ (r.send w).events :=
  fun hmem => not_isDelivery_of_isFrame he (r.mem_send_events w e hmem)

@[simp] theorem trap_not_mem_emit (sink : Log.Sink) (m : Log.Message) : .trap ∉ sink.emit m := by
  unfold Log.Sink.emit
  cases sink m <;> simp

@[simp] theorem trap_not_mem_exec (p : Program) (t : Tape) (cursor : UInt64) :
    .trap ∉ (p.exec t cursor).events := not_mem_exec_of_isFrame rfl p t cursor

@[simp] theorem trap_not_mem_send (r : Report) (w : Writer) : .trap ∉ (r.send w).events :=
  not_mem_send_of_isFrame rfl r w

theorem trap_not_mem_of_effects {es : List Event} (h : effects es = []) : .trap ∉ es := by
  rw [← mem_effects rfl, h]
  exact List.not_mem_nil

/-- Of a request, only the request is an effect. -/
theorem Trap.request_eq (t : Trap) (sink : Log.Sink) :
    ∃ said, (t.request sink).2 = .trap :: said ∧ effects said = [] := by
  refine ⟨_, rfl, ?_⟩
  cases t.kind with
  | counting => rfl
  | breakpoint => exact effects_emit sink _

@[simp] theorem trap_not_mem_refusal (size : UInt64) : .trap ∉ Allocator.refusal size := by
  unfold Allocator.refusal
  split <;> simp

theorem trap_not_mem_invoke (t : Tape) (sink : Log.Sink) (p : Program) :
    .trap ∉ (t.invoke sink p).events := by
  cases hcall : (p.exec t t.base).outcome with
  | returned pointer =>
      rw [Tape.invoke_returned sink hcall]
      simp
  | panicked text =>
      rw [Tape.invoke_panicked sink hcall]
      simp

/-- A request first, and no other effect. -/
theorem leads_requested {w : Writer} {t : Trap} {alive : List UInt64} {said : List Event}
    (h : effects said = []) :
    Leads requests Tallies t.hits (during ⟨w, t.hit⟩ alive (.trap :: said)) t.hit.hits := by
  change Leads requests Tallies t.hits _ (requests ⟨w, t.hit⟩ alive)
  exact leads_during_cons rfl
    fun _ he => tallies_of_ne (fun heq => trap_not_mem_of_effects h (heq ▸ he)) _

namespace Course

theorem trap_not_mem_opening (sink : Log.Sink) (c : Config) (a : Allocator) (p : Program)
    (h : a.Grants c.tapeSize) : .trap ∉ opening sink c a p h := by
  rw [← mem_effects rfl, effects_opening]
  simp

theorem trap_not_mem_checking (sink : Log.Sink) (base size pointer : UInt64) :
    .trap ∉ checking sink base size pointer :=
  trap_not_mem_of_effects (effects_checking sink base size pointer)

theorem trap_not_mem_reporting (sink : Log.Sink) (r : Report) (w : Writer) :
    .trap ∉ reporting sink (r.send w) := by
  rw [← mem_effects rfl, effects_reporting]
  exact trap_not_mem_send r w

theorem trap_not_mem_releasing (sink : Log.Sink) (size : UInt64) :
    .trap ∉ releasing sink size := by
  rw [← mem_effects rfl, effects_releasing]
  simp

/-- The request comes first in its phase, and no effect follows. -/
theorem trapping_eq (sink : Log.Sink) (t : Trap) :
    ∃ said, trapping sink t = .trap :: said ∧ effects said = [] := by
  obtain ⟨said, hrequest, hsaid⟩ := t.request_eq sink
  refine ⟨said ++ sink.emit (.advanced .reported .trapped), ?_, ?_⟩
  · rw [trapping, hrequest, List.cons_append]
  · rw [effects_append, hsaid, effects_emit, List.append_nil]

end Course

/-! ### Runs -/

/-- Did the run come as far as its report? -/
def Outcome.hasReported : Outcome → Bool
  | .finished _ | .failed (.io _) => true
  | _ => false

/-- The request `m` of a run that leaves writer and trap as `last` and has a tape of that size, with
the moments before and after it. -/
structure Asked (last : Bench) (size : UInt64) (before : List Moment) (m : Moment)
    (after : List Moment) : Prop where
  /-- Output goes before, and leaves the writer as the run does. -/
  output_before : ∃ w ∈ before, Writer.IsDelivery w.event ∧ w.bench.writer = last.writer
  /-- No output follows. -/
  no_output_after : ∀ w ∈ m :: after, ¬ Writer.IsDelivery w.event ∧ w.bench.writer = last.writer
  /-- The tape is there. -/
  alive : size ∈ m.alive
  /-- It is given back later. -/
  release_after : .release size ∈ after.map Moment.event
  /-- No tape is given back before. -/
  no_release_before : ∀ n, .release n ∉ before.map Moment.event
  /-- There is no other request. -/
  once : .trap ∉ (before ++ after).map Moment.event

namespace Bench

open Course

variable {b : Bench} {sink : Log.Sink} {c : Config} {a : Allocator} {p : Program}
variable {others : List UInt64}

/-- A run comes as far as its report exactly if it has its tape and its entry point returns. -/
theorem hasReported_run_iff :
    (b.run sink c a p).outcome.hasReported = true ↔ a.Grants c.tapeSize ∧ p.Returns := by
  rcases run_cases c a p with h | ⟨h, text, hcall⟩ | ⟨h, pointer, hcall⟩
  · rw [run_refused h]
    exact iff_of_false Bool.false_ne_true fun hboth => h hboth.1
  · rw [run_panicked h hcall, ← p.exec_returned_iff (a.tape c.tapeSize h.possible) a.base, hcall]
    exact iff_of_false Bool.false_ne_true fun ⟨_, _, hreturned⟩ => CallEnd.noConfusion hreturned
  · have hreturns : p.Returns := (p.exec_returned_iff _ _).mp ⟨pointer, hcall⟩
    refine iff_of_true ?_ ⟨h, hreturns⟩
    rw [run_returned h hcall]
    cases (b.delivery c a pointer).error <;> rfl

/-- A run requests attention once if it comes as far as its report, and not otherwise. -/
theorem count_trap_run (b : Bench) (sink : Log.Sink) (c : Config) (a : Allocator) (p : Program) :
    (b.run sink c a p).events.count .trap
      = if (b.run sink c a p).outcome.hasReported then 1 else 0 := by
  rcases run_cases c a p with h | ⟨h, text, hcall⟩ | ⟨h, pointer, hcall⟩
  · rw [run_refused h]
    exact List.count_eq_zero.mpr (by simp)
  · rw [count_run_panicked h hcall rfl, run_panicked h hcall]
    rfl
  · have hreported : (b.run sink c a p).outcome.hasReported = true :=
      hasReported_run_iff.mpr ⟨h, (p.exec_returned_iff _ _).mp ⟨pointer, hcall⟩⟩
    rw [count_run_returned h hcall rfl, hreported]
    rfl

theorem tallies_moments (b : Bench) (sink : Log.Sink) (c : Config) (a : Allocator) (p : Program)
    (others : List UInt64) :
    Leads requests Tallies b.trap.hits (b.moments sink c a p others)
      (b.run sink c a p).bench.trap.hits := by
  rcases run_cases c a p with h | ⟨h, text, hcall⟩ | ⟨h, pointer, hcall⟩
  · rw [moments_refused h, run_refused h]
    exact leads_unrequested rfl (by simp)
  · rw [moments_panicked h hcall, run_panicked h hcall]
    exact (leads_unrequested rfl (trap_not_mem_opening sink c a p h)).append
      (leads_unrequested rfl (by simp))
  · obtain ⟨said, hrequest, hsaid⟩ := trapping_eq sink b.trap
    rw [moments_returned h hcall, run_returned h hcall, hrequest]
    have hcalled : .trap ∉ opening sink c a p h ++ checking sink a.base c.tapeSize pointer := by
      simp [trap_not_mem_opening, trap_not_mem_checking]
    have hreported : .trap ∉ reporting sink (b.delivery c a pointer) :=
      trap_not_mem_reporting sink _ b.writer
    have htrapping : Leads requests Tallies b.trap.hits
        (during ⟨(b.delivery c a pointer).writer, b.trap.hit⟩ (c.tapeSize :: others)
          (.trap :: said)) b.trap.hit.hits :=
      leads_requested hsaid
    refine (((leads_unrequested rfl hcalled).append ?_).append htrapping).append ?_
    · exact leads_unrequested rfl hreported
    · exact leads_unrequested rfl (trap_not_mem_releasing sink c.tapeSize)

/-- The request of a run whose entry point returns, and the moments around it. -/
theorem moments_request (b : Bench) (sink : Log.Sink) (others : List UInt64)
    (h : a.Grants c.tapeSize) {pointer : UInt64}
    (hcall : (p.exec (a.tape c.tapeSize h.possible) a.base).outcome = .returned pointer) :
    ∃ before after : List Moment,
      b.moments sink c a p others
        = before ++ ⟨.trap, (b.run sink c a p).bench, c.tapeSize :: others⟩ :: after
      ∧ effects (before.map Moment.event)
        = [.alloc c.tapeSize, .call a.base]
          ++ (p.exec (a.tape c.tapeSize h.possible) a.base).events
          ++ (b.delivery c a pointer).events
      ∧ effects (after.map Moment.event) = [.release c.tapeSize]
      ∧ (∀ e ∈ (b.delivery c a pointer).events, ∃ w ∈ before,
          w.event = e ∧ w.bench.writer = (b.run sink c a p).bench.writer)
      ∧ ∀ w ∈ after, w.bench = (b.run sink c a p).bench := by
  obtain ⟨said, hrequest, hsaid⟩ := trapping_eq sink b.trap
  rw [moments_returned h hcall, run_returned h hcall, hrequest]
  refine ⟨during b (c.tapeSize :: others)
        (opening sink c a p h ++ checking sink a.base c.tapeSize pointer)
      ++ during ⟨(b.delivery c a pointer).writer, b.trap⟩ (c.tapeSize :: others)
        (reporting sink (b.delivery c a pointer)),
    during ⟨(b.delivery c a pointer).writer, b.trap.hit⟩ (c.tapeSize :: others) said
      ++ during ⟨(b.delivery c a pointer).writer, b.trap.hit⟩ others (releasing sink c.tapeSize),
    ?_, ?_, ?_, ?_, ?_⟩
  · simp [during]
  · rw [List.map_append, during_events, during_events, effects_append, effects_append,
      effects_opening, effects_checking, List.append_nil]
    exact congrArg _ (effects_reporting sink _ b.writer)
  · rw [List.map_append, during_events, during_events, effects_append, hsaid, effects_releasing,
      List.nil_append]
  · intro e he
    refine ⟨⟨e, ⟨(b.delivery c a pointer).writer, b.trap⟩, c.tapeSize :: others⟩,
      List.mem_append_right _ (List.mem_map.mpr ⟨e, ?_, rfl⟩), rfl, rfl⟩
    simp [reporting, he]
  · intro w hw
    rcases List.mem_append.mp hw with hw | hw
    · exact (mem_during hw).2.1
    · exact (mem_during hw).2.1

/-- A run whose entry point returns has a request between its output and the release of its tape. -/
theorem asked_request (sink : Log.Sink) (others : List UInt64) (hw : b.writer.Regular)
    (h : a.Grants c.tapeSize) {pointer : UInt64}
    (hcall : (p.exec (a.tape c.tapeSize h.possible) a.base).outcome = .returned pointer) :
    ∃ (before : List Moment) (m : Moment) (after : List Moment),
      b.moments sink c a p others = before ++ m :: after
      ∧ Asked (b.run sink c a p).bench c.tapeSize before m after := by
  obtain ⟨before, after, heq, hbefore, hafter, houtput, hlast⟩ :=
    moments_request b sink others h hcall
  have hframe : ∀ e : Event, e.isFrame = true → e ∉ [.alloc c.tapeSize, .call a.base] →
      e ∉ before.map Moment.event := by
    intro e he hne
    rw [← mem_effects (isEffect_of_isFrame he), hbefore]
    simp only [List.mem_append, not_or]
    exact ⟨⟨hne, not_mem_exec_of_isFrame he _ _ _⟩, not_mem_send_of_isFrame he _ _⟩
  have hrelease : ∀ e : Event, e.isEffect = true → e ∈ after.map Moment.event →
      e = .release c.tapeSize := by
    intro e he hmem
    rwa [← mem_effects he, hafter, List.mem_singleton] at hmem
  refine ⟨before, _, after, heq, ?_, ?_, List.mem_cons_self, ?_,
    fun n => hframe (.release n) rfl (by simp), ?_⟩
  · obtain ⟨output, _, hevents⟩ := delivery_events hw c a pointer
    have hsent : output ∈ (b.delivery c a pointer).events := hevents ▸ List.mem_cons_self
    obtain ⟨w, hw, hevent, hwriter⟩ := houtput output hsent
    exact ⟨w, hw, hevent ▸ Report.mem_send_events _ b.writer output hsent, hwriter⟩
  · intro w hw
    rcases List.mem_cons.mp hw with rfl | hw
    · exact ⟨not_isDelivery_of_isFrame rfl, rfl⟩
    · refine ⟨fun hdelivery => not_isDelivery_of_isFrame ?_ hdelivery, by rw [hlast w hw]⟩
      rw [hrelease _ (isEffect_of_isDelivery hdelivery) (List.mem_map_of_mem hw)]
      rfl
  · rw [← mem_effects rfl, hafter]
    exact List.mem_cons_self
  · rw [List.map_append, List.mem_append, not_or]
    exact ⟨hframe .trap rfl (by simp), fun hin => Event.noConfusion (hrelease .trap rfl hin)⟩

/-- Wherever the moments of a run have a request, it stands between the output and the release. -/
theorem asked_of_split (hw : b.writer.Regular) {before after : List Moment} {m : Moment}
    (hsplit : b.moments sink c a p others = before ++ m :: after) (hm : m.event = .trap) :
    Asked (b.run sink c a p).bench c.tapeSize before m after := by
  have htrap : .trap ∈ (b.run sink c a p).events := by
    rw [← moments_events b sink c a p others, hsplit, ← hm]
    simp
  rcases run_cases c a p with h | ⟨h, text, hcall⟩ | ⟨h, pointer, hcall⟩
  · rw [run_refused h] at htrap
    simp at htrap
  · rw [run_panicked h hcall] at htrap
    simp [trap_not_mem_opening] at htrap
  · obtain ⟨before', m', after', heq, hasked⟩ := asked_request sink others hw h hcall
    -- there is one request among the moments, so `m` is the one that is known
    have hother : m ∉ before' ++ after' := fun hin => hasked.once (List.mem_map.mpr ⟨m, hin, hm⟩)
    obtain ⟨hbefore, hafter⟩ := not_or.mp (mt List.mem_append.mpr hother)
    obtain ⟨rfl, rfl, rfl⟩ :=
      (List.append_cons_inj_of_notMem hbefore hafter).mp (heq.symm.trans hsplit)
    exact hasked

end Bench

namespace Job

theorem count_trap_perform (j : Job) (b : Bench) (sink : Log.Sink) :
    (j.perform b sink).events.count .trap
      = if (j.perform b sink).outcome.hasReported then 1 else 0 := by
  unfold perform
  cases j.config with
  | ok c => exact b.count_trap_run sink c j.allocator j.program
  | error e => rfl

theorem tallies_moments (j : Job) (b : Bench) (sink : Log.Sink) (others : List UInt64) :
    Leads requests Tallies b.trap.hits (j.moments b sink others)
      (j.perform b sink).bench.trap.hits := by
  unfold Job.moments perform
  cases j.config with
  | ok c => exact b.tallies_moments sink c j.allocator j.program others
  | error e => rfl

end Job

/-! ### Steps of a session -/

namespace Session

/-- Is the step a request for attention? -/
def Op.isTrap : Op → Bool
  | .trap => true
  | _ => false

/-- Is it the answer to a run that came as far as its report? -/
def Answer.hasReported : Answer → Bool
  | .ran outcome _ => outcome.hasReported
  | _ => false

/-- A step that does not request attention. -/
structure Unasked (s : Session) (done : Stepped) : Prop where
  /-- The trap is as before. -/
  trap : done.session.bench.trap = s.bench.trap
  /-- There is no request among the events. -/
  silent : .trap ∉ done.events
  /-- The step is no run with a report. -/
  answer : done.answer.hasReported = false

variable {s : Session}

theorem unasked_withTape {name : String} {act : Tape → Stepped} (h : ∀ t, s.Unasked (act t)) :
    s.Unasked (s.withTape name act) :=
  withTape_cases ⟨rfl, List.not_mem_nil, rfl⟩ fun t _ => h t

theorem unasked_provision (s : Session) (name : String) (requested : UInt64) (a : Allocator) :
    s.Unasked (s.provision name requested a) := by
  cases hname : s.tapes.tape? name with
  | some t =>
      unfold provision
      rw [hname]
      exact ⟨rfl, List.not_mem_nil, rfl⟩
  | none =>
      by_cases h : a.Grants (Tape.effectiveSize requested)
      · rw [provision_granted hname h]
        exact ⟨rfl, by simp, rfl⟩
      · rw [provision_refused hname h]
        exact ⟨rfl, by simp, rfl⟩

theorem unasked_invoke (s : Session) (name : String) (p : Program) (t : Tape) :
    s.Unasked (s.invoke name p t) := by
  refine ⟨congrArg Bench.trap (s.invoke_bench name p t), ?_, ?_⟩
  · rw [invoke_events]
    exact trap_not_mem_invoke t s.sink p
  · unfold invoke
    dsimp only
    split <;> rfl

theorem unasked_report (s : Session) (t : Tape) : s.Unasked (s.report t) := by
  refine ⟨?_, ?_, ?_⟩
  · unfold report
    dsimp only
    split <;> rfl
  · rw [report_events]
    exact trap_not_mem_send _ _
  · unfold report
    dsimp only
    split <;> rfl

theorem unasked_drop (s : Session) (name : String) : s.Unasked (s.drop name) := by
  unfold drop
  split
  · exact ⟨rfl, by simp, rfl⟩
  · exact ⟨rfl, List.not_mem_nil, rfl⟩

/-- A step that is neither a request nor a run does not request attention. -/
theorem unasked_step {op : Op} (htrap : op ≠ .trap) (hrun : ∀ job, op ≠ .run job) :
    s.Unasked (s.step op) := by
  cases op with
  | provision name requested a => exact s.unasked_provision name requested a
  | invoke name p => exact unasked_withTape fun t => s.unasked_invoke name p t
  | validate name pointer => exact unasked_withTape fun t => ⟨rfl, List.not_mem_nil, rfl⟩
  | report name => exact unasked_withTape s.unasked_report
  | read name start count => exact unasked_withTape fun t => ⟨rfl, List.not_mem_nil, rfl⟩
  | geometry name => exact unasked_withTape fun t => ⟨rfl, List.not_mem_nil, rfl⟩
  | drop name => exact s.unasked_drop name
  | trap => exact absurd rfl htrap
  | run job => exact absurd rfl (hrun job)
  | setVerbosity v => exact ⟨rfl, List.not_mem_nil, rfl⟩

/-- A request counts once, a run with a report counts once, and no other step counts. -/
theorem count_trap_step (s : Session) (op : Op) :
    (s.step op).events.count .trap
      = if op.isTrap || (s.step op).answer.hasReported then 1 else 0 := by
  by_cases htrap : op = .trap
  · obtain ⟨said, hrequest, hsaid⟩ := s.bench.trap.request_eq s.sink
    have hevents : (s.step .trap).events = .trap :: said := hrequest
    rw [htrap, hevents, List.count_cons_self,
      List.count_eq_zero.mpr (trap_not_mem_of_effects hsaid)]
    rfl
  · by_cases hrun : ∃ job, op = .run job
    · obtain ⟨job, rfl⟩ := hrun
      exact job.count_trap_perform s.bench s.sink
    · have hunasked : s.Unasked (s.step op) := unasked_step htrap (not_exists.mp hrun)
      have hother : op.isTrap = false := by
        cases op with
        | trap => exact absurd rfl htrap
        | _ => rfl
      rw [List.count_eq_zero.mpr hunasked.silent, hother, hunasked.answer]
      rfl

theorem tallies_step (s : Session) (op : Op) :
    Leads requests Tallies s.bench.trap.hits (s.moments op)
      (s.step op).session.bench.trap.hits := by
  by_cases hrun : ∃ job, op = .run job
  · obtain ⟨job, rfl⟩ := hrun
    exact job.tallies_moments s.bench s.sink s.tapes.sizes
  · rw [s.moments_of_ne_run (not_exists.mp hrun)]
    by_cases htrap : op = .trap
    · obtain ⟨said, hrequest, hsaid⟩ := s.bench.trap.request_eq s.sink
      have hevents : (s.step .trap).events = .trap :: said := hrequest
      rw [htrap, hevents]
      exact leads_requested hsaid
    · have hunasked : s.Unasked (s.step op) := unasked_step htrap (not_exists.mp hrun)
      rw [hunasked.trap]
      exact leads_unrequested (congrArg Trap.hits hunasked.trap) hunasked.silent

theorem tallies_timeline (s : Session) (ops : List Op) :
    Leads requests Tallies s.bench.trap.hits (s.timeline ops) (s.final ops).bench.trap.hits :=
  (leads_timeline (I := fun _ => True) (fun s op _ => ⟨trivial, s.tallies_step op⟩) trivial ops).2

/-- The requests in the trace of a session, counted by its steps. -/
theorem count_trap_steps (s : Session) (ops : List Op) :
    ((s.steps ops).flatMap Stepped.events).count .trap
      = ops.countP Op.isTrap + (s.steps ops).countP fun done => done.answer.hasReported := by
  induction ops generalizing s with
  | nil => rfl
  | cons op ops ih =>
      have hexclusive : op.isTrap = true → (s.step op).answer.hasReported = false := by
        cases op with
        | trap => exact fun _ => rfl
        | _ => exact fun h => (by cases h)
      rw [steps, List.flatMap_cons, List.count_append, count_trap_step, ih, List.countP_cons,
        List.countP_cons]
      cases htrap : op.isTrap with
      | true =>
          simp [hexclusive htrap]
          omega
      | false =>
          simp
          omega

theorem hasReported_run {job : Job} {c : Config} (hc : job.config = .ok c) :
    (s.step (.run job)).answer.hasReported = true ↔
      job.allocator.Grants c.tapeSize ∧ job.program.Returns := by
  rw [step_run_ok hc]
  exact Bench.hasReported_run_iff

/-- The request of a run in a session stands between its output and the release of its tape. -/
theorem asked_of_run (hw : s.bench.writer.Regular) {job : Job} {before after : List Moment}
    {m : Moment} (hsplit : s.moments (.run job) = before ++ m :: after) (hm : m.event = .trap) :
    ∃ c, job.config = .ok c
      ∧ Asked (s.step (.run job)).session.bench c.tapeSize before m after := by
  have hmoments : job.moments s.bench s.sink s.tapes.sizes = before ++ m :: after := hsplit
  cases hc : job.config with
  | ok c =>
      rw [Job.moments_ok hc] at hmoments
      rw [step_run_ok hc]
      exact ⟨c, rfl, Bench.asked_of_split hw hmoments hm⟩
  | error e =>
      rw [Job.moments, hc] at hmoments
      exact absurd hmoments.symm (List.append_ne_nil_of_right_ne_nil _ (List.cons_ne_nil _ _))

/-- **Attention is accounted for.** In every session with a writer that makes progress, whatever the
kind of its trap and whatever its steps:

* between any two steps, attention has been requested as often as there were steps that request it
  and runs that finished or failed to write their report;
* at every event the count is that of the requests in the trace up to there;
* a step adds one request if it is one, or such a run, and none otherwise. So no other step adds
  any, nor does a run without a tape or without a configuration, nor one that breaks off;
* wherever a run has a request, the output of the run is behind it and the release of its tape is
  ahead, and it is the only one. -/
theorem attention_accounted (s : Session) (hw : s.bench.writer.Regular) (ops : List Op) :
    (s.final ops).bench.trap.hits
        = s.bench.trap.hits + ops.countP Op.isTrap
          + (s.steps ops).countP (fun done => done.answer.hasReported)
    ∧ (s.timeline ops).map Moment.event = (s.steps ops).flatMap Stepped.events
    ∧ (∀ before m after, s.timeline ops = before ++ m :: after →
        m.bench.trap.hits
          = s.bench.trap.hits + ((before ++ [m]).map Moment.event).count .trap)
    ∧ (∀ op, ((s.final ops).step op).session.bench.trap.hits
          = (s.final ops).bench.trap.hits + ((s.final ops).step op).events.count .trap
        ∧ ((s.final ops).step op).events.count .trap
          = if op.isTrap || ((s.final ops).step op).answer.hasReported then 1 else 0)
    ∧ ∀ job, ((s.final ops).moments (.run job)).map Moment.event
          = ((s.final ops).step (.run job)).events
        ∧ ∀ before m after, (s.final ops).moments (.run job) = before ++ m :: after →
            m.event = .trap →
              ∃ c, job.config = .ok c
                ∧ Asked ((s.final ops).step (.run job)).session.bench c.tapeSize before m
                    after := by
  have hleads := s.tallies_timeline ops
  have hregular : (s.final ops).bench.writer.Regular := (took_final hw ops).regular hw
  refine ⟨?_, s.timeline_events ops, fun before m after hsplit => ?_,
    fun op => ⟨?_, count_trap_step _ op⟩, fun job => ⟨moments_events _ _, ?_⟩⟩
  · rw [hleads.tally, timeline_events, count_trap_steps, Nat.add_assoc]
  · rw [hsplit] at hleads
    exact hleads.upTo.tally
  · rw [← moments_events]
    exact ((s.final ops).tallies_step op).tally
  · exact fun before m after hsplit hm => asked_of_run hregular hsplit hm

/-- A request, a run whose writer has no room for the report, a run whose entry point breaks off, a
run without a tape, and a question about a tape that is not there: two requests. -/
theorem attention_accounted_narrow :
    ((start ⟨.narrow, ⟨.breakpoint, 0⟩⟩ .debug).final
        [.trap, .run { program := [.move (-1)] }, .run { program := [.panic "stop"] },
          .run { allocator := { limit := 0 } }, .geometry "a"]).bench.trap.hits = 2
    ∧ (((start ⟨.narrow, ⟨.breakpoint, 0⟩⟩ .debug).final [.trap]).step
        (.run { program := [.move (-1)] })).answer.failure? = some (.io .brokenPipe) := by
  have hreported : ∀ s : Session,
      (s.step (.run { program := [.move (-1)] })).answer.hasReported = true :=
    fun s => (hasReported_run rfl).mpr ⟨by decide, by simp [Program.Returns]⟩
  have hbroken : ∀ s : Session,
      (s.step (.run { program := [.panic "stop"] })).answer.hasReported = false := by
    intro s
    rw [← Bool.not_eq_true, hasReported_run rfl]
    simp [Program.Returns]
  have hrefused : ∀ s : Session,
      (s.step (.run { allocator := { limit := 0 } })).answer.hasReported = false := by
    intro s
    rw [← Bool.not_eq_true, hasReported_run rfl]
    exact fun hboth => absurd hboth.1 (by decide)
  obtain ⟨hhits, -⟩ := attention_accounted (start ⟨.narrow, ⟨.breakpoint, 0⟩⟩ .debug)
    Writer.narrow_regular [.trap, .run { program := [.move (-1)] },
      .run { program := [.panic "stop"] }, .run { allocator := { limit := 0 } }, .geometry "a"]
  refine ⟨?_, ?_⟩
  · rw [hhits]
    simp only [steps, List.countP_cons, List.countP_nil, hreported, hbroken, hrefused]
    rfl
  · have hdelivers : ((start ⟨.narrow, ⟨.breakpoint, 0⟩⟩ .debug).final [.trap]).Delivers
        (.run { program := [.move (-1)] }) ⟨0x200000000, 0x1ffffffff, .outOfBounds⟩ :=
      delivers_of_report? rfl
    exact hdelivers.failure.trans (congrArg (Option.map Failure.io) (Report.send_narrow_error _))

end Session

end TapeProbe
