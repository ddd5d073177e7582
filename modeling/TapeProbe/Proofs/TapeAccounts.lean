import Mathlib.Algebra.Order.Group.Multiset
import TapeProbe.Proofs.Timeline

/-!
# Accounts of tapes

No tape is lost, and none is given back twice. At every point of a session the tapes that have been
made are those that have been given back and those that are there, the tape of a run among them
while the run is on. After the clean-up nothing is left.

Tapes are counted by their sizes. The account of one event is `Accounts`; a run leaves the tapes
around it as they are (`Bench.leads_moments`), whichever of its ends it takes, and every step of a
session accounts for the change of the tapes that it makes (`Session.leads_step`).
-/

namespace TapeProbe

/-! ### The account of an event -/

/-- The size of the tape that is made. -/
def Event.allocSize? : Event → Option UInt64
  | .alloc n => some n
  | _ => none

/-- The size of the tape that is given back. -/
def Event.releaseSize? : Event → Option UInt64
  | .release n => some n
  | _ => none

/-- The sizes of all tapes that are made. -/
def allocated (es : List Event) : Multiset UInt64 := ↑(es.filterMap Event.allocSize?)

/-- The sizes of all tapes that are given back. -/
def released (es : List Event) : Multiset UInt64 := ↑(es.filterMap Event.releaseSize?)

theorem allocated_cons (e : Event) (es : List Event) :
    allocated (e :: es) = allocated [e] + allocated es := by
  unfold allocated
  rw [Multiset.coe_add, ← List.filterMap_append]
  rfl

theorem released_cons (e : Event) (es : List Event) :
    released (e :: es) = released [e] + released es := by
  unfold released
  rw [Multiset.coe_add, ← List.filterMap_append]
  rfl

/-- What was there and what an event makes is what it gives back and what is there then. -/
def Accounts (before : Multiset UInt64) (e : Event) (after : Multiset UInt64) : Prop :=
  before + allocated [e] = released [e] + after

/-- The tapes that are there, in view. -/
def live (_ : Bench) (alive : List UInt64) : Multiset UInt64 := ↑alive

/-- The account of a whole stretch. -/
theorem Leads.account {x y : Multiset UInt64} {ms : List Moment} (h : Leads live Accounts x ms y) :
    x + allocated (ms.map Moment.event) = released (ms.map Moment.event) + y := by
  induction ms generalizing x with
  | nil =>
      cases h
      exact add_comm _ 0
  | cons m ms ih =>
      obtain ⟨hm, hms⟩ := h
      rw [List.map_cons, allocated_cons, released_cons]
      calc x + (allocated [m.event] + allocated (ms.map Moment.event))
          = (x + allocated [m.event]) + allocated (ms.map Moment.event) := (add_assoc ..).symm
        _ = released [m.event] + (live m.bench m.alive + allocated (ms.map Moment.event)) := by
            rw [hm, add_assoc]
        _ = released [m.event] + (released (ms.map Moment.event) + y) := by rw [ih hms]
        _ = released [m.event] + released (ms.map Moment.event) + y := (add_assoc ..).symm

/-! ### Calm events -/

/-- Neither makes a tape nor gives one back. -/
def Event.isCalm : Event → Bool
  | .alloc _ | .release _ => false
  | _ => true

/-- No tape is made or given back. -/
def Calm (es : List Event) : Prop := ∀ e ∈ es, e.isCalm = true

theorem accounts_of_isCalm {e : Event} (h : e.isCalm = true) (x : Multiset UInt64) :
    Accounts x e x := by
  cases e with
  | alloc n => cases h
  | release n => cases h
  | _ => exact add_comm x 0

theorem calm_of_isFrame {es : List Event} (h : ∀ e ∈ es, e.isFrame = false) : Calm es := by
  intro e he
  have hframe := h e he
  cases e with
  | alloc n => cases hframe
  | release n => cases hframe
  | _ => rfl

@[simp] theorem calm_nil : Calm [] := fun _ he => absurd he List.not_mem_nil

@[simp] theorem calm_cons {e : Event} {es : List Event} :
    Calm (e :: es) ↔ e.isCalm = true ∧ Calm es := List.forall_mem_cons

@[simp] theorem calm_append {es fs : List Event} : Calm (es ++ fs) ↔ Calm es ∧ Calm fs :=
  List.forall_mem_append

@[simp] theorem calm_emit (sink : Log.Sink) (m : Log.Message) : Calm (sink.emit m) := by
  unfold Log.Sink.emit
  cases sink m with
  | true => simp [Event.isCalm]
  | false => simp

@[simp] theorem calm_exec (p : Program) (t : Tape) (cursor : UInt64) :
    Calm (p.exec t cursor).events :=
  calm_of_isFrame fun e he => isFrame_of_isOwn (p.exec_events t cursor e he)

@[simp] theorem calm_send (r : Report) (w : Writer) : Calm (r.send w).events :=
  calm_of_isFrame fun e he => isFrame_of_isDelivery (r.mem_send_events w e he)

@[simp] theorem calm_complaint (written : Writer.Written) (sink : Log.Sink) :
    Calm (written.complaint sink) := by
  unfold Writer.Written.complaint
  cases written.error <;> simp

@[simp] theorem calm_request (t : Trap) (sink : Log.Sink) : Calm (t.request sink).2 := by
  unfold Trap.request
  cases t.kind <;> simp [Event.isCalm]

theorem calm_refusal (size : UInt64) : Calm (Allocator.refusal size) := by
  unfold Allocator.refusal
  split <;> simp [Event.isCalm]

theorem calm_invoke (t : Tape) (sink : Log.Sink) (p : Program) : Calm (t.invoke sink p).events := by
  cases hcall : (p.exec t t.base).outcome with
  | returned pointer =>
      rw [Tape.invoke_returned sink hcall]
      simp [Event.isCalm]
  | panicked text =>
      rw [Tape.invoke_panicked sink hcall]
      simp [Event.isCalm]

/-! ### Stretches of a session -/

section

variable {b : Bench} {alive others : List UInt64} {n : UInt64} {es : List Event}

theorem leads_calm (hperm : alive.Perm others) (h : Calm es) :
    Leads live Accounts ↑others (during b alive es) ↑alive := by
  rw [← Multiset.coe_eq_coe.mpr hperm]
  exact leads_during fun e he => accounts_of_isCalm (h e he) _

/-- A tape is made first. -/
theorem leads_alloc (hperm : alive.Perm (n :: others)) (h : Calm es) :
    Leads live Accounts ↑others (during b alive (.alloc n :: es)) ↑alive := by
  refine leads_during_cons ?_ fun e he => accounts_of_isCalm (h e he) _
  calc (↑others + allocated [.alloc n] : Multiset UInt64)
      = ↑(n :: others) := add_comm _ _
    _ = released [.alloc n] + live b alive := by
        rw [live, Multiset.coe_eq_coe.mpr hperm]
        exact (zero_add _).symm

/-- A tape is given back first. -/
theorem leads_release (hperm : others.Perm (n :: alive)) (h : Calm es) :
    Leads live Accounts ↑others (during b alive (.release n :: es)) ↑alive := by
  refine leads_during_cons ?_ fun e he => accounts_of_isCalm (h e he) _
  calc (↑others + allocated [.release n] : Multiset UInt64)
      = ↑(n :: alive) := by
        rw [Multiset.coe_eq_coe.mpr hperm]
        exact add_zero _
    _ = released [.release n] + live b alive := rfl

end

/-! ### Runs -/

namespace Bench

variable {b : Bench} {sink : Log.Sink} {c : Config} {a : Allocator} {p : Program}
variable {others : List UInt64}

theorem leads_opening (h : a.Grants c.tapeSize) :
    Leads live Accounts ↑others
      (during b (c.tapeSize :: others) (Course.opening sink c a p h)) ↑(c.tapeSize :: others) := by
  simp only [Course.opening, List.append_assoc, List.singleton_append]
  exact leads_alloc (List.Perm.refl _) (by simp [Event.isCalm])

theorem leads_checking (pointer : UInt64) :
    Leads live Accounts ↑others
      (during b others (Course.checking sink a.base c.tapeSize pointer)) ↑others := by
  refine leads_calm (List.Perm.refl _) ?_
  unfold Course.checking
  cases Verdict.check a.base c.tapeSize pointer <;> simp

theorem leads_reporting (r : Report) (w : Writer) :
    Leads live Accounts ↑others
      (during b others (Course.reporting sink (r.send w))) ↑others :=
  leads_calm (List.Perm.refl _) (by simp [Course.reporting])

theorem leads_trapping (t : Trap) :
    Leads live Accounts ↑others (during b others (Course.trapping sink t)) ↑others :=
  leads_calm (List.Perm.refl _) (by simp [Course.trapping])

theorem leads_releasing (n : UInt64) :
    Leads live Accounts ↑(n :: others) (during b others (Course.releasing sink n)) ↑others := by
  simp only [Course.releasing, List.singleton_append]
  exact leads_release (List.Perm.refl _) (by simp)

/-- A run gives back the tape that it makes, and no other: when the tape is refused, when the entry
point breaks off, and when the run comes to its end. -/
theorem leads_moments (b : Bench) (sink : Log.Sink) (c : Config) (a : Allocator) (p : Program)
    (others : List UInt64) :
    Leads live Accounts ↑others (b.moments sink c a p others) ↑others := by
  rcases run_cases c a p with h | ⟨h, text, hcall⟩ | ⟨h, pointer, hcall⟩
  · rw [moments_refused h]
    exact leads_calm (List.Perm.refl _) (by simp [calm_refusal])
  · rw [moments_panicked h hcall]
    exact (leads_opening h).append (leads_release (List.Perm.refl _) calm_nil)
  · rw [moments_returned h hcall, during_append]
    exact ((((leads_opening h).append (leads_checking pointer)).append (leads_reporting _ _)).append
      (leads_trapping _)).append (leads_releasing _)

end Bench

theorem Job.leads_moments (j : Job) (b : Bench) (sink : Log.Sink) (others : List UInt64) :
    Leads live Accounts ↑others (j.moments b sink others) ↑others := by
  unfold Job.moments
  cases j.config with
  | ok c => exact b.leads_moments sink c j.allocator j.program others
  | error e => rfl

/-! ### Steps of a session -/

namespace Session

/-- A step that is done keeps the tapes in order and accounts for the tapes. -/
structure Balanced (s : Session) (done : Stepped) : Prop where
  /-- The tapes are in order. -/
  ordered : done.session.tapes.Ordered
  /-- What the step makes and gives back is the change of the tapes. -/
  leads : Leads live Accounts ↑s.tapes.sizes
    (during done.session.bench done.session.tapes.sizes done.events) ↑done.session.tapes.sizes

variable {s : Session}

theorem balanced_of_same (hs : s.tapes.Ordered) {done : Stepped}
    (htapes : done.session.tapes = s.tapes) (hcalm : Calm done.events) : Balanced s done where
  ordered := htapes ▸ hs
  leads := leads_calm (by rw [htapes]) hcalm

theorem balanced_withTape (hs : s.tapes.Ordered) {name : String} {act : Tape → Stepped}
    (h : ∀ t, s.tapes.tape? name = some t → Balanced s (act t)) :
    Balanced s (s.withTape name act) :=
  withTape_cases (balanced_of_same hs rfl calm_nil) h

theorem balanced_provision (hs : s.tapes.Ordered) (name : String) (requested : UInt64)
    (a : Allocator) : Balanced s (s.provision name requested a) := by
  cases hname : s.tapes.tape? name with
  | some t =>
      unfold provision
      rw [hname]
      exact balanced_of_same hs rfl calm_nil
  | none =>
      by_cases h : a.Grants (Tape.effectiveSize requested)
      · have hsizes := Tapes.sizes_put_fresh hs hname (a.tape _ h.possible)
        rw [Allocator.tape_size] at hsizes
        rw [provision_granted hname h]
        exact ⟨hs.put name _, leads_alloc hsizes (by simp)⟩
      · rw [provision_refused hname h]
        exact balanced_of_same hs rfl (by simp [calm_refusal])

theorem balanced_invoke (hs : s.tapes.Ordered) {name : String} {t : Tape}
    (ht : s.tapes.tape? name = some t) (p : Program) : Balanced s (s.invoke name p t) := by
  constructor
  · rw [invoke_tapes]
    exact hs.put name _
  · rw [invoke_tapes, invoke_events]
    exact leads_calm (Tapes.sizes_put_known hs ht (p.exec_size t t.base)) (calm_invoke _ _ _)

theorem balanced_report (hs : s.tapes.Ordered) (t : Tape) : Balanced s (s.report t) := by
  refine balanced_of_same hs (s.report_tapes t) ?_
  rw [report_events]
  exact calm_send _ _

theorem balanced_drop (hs : s.tapes.Ordered) (name : String) : Balanced s (s.drop name) := by
  unfold drop
  cases ht : s.tapes.tape? name with
  | some t => exact ⟨hs.remove name, leads_release (Tapes.sizes_remove hs ht) calm_nil⟩
  | none => exact balanced_of_same hs rfl calm_nil

theorem balanced_step (hs : s.tapes.Ordered) {op : Op} (hop : ∀ job, op ≠ .run job) :
    Balanced s (s.step op) := by
  cases op with
  | provision name requested a => exact balanced_provision hs name requested a
  | invoke name p => exact balanced_withTape hs fun _ ht => balanced_invoke hs ht p
  | validate name pointer => exact balanced_withTape hs fun _ _ => balanced_of_same hs rfl calm_nil
  | report name => exact balanced_withTape hs fun t _ => balanced_report hs t
  | read name start count => exact balanced_withTape hs fun _ _ => balanced_of_same hs rfl calm_nil
  | geometry name => exact balanced_withTape hs fun _ _ => balanced_of_same hs rfl calm_nil
  | drop name => exact balanced_drop hs name
  | trap => exact balanced_of_same hs rfl (calm_request _ _)
  | run job => exact absurd rfl (hop job)
  | setVerbosity verbosity => exact balanced_of_same hs rfl calm_nil

/-- Every step accounts for the tapes. A run makes a tape of its own and leaves those of the
session; any other step changes the tapes by what it makes or gives back. -/
theorem leads_step (s : Session) (op : Op) (hs : s.tapes.Ordered) :
    (s.step op).session.tapes.Ordered
    ∧ Leads live Accounts ↑s.tapes.sizes (s.moments op) ↑(s.step op).session.tapes.sizes := by
  by_cases hop : ∃ job, op = .run job
  · obtain ⟨job, rfl⟩ := hop
    exact ⟨hs, job.leads_moments s.bench s.sink s.tapes.sizes⟩
  · have hne : ∀ job, op ≠ .run job := fun job h => hop ⟨job, h⟩
    obtain ⟨hordered, hleads⟩ := balanced_step hs hne
    rw [s.moments_of_ne_run hne]
    exact ⟨hordered, hleads⟩

/-- The clean-up gives back what is there. -/
theorem leads_closing (s : Session) : Leads live Accounts ↑s.tapes.sizes s.closing 0 := by
  unfold closing
  induction s.tapes with
  | nil => rfl
  | cons e ts ih => exact (leads_release (List.Perm.refl _) calm_nil).append ih

/-! ### The accounts of a session -/

/-- **No tape is lost, and none is given back twice.** Whatever the steps of a session, with entry
points that return or break off, allocators that refuse, and a writer that fails: after every event,
up to the last of the clean-up, the tapes that have been made are those that have been given back
and those that are there. Between two steps those are the tapes of the session. After the clean-up
all tapes that have been made have been given back. -/
theorem tapes_accounted (b : Bench) (v : Log.Verbosity) (ops : List Op) :
    ((start b v).timeline ops ++ ((start b v).final ops).closing).map Moment.event
        = ((start b v).steps ops).flatMap Stepped.events ++ ((start b v).final ops).cleanUp
    ∧ (∀ before m after,
        (start b v).timeline ops ++ ((start b v).final ops).closing = before ++ m :: after →
          allocated ((before ++ [m]).map Moment.event)
            = released ((before ++ [m]).map Moment.event) + ↑m.alive)
    ∧ allocated (((start b v).steps ops).flatMap Stepped.events)
        = released (((start b v).steps ops).flatMap Stepped.events)
          + ↑((start b v).final ops).tapes.sizes
    ∧ allocated (((start b v).steps ops).flatMap Stepped.events ++ ((start b v).final ops).cleanUp)
        = released
          (((start b v).steps ops).flatMap Stepped.events ++ ((start b v).final ops).cleanUp) := by
  have hevents : ((start b v).timeline ops ++ ((start b v).final ops).closing).map Moment.event
      = ((start b v).steps ops).flatMap Stepped.events ++ ((start b v).final ops).cleanUp := by
    rw [List.map_append, timeline_events]
    exact congrArg _ (Tapes.closing_events _ _)
  have hordered : (start b v).tapes.Ordered := List.Pairwise.nil
  have hsteps : Leads live Accounts 0 ((start b v).timeline ops)
      ↑((start b v).final ops).tapes.sizes :=
    (leads_timeline (fun s op => s.leads_step op) hordered ops).2
  have hall := hsteps.append ((start b v).final ops).leads_closing
  refine ⟨hevents, fun before m after h => ?_, ?_, ?_⟩
  · rw [h] at hall
    have haccount := hall.upTo.account
    rwa [zero_add] at haccount
  · have haccount := hsteps.account
    rwa [zero_add, timeline_events] at haccount
  · have haccount := hall.account
    rwa [zero_add, add_zero, hevents] at haccount

end Session

end TapeProbe
