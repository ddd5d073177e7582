import Mathlib.Data.List.Induction
import TapeProbe.Proofs.Timeline

/-!
# The history of a tape

Each tape of a session goes its own way. What is under a name after a step depends on the step and
on what was under that name before it, and on nothing else (`Session.tape?_step`):
`Session.slotAfter` is this step on a single slot, and a whole session looks through the window of
one name like a fold of it (`Session.tape?_final`).

On a single slot the history is plain. A tape that is there stays until it is given back, and
changes by the calls with it alone (`foldl_slotAfter`); looking back from a tape there is the step
that made it (`exists_of_foldl_slotAfter`). So a tape is what a replay of those calls makes of
zeros.
-/

namespace TapeProbe

/-! ### Replays -/

namespace Tape

/-- The tape after calls one after another, a program that breaks off counting up to there. -/
def replay (t : Tape) (ps : List Program) : Tape :=
  ps.foldl (fun t p => (p.untilPanic.exec t t.base).tape) t

theorem replay_base (t : Tape) (ps : List Program) : (t.replay ps).base = t.base := by
  induction ps generalizing t with
  | nil => rfl
  | cons p ps ih => exact (ih _).trans (p.untilPanic.exec_base t t.base)

theorem replay_size (t : Tape) (ps : List Program) : (t.replay ps).size = t.size := by
  induction ps generalizing t with
  | nil => rfl
  | cons p ps ih => exact (ih _).trans (p.untilPanic.exec_size t t.base)

theorem replay_concat (t : Tape) (ps : List Program) (p : Program) :
    t.replay (ps ++ [p]) = (p.exec (t.replay ps) (t.replay ps).base).tape := by
  rw [← Program.exec_tape_untilPanic]
  exact List.foldl_concat ..

end Tape

namespace Session

/-! ### One slot -/

/-- What is under a name after a step, by what was there before it. -/
def slotAfter (name : String) : Option Tape → Op → Option Tape
  | none, .provision n requested a =>
    if h : n = name ∧ a.Grants (Tape.effectiveSize requested) then some (a.tape _ h.2.possible)
    else none
  | none, _ => none
  | some t, .invoke n p => some (if n = name then (p.exec t t.base).tape else t)
  | some t, .drop n => if n = name then none else some t
  | some t, _ => some t

/-- The program that a step calls with the tape of that name. -/
def Op.programOn? (name : String) : Op → Option Program
  | .invoke n p => if n = name then some p else none
  | _ => none

/-- The programs that are called with the tape of that name, in order. -/
def programsOn (name : String) (ops : List Op) : List Program := ops.filterMap (Op.programOn? name)

/-- A tape that is not given back changes by the call with it, and not otherwise. -/
theorem slotAfter_some {name : String} {op : Op} (hdrop : op ≠ .drop name) (t : Tape) :
    slotAfter name (some t) op
      = some (((op.programOn? name).map fun p => (p.exec t t.base).tape).getD t) := by
  cases op with
  | invoke n p =>
      simp only [slotAfter, Op.programOn?]
      split <;> rfl
  | drop n => exact if_neg fun hn => hdrop (congrArg Op.drop hn)
  | _ => rfl

theorem slotAfter_none_eq_some {name : String} {op : Op} {t : Tape}
    (h : slotAfter name none op = some t) :
    ∃ requested a, ∃ hg : a.Grants (Tape.effectiveSize requested),
      op = .provision name requested a ∧ t = a.tape _ hg.possible := by
  cases op with
  | provision n requested a =>
      simp only [slotAfter] at h
      split at h
      · next hmade =>
        obtain ⟨rfl, hg⟩ := hmade
        cases h
        exact ⟨requested, a, hg, rfl, rfl⟩
      · cases h
  | _ => cases h

/-- One more step on a tape that has come from a replay: a replay of one more call, if it is one. -/
theorem slotAfter_replay {name : String} {op : Op} (hop : op ≠ .drop name) (t : Tape)
    (ops : List Op) :
    slotAfter name (some (t.replay (programsOn name ops))) op
      = some (t.replay (programsOn name (ops ++ [op]))) := by
  rw [slotAfter_some hop]
  unfold programsOn
  rw [List.filterMap_append]
  cases hp : op.programOn? name with
  | none => simp [hp]
  | some p => simp [hp, Tape.replay_concat]

/-- Once a tape is there, and as long as it is not given back: a replay of the calls with it. -/
theorem foldl_slotAfter {name : String} {ops : List Op} (hdrop : .drop name ∉ ops) (t : Tape) :
    ops.foldl (slotAfter name) (some t) = some (t.replay (programsOn name ops)) := by
  induction ops using List.reverseRecOn with
  | nil => rfl
  | append_singleton ops op ih =>
      have hbefore : .drop name ∉ ops := fun h => hdrop (List.mem_append_left _ h)
      have hop : op ≠ .drop name := fun h => hdrop (by simp [h])
      rw [List.foldl_concat, ih hbefore, slotAfter_replay hop]

/-- Looking back from a tape: the step that made it, and the calls with it since. -/
theorem exists_of_foldl_slotAfter {name : String} {ops : List Op} {t : Tape}
    (h : ops.foldl (slotAfter name) none = some t) :
    ∃ (before : List Op) (requested : UInt64) (a : Allocator) (after : List Op)
      (hg : a.Grants (Tape.effectiveSize requested)),
      ops = before ++ .provision name requested a :: after
      ∧ before.foldl (slotAfter name) none = none
      ∧ .drop name ∉ after
      ∧ t = (a.tape _ hg.possible).replay (programsOn name after) := by
  induction ops using List.reverseRecOn generalizing t with
  | nil => cases h
  | append_singleton ops op ih =>
      rw [List.foldl_concat] at h
      cases hu : ops.foldl (slotAfter name) none with
      | none =>
          -- nothing was there, so this step made the tape
          rw [hu] at h
          obtain ⟨requested, a, hg, rfl, rfl⟩ := slotAfter_none_eq_some h
          exact ⟨ops, requested, a, [], hg, rfl, hu, List.not_mem_nil, rfl⟩
      | some u =>
          -- the tape was there, and this step has not given it back
          rw [hu] at h
          have hop : op ≠ .drop name := by
            rintro rfl
            simp [slotAfter] at h
          obtain ⟨before, requested, a, after, hg, rfl, hnone, hdrop, rfl⟩ := ih hu
          rw [slotAfter_replay hop] at h
          cases h
          exact ⟨before, requested, a, after ++ [op], hg, by simp, hnone, by simp [hdrop, hop.symm],
            rfl⟩

/-! ### The slot in its session -/

theorem tape?_provision (s : Session) (n : String) (requested : UInt64) (a : Allocator)
    (name : String) :
    (s.provision n requested a).session.tapes.tape? name
      = slotAfter name (s.tapes.tape? name) (.provision n requested a) := by
  cases hn : s.tapes.tape? n with
  | some u =>
      have hsame : (s.provision n requested a).session = s := by
        unfold provision
        rw [hn]
      rw [hsame]
      cases ht : s.tapes.tape? name with
      | some t => rfl
      | none => simp [slotAfter, (Tapes.ne_of_tape? ht hn).symm]
  | none =>
      by_cases h : a.Grants (Tape.effectiveSize requested)
      · rw [provision_granted hn h, Tapes.tape?_put]
        by_cases hname : n = name
        · subst hname
          simp [hn, slotAfter, h]
        · cases s.tapes.tape? name <;> simp [slotAfter, hname]
      · rw [provision_refused hn h]
        cases s.tapes.tape? name <;> simp [slotAfter, h]

theorem tape?_invoke (s : Session) (n : String) (p : Program) (name : String) :
    (s.step (.invoke n p)).session.tapes.tape? name
      = slotAfter name (s.tapes.tape? name) (.invoke n p) := by
  simp only [step, withTape]
  cases hn : s.tapes.tape? n with
  | some t =>
      simp only [invoke_tapes, Tapes.tape?_put]
      by_cases hname : n = name
      · subst hname
        simp [hn, slotAfter]
      · cases s.tapes.tape? name <;> simp [slotAfter, hname]
  | none =>
      cases ht : s.tapes.tape? name with
      | none => rfl
      | some t => simp [slotAfter, Tapes.ne_of_tape? hn ht]

theorem tape?_drop (s : Session) (n name : String) :
    (s.step (.drop n)).session.tapes.tape? name
      = slotAfter name (s.tapes.tape? name) (.drop n) := by
  simp only [step, drop]
  cases hn : s.tapes.tape? n with
  | some t =>
      simp only [Tapes.tape?_remove]
      cases s.tapes.tape? name <;> simp [slotAfter]
  | none =>
      cases ht : s.tapes.tape? name with
      | none => rfl
      | some t => simp [slotAfter, Tapes.ne_of_tape? hn ht]

/-- Steps that neither make a tape, nor call an entry point with one, nor give one back. -/
def Op.sparesTapes : Op → Bool
  | .provision .. | .invoke .. | .drop _ => false
  | _ => true

theorem step_tapes_of_spares {op : Op} (h : op.sparesTapes = true) (s : Session) :
    (s.step op).session.tapes = s.tapes := by
  have hwith : ∀ (n : String) (act : Tape → Stepped),
      (∀ t, (act t).session.tapes = s.tapes) → (s.withTape n act).session.tapes = s.tapes := by
    intro n act hact
    exact withTape_cases (P := fun done => done.session.tapes = s.tapes) rfl fun t _ => hact t
  cases op with
  | provision _ _ _ => cases h
  | invoke _ _ => cases h
  | drop _ => cases h
  | validate n pointer => exact hwith n _ fun t => rfl
  | report n => exact hwith n _ s.report_tapes
  | read n start count => exact hwith n _ fun t => rfl
  | geometry n => exact hwith n _ fun t => rfl
  | trap => rfl
  | run job => rfl
  | setVerbosity verbosity => rfl

/-- What is under a name after a step depends on what was there before it, and on the step. -/
theorem tape?_step (s : Session) (op : Op) (name : String) :
    (s.step op).session.tapes.tape? name = slotAfter name (s.tapes.tape? name) op := by
  cases op with
  | provision n requested a => exact s.tape?_provision n requested a name
  | invoke n p => exact s.tape?_invoke n p name
  | drop n => exact s.tape?_drop n name
  | _ =>
      rw [step_tapes_of_spares rfl]
      cases s.tapes.tape? name <;> rfl

theorem tape?_final (s : Session) (ops : List Op) (name : String) :
    (s.final ops).tapes.tape? name = ops.foldl (slotAfter name) (s.tapes.tape? name) := by
  induction ops generalizing s with
  | nil => rfl
  | cons op ops ih => rw [final_cons, ih, tape?_step, List.foldl_cons]

/-- A step that is answered with a tape has made it under a free name. -/
theorem provision_answer_inv {s : Session} {name : String} {requested : UInt64} {a : Allocator}
    {base size : UInt64}
    (h : (s.step (.provision name requested a)).answer = .provisioned base size) :
    s.tapes.tape? name = none
    ∧ ∃ _ : a.Grants (Tape.effectiveSize requested),
        base = a.base ∧ size = Tape.effectiveSize requested := by
  change (s.provision name requested a).answer = _ at h
  cases hname : s.tapes.tape? name with
  | some t =>
      unfold provision at h
      rw [hname] at h
      cases h
  | none =>
      by_cases hg : a.Grants (Tape.effectiveSize requested)
      · rw [provision_granted hname hg, Allocator.tape_size] at h
        cases h
        exact ⟨rfl, hg, rfl, rfl⟩
      · rw [provision_refused hname hg] at h
        cases h

/-! ### The tapes of a session -/

/-- **Each tape goes its own way.** Of every name, at every point of a session, whatever its steps:

* a tape that is there was made by one of the steps, and it has the base and the size that this step
  answered with, which are those of the allocator and the number asked for, but no less than 30000;
  it has not been given back since, and its cells are those of a zeroed tape at that base after the
  programs that have been called with it since, a program that breaks off counting up to there;
* only a call with it and giving it back change it: no check, report, request for attention or run
  does, and no step on another tape;
* conversely, a tape that was made and has not been given back is there. -/
theorem live_tape_replays (b : Bench) (v : Log.Verbosity) (ops : List Op) (name : String) :
    (∀ t, ((start b v).final ops).tapes.tape? name = some t →
      ∃ (before : List Op) (requested : UInt64) (a : Allocator) (after : List Op)
        (hg : a.Grants (Tape.effectiveSize requested)),
        ops = before ++ .provision name requested a :: after
        ∧ (((start b v).final before).step (.provision name requested a)).answer
            = .provisioned t.base t.size
        ∧ t.base = a.base
        ∧ t.size.toNat = max requested.toNat 30000
        ∧ t.cells.size = max requested.toNat 30000
        ∧ .drop name ∉ after
        ∧ t = (Tape.zeroed a.base (Tape.effectiveSize requested) hg.possible).replay
            (programsOn name after))
    ∧ (∀ t op, ((start b v).final ops).tapes.tape? name = some t →
        (∀ p, op ≠ .invoke name p) → op ≠ .drop name →
          (((start b v).final ops).step op).session.tapes.tape? name = some t)
    ∧ ∀ before requested a after base size,
        ops = before ++ .provision name requested a :: after →
        (((start b v).final before).step (.provision name requested a)).answer
          = .provisioned base size →
        .drop name ∉ after →
          ∃ t, ((start b v).final ops).tapes.tape? name = some t
            ∧ t.base = base ∧ t.size = size := by
  refine ⟨?_, ?_, ?_⟩
  · intro t ht
    rw [tape?_final] at ht
    obtain ⟨before, requested, a, after, hg, rfl, hnone, hdrop, rfl⟩ := exists_of_foldl_slotAfter ht
    have hfree : ((start b v).final before).tapes.tape? name = none := by
      rw [tape?_final]
      exact hnone
    refine ⟨before, requested, a, after, hg, rfl, ?_, ?_, ?_, ?_, hdrop, ?_⟩
    · change (provision _ name requested a).answer = _
      rw [provision_granted hfree hg, Tape.replay_base, Tape.replay_size, Allocator.tape_base]
    · rw [Tape.replay_base, Allocator.tape_base]
    · rw [Tape.replay_size, Allocator.tape_size, Tape.effectiveSize_toNat]
    · rw [← Tape.toNat_size, Tape.replay_size, Allocator.tape_size, Tape.effectiveSize_toNat]
    · rw [Allocator.tape_eq_zeroed]
  · intro t op ht hinvoke hdrop
    have hprogram : op.programOn? name = none := by
      cases op with
      | invoke n p => exact if_neg fun hn => hinvoke p (congrArg (Op.invoke · p) hn)
      | _ => rfl
    rw [tape?_step, ht, slotAfter_some hdrop, hprogram]
    rfl
  · rintro before requested a after base size rfl hanswer hdrop
    obtain ⟨hfree, hg, rfl, rfl⟩ := provision_answer_inv hanswer
    have hmade : slotAfter name none (.provision name requested a)
        = some (a.tape _ hg.possible) := by simp [slotAfter, hg]
    refine ⟨(a.tape _ hg.possible).replay (programsOn name after), ?_, ?_, ?_⟩
    · rw [final_append, final_cons, tape?_final, tape?_step, hfree, hmade, foldl_slotAfter hdrop]
    · rw [Tape.replay_base, Allocator.tape_base]
    · rw [Tape.replay_size, Allocator.tape_size]

end Session

end TapeProbe
