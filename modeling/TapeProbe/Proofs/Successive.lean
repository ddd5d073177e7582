import TapeProbe.Proofs.Relocation
import TapeProbe.Proofs.Timeline

/-!
# Calls one after another

A call goes on with the cells that the call before has left. It does not go on with its cursor,
which is at the base again. So two calls do what one call does with both programs, if the cursor is
put back to the base between them (`Tape.invoke_joins`); nothing else is lost between two calls, and
nothing else is kept.

The same holds of two steps of a session and one (`Session.steps_join`), but for the last pointer:
if the second call breaks off, that of the first is still there.
-/

namespace TapeProbe

/-- What follows a program that returns goes on with its cells, and from where the cursor is put. -/
theorem Program.exec_append_abs {p : Program} (hp : p.Returns) (q : Program) (t : Tape)
    (cursor address : UInt64) :
    Program.exec (p ++ .abs address :: q) t cursor =
      (q.exec (p.exec t cursor).tape address).after (p.exec t cursor).events := by
  obtain ⟨pointer, hreturned⟩ := hp.exec t cursor
  rw [exec_append hreturned]
  rfl

/-! ### What a call shows -/

/-- A call with a tape, as far as it is the same for all entry points. -/
structure Call.With (c : Call) (t : Tape) : Prop where
  /-- The tape stays where it is. -/
  base : c.tape.base = t.base
  /-- It keeps its size. -/
  size : c.tape.size = t.size
  /-- Records apart, there is one call with the base, and then what the entry point does. -/
  called : effects c.events = .call t.base :: ownEvents c.events

namespace Tape

theorem index?_write (t : Tape) (i : Nat) (v : UInt8) (address : UInt64) :
    (t.write i v).index? address = t.index? address := by
  have hbase : (t.write i v).base = t.base := rfl
  rw [index?, index?, write_size, hbase]

theorem read_write {t : Tape} {i : Nat} (h : i < t.cells.size) (v : UInt8) :
    (t.write i v).read i = v := by
  simp [write, Tape.read, h]

variable (t : Tape) (sink : Log.Sink) (p : Program)

theorem invoke_outcome : (t.invoke sink p).outcome = (p.exec t t.base).outcome := by
  cases h : (p.exec t t.base).outcome with
  | returned pointer => rw [invoke_returned sink h]
  | panicked text => rw [invoke_panicked sink h]

theorem effects_invoke :
    effects (t.invoke sink p).events = .call t.base :: (p.exec t t.base).events := by
  have hcall : effects [.call t.base] = [.call t.base] := rfl
  cases h : (p.exec t t.base).outcome with
  | returned pointer =>
      rw [invoke_returned sink h]
      simp only [effects_append, effects_emit, effects_exec, hcall, List.nil_append,
        List.append_nil, List.singleton_append]
  | panicked text =>
      rw [invoke_panicked sink h]
      simp only [effects_append, effects_emit, effects_exec, hcall, List.nil_append,
        List.singleton_append]

theorem ownEvents_invoke : ownEvents (t.invoke sink p).events = (p.exec t t.base).events := by
  have hcall : ownEvents [.call t.base] = [] := rfl
  rw [← ownEvents_effects, effects_invoke, ← List.singleton_append, ownEvents_append,
    ownEvents_exec, hcall, List.nil_append]

theorem invoke_with : (t.invoke sink p).With t where
  base := by rw [invoke_tape, p.exec_base]
  size := by rw [invoke_tape, p.exec_size]
  called := by rw [effects_invoke, ownEvents_invoke]

end Tape

/-- A call with the tape that another call has left is a call with the same tape. -/
theorem Call.With.trans {first second : Call} {t : Tape} (h : first.With t)
    (h' : second.With first.tape) : second.With t where
  base := h'.base.trans h.base
  size := h'.size.trans h.size
  called := h.base ▸ h'.called

/-! ### Two calls and one -/

/-- Two calls, the second with the tape that the first has left, come to the same as one. -/
structure Call.Joins (first second whole : Call) : Prop where
  /-- The same tape is left, with the same cells. -/
  tape : second.tape = whole.tape
  /-- The same pointer is returned, or both break off with the same text. -/
  outcome : second.outcome = whole.outcome
  /-- The entry points have looked at cells, counted them and skipped accesses alike. -/
  own : ownEvents (first.events ++ second.events) = ownEvents whole.events

theorem Tape.invoke_joins (t : Tape) {p : Program} (hp : p.Returns) (q : Program)
    (said said' said'' : Log.Sink) :
    Call.Joins (t.invoke said p) ((t.invoke said p).tape.invoke said' q)
      (t.invoke said'' (p ++ .abs t.base :: q)) := by
  have hwhole := Program.exec_append_abs hp q t t.base t.base
  -- the first call has not moved the tape, so the cursor of the second starts where it is put
  have hbase : (p.exec t t.base).tape.base = t.base := p.exec_base t t.base
  constructor
  · rw [invoke_tape, invoke_tape, invoke_tape, hbase, hwhole, Call.after_tape]
  · rw [invoke_outcome, invoke_outcome, invoke_tape, hbase, hwhole, Call.after_outcome]
  · rw [ownEvents_append, ownEvents_invoke, ownEvents_invoke, ownEvents_invoke, invoke_tape, hbase,
      hwhole, Call.after_events]

/-! ### Two steps and one -/

/-- A tape is put in the place of one that was just put there. -/
theorem Tapes.put_put (ts : Tapes) (name : String) (t u : Tape) :
    (ts.put name t).put name u = ts.put name u := by
  induction ts with
  | nil => simp [put]
  | cons e ts ih =>
      by_cases hlt : name < e.1
      · simp [put, hlt]
      · by_cases heq : e.1 = name
        · simp [put, heq]
        · simp [put, hlt, heq, ih]

namespace Session

variable {s : Session} {name : String} {t : Tape} {p : Program}

/-- The answer that tells how a call has ended. -/
def Answer.ofCallEnd : CallEnd → Answer
  | .returned pointer => .returned pointer
  | .panicked text => .panicked text

/-- The last pointer after a call, by the one before it. -/
def pointerAfter (before : UInt64) : CallEnd → UInt64
  | .returned pointer => pointer
  | .panicked _ => before

/-- The session after a call with one of its tapes. -/
def called (s : Session) (name : String) (c : Call) : Session :=
  { s with tapes := s.tapes.put name c.tape, pointer := pointerAfter s.pointer c.outcome }

/-- A step that calls an entry point with a tape that is there. -/
theorem step_invoke (ht : s.tapes.tape? name = some t) (p : Program) :
    s.step (.invoke name p) =
      ⟨s.called name (t.invoke s.sink p), .ofCallEnd (t.invoke s.sink p).outcome,
        (t.invoke s.sink p).events⟩ := by
  have hstep : s.step (.invoke name p) = s.invoke name p t := withTape_some ht _
  rw [hstep, invoke, called]
  cases (t.invoke s.sink p).outcome with
  | returned pointer => rfl
  | panicked text => rfl

/-- A step that follows a call with the tape calls an entry point with what that has left. -/
theorem step_invoke_called (s : Session) (name : String) (c : Call) (q : Program) :
    (s.called name c).step (.invoke name q) =
      ⟨(s.called name c).called name (c.tape.invoke s.sink q),
        .ofCallEnd (c.tape.invoke s.sink q).outcome, (c.tape.invoke s.sink q).events⟩ := by
  have hleft : (s.called name c).tapes.tape? name = some c.tape := by
    rw [called, Tapes.tape?_put, if_pos rfl]
  exact step_invoke hleft q

/-- Two steps, the second in the session that the first has left, come to the same as one. -/
structure Stepped.Joins (first second whole : Stepped) : Prop where
  /-- The same tapes are left. -/
  tapes : second.session.tapes = whole.session.tapes
  /-- The same answer is given. -/
  answer : second.answer = whole.answer
  /-- The entry points have looked at cells, counted them and skipped accesses alike. -/
  own : ownEvents (first.events ++ second.events) = ownEvents whole.events
  /-- If the answer is a pointer, all of the session is the same. -/
  session : ∀ pointer, whole.answer = .returned pointer → second.session = whole.session

theorem steps_join (ht : s.tapes.tape? name = some t) (hp : p.Returns) (q : Program) :
    Stepped.Joins (s.step (.invoke name p))
      ((s.step (.invoke name p)).session.step (.invoke name q))
      (s.step (.invoke name (p ++ .abs t.base :: q))) := by
  obtain ⟨htape, houtcome, hown⟩ := t.invoke_joins hp q s.sink s.sink s.sink
  rw [step_invoke ht, step_invoke ht, step_invoke_called]
  have htapes : ((s.called name (t.invoke s.sink p)).called name
        ((t.invoke s.sink p).tape.invoke s.sink q)).tapes
      = (s.called name (t.invoke s.sink (p ++ .abs t.base :: q))).tapes := by
    simp only [called, Tapes.put_put, htape]
  refine ⟨htapes, congrArg Answer.ofCallEnd houtcome, hown, fun pointer hanswer => ?_⟩
  -- a call that returns leaves its pointer, whatever was there before
  have hreturned : (t.invoke s.sink (p ++ .abs t.base :: q)).outcome = .returned pointer := by
    cases hend : (t.invoke s.sink (p ++ .abs t.base :: q)).outcome with
    | returned other =>
        rw [hend] at hanswer
        cases hanswer
        rfl
    | panicked text =>
        rw [hend] at hanswer
        cases hanswer
  simp only [called, Tapes.put_put, htape, houtcome, hreturned, pointerAfter]

end Session

/-- **Calls one after another compose.** Take any tape, wherever it lies, an entry point that does
not break off and any other. Call them one after the other with the tape; or make one call with an
entry point that does what the first does, puts the cursor to the base, and does what the second
does.

* The second of the two calls leaves the tape as the one call does, and returns the same pointer or
  breaks off with the same text. The cells that are looked at in both, the counts and the skipped
  accesses are those of the one call, in the same order, whichever messages are recorded.
* Both calls are made with the same base; the tape stays where it is and keeps its size.
* In a session that has the tape, the two steps leave the same tapes as the one and the second gives
  the same answer; if this is a pointer, they leave the same session. -/
theorem Tape.successive_calls_compose (t : Tape) {p : Program} (hp : p.Returns) (q : Program) :
    (∀ said said' said'' : Log.Sink,
      (∃ pointer, (t.invoke said p).outcome = .returned pointer)
      ∧ Call.Joins (t.invoke said p) ((t.invoke said p).tape.invoke said' q)
          (t.invoke said'' (p ++ .abs t.base :: q))
      ∧ (t.invoke said p).With t
      ∧ ((t.invoke said p).tape.invoke said' q).With t)
    ∧ ∀ (s : Session) (name : String), s.tapes.tape? name = some t →
        Session.Stepped.Joins (s.step (.invoke name p))
          ((s.step (.invoke name p)).session.step (.invoke name q))
          (s.step (.invoke name (p ++ .abs t.base :: q))) := by
  refine ⟨fun said said' said'' => ?_, fun s name ht => Session.steps_join ht hp q⟩
  have hfirst : (t.invoke said p).With t := t.invoke_with said p
  have hsecond : ((t.invoke said p).tape.invoke said' q).With t :=
    hfirst.trans (Tape.invoke_with _ said' q)
  refine ⟨?_, t.invoke_joins hp q said said' said'', hfirst, hsecond⟩
  rw [invoke_outcome]
  exact hp.exec t t.base

/-- The second call finds what the first has stored, at the base and not where the cursor was left;
then it goes off the tape and breaks off. -/
theorem Tape.successive_calls_compose_from_base :
    ∃ t : Tape, t.base = 0x200000000 ∧ t.size = 30000
      ∧ ((t.invoke Log.Verbosity.debug.sink [.set 7, .move 3]).tape.invoke Log.Verbosity.debug.sink
          [.get, .abs 5, .get, .panic "off"]).outcome = .panicked "off"
      ∧ ownEvents ((t.invoke Log.Verbosity.debug.sink [.set 7, .move 3]).events
          ++ ((t.invoke Log.Verbosity.debug.sink [.set 7, .move 3]).tape.invoke
            Log.Verbosity.debug.sink [.get, .abs 5, .get, .panic "off"]).events)
        = [.cell 7, .skip .get] := by
  obtain ⟨t, hbase, hsize⟩ : ∃ t : Tape, t.base = 0x200000000 ∧ t.size = 30000 :=
    ⟨Allocator.tape {} 30000 (by decide), rfl, Allocator.tape_size ..⟩
  have hat : t.index? t.base = some 0 := by
    rw [index?, hsize, hbase]
    decide
  have hoff : t.index? 5 = none := by
    rw [index?, hsize, hbase]
    decide
  have hcell : 0 < t.cells.size := by
    rw [← toNat_size, hsize]
    decide
  have hexec : Program.exec
      ([.set 7, .move 3] ++ .abs t.base :: [.get, .abs 5, .get, .panic "off"]) t t.base
        = ⟨(t.write 0 7).write 0 7, .panicked "off", [.cell 7, .skip .get]⟩ := by
    simp [Program.exec, access, index?_write, hat, hoff, read_write hcell, Call.after]
  obtain ⟨hcalls, -⟩ := t.successive_calls_compose (p := [.set 7, .move 3])
    (by simp [Program.Returns]) [.get, .abs 5, .get, .panic "off"]
  obtain ⟨-, hjoins, -⟩ :=
    hcalls Log.Verbosity.debug.sink Log.Verbosity.debug.sink Log.Verbosity.off.sink
  refine ⟨t, hbase, hsize, ?_, ?_⟩
  · rw [hjoins.outcome, invoke_outcome, hexec]
  · rw [hjoins.own, ownEvents_invoke, hexec]

end TapeProbe
