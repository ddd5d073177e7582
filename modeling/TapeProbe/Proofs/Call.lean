import Mathlib.Data.List.TakeWhile
import TapeProbe.Program

/-!
# Tapes and calls

What provisioning gives and what a call of an entry point may do to its tape. A tape is granted
exactly when the allocator can give a block of the effective size (`Allocator.Grants`); the two
cases of `Allocator.provision` are `provision_granted` and `provision_refused`.

A call changes cells and nothing else: base and size of the tape stay (`exec_base`, `exec_size`),
and the events it causes are its own (`Event.IsOwn`). Whether it returns is decided by the program
alone (`exec_returned_iff`). Programs compose (`exec_append`), and a program that breaks off has
done what its steps up to there do (`exec_breaks`).
-/

namespace TapeProbe

/-! ### Provisioning -/

theorem Tape.effectiveSize_toNat (requested : UInt64) :
    (effectiveSize requested).toNat = max requested.toNat 30000 := by
  change (if requested ≤ minSize then minSize else requested).toNat = _
  have hmin : minSize.toNat = 30000 := rfl
  by_cases h : requested ≤ minSize
  · have := UInt64.le_iff_toNat_le.mp h
    rw [if_pos h]
    omega
  · have := mt UInt64.le_iff_toNat_le.mpr h
    rw [if_neg h]
    omega

theorem Tape.size_replicate_lt {size : UInt64} (h : size ≤ maxBlock) :
    (Array.replicate size.toNat (0 : UInt8)).size < 0x8000000000000000 := by
  have hsize : size.toNat ≤ 0x7fffffffffffffff := UInt64.le_iff_toNat_le.mp h
  rw [Array.size_replicate]
  omega

/-- The tape of that size at an address with every cell zero. -/
def Tape.zeroed (base size : UInt64) (h : size ≤ maxBlock) : Tape :=
  ⟨base, Array.replicate size.toNat 0, size_replicate_lt h⟩

namespace Allocator

/-- The allocator gives a block of that size. -/
structure Grants (a : Allocator) (size : UInt64) : Prop where
  /-- There can be such a block. -/
  possible : size ≤ Tape.maxBlock
  /-- The allocator goes that far. -/
  within : size ≤ a.limit

instance (a : Allocator) (size : UInt64) : Decidable (a.Grants size) :=
  decidable_of_iff (size ≤ Tape.maxBlock ∧ size ≤ a.limit)
    ⟨fun h => ⟨h.1, h.2⟩, fun h => ⟨h.possible, h.within⟩⟩

/-- What an allocator that does not give a block does: it is asked only for possible sizes. -/
def refusal (size : UInt64) : List Event := if size ≤ Tape.maxBlock then [.refuse size] else []

@[simp] theorem tape_base (a : Allocator) (size : UInt64) (h : size ≤ Tape.maxBlock) :
    (a.tape size h).base = a.base := rfl

@[simp] theorem tape_size (a : Allocator) (size : UInt64) (h : size ≤ Tape.maxBlock) :
    (a.tape size h).size = size := by
  simp only [tape, Tape.size, cleared, block, Array.size_map, Array.size_ofFn, UInt64.ofNat_toNat]

/-- A tape is made of zeros, whatever the memory has held. -/
theorem tape_cells (a : Allocator) (size : UInt64) (h : size ≤ Tape.maxBlock) :
    (a.tape size h).cells = Array.replicate size.toNat 0 := by
  apply Array.ext
  · simp [tape, cleared, block]
  · intro i _ _
    simp [tape, cleared, block]

theorem tape_eq_zeroed (a : Allocator) (size : UInt64) (h : size ≤ Tape.maxBlock) :
    a.tape size h = Tape.zeroed a.base size h := by
  have hcells := a.tape_cells size h
  unfold Tape.zeroed
  simp only [← hcells]
  rfl

theorem provision_granted {a : Allocator} {requested : UInt64}
    (h : a.Grants (Tape.effectiveSize requested)) (sink : Log.Sink) :
    a.provision sink requested =
      (.ok (a.tape (Tape.effectiveSize requested) h.possible),
        .alloc (Tape.effectiveSize requested)
          :: sink.emit (.provisioned a.base (Tape.effectiveSize requested) requested)) := by
  unfold provision
  rw [dif_pos h.possible, if_pos h.within]

theorem provision_refused {a : Allocator} {requested : UInt64}
    (h : ¬ a.Grants (Tape.effectiveSize requested)) (sink : Log.Sink) :
    a.provision sink requested =
      (.error (.resourceExhaustion (Tape.effectiveSize requested)),
        refusal (Tape.effectiveSize requested)
          ++ sink.emit (.refused (Tape.effectiveSize requested))) := by
  unfold provision refusal
  by_cases hmax : Tape.effectiveSize requested ≤ Tape.maxBlock
  · have hlimit : ¬ Tape.effectiveSize requested ≤ a.limit := fun hl => h ⟨hmax, hl⟩
    rw [dif_pos hmax, if_neg hlimit, if_pos hmax]
    rfl
  · rw [dif_neg hmax, if_neg hmax]
    rfl

end Allocator

/-! ### What a call leaves alone -/

/-- An event that an entry point causes itself. -/
def Event.IsOwn : Event → Prop
  | .nonzero _ | .cell _ | .skip _ => True
  | _ => False

namespace Tape

@[simp] theorem write_size (t : Tape) (i : Nat) (v : UInt8) : (t.write i v).size = t.size := by
  simp only [write, size, Array.size_setIfInBounds]

theorem access_base (t : Tape) (cursor : UInt64) (what : Access)
    (change : UInt8 → UInt8 × List Event) : (t.access cursor what change).1.base = t.base := by
  unfold access
  cases t.index? cursor <;> rfl

theorem access_size (t : Tape) (cursor : UInt64) (what : Access)
    (change : UInt8 → UInt8 × List Event) : (t.access cursor what change).1.size = t.size := by
  unfold access
  cases t.index? cursor with
  | none => rfl
  | some i => exact t.write_size i _

/-- An access is skipped, or causes what the change of the cell causes. -/
theorem access_events {t : Tape} {cursor : UInt64} {what : Access}
    {change : UInt8 → UInt8 × List Event} (h : ∀ v, ∀ e ∈ (change v).2, e.IsOwn) :
    ∀ e ∈ (t.access cursor what change).2, e.IsOwn := by
  unfold access
  cases t.index? cursor with
  | none =>
      intro e he
      rw [List.mem_singleton.mp he]
      trivial
  | some i => exact h (t.read i)

end Tape

/-! ### One step of a program -/

/-- Does the step break off? -/
def Step.isPanic : Step → Bool
  | .panic _ => true
  | _ => false

/-- Where one step leads. -/
structure Step.Reached where
  /-- The tape after the step. -/
  tape : Tape
  /-- The cursor after the step. -/
  cursor : UInt64
  /-- What happened. -/
  events : List Event

/-- One step; a step that breaks off leads nowhere else. -/
def Step.act : Step → Tape → UInt64 → Step.Reached
  | .move n, t, cursor => ⟨t, cursor + UInt64.ofInt n, []⟩
  | .abs a, t, _ => ⟨t, a, []⟩
  | .set v, t, cursor =>
    let touched := t.access cursor .set fun _ => (v, [])
    ⟨touched.1, cursor, touched.2⟩
  | .add v, t, cursor =>
    let touched := t.access cursor .add fun old => (old + v, [])
    ⟨touched.1, cursor, touched.2⟩
  | .get, t, cursor =>
    let touched := t.access cursor .get fun old => (old, [.cell old])
    ⟨touched.1, cursor, touched.2⟩
  | .zeros, t, cursor => ⟨t, cursor, [.nonzero t.nonzero]⟩
  | .panic _, t, cursor => ⟨t, cursor, []⟩

namespace Step

theorem act_base (s : Step) (t : Tape) (cursor : UInt64) : (s.act t cursor).tape.base = t.base := by
  cases s with
  | set v => exact t.access_base cursor .set _
  | add v => exact t.access_base cursor .add _
  | get => exact t.access_base cursor .get _
  | _ => rfl

theorem act_size (s : Step) (t : Tape) (cursor : UInt64) : (s.act t cursor).tape.size = t.size := by
  cases s with
  | set v => exact t.access_size cursor .set _
  | add v => exact t.access_size cursor .add _
  | get => exact t.access_size cursor .get _
  | _ => rfl

theorem act_events (s : Step) (t : Tape) (cursor : UInt64) :
    ∀ e ∈ (s.act t cursor).events, e.IsOwn := by
  cases s with
  | set v => exact Tape.access_events fun _ => List.forall_mem_nil _
  | add v => exact Tape.access_events fun _ => List.forall_mem_nil _
  | get =>
      refine Tape.access_events fun _ e he => ?_
      rw [List.mem_singleton.mp he]
      trivial
  | zeros =>
      intro e he
      rw [List.mem_singleton.mp he]
      trivial
  | _ => intro e he; cases he

end Step

namespace Call

@[simp] theorem after_tape (es : List Event) (c : Call) : (c.after es).tape = c.tape := rfl

@[simp] theorem after_outcome (es : List Event) (c : Call) : (c.after es).outcome = c.outcome := rfl

@[simp] theorem after_events (es : List Event) (c : Call) :
    (c.after es).events = es ++ c.events := rfl

end Call

namespace Program

/-- A program that does not break off at once does one step and goes on from there. -/
theorem exec_cons {s : Step} (hs : ∀ text, s ≠ .panic text) (p : Program) (t : Tape)
    (cursor : UInt64) :
    Program.exec (s :: p) t cursor =
      (p.exec (s.act t cursor).tape (s.act t cursor).cursor).after (s.act t cursor).events := by
  cases s with
  | panic text => exact absurd rfl (hs text)
  | _ => rfl

/-- Induction along a call: the program is at its end, it breaks off, or it does one step and goes
on from where the step leads. -/
@[elab_as_elim]
theorem exec_induction {motive : Program → Tape → UInt64 → Prop}
    (nil : ∀ t cursor, motive [] t cursor)
    (panic : ∀ text p t cursor, motive (.panic text :: p) t cursor)
    (step : ∀ s p t cursor, (∀ text, s ≠ .panic text) →
      motive p (s.act t cursor).tape (s.act t cursor).cursor → motive (s :: p) t cursor)
    (p : Program) (t : Tape) (cursor : UInt64) : motive p t cursor := by
  induction p generalizing t cursor with
  | nil => exact nil t cursor
  | cons s p ih =>
      by_cases hs : ∃ text, s = .panic text
      · obtain ⟨text, rfl⟩ := hs
        exact panic text p t cursor
      · exact step s p t cursor (not_exists.mp hs) (ih _ _)

theorem exec_base (p : Program) (t : Tape) (cursor : UInt64) :
    (p.exec t cursor).tape.base = t.base := by
  induction p, t, cursor using exec_induction with
  | nil t cursor => rfl
  | panic text p t cursor => rfl
  | step s p t cursor hs ih =>
      rw [exec_cons hs, Call.after_tape, ih, s.act_base]

theorem exec_size (p : Program) (t : Tape) (cursor : UInt64) :
    (p.exec t cursor).tape.size = t.size := by
  induction p, t, cursor using exec_induction with
  | nil t cursor => rfl
  | panic text p t cursor => rfl
  | step s p t cursor hs ih =>
      rw [exec_cons hs, Call.after_tape, ih, s.act_size]

/-- A program causes no events but its own. -/
theorem exec_events (p : Program) (t : Tape) (cursor : UInt64) :
    ∀ e ∈ (p.exec t cursor).events, e.IsOwn := by
  induction p, t, cursor using exec_induction with
  | nil t cursor => exact List.forall_mem_nil _
  | panic text p t cursor => exact List.forall_mem_nil _
  | step s p t cursor hs ih =>
      rw [exec_cons hs, Call.after_events]
      intro e he
      rcases List.mem_append.mp he with he | he
      · exact s.act_events t cursor e he
      · exact ih e he

/-- A program that never breaks off. -/
def Returns (p : Program) : Prop := ∀ text, Step.panic text ∉ p

/-- A call returns exactly when the program never breaks off. -/
theorem exec_returned_iff (p : Program) (t : Tape) (cursor : UInt64) :
    (∃ pointer, (p.exec t cursor).outcome = .returned pointer) ↔ p.Returns := by
  induction p, t, cursor using exec_induction with
  | nil t cursor => exact ⟨fun _ _ h => (by cases h), fun _ => ⟨cursor, rfl⟩⟩
  | panic text p t cursor =>
      constructor
      · rintro ⟨pointer, h⟩
        cases h
      · intro h
        exact absurd List.mem_cons_self (h text)
  | step s p t cursor hs ih =>
      rw [exec_cons hs, Call.after_outcome, ih]
      constructor
      · intro h text hmem
        rcases List.mem_cons.mp hmem with rfl | hmem
        · exact hs text rfl
        · exact h text hmem
      · intro h text hmem
        exact h text (List.mem_cons_of_mem s hmem)

theorem Returns.exec {p : Program} (hp : p.Returns) (t : Tape) (cursor : UInt64) :
    ∃ pointer, (p.exec t cursor).outcome = .returned pointer :=
  (p.exec_returned_iff t cursor).mpr hp

/-! ### Programs one after another -/

/-- What follows a program that returns goes on from where that has come to. -/
theorem exec_append {p : Program} {t : Tape} {cursor pointer : UInt64}
    (h : (p.exec t cursor).outcome = .returned pointer) (q : Program) :
    Program.exec (p ++ q) t cursor =
      (q.exec (p.exec t cursor).tape pointer).after (p.exec t cursor).events := by
  induction p, t, cursor using exec_induction with
  | nil t cursor =>
      cases h
      rfl
  | panic text p t cursor => cases h
  | step s p t cursor hs ih =>
      rw [exec_cons hs, Call.after_outcome] at h
      rw [List.cons_append, exec_cons hs, exec_cons hs, ih h]
      simp [Call.after]

/-- The steps before the program breaks off; all of them if it does not. -/
def untilPanic (p : Program) : Program := p.takeWhile fun s => !s.isPanic

theorem untilPanic_returns (p : Program) : p.untilPanic.Returns := by
  intro text hmem
  have hkept := List.mem_takeWhile_imp hmem
  simp [Step.isPanic] at hkept

theorem untilPanic_of_returns {p : Program} (hp : p.Returns) : p.untilPanic = p := by
  refine List.takeWhile_eq_self_iff.mpr fun s hs => ?_
  cases s with
  | panic text => exact absurd hs (hp text)
  | _ => rfl

/-- A program that does not return breaks off after the steps before it. -/
theorem exists_untilPanic {p : Program} (hp : ¬ p.Returns) :
    ∃ text rest, p = p.untilPanic ++ .panic text :: rest := by
  induction p with
  | nil => exact absurd (fun text => List.not_mem_nil) hp
  | cons s p ih =>
      by_cases hs : ∃ text, s = .panic text
      · obtain ⟨text, rfl⟩ := hs
        exact ⟨text, p, rfl⟩
      · have hrest : ¬ Returns p := fun h => hp fun text hmem => by
          rcases List.mem_cons.mp hmem with rfl | hmem
          · exact hs ⟨text, rfl⟩
          · exact h text hmem
        obtain ⟨text, rest, heq⟩ := ih hrest
        have hkeep : untilPanic (s :: p) = s :: untilPanic p := by
          cases s with
          | panic text => exact absurd ⟨text, rfl⟩ hs
          | _ => rfl
        exact ⟨text, rest, by rw [hkeep, List.cons_append, ← heq]⟩

/-- A call that breaks off has done what the steps before it do, and nothing else. -/
theorem exec_breaks {p : Program} (hp : ¬ p.Returns) (t : Tape) (cursor : UInt64) :
    ∃ text rest, p = p.untilPanic ++ .panic text :: rest
      ∧ p.exec t cursor =
        ⟨(p.untilPanic.exec t cursor).tape, .panicked text,
          (p.untilPanic.exec t cursor).events⟩ := by
  obtain ⟨text, rest, heq⟩ := exists_untilPanic hp
  obtain ⟨pointer, hdone⟩ := p.untilPanic_returns.exec t cursor
  refine ⟨text, rest, heq, ?_⟩
  have hall := exec_append hdone (.panic text :: rest)
  rw [← heq] at hall
  simpa [Program.exec, Call.after] using hall

/-- The cells are those that the steps before a break leave, whether there is one or not. -/
theorem exec_tape_untilPanic (p : Program) (t : Tape) (cursor : UInt64) :
    (p.untilPanic.exec t cursor).tape = (p.exec t cursor).tape := by
  by_cases hp : p.Returns
  · rw [untilPanic_of_returns hp]
  · obtain ⟨_, _, _, hexec⟩ := exec_breaks hp t cursor
    rw [hexec]

end Program

/-! ### The call itself -/

namespace Tape

theorem invoke_returned {t : Tape} {p : Program} {pointer : UInt64} (sink : Log.Sink)
    (h : (p.exec t t.base).outcome = .returned pointer) :
    t.invoke sink p =
      ⟨(p.exec t t.base).tape, .returned pointer,
        sink.emit (.invoking t.base) ++ [.call t.base] ++ (p.exec t t.base).events
          ++ sink.emit (.returned pointer)⟩ := by
  unfold invoke
  simp only [Call.after_outcome, h, Call.after_tape, Call.after_events]

/-- A call that breaks off says no more. -/
theorem invoke_panicked {t : Tape} {p : Program} {text : String} (sink : Log.Sink)
    (h : (p.exec t t.base).outcome = .panicked text) :
    t.invoke sink p =
      ⟨(p.exec t t.base).tape, .panicked text,
        sink.emit (.invoking t.base) ++ [.call t.base] ++ (p.exec t t.base).events⟩ := by
  unfold invoke
  simp only [h, Call.after]

theorem invoke_tape (t : Tape) (sink : Log.Sink) (p : Program) :
    (t.invoke sink p).tape = (p.exec t t.base).tape := by
  cases h : (p.exec t t.base).outcome with
  | returned pointer => rw [invoke_returned sink h]
  | panicked text => rw [invoke_panicked sink h]

end Tape

end TapeProbe
