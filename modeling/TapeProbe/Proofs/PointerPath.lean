import Mathlib.Data.List.DropRight
import Mathlib.Data.List.Induction
import TapeProbe.Proofs.EffectOrder
import TapeProbe.Proofs.Relocation

/-!
# The path of the cursor

Where a call ends is a matter of its moves alone. The cursor after a program (`Program.landing`) is
the last address that the program names, or else the base, and from there the sum of the moves that
follow; words go around the end of the address space, so the sum may be taken in unbounded numbers
first and reduced once (`toNat_add_ofInt`).

`Step.act_cursor` is the law for one step, `Program.exec_landing` the one for a call. Cells do not
occur in either, so a program may be cut down to its path (`Program.path`) and ends at the same
place, with the same verdict, report and stages.
-/

namespace TapeProbe

/-! ### Words and displacements -/

theorem toNat_ofInt (n : Int) : ((UInt64.ofInt n).toNat : Int) = n % UInt64.size := by
  have hword : (UInt64.ofInt n).toNat = (n % UInt64.size).toNat % UInt64.size :=
    UInt64.toNat_ofNat'
  rw [UInt64.size] at hword ⊢
  omega

/-- A displacement of any size is reduced once. -/
theorem toNat_add_ofInt (x : UInt64) (n : Int) :
    ((x + UInt64.ofInt n).toNat : Int) = (x.toNat + n) % UInt64.size := by
  have hn := toNat_ofInt n
  rw [UInt64.size] at hn ⊢
  rw [UInt64.toNat_add]
  omega

/-- On a tape whose end is an address, a pointer is judged by its displacement from the base, around
the end of the address space or not. -/
theorem Verdict.check_add_ofInt {base size : UInt64}
    (h : base.toNat + size.toNat < UInt64.size) (n : Int) :
    check base size (base + UInt64.ofInt n) =
      if n % UInt64.size ≤ size.toNat then .inBounds (UInt64.ofInt n) else .outOfBounds := by
  have hdistance : base + UInt64.ofInt n - base = UInt64.ofInt n := by grind
  have hle : UInt64.ofInt n ≤ size ↔ n % UInt64.size ≤ size.toNat := by
    rw [UInt64.le_iff_toNat_le, ← toNat_ofInt, Int.ofNat_le]
  rw [check_of_fits h, hdistance]
  simp only [hle]

/-! ### The cursor -/

namespace Step

/-- The address that the step names. -/
def address? : Step → Option UInt64
  | .abs address => some address
  | _ => none

/-- How far the step moves the cursor. -/
def amount : Step → Int
  | .move n => n
  | _ => 0

/-- Does the step leave the cursor where it is, to touch or look at cells? -/
def staysPut : Step → Bool
  | .set _ | .add _ | .get | .zeros => true
  | _ => false

/-- A step takes the cursor to the address it names, or else moves it. -/
theorem act_cursor (s : Step) (t : Tape) (cursor : UInt64) :
    (s.act t cursor).cursor = s.address?.getD (cursor + UInt64.ofInt s.amount) := by
  have hzero : cursor = cursor + UInt64.ofInt 0 := (UInt64.add_zero cursor).symm
  cases s with
  | move n => rfl
  | abs address => rfl
  | _ => exact hzero

end Step

namespace Program

/-- The sum of all moves. -/
def displacement : Program → Int
  | [] => 0
  | s :: p => s.amount + displacement p

/-- The last address that the program names, or else the base. -/
def origin (p : Program) (base : UInt64) : UInt64 :=
  (p.filterMap Step.address?).getLast?.getD base

/-- The steps after the last that names an address; all of them if none does. -/
def sinceOrigin (p : Program) : Program := p.rtakeWhile fun s => s.address?.isNone

/-- Where the cursor is after the program. -/
def landing (p : Program) (base : UInt64) : UInt64 :=
  p.origin base + UInt64.ofInt p.sinceOrigin.displacement

/-- The program without the steps that stay put. -/
def path (p : Program) : Program := p.filter fun s => !s.staysPut

theorem displacement_concat (p : Program) (s : Step) :
    displacement (p ++ [s]) = p.displacement + s.amount := by
  induction p with
  | nil => exact Int.add_comm s.amount 0
  | cons first p ih => rw [List.cons_append, displacement, ih, displacement, Int.add_assoc]

theorem landing_nil (base : UInt64) : landing [] base = base := UInt64.add_zero base

theorem landing_concat (p : Program) (s : Step) (base : UInt64) :
    landing (p ++ [s]) base = s.address?.getD (p.landing base + UInt64.ofInt s.amount) := by
  cases hs : s.address? with
  | some address =>
      have hsince : sinceOrigin (p ++ [s]) = [] := List.rtakeWhile_concat_neg _ _ _ (by simp [hs])
      have horigin : origin (p ++ [s]) base = address := by simp [origin, hs]
      rw [landing, hsince, horigin]
      exact UInt64.add_zero address
  | none =>
      have hsince : sinceOrigin (p ++ [s]) = p.sinceOrigin ++ [s] :=
        List.rtakeWhile_concat_pos _ _ _ (by simp [hs])
      have horigin : origin (p ++ [s]) base = p.origin base := by simp [origin, hs]
      rw [landing, hsince, horigin, displacement_concat, UInt64.ofInt_add, ← UInt64.add_assoc]
      rfl

theorem Returns.of_concat {p : Program} {s : Step} (h : Returns (p ++ [s])) :
    p.Returns ∧ ∀ text, s ≠ .panic text := by
  refine ⟨fun text hmem => h text (List.mem_append_left _ hmem), fun text heq => h text ?_⟩
  rw [heq]
  exact List.mem_append_right _ List.mem_cons_self

/-- A call that returns ends where the path leads, whatever is on the tape. -/
theorem exec_landing {p : Program} (hp : p.Returns) (t : Tape) (cursor : UInt64) :
    (p.exec t cursor).outcome = .returned (p.landing cursor) := by
  induction p using List.reverseRecOn with
  | nil => rw [landing_nil]; rfl
  | append_singleton p s ih =>
      obtain ⟨hbefore, hs⟩ := hp.of_concat
      rw [exec_append (ih hbefore), Call.after_outcome, exec_cons hs, Call.after_outcome,
        landing_concat, ← s.act_cursor (Program.exec p t cursor).tape]
      rfl

/-! ### The path alone -/

theorem Returns.path {p : Program} (hp : p.Returns) : p.path.Returns :=
  fun text hmem => hp text (List.mem_of_mem_filter hmem)

theorem landing_path (p : Program) (base : UInt64) : p.path.landing base = p.landing base := by
  induction p using List.reverseRecOn with
  | nil => rfl
  | append_singleton p s ih =>
      have hsplit : path (p ++ [s]) = path p ++ if s.staysPut then [] else [s] := by
        unfold path
        rw [List.filter_append]
        cases hs : s.staysPut <;> simp [hs]
      rw [hsplit, landing_concat]
      cases hs : s.staysPut with
      | false => rw [if_neg Bool.false_ne_true, landing_concat, ih]
      | true =>
          -- a step that stays put names no address and moves by nothing
          have hstay : s.address? = none ∧ s.amount = 0 := by
            cases s <;> first | exact ⟨rfl, rfl⟩ | cases hs
          rw [if_pos rfl, List.append_nil, ih, hstay.1, hstay.2]
          exact (UInt64.add_zero _).symm

theorem Relative.address?_eq_none {p : Program} (hp : p.Relative) : ∀ s ∈ p, s.address? = none := by
  intro s hs
  cases s with
  | abs address => exact absurd hs (hp address)
  | _ => rfl

/-- A program that names no address goes from the base by the sum of its moves. -/
theorem Relative.landing {p : Program} (hp : p.Relative) (base : UInt64) :
    p.landing base = base + UInt64.ofInt p.displacement := by
  have hsince : p.sinceOrigin = p :=
    List.rtakeWhile_eq_self_iff.mpr fun s hs => by rw [hp.address?_eq_none s hs]; rfl
  have horigin : p.origin base = base := by
    rw [origin, List.filterMap_eq_nil_iff.mpr hp.address?_eq_none]
    rfl
  rw [Program.landing, hsince, horigin]

end Program

/-! ### Runs of the path -/

namespace Bench

variable {b : Bench} {sink : Log.Sink} {c : Config} {a : Allocator} {p q : Program}

/-- The stages that a run records do not depend on what its entry point does with the cells. -/
theorem stageSteps_run_congr (h : a.Grants c.tapeSize) {pointer : UInt64}
    (hp : (p.exec (a.tape c.tapeSize h.possible) a.base).outcome = .returned pointer)
    (hq : (q.exec (a.tape c.tapeSize h.possible) a.base).outcome = .returned pointer) :
    stageSteps (b.run sink c a p).events = stageSteps (b.run sink c a q).events := by
  have hown : ∀ r : Program,
      stageSteps (r.exec (a.tape c.tapeSize h.possible) a.base).events = [] :=
    fun r => stageSteps_of_isEffect fun e he => isEffect_of_isOwn (r.exec_events _ _ e he)
  rw [← stageSteps_milestones, ← stageSteps_milestones (b.run sink c a q).events,
    milestones_run_returned h hp, milestones_run_returned h hq]
  simp only [stageSteps_append, hown]

/-- Two runs that come to the same end. -/
structure SameEnd (r r' : Run) : Prop where
  /-- The same result, with pointer, verdict and stages, or the same failure. -/
  outcome : r.outcome = r'.outcome
  /-- Writer and trap are left alike, with the same text written. -/
  bench : r.bench = r'.bench
  /-- The same stages are recorded. -/
  stages : stageSteps r.events = stageSteps r'.events

theorem run_path_sameEnd (b : Bench) (sink : Log.Sink) (c : Config) (a : Allocator)
    (hp : p.Returns) : SameEnd (b.run sink c a p.path) (b.run sink c a p) := by
  by_cases h : a.Grants c.tapeSize
  · have hcall := Program.exec_landing hp (a.tape c.tapeSize h.possible) a.base
    have hpath := Program.exec_landing hp.path (a.tape c.tapeSize h.possible) a.base
    rw [p.landing_path] at hpath
    have hstages : stageSteps (b.run sink c a p.path).events
        = stageSteps (b.run sink c a p).events := stageSteps_run_congr h hpath hcall
    refine ⟨?_, ?_, hstages⟩
    · rw [run_returned h hpath, run_returned h hcall]
    · rw [run_returned h hpath, run_returned h hcall]
  · rw [run_refused h, run_refused h]
    exact ⟨rfl, rfl, rfl⟩

/-- **Only the path decides.** Take any entry point that does not break off, with moves by any
amounts, on and off its tape.

* On every tape it returns the last address it names, or else the base, plus the sum of its moves
  since, reduced modulo `2 ^ 64`. Without the steps that touch or look at cells it returns the same.
* If it names no address and the end of the tape is one, the verdict on what it returns depends on
  the sum of its moves modulo `2 ^ 64` alone: in bounds with just this offset if it is at most the
  size, and out of bounds otherwise.
* So is the verdict of a run, which reports the pointer that was said. A run without the steps that
  touch or look at cells has the same result, or fails alike, writes the same text and passes the
  same stages. -/
theorem path_decides_run (p : Program) (hp : p.Returns) :
    (∀ (t : Tape) (sink : Log.Sink), ∃ pointer : UInt64,
      (t.invoke sink p).outcome = .returned pointer
      ∧ (t.invoke sink p.path).outcome = .returned pointer
      ∧ (pointer.toNat : Int)
        = ((p.origin t.base).toNat + p.sinceOrigin.displacement) % UInt64.size
      ∧ (p.Relative → t.base.toNat + t.size.toNat < UInt64.size →
          Verdict.check t.base t.size pointer =
            if p.displacement % UInt64.size ≤ t.size.toNat then
              .inBounds (UInt64.ofInt p.displacement)
            else .outOfBounds))
    ∧ ((UInt64.ofInt p.displacement).toNat : Int) = p.displacement % UInt64.size
    ∧ ∀ (b : Bench) (sink : Log.Sink) (c : Config) (a : Allocator),
        SameEnd (b.run sink c a p.path) (b.run sink c a p)
        ∧ (a.Grants c.tapeSize → ∃ pointer : UInt64,
            (pointer.toNat : Int)
              = ((p.origin a.base).toNat + p.sinceOrigin.displacement) % UInt64.size
            ∧ ((b.delivery c a pointer).error = none →
                (b.run sink c a p).outcome = .finished ⟨a.base, c.tapeSize, pointer,
                  Verdict.check a.base c.tapeSize pointer, Stage.all⟩)
            ∧ (∀ e, (b.delivery c a pointer).error = some e →
                (b.run sink c a p).outcome = .failed (.io e))
            ∧ (p.Relative → a.base.toNat + c.tapeSize.toNat < UInt64.size →
                Verdict.check a.base c.tapeSize pointer =
                  if p.displacement % UInt64.size ≤ c.tapeSize.toNat then
                    .inBounds (UInt64.ofInt p.displacement)
                  else .outOfBounds)) := by
  have hverdict : ∀ base size : UInt64, p.Relative → base.toNat + size.toNat < UInt64.size →
      Verdict.check base size (p.landing base) =
        if p.displacement % UInt64.size ≤ size.toNat then .inBounds (UInt64.ofInt p.displacement)
        else .outOfBounds := by
    intro base size hrelative hfits
    rw [hrelative.landing, Verdict.check_add_ofInt hfits]
  refine ⟨fun t sink => ⟨p.landing t.base, ?_, ?_, toNat_add_ofInt _ _, hverdict _ _⟩,
    toNat_ofInt _, fun b sink c a => ⟨run_path_sameEnd b sink c a hp, fun h =>
      ⟨p.landing a.base, toNat_add_ofInt _ _, ?_, ?_, hverdict _ _⟩⟩⟩
  · rw [Tape.invoke_returned sink (Program.exec_landing hp t t.base)]
  · rw [Tape.invoke_returned sink (Program.exec_landing hp.path t t.base), p.landing_path]
  · exact run_outcome_of_sent h (Program.exec_landing hp _ _)
  · intro e he
    rw [run_returned h (Program.exec_landing hp _ _)]
    simp only [he]

/-- The cursor goes below the base and comes back to one past the tape, storing and looking on the
way; and a program that names an address goes from there below the lowest one. -/
theorem path_decides_run_around_zero :
    (∃ r, (run {} Log.Verbosity.debug.sink {} {}
          [.move (-1), .set 7, .move 30001, .get, .zeros]).outcome = .finished r
        ∧ (run {} Log.Verbosity.debug.sink {} {} [.move (-1), .move 30001]).outcome = .finished r
        ∧ r.verdict = .inBounds 30000)
    ∧ ∃ pointer, (Tape.invoke (Allocator.tape {} 30000 (by decide)) Log.Verbosity.debug.sink
          [.move 3, .abs 5, .add 1, .move (-6)]).outcome = .returned pointer
        ∧ (pointer.toNat : Int) = UInt64.size - 1 := by
  have hregular : Writer.Regular {} := ⟨by decide, by decide⟩
  have hrelative : Program.Relative [.move (-1), .set 7, .move 30001, .get, .zeros] := by
    simp [Program.Relative]
  obtain ⟨-, -, hruns⟩ := path_decides_run [.move (-1), .set 7, .move 30001, .get, .zeros]
    (by simp [Program.Returns])
  obtain ⟨hsame, hgranted⟩ := hruns {} Log.Verbosity.debug.sink {} {}
  obtain ⟨pointer, -, hfinished, -, hverdict⟩ := hgranted (by decide)
  have hend := hfinished (Report.send_error_of_unlimited _ hregular rfl rfl)
  obtain ⟨hcalls, -, -⟩ := path_decides_run [.move 3, .abs 5, .add 1, .move (-6)]
    (by simp [Program.Returns])
  obtain ⟨pointer', hcall, -, hpointer, -⟩ :=
    hcalls (Allocator.tape {} 30000 (by decide)) Log.Verbosity.debug.sink
  exact ⟨⟨_, hend, hsame.outcome.trans hend, hverdict hrelative (by decide)⟩,
    pointer', hcall, hpointer⟩

end Bench

end TapeProbe
