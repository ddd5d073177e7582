import Mathlib.Data.String.Basic
import TapeProbe.Session

/-!
# The tapes of a session

Looked up by name, the tapes are a map: `put` and `remove` change one name and no other
(`tape?_put`, `tape?_remove`).

The tapes of a session are kept in the order of their names, so a name stands for one tape. Putting
a tape under a name and taking one out are then told by two permutations: the tapes after `put` are
the new tape and the tapes of other names (`put_perm`), and so are the tapes before, with the tape
that was there (`perm_of_tape?`).
-/

namespace TapeProbe.Tapes

/-- In the order of the names, each name once. -/
def Ordered (ts : Tapes) : Prop := ts.Pairwise fun e f => e.1 < f.1

/-- The sizes of the tapes. -/
def sizes (ts : Tapes) : List UInt64 := ts.map fun e => e.2.size

theorem remove_of_forall_ne {ts : Tapes} {name : String} (h : ∀ e ∈ ts, e.1 ≠ name) :
    ts.remove name = ts :=
  List.filter_eq_self.mpr fun e he => bne_iff_ne.mpr (h e he)

theorem remove_cons (e : String × Tape) (ts : Tapes) (name : String) :
    remove (e :: ts) name = if e.1 = name then ts.remove name else e :: ts.remove name := by
  unfold remove
  rw [List.filter_cons]
  by_cases h : e.1 = name <;> simp [h]

theorem tape?_cons (e : String × Tape) (ts : Tapes) (name : String) :
    tape? (e :: ts) name = if e.1 = name then some e.2 else ts.tape? name := by
  unfold tape?
  rw [List.find?_cons]
  by_cases h : e.1 = name
  · rw [if_pos h, beq_iff_eq.mpr h]
    rfl
  · rw [if_neg h, beq_false_of_ne h]

/-- A name that is free is not that of a tape. -/
theorem ne_of_tape? {ts : Tapes} {name other : String} {t : Tape} (hfree : ts.tape? name = none)
    (ht : ts.tape? other = some t) : name ≠ other := by
  rintro rfl
  rw [hfree] at ht
  cases ht

/-- After `put` there is the new tape under its name, and what was there under any other. -/
theorem tape?_put (ts : Tapes) (name other : String) (t : Tape) :
    (ts.put name t).tape? other = if name = other then some t else ts.tape? other := by
  induction ts with
  | nil => rw [put, tape?_cons]
  | cons e ts ih =>
      rw [put]
      split
      · rw [tape?_cons]
      · split
        · next heq =>
          simp only [tape?_cons, heq]
          split <;> rfl
        · next hne =>
          simp only [tape?_cons, ih]
          -- the first tape is not the one that is put
          by_cases he : e.1 = other
          · rw [if_pos he, if_pos he, if_neg fun h => hne (he.trans h.symm)]
          · rw [if_neg he, if_neg he]

theorem tape?_remove (ts : Tapes) (name other : String) :
    (ts.remove name).tape? other = if name = other then none else ts.tape? other := by
  induction ts with
  | nil => split <;> rfl
  | cons e ts ih =>
      rw [remove_cons, tape?_cons]
      by_cases he : e.1 = name
      · rw [if_pos he, ih, he]
        split <;> rfl
      · rw [if_neg he, tape?_cons, ih]
        by_cases ho : e.1 = other
        · rw [if_pos ho, if_pos ho, if_neg fun h => he (ho.trans h.symm)]
        · rw [if_neg ho, if_neg ho]

/-- Under a name that is free there is nothing to take out. -/
theorem remove_of_tape?_none {ts : Tapes} {name : String} (h : ts.tape? name = none) :
    ts.remove name = ts := by
  refine remove_of_forall_ne fun e he heq => ?_
  rw [tape?, Option.map_eq_none_iff, List.find?_eq_none] at h
  exact h e he (beq_iff_eq.mpr heq)

/-- The names that follow the first are not the first, nor any that comes before it. -/
theorem Ordered.remove_tail {e : String × Tape} {ts : Tapes} (h : Ordered (e :: ts))
    {name : String} (hle : name ≤ e.1) : ts.remove name = ts :=
  remove_of_forall_ne fun _ hf => ne_of_gt (lt_of_le_of_lt hle (List.rel_of_pairwise_cons h hf))

/-- The tapes after `put`. -/
theorem put_perm {ts : Tapes} (h : ts.Ordered) (name : String) (t : Tape) :
    (ts.put name t).Perm ((name, t) :: ts.remove name) := by
  induction ts with
  | nil => exact List.Perm.refl _
  | cons e ts ih =>
      have htail : Ordered ts := h.of_cons
      rw [put, remove_cons]
      split
      · next hlt =>
        rw [if_neg (ne_of_gt hlt), h.remove_tail hlt.le]
      · split
        · next heq => rw [h.remove_tail heq.ge]
        · exact ((ih htail).cons e).trans (List.Perm.swap ..)

/-- The tapes around the one that has a name. -/
theorem perm_of_tape? {ts : Tapes} (h : ts.Ordered) {name : String} {t : Tape}
    (ht : ts.tape? name = some t) : ts.Perm ((name, t) :: ts.remove name) := by
  induction ts with
  | nil => cases ht
  | cons e ts ih =>
      rw [tape?_cons] at ht
      rw [remove_cons]
      split at ht
      · next heq =>
        cases ht
        rw [if_pos heq, h.remove_tail heq.ge, ← heq]
      · next hne =>
        rw [if_neg hne]
        exact ((ih h.of_cons ht).cons e).trans (List.Perm.swap ..)

theorem Ordered.remove {ts : Tapes} (h : ts.Ordered) (name : String) : (ts.remove name).Ordered :=
  h.filter _

theorem Ordered.put {ts : Tapes} (h : ts.Ordered) (name : String) (t : Tape) :
    (ts.put name t).Ordered := by
  induction ts with
  | nil => exact List.pairwise_singleton _ _
  | cons e ts ih =>
      have htail : Ordered ts := h.of_cons
      have hhead : ∀ f ∈ ts, e.1 < f.1 := fun f hf => List.rel_of_pairwise_cons h hf
      rw [Tapes.put]
      split
      · next hlt =>
        refine List.pairwise_cons.mpr ⟨fun f hf => ?_, h⟩
        rcases List.mem_cons.mp hf with rfl | hf
        · exact hlt
        · exact hlt.trans (hhead f hf)
      · next hnlt =>
        split
        · next heq => exact List.pairwise_cons.mpr ⟨fun f hf => heq ▸ hhead f hf, htail⟩
        · next hne =>
          refine List.pairwise_cons.mpr ⟨fun f hf => ?_, ih htail⟩
          -- what follows is the new tape or one of the old
          rcases List.mem_cons.mp ((put_perm htail name t).mem_iff.mp hf) with rfl | hf
          · exact lt_of_le_of_ne (not_lt.mp hnlt) hne
          · exact hhead f (List.mem_of_mem_filter hf)

/-! ### Sizes -/

theorem sizes_perm {ts us : Tapes} (h : ts.Perm us) : ts.sizes.Perm us.sizes := h.map _

/-- A tape under a free name comes to the others. -/
theorem sizes_put_fresh {ts : Tapes} (h : ts.Ordered) {name : String}
    (hname : ts.tape? name = none) (t : Tape) :
    (ts.put name t).sizes.Perm (t.size :: ts.sizes) := by
  have hnew := sizes_perm (put_perm h name t)
  rwa [remove_of_tape?_none hname] at hnew

/-- A tape that is taken out leaves the others. -/
theorem sizes_remove {ts : Tapes} (h : ts.Ordered) {name : String} {t : Tape}
    (ht : ts.tape? name = some t) : ts.sizes.Perm (t.size :: (ts.remove name).sizes) :=
  sizes_perm (perm_of_tape? h ht)

/-- A tape of the same size in the place of another. -/
theorem sizes_put_known {ts : Tapes} (h : ts.Ordered) {name : String} {t u : Tape}
    (ht : ts.tape? name = some t) (hsize : u.size = t.size) :
    (ts.put name u).sizes.Perm ts.sizes := by
  have hnew : (ts.put name u).sizes.Perm (u.size :: (ts.remove name).sizes) :=
    sizes_perm (put_perm h name u)
  rw [hsize] at hnew
  exact hnew.trans (sizes_remove h ht).symm

end TapeProbe.Tapes
