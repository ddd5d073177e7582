import Mathlib.Data.List.Nodup
import TapeProbe.Proofs.Settings

/-!
# What statements do to the outermost table

A statement adds a key that is new, puts something else under a name, or takes a key out and adds it
again at the end. What it puts down is a table, or the value that it assigns (`Toml.Entries.Edit`).
So what edits preserve holds of the table of every document (`Toml.Draft.foldlM_induction`). One such
thing is that no two keys have the same name (`Toml.document_nodup`).
-/

namespace TapeProbe.Toml

/-- A table or an array of tables, and no value. -/
def Item.isTable : Item → Bool
  | .value .. => false
  | .table .. => true
  | .tables .. => true

/-- The value that a statement assigns. -/
def Statement.item? : Statement → Option Item
  | .assign _ _ v span => some (.value v span)
  | _ => none

namespace Entries

/-- An edit of a table: a key is added that is new, something else is put under a name, or a key is
taken out and added again. What is put down is a table, or the item that is given. -/
inductive Edit (given : Option Item) (es : Entries) : Entries → Prop where
  | push {key : Key} {item : Item} (hnew : es.item? key.name = none)
    (hitem : item.isTable = true ∨ given = some item) : Edit given es (es.push key item)
  | put {name : String} {item : Item} (hitem : item.isTable = true ∨ given = some item) :
    Edit given es (es.put name item)
  | reopen {key : Key} {item : Item} (hitem : item.isTable = true ∨ given = some item) :
    Edit given es ((es.remove key.name).push key item)

variable {es es' : Entries} {given : Option Item}

/-! ### Statements as edits -/

/-- Only at the end of its path does a dotted key put down its item. -/
theorem edit_assign {key : Key} {item : Item} {path : List Key}
    (h : es.assign key item path = some es') : es.Edit (some item) es' := by
  -- no induction: what goes into a table further in is not put down in this one
  cases path with
  | nil =>
      unfold assign at h
      split at h
      · cases h
      · next hnew =>
        cases h
        exact .push (by simpa using hnew) (Or.inr rfl)
  | cons k path =>
      unfold assign at h
      split at h
      · next hnew =>
        obtain ⟨inner, -, rfl⟩ := Option.map_eq_some_iff.mp h
        exact .push hnew (Or.inl rfl)
      · cases h
      · split at h
        · cases h
        · obtain ⟨inner, -, rfl⟩ := Option.map_eq_some_iff.mp h
          exact .put (Or.inl rfl)
      · split at h
        · cases h
        · obtain ⟨inner, -, rfl⟩ := Option.map_eq_some_iff.mp h
          exact .put (Or.inl rfl)

theorem edit_within {change : Entries → Option Entries}
    (hchange : ∀ {es es'}, change es = some es' → Edit given es es') {path : List Key}
    (h : es.within change path = some es') : es.Edit given es' := by
  cases path with
  | nil => exact hchange h
  | cons k path =>
      unfold within at h
      split at h
      · next hnew =>
        obtain ⟨inner, -, rfl⟩ := Option.map_eq_some_iff.mp h
        exact .push hnew (Or.inl rfl)
      · cases h
      · obtain ⟨inner, -, rfl⟩ := Option.map_eq_some_iff.mp h
        exact .put (Or.inl rfl)
      · obtain ⟨inner, -, rfl⟩ := Option.map_eq_some_iff.mp h
        exact .put (Or.inl rfl)

theorem edit_openTable {key : Key} {span : Span} (h : es.openTable key span = some es') :
    es.Edit given es' := by
  unfold openTable at h
  split at h
  · next hnew =>
    cases h
    exact .push hnew (Or.inl rfl)
  · cases h
    exact .reopen (Or.inl rfl)
  · cases h

theorem edit_openElement {key : Key} {span : Span} (h : es.openElement key span = some es') :
    es.Edit given es' := by
  unfold openElement at h
  split at h
  · next hnew =>
    cases h
    exact .push hnew (Or.inl rfl)
  · cases h
    exact .put (Or.inl rfl)
  · cases h

theorem edit_extend {change : Entries → Option Entries} {key : Key} {span : Span}
    (h : es.extend change key span = some es') : es.Edit given es' := by
  unfold extend at h
  split at h
  · obtain ⟨inner, -, rfl⟩ := Option.map_eq_some_iff.mp h
    exact .put (Or.inl rfl)
  · obtain ⟨inner, -, rfl⟩ := Option.map_eq_some_iff.mp h
    exact .put (Or.inl rfl)
  · cases h

end Entries

namespace Draft

variable {d d' : Draft}

theorem edit_add {s : Statement} (h : d.add s = some d') : d.root.Edit s.item? d'.root := by
  cases s with
  | assign path key v span =>
      unfold add at h
      dsimp only at h
      split at h
      · obtain ⟨root, hroot, rfl⟩ := Option.map_eq_some_iff.mp h
        exact Entries.edit_assign hroot
      · obtain ⟨root, hroot, rfl⟩ := Option.map_eq_some_iff.mp h
        exact Entries.edit_within Entries.edit_extend hroot
  | header path key span =>
      obtain ⟨root, hroot, rfl⟩ := Option.map_eq_some_iff.mp h
      exact Entries.edit_within Entries.edit_openTable hroot
  | element path key span =>
      obtain ⟨root, hroot, rfl⟩ := Option.map_eq_some_iff.mp h
      exact Entries.edit_within Entries.edit_openElement hroot

/-- What the edits of all statements preserve holds in the end. -/
theorem foldlM_induction {P : Entries → Prop} {all : List Statement}
    (hedit : ∀ s ∈ all, ∀ es es' : Entries, es.Edit s.item? es' → P es → P es') (hd : P d.root)
    (h : all.foldlM add d = some d') : P d'.root := by
  induction all generalizing d with
  | nil =>
      cases h
      exact hd
  | cons s all ih =>
      rw [List.foldlM_cons] at h
      obtain ⟨d₁, hadd, h⟩ := Option.bind_eq_some_iff.mp h
      have hd₁ : P d₁.root := hedit s List.mem_cons_self _ _ (edit_add hadd) hd
      exact ih (fun t ht => hedit t (List.mem_cons_of_mem s ht)) hd₁ h

end Draft

/-! ### Names -/

namespace Entries

variable {es es' : Entries} {given : Option Item}

/-- The names in a table, in order. -/
def names (es : Entries) : List String := es.map fun e => e.1.name

theorem not_mem_names_of_item? {name : String} (h : es.item? name = none) : name ∉ es.names := by
  intro hmem
  obtain ⟨e, he, heq⟩ := List.mem_map.mp hmem
  rw [item?, Option.map_eq_none_iff, List.find?_eq_none] at h
  exact h e he (beq_iff_eq.mpr heq)

theorem names_push (es : Entries) (key : Key) (item : Item) :
    (es.push key item).names = es.names ++ [key.name] := List.map_append

theorem names_put (es : Entries) (name : String) (item : Item) :
    (es.put name item).names = es.names := by
  unfold names put
  rw [List.map_map]
  refine List.map_congr_left fun e _ => ?_
  dsimp only [Function.comp_apply]
  split <;> rfl

theorem names_remove (es : Entries) (name : String) :
    (es.remove name).names = es.names.filter (· != name) := by
  unfold names remove
  rw [List.filter_map]
  rfl

/-- Names stay distinct. -/
theorem Edit.nodup (h : es.Edit given es') (hes : es.names.Nodup) : es'.names.Nodup := by
  cases h with
  | push hnew =>
      rw [names_push, List.nodup_append_comm, List.singleton_append]
      exact hes.cons (not_mem_names_of_item? hnew)
  | put => rwa [names_put]
  | @reopen key item =>
      rw [names_push, names_remove, List.nodup_append_comm, List.singleton_append]
      refine (hes.filter _).cons fun hmem => ?_
      exact absurd (List.mem_filter.mp hmem).2 (by simp)

end Entries

/-- The entries of a document have distinct names. -/
theorem document_nodup {cs : List Char} {es : List Entry} (h : document cs = some es) :
    (es.map fun e => e.key.name).Nodup := by
  unfold document at h
  obtain ⟨all, -, h⟩ := Option.bind_eq_some_iff.mp h
  obtain ⟨d, hd, h⟩ := Option.bind_eq_some_iff.mp h
  cases h
  have hempty : (Draft.root {}).names.Nodup := List.nodup_nil
  have hnames : d.root.names.Nodup :=
    Draft.foldlM_induction (fun _ _ _ _ hedit => hedit.nodup) hempty hd
  have hroot : d.root.map (fun e => (Entry.ofItem e.1 e.2).key.name) = d.root.names :=
    List.map_congr_left fun e _ => Entry.name_ofItem e.1 e.2
  rw [← hroot] at hnames
  rw [List.map_map]
  exact hnames

end TapeProbe.Toml
