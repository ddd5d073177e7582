import TapeProbe.Failure
import TapeProbe.Proofs.Expressible

/-!
# From entries to a configuration

A document is, for a configuration, the list of its entries. No two of them have the same name
(`Toml.document_nodup`).

An entry fits if it has the name of a setting and a value that the setting takes (`Config.Fits`). If
all entries fit, the settings have the values given, and since names are distinct, each setting can
be looked up without regard to the order (`Config.setAll_value`). If not, the first entry at fault
(`Config.Fault`) decides, and what follows it is not looked at (`Config.setAll_fault`).
-/

namespace TapeProbe

namespace Config

/-! ### Entries that fit -/

/-- The name of a setting. -/
def Field.name : Field → String
  | .requestedSize => "requested_size"
  | .logFilter => "log_filter"

/-- The values that a setting takes: a size any natural number, a filter any string. -/
def Field.Takes : Field → Toml.Value → Prop
  | .requestedSize, v => ∃ n : Nat, v = .integer n
  | .logFilter, v => ∃ s, v = .string s

/-- The value of a setting. -/
def value (c : Config) : Field → Toml.Value
  | .requestedSize => .integer c.requestedSize.toNat
  | .logFilter => .string c.logFilter

/-- A name and a value that fit: the name is that of a setting, which takes the value. -/
def Fits (s : String × Toml.Value) : Prop := ∃ f : Field, s.1 = f.name ∧ f.Takes s.2

/-- What is wrong with an entry: the words for it, and the stretch of the document to blame. -/
inductive Fault (e : Toml.Entry) : String → Toml.Span → Prop where
  /-- There is no setting of this name. -/
  | unknown (hname : ∀ f : Field, e.key.name ≠ f.name) :
    Fault e ("unknown field `" ++ e.key.name ++ "`, expected `requested_size` or `log_filter`")
      e.key.span
  /-- The size is no integer. -/
  | wrongSize (hname : e.key.name = "requested_size") (hvalue : ∀ i, e.value ≠ .integer i) :
    Fault e ("invalid type: " ++ describeValue e.value ++ ", expected u64") e.span
  /-- The size is negative. -/
  | negativeSize (hname : e.key.name = "requested_size") {i : Int} (hvalue : e.value = .integer i)
    (hi : i < 0) : Fault e ("invalid value: integer `" ++ Numeral.signed i ++ "`, expected u64") e.span
  /-- The filter is no string. -/
  | wrongFilter (hname : e.key.name = "log_filter") (hvalue : ∀ s, e.value ≠ .string s) :
    Fault e ("invalid type: " ++ describeValue e.value ++ ", expected a string") e.span

theorem Field.ofName?_eq_some_iff {name : String} {f : Field} :
    Field.ofName? name = some f ↔ name = f.name := by
  unfold Field.ofName?
  split
  · next h => cases f <;> simp [h, Field.name]
  · next hsize =>
    split
    · next h => cases f <;> simp [h, Field.name]
    · next hfilter => cases f <;> simp [hsize, hfilter, Field.name]

theorem Field.name_injective {f g : Field} (h : f.name = g.name) : f = g := by
  have hf : Field.ofName? f.name = some f := Field.ofName?_eq_some_iff.mpr rfl
  have hg : Field.ofName? f.name = some g := Field.ofName?_eq_some_iff.mpr h
  exact Option.some.inj (hf.symm.trans hg)

theorem Field.ofName?_eq_none_iff {name : String} :
    Field.ofName? name = none ↔ ∀ f : Field, name ≠ f.name := by
  simp only [Option.eq_none_iff_forall_ne_some, ne_eq, Field.ofName?_eq_some_iff]

theorem ext_value {c d : Config} (h : ∀ f, c.value f = d.value f) : c = d := by
  obtain ⟨m, s⟩ := c
  obtain ⟨n, t⟩ := d
  have hsize : (m.toNat : Int) = n.toNat := Toml.Value.integer.inj (h .requestedSize)
  have hfilter : s = t := Toml.Value.string.inj (h .logFilter)
  rw [UInt64.toNat_inj.mp (Int.ofNat.inj hsize), hfilter]

/-- An entry fits, or there is something wrong with it. -/
theorem fits_or_fault (e : Toml.Entry) : Fits e.setting ∨ ∃ words span, Fault e words span := by
  cases hfield : Field.ofName? e.key.name with
  | none => exact Or.inr ⟨_, _, .unknown (Field.ofName?_eq_none_iff.mp hfield)⟩
  | some f =>
      have hname := Field.ofName?_eq_some_iff.mp hfield
      cases f with
      | requestedSize =>
          by_cases hvalue : ∃ i, e.value = .integer i
          · obtain ⟨i, hi⟩ := hvalue
            by_cases hneg : i < 0
            · exact Or.inr ⟨_, _, .negativeSize hname hi hneg⟩
            · exact Or.inl ⟨.requestedSize, hname, i.toNat, by
                rw [Int.toNat_of_nonneg (Int.not_lt.mp hneg)]; exact hi⟩
          · exact Or.inr ⟨_, _, .wrongSize hname fun i hi => hvalue ⟨i, hi⟩⟩
      | logFilter =>
          by_cases hvalue : ∃ s, e.value = .string s
          · exact Or.inl ⟨.logFilter, hname, hvalue⟩
          · exact Or.inr ⟨_, _, .wrongFilter hname fun s hs => hvalue ⟨s, hs⟩⟩

/-! ### Taking in entries -/

/-- An entry that fits sets its setting and no other. -/
theorem set_of_takes {e : Toml.Entry} {f : Field} (hname : e.key.name = f.name)
    (htakes : f.Takes e.value) (hbounded : e.value.Bounded) (c : Config) :
    ∃ c', c.set e = .ok c' ∧ ∀ g, c'.value g = if g = f then e.value else c.value g := by
  cases f with
  | requestedSize =>
      obtain ⟨n, hn⟩ := htakes
      rw [hn] at hbounded
      have hlt : (n : Int) < 0x8000000000000000 := hbounded
      have hnat : (UInt64.ofNat n).toNat = n := by
        rw [UInt64.toNat_ofNat']
        omega
      have hsetting : e.setting = ("requested_size", .integer (UInt64.ofNat n).toNat) := by
        rw [hnat]
        exact Prod.ext hname hn
      refine ⟨_, set_size hsetting, fun g => ?_⟩
      cases g with
      | requestedSize => rw [if_pos rfl, hn, value, hnat]
      | logFilter => rfl
  | logFilter =>
      obtain ⟨s, hs⟩ := htakes
      refine ⟨_, set_filter (Prod.ext hname hs), fun g => ?_⟩
      cases g with
      | requestedSize => rfl
      | logFilter => rw [if_pos rfl, hs, value]

theorem Reason.message_wrongType (f : Field) (v : Toml.Value) :
    (Reason.wrongType f v).message
      = "invalid type: " ++ describeValue v ++ (", expected " ++ f.expected) :=
  String.append_assoc

/-- An entry at fault is rejected, whatever the configuration. -/
theorem set_of_fault {e : Toml.Entry} {words : String} {span : Toml.Span} (h : Fault e words span) :
    ∃ reason : Reason, reason.message = words ∧ ∀ c : Config, c.set e = .error ⟨reason, span⟩ := by
  cases h with
  | unknown hname =>
      refine ⟨.unknownField e.key.name, rfl, fun c => ?_⟩
      unfold set
      rw [Field.ofName?_eq_none_iff.mpr hname]
  | wrongSize hname hvalue =>
      refine ⟨.wrongType .requestedSize e.value, Reason.message_wrongType _ _, fun c => ?_⟩
      unfold set
      rw [(Field.ofName?_eq_some_iff (f := .requestedSize)).mpr hname]
      cases hv : e.value with
      | integer i => exact absurd hv (hvalue i)
      | _ => rfl
  | @negativeSize hname i hvalue hi =>
      refine ⟨.negativeSize i, rfl, fun c => ?_⟩
      unfold set
      rw [(Field.ofName?_eq_some_iff (f := .requestedSize)).mpr hname, hvalue]
      exact if_pos hi
  | wrongFilter hname hvalue =>
      refine ⟨.wrongType .logFilter e.value, Reason.message_wrongType _ _, fun c => ?_⟩
      unfold set
      rw [(Field.ofName?_eq_some_iff (f := .logFilter)).mpr hname]
      cases hv : e.value with
      | string s => exact absurd hv (hvalue s)
      | _ => rfl

/-- Entries that fit are all taken in. -/
theorem exists_setAll {es : List Toml.Entry} (hfits : ∀ e ∈ es, Fits e.setting)
    (hbounded : ∀ e ∈ es, e.value.Bounded) (c : Config) : ∃ c', c.setAll es = .ok c' := by
  induction es generalizing c with
  | nil => exact ⟨c, rfl⟩
  | cons e es ih =>
      obtain ⟨f, hname, htakes⟩ := hfits e List.mem_cons_self
      obtain ⟨c₁, hset, -⟩ := set_of_takes hname htakes (hbounded e List.mem_cons_self) c
      obtain ⟨c', hc'⟩ := ih (fun g hg => hfits g (List.mem_cons_of_mem e hg))
        (fun g hg => hbounded g (List.mem_cons_of_mem e hg)) c₁
      exact ⟨c', by rw [setAll, hset]; exact hc'⟩

/-- Only entries that fit are taken in. -/
theorem fits_of_set {c c' : Config} {e : Toml.Entry} (h : c.set e = .ok c') : Fits e.setting := by
  obtain hfits | ⟨words, span, hfault⟩ := fits_or_fault e
  · exact hfits
  · obtain ⟨reason, -, hset⟩ := set_of_fault hfault
    rw [hset c] at h
    cases h

theorem fits_of_setAll {c c' : Config} {es : List Toml.Entry} (h : c.setAll es = .ok c') :
    ∀ e ∈ es, Fits e.setting := by
  induction es generalizing c with
  | nil =>
      intro e he
      cases he
  | cons e es ih =>
      unfold setAll at h
      split at h
      · next c₁ hset => exact List.forall_mem_cons.mpr ⟨fits_of_set hset, ih h⟩
      · cases h

/-- Where no name comes twice, a setting has the value that is given under its name, and keeps the one
that it has if there is none. -/
theorem setAll_value {es : List Toml.Entry} (hnodup : (es.map fun e => e.key.name).Nodup)
    (hbounded : ∀ e ∈ es, e.value.Bounded) {c c' : Config} (h : c.setAll es = .ok c') (f : Field) :
    (∀ e ∈ es, e.key.name = f.name → c'.value f = e.value)
    ∧ ((∀ e ∈ es, e.key.name ≠ f.name) → c'.value f = c.value f) := by
  induction es generalizing c with
  | nil =>
      cases h
      exact ⟨fun e he => (by cases he), fun _ => rfl⟩
  | cons e es ih =>
      unfold setAll at h
      split at h
      · next c₁ hset =>
        obtain ⟨hnew, hrest⟩ := List.nodup_cons.mp hnodup
        obtain ⟨hgiven, hkept⟩ := ih hrest (fun g hg => hbounded g (List.mem_cons_of_mem e hg)) h
        obtain ⟨g, hname, htakes⟩ := fits_of_set hset
        obtain ⟨c₂, hset₂, hvalue⟩ := set_of_takes hname htakes (hbounded e List.mem_cons_self) c
        obtain rfl : c₁ = c₂ := Except.ok.inj (hset.symm.trans hset₂)
        refine ⟨List.forall_mem_cons.mpr ⟨fun hf => ?_, hgiven⟩, fun hnone => ?_⟩
        · -- the name does not come again
          obtain rfl : f = g := Field.name_injective (hf.symm.trans hname)
          rw [hkept fun e' he' heq => hnew (List.mem_map.mpr ⟨e', he', heq.trans hf.symm⟩), hvalue,
            if_pos rfl]
        · obtain ⟨hne, hnone⟩ := List.forall_mem_cons.mp hnone
          rw [hkept hnone, hvalue, if_neg fun hfg => hne (hname.trans (congrArg _ hfg.symm))]
      · cases h

/-- The order of the entries does not matter, nor where they stand. -/
theorem setAll_perm {es fs : List Toml.Entry} (hnodup : (es.map fun e => e.key.name).Nodup)
    (hbounded : ∀ e ∈ es, e.value.Bounded)
    (hperm : (fs.map Toml.Entry.setting).Perm (es.map Toml.Entry.setting)) {c d : Config}
    (h : c.setAll es = .ok d) : c.setAll fs = .ok d := by
  have hmem : ∀ e ∈ fs, ∃ e' ∈ es, e'.setting = e.setting := fun e he =>
    List.mem_map.mp (hperm.mem_iff.mp (List.mem_map_of_mem he))
  have hmem' : ∀ e ∈ es, ∃ e' ∈ fs, e'.setting = e.setting := fun e he =>
    List.mem_map.mp (hperm.mem_iff.mpr (List.mem_map_of_mem he))
  have hfits : ∀ e ∈ fs, Fits e.setting := by
    intro e he
    obtain ⟨e', he', heq⟩ := hmem e he
    exact heq ▸ fits_of_setAll h e' he'
  have hbounded' : ∀ e ∈ fs, e.value.Bounded := by
    intro e he
    obtain ⟨e', he', heq⟩ := hmem e he
    exact (Prod.mk.inj heq).2 ▸ hbounded e' he'
  have hnodup' : (fs.map fun e => e.key.name).Nodup := by
    have hnames := (hperm.map Prod.fst).nodup_iff
    rw [List.map_map, List.map_map] at hnames
    exact hnames.mpr hnodup
  obtain ⟨d', hd'⟩ := exists_setAll hfits hbounded' c
  have hsame : d' = d := by
    apply ext_value
    intro f
    obtain ⟨hgiven, hkept⟩ := setAll_value hnodup hbounded h f
    obtain ⟨hgiven', hkept'⟩ := setAll_value hnodup' hbounded' hd' f
    by_cases hsome : ∃ e ∈ es, e.key.name = f.name
    · obtain ⟨e, he, hname⟩ := hsome
      obtain ⟨e', he', heq⟩ := hmem' e he
      obtain ⟨hname', hvalue'⟩ := Prod.mk.inj heq
      rw [hgiven e he hname, hgiven' e' he' (hname'.trans hname), hvalue']
    · have hnone' : ∀ e ∈ fs, e.key.name ≠ f.name := by
        intro e he hname
        obtain ⟨e', he', heq⟩ := hmem e he
        exact hsome ⟨e', he', (Prod.mk.inj heq).1.trans hname⟩
      rw [hkept fun e he hname => hsome ⟨e, he, hname⟩, hkept' hnone']
  rw [hd', hsame]

/-! ### The first entry at fault -/

theorem setAll_append {before : List Toml.Entry} {c d : Config} (h : c.setAll before = .ok d)
    (after : List Toml.Entry) : c.setAll (before ++ after) = d.setAll after := by
  induction before generalizing c with
  | nil =>
      cases h
      rfl
  | cons e es ih =>
      unfold setAll at h
      split at h
      · next c₁ hset =>
        rw [List.cons_append, setAll, hset]
        exact ih h
      · cases h

/-- What follows the first entry at fault is not looked at. -/
theorem setAll_fault {before : List Toml.Entry} (hfits : ∀ f ∈ before, Fits f.setting)
    (hbounded : ∀ f ∈ before, f.value.Bounded) {e : Toml.Entry} {words : String} {span : Toml.Span}
    (hfault : Fault e words span) (c : Config) :
    ∃ reason : Reason, reason.message = words
      ∧ ∀ after, c.setAll (before ++ e :: after) = .error ⟨reason, span⟩ := by
  obtain ⟨d, hd⟩ := exists_setAll hfits hbounded c
  obtain ⟨reason, hwords, hset⟩ := set_of_fault hfault
  refine ⟨reason, hwords, fun after => ?_⟩
  rw [setAll_append hd, setAll, hset d]

/-- Where not all entries fit there is a first one at fault. -/
theorem exists_first_fault {es : List Toml.Entry} (h : ¬ ∀ e ∈ es, Fits e.setting) :
    ∃ before e after words span, es = before ++ e :: after
      ∧ (∀ f ∈ before, Fits f.setting) ∧ Fault e words span := by
  induction es with
  | nil => exact absurd (fun e he => (by cases he)) h
  | cons e es ih =>
      obtain hfits | ⟨words, span, hfault⟩ := fits_or_fault e
      · obtain ⟨before, e', after, words, span, rfl, hbefore, hfault⟩ :=
          ih fun hes => h (List.forall_mem_cons.mpr ⟨hfits, hes⟩)
        exact ⟨e :: before, e', after, words, span, rfl,
          List.forall_mem_cons.mpr ⟨hfits, hbefore⟩, hfault⟩
      · exact ⟨[], e, es, words, span, rfl, fun f hf => (by cases hf), hfault⟩

/-! ### Configurations from documents -/

variable {text : String} {es : List Toml.Entry}

theorem ofText_of_setAll (hes : Toml.document text.toList = some es) {c : Config}
    (h : setAll {} es = .ok c) : ofText text = .ok c := by
  simp only [ofText, ofDocument, hes, h]

theorem setAll_of_ofText (hes : Toml.document text.toList = some es) {c : Config}
    (h : ofText text = .ok c) : setAll {} es = .ok c := by
  simp only [ofText, ofDocument, hes] at h
  split at h
  · next c' hset =>
    cases h
    exact hset
  · cases h

theorem ofText_of_rejected (hes : Toml.document text.toList = some es) {r : Rejection}
    (h : setAll {} es = .error r) : ofText text = .error (.rejected text.toList r) := by
  simp only [ofText, ofDocument, hes, h]

/-- An entry fits if it gives a size that is not negative, or a filter that is a string. -/
theorem fits_iff (e : Toml.Entry) :
    Fits e.setting ↔
      (e.key.name = "requested_size" ∧ ∃ n : Nat, e.value = .integer n)
      ∨ (e.key.name = "log_filter" ∧ ∃ s, e.value = .string s) := by
  constructor
  · rintro ⟨f, hname, htakes⟩
    cases f with
    | requestedSize => exact Or.inl ⟨hname, htakes⟩
    | logFilter => exact Or.inr ⟨hname, htakes⟩
  · rintro (⟨hname, htakes⟩ | ⟨hname, htakes⟩)
    · exact ⟨.requestedSize, hname, htakes⟩
    · exact ⟨.logFilter, hname, htakes⟩

/-- **How a document becomes a configuration.** Take a document and its entries in order.

* Their names are distinct.
* There is a configuration exactly if each entry gives a size that is a natural number, or a filter
  that is a string. It has the size and the filter that are given; a size that is not given is 30000,
  and a filter that is not given is `warn`. The same entries in any order give the same, and so does
  any document with the same names and values in any order.
* Otherwise there is a first entry that does not fit: its name is unknown, its value is of the wrong
  type, or it gives a negative size. The failure is not fatal, and it says what is wrong with this
  entry and where, whatever comes after it. -/
theorem document_decides_config (hes : Toml.document text.toList = some es) :
    (es.map fun e => e.key.name).Nodup
    ∧ ((∃ c, ofText text = .ok c) ↔ ∀ e ∈ es,
        (e.key.name = "requested_size" ∧ ∃ n : Nat, e.value = .integer n)
        ∨ (e.key.name = "log_filter" ∧ ∃ s, e.value = .string s))
    ∧ (∀ c, ofText text = .ok c →
        (∀ e ∈ es, e.key.name = "requested_size" → e.value = .integer c.requestedSize.toNat)
        ∧ ((∀ e ∈ es, e.key.name ≠ "requested_size") → c.requestedSize.toNat = 30000)
        ∧ (∀ e ∈ es, e.key.name = "log_filter" → e.value = .string c.logFilter)
        ∧ ((∀ e ∈ es, e.key.name ≠ "log_filter") → c.logFilter = "warn")
        ∧ (∀ fs : List Toml.Entry, fs.Perm es → setAll {} fs = .ok c)
        ∧ ∀ (other : String) (fs : List Toml.Entry), Toml.document other.toList = some fs →
            (fs.map Toml.Entry.setting).Perm (es.map Toml.Entry.setting) → ofText other = .ok c)
    ∧ ((¬ ∃ c, ofText text = .ok c) → ∃ before e after words span,
        es = before ++ e :: after ∧ (∀ f ∈ before, Fits f.setting) ∧ Fault e words span)
    ∧ ∀ before e after words span, es = before ++ e :: after →
        (∀ f ∈ before, Fits f.setting) → Fault e words span →
          ∃ r : Rejection, ofText text = .error (.rejected text.toList r)
            ∧ (Failure.config (.rejected text.toList r)).isFatal = false
            ∧ (Failure.config (.rejected text.toList r)).message
                = "invalid harness config: " ++ span.complaint text.toList words
            ∧ ∀ others : List Toml.Entry, setAll {} (before ++ e :: others) = .error r := by
  have hnodup := Toml.document_nodup hes
  have hbounded := Toml.document_bounded hes
  have hok : (∃ c, ofText text = .ok c) ↔ ∀ e ∈ es, Fits e.setting := by
    constructor
    · rintro ⟨c, hc⟩
      exact fits_of_setAll (setAll_of_ofText hes hc)
    · intro hfits
      obtain ⟨c, hc⟩ := exists_setAll hfits hbounded {}
      exact ⟨c, ofText_of_setAll hes hc⟩
  refine ⟨hnodup, ?_, fun c hc => ?_, fun hnone => ?_, ?_⟩
  · rw [hok]
    exact forall₂_congr fun e _ => fits_iff e
  · have hset := setAll_of_ofText hes hc
    obtain ⟨hsize, hsizeDefault⟩ := setAll_value hnodup hbounded hset .requestedSize
    obtain ⟨hfilter, hfilterDefault⟩ := setAll_value hnodup hbounded hset .logFilter
    refine ⟨fun e he hname => (hsize e he hname).symm, fun hnone => ?_,
      fun e he hname => (hfilter e he hname).symm,
      fun hnone => Toml.Value.string.inj (hfilterDefault hnone),
      fun fs hperm => setAll_perm hnodup hbounded (hperm.map _) hset,
      fun other fs hfs hperm => ofText_of_setAll hfs (setAll_perm hnodup hbounded hperm hset)⟩
    exact Int.ofNat.inj (Toml.Value.integer.inj (hsizeDefault hnone))
  · exact exists_first_fault fun hfits => hnone (hok.mpr hfits)
  · rintro before e after words span rfl hfits hfault
    obtain ⟨reason, rfl, herror⟩ := setAll_fault hfits
      (fun f hf => hbounded f (List.mem_append_left _ hf)) hfault {}
    exact ⟨⟨reason, span⟩, ofText_of_rejected hes (herror after), rfl, rfl, herror⟩

/-- A filter that fits, then a key that there is not, then a negative size: the second entry is
reported, and not the third. -/
theorem document_decides_config_unknown_key :
    ∃ span : Toml.Span, ∃ r : Rejection,
      ofText "log_filter = \"off\"\ntape = true\nrequested_size = -1\n"
        = .error (.rejected "log_filter = \"off\"\ntape = true\nrequested_size = -1\n".toList r)
      ∧ (Failure.config (.rejected
          "log_filter = \"off\"\ntape = true\nrequested_size = -1\n".toList r)).message
        = "invalid harness config: " ++ span.complaint
            "log_filter = \"off\"\ntape = true\nrequested_size = -1\n".toList
            "unknown field `tape`, expected `requested_size` or `log_filter`" := by
  have hsettings : (Toml.document
      "log_filter = \"off\"\ntape = true\nrequested_size = -1\n".toList).map
        (List.map Toml.Entry.setting)
      = some [("log_filter", .string "off"), ("tape", .boolean true),
          ("requested_size", .integer (-1))] := by
    decide +kernel
  obtain ⟨es, hes, hmap⟩ := Option.map_eq_some_iff.mp hsettings
  obtain ⟨filter, more, rfl, hfilter, hmap⟩ := List.map_eq_cons_iff.mp hmap
  obtain ⟨tape, rest, rfl, htape, -⟩ := List.map_eq_cons_iff.mp hmap
  have hname : tape.key.name = "tape" := (Prod.mk.inj htape).1
  have hunknown : ∀ f : Field, tape.key.name ≠ f.name := by
    rw [hname]
    intro f
    cases f <;> decide
  have hfits : ∀ e ∈ [filter], Fits e.setting := by
    intro e he
    rw [List.mem_singleton.mp he, hfilter]
    exact ⟨.logFilter, rfl, "off", rfl⟩
  obtain ⟨-, -, -, -, hfault⟩ := document_decides_config hes
  obtain ⟨r, herror, -, hmessage, -⟩ := hfault [filter] tape rest _ _ rfl hfits (.unknown hunknown)
  rw [hname] at hmessage
  exact ⟨_, r, herror, hmessage⟩

end Config

end TapeProbe
