import TapeProbe.Proofs.TableEdits
import TapeProbe.Run

/-!
# Configurations that documents express

Every size below `2 ^ 63` goes with every filter (`Config.ofText_lines`), and no document gives a
larger size. Integers are bounded where they are read (`Toml.integer?_bounded`), no other reader
makes one (`Toml.Yields`), and of the statements only an assignment to a key of the outermost table
puts a value there (`Toml.document_bounded`).
-/

namespace TapeProbe

namespace Toml

/-! ### Integers that can be read -/

/-- An integer is below `2 ^ 63`. -/
def Value.Bounded : Value → Prop
  | .integer i => i < 0x8000000000000000
  | _ => True

/-- Whatever the reader reads satisfies `P`. -/
def Yields {α : Type} (p : Reader α) (P : α → Prop) : Prop :=
  ∀ cs a rest, p cs = some (a, rest) → P a

theorem integer?_bounded {i : Int} {v : Value} (h : integer? i = some v) : v.Bounded := by
  unfold integer? at h
  split at h
  · next hi =>
    cases h
    exact hi.2
  · cases h

theorem float?_bounded {x : Binary64} {v : Value} (h : float? x = some v) : v.Bounded := by
  unfold float? at h
  split at h
  · cases h
  · cases h
    trivial

theorem decimalNumber_bounded (negative : Bool) : Yields (decimalNumber negative) Value.Bounded := by
  intro cs v rest h
  unfold decimalNumber at h
  obtain ⟨⟨whole, after⟩, -, h⟩ := Option.bind_eq_some_iff.1 h
  dsimp only at h
  split at h
  · obtain ⟨⟨places, after⟩, -, h⟩ := Option.bind_eq_some_iff.1 h
    obtain ⟨⟨power, after⟩, -, h⟩ := Option.bind_eq_some_iff.1 h
    obtain ⟨w, hw, h⟩ := Option.bind_eq_some_iff.1 h
    cases h
    exact float?_bounded hw
  · obtain ⟨w, hw, h⟩ := Option.bind_eq_some_iff.1 h
    cases h
    exact integer?_bounded hw

theorem markedNumber_bounded (b : Nat) : Yields (markedNumber b) Value.Bounded := by
  intro cs v rest h
  unfold markedNumber at h
  obtain ⟨⟨ds, after⟩, -, h⟩ := Option.bind_eq_some_iff.1 h
  obtain ⟨w, hw, h⟩ := Option.bind_eq_some_iff.1 h
  cases h
  exact integer?_bounded hw

theorem number_bounded : Yields number Value.Bounded := by
  intro cs v rest h
  unfold number at h
  split at h
  · exact markedNumber_bounded 16 _ _ _ h
  · exact markedNumber_bounded 8 _ _ _ h
  · exact markedNumber_bounded 2 _ _ _ h
  · dsimp only at h
    split at h
    · cases h
      trivial
    · cases h
      trivial
    · exact decimalNumber_bounded _ _ _ _ h

/-- Of the scalars, only a number is an integer. -/
theorem scalar_bounded : Yields scalar Value.Bounded := by
  have hmap : ∀ {α : Type} {o : Option α} {f : α → Value × List Char} {v : Value}
      {rest : List Char}, o.map f = some (v, rest) → (∀ a, (f a).1.Bounded) → v.Bounded := by
    intro α o f v rest h hf
    obtain ⟨a, -, ha⟩ := Option.map_eq_some_iff.1 h
    have hv := hf a
    rw [ha] at hv
    exact hv
  intro cs v rest h
  unfold scalar at h
  split at h
  · exact hmap h fun _ => trivial
  · exact hmap h fun _ => trivial
  · exact hmap h fun _ => trivial
  · exact hmap h fun _ => trivial
  · split at h
    · exact hmap h fun _ => trivial
    · exact number_bounded _ _ _ h

theorem value_bounded (depth : Nat) : Yields (value depth) Value.Bounded := by
  intro cs v rest h
  cases depth with
  | zero =>
      unfold value at h
      split at h
      · cases h
      · cases h
      · exact scalar_bounded _ _ _ h
  | succ depth =>
      unfold value at h
      split at h
      · obtain ⟨a, -, ha⟩ := Option.map_eq_some_iff.1 h
        cases ha
        trivial
      · obtain ⟨a, -, ha⟩ := Option.map_eq_some_iff.1 h
        cases ha
        trivial
      · exact scalar_bounded _ _ _ h

/-! ### Statements and tables -/

/-- The integer that a statement assigns is bounded. -/
def Statement.Bounded : Statement → Prop
  | .assign _ _ v _ => v.Bounded
  | _ => True

theorem assignment_bounded {item : Reader Value} (hitem : Yields item Value.Bounded) :
    Yields (assignment item) fun a => a.2.1.Bounded := by
  intro cs a rest h
  unfold assignment at h
  obtain ⟨⟨path, after⟩, -, h⟩ := Option.bind_eq_some_iff.1 h
  obtain ⟨after, -, h⟩ := Option.bind_eq_some_iff.1 h
  obtain ⟨⟨⟨v, span⟩, after⟩, hv, h⟩ := Option.bind_eq_some_iff.1 h
  cases h
  unfold spanned at hv
  split at hv
  · next hread =>
    cases hv
    exact hitem _ _ _ hread
  · cases hv

theorem statement_bounded : Yields statement Statement.Bounded := by
  intro cs s rest h
  unfold statement at h
  split at h
  · obtain ⟨⟨⟨⟨path, key⟩, span⟩, after⟩, -, h⟩ := Option.bind_eq_some_iff.1 h
    obtain ⟨after, -, h⟩ := Option.bind_eq_some_iff.1 h
    cases h
    trivial
  · obtain ⟨⟨⟨⟨path, key⟩, span⟩, after⟩, -, h⟩ := Option.bind_eq_some_iff.1 h
    obtain ⟨after, -, h⟩ := Option.bind_eq_some_iff.1 h
    cases h
    trivial
  · obtain ⟨⟨⟨⟨path, key⟩, v, span⟩, after⟩, hassign, h⟩ := Option.bind_eq_some_iff.1 h
    obtain ⟨after, -, h⟩ := Option.bind_eq_some_iff.1 h
    cases h
    exact assignment_bounded (value_bounded _) _ _ _ hassign

theorem line_bounded : Yields line fun s => ∀ t ∈ s, t.Bounded := by
  intro cs s rest h
  unfold line at h
  split at h
  · obtain ⟨after, -, h⟩ := Option.map_eq_some_iff.1 h
    cases h
    intro t ht
    cases ht
  · cases h
    intro t ht
    cases ht
  · obtain ⟨after, -, h⟩ := Option.map_eq_some_iff.1 h
    cases h
    intro t ht
    cases ht
  · obtain ⟨⟨t, after⟩, ht, h⟩ := Option.map_eq_some_iff.1 h
    cases h
    intro u hu
    cases hu
    exact statement_bounded _ _ _ ht

theorem statementsWithin_bounded {budget cs : List Char} {all : List Statement}
    (h : statementsWithin budget cs = some all) : ∀ s ∈ all, s.Bounded := by
  induction budget generalizing cs all with
  | nil =>
      unfold statementsWithin at h
      split at h
      · cases h
        intro s hs
        cases hs
      · cases h
  | cons b budget ih =>
      unfold statementsWithin at h
      split at h
      · cases h
        intro s hs
        cases hs
      · obtain ⟨⟨t, rest⟩, hline, h⟩ := Option.bind_eq_some_iff.1 h
        obtain ⟨more, hmore, h⟩ := Option.bind_eq_some_iff.1 h
        cases h
        intro s hs
        obtain hs | hs := List.mem_append.1 hs
        · exact line_bounded _ _ _ hline s (Option.mem_toList.1 hs)
        · exact ih hmore s hs

/-- A value directly under a key is bounded. Entries of a table further in are no settings. -/
def Item.Bounded : Item → Prop
  | .value v _ => v.Bounded
  | _ => True

theorem Item.bounded_of_isTable {item : Item} (h : item.isTable = true) : item.Bounded := by
  cases item with
  | value v span => cases h
  | table origin span inner => trivial
  | tables span inner => trivial

namespace Entries

/-- The values directly in the table are bounded. -/
def Bounded (es : Entries) : Prop := ∀ e ∈ es, e.2.Bounded

variable {es es' : Entries}

theorem bounded_push (h : es.Bounded) {item : Item} (hitem : item.Bounded) (key : Key) :
    (es.push key item).Bounded := by
  intro e he
  obtain he | he := List.mem_append.1 he
  · exact h e he
  · rw [List.mem_singleton.1 he]
    exact hitem

theorem bounded_put (h : es.Bounded) {item : Item} (hitem : item.Bounded) (name : String) :
    (es.put name item).Bounded := by
  intro e he
  obtain ⟨e₀, he₀, rfl⟩ := List.mem_map.1 he
  split
  · exact hitem
  · exact h e₀ he₀

theorem bounded_remove (h : es.Bounded) (name : String) : (es.remove name).Bounded :=
  fun e he => h e (List.mem_filter.1 he).1

/-- Values stay bounded if the one that is put down is. -/
theorem Edit.bounded {given : Option Item} (h : es.Edit given es') (hes : es.Bounded)
    (hgiven : ∀ item ∈ given, item.Bounded) : es'.Bounded := by
  have hput : ∀ {item : Item}, item.isTable = true ∨ given = some item → item.Bounded := by
    intro item hitem
    obtain htable | hsome := hitem
    · exact Item.bounded_of_isTable htable
    · exact hgiven item hsome
  cases h with
  | push _ hitem => exact bounded_push hes (hput hitem) _
  | put hitem => exact bounded_put hes (hput hitem) _
  | reopen hitem => exact bounded_push (bounded_remove hes _) (hput hitem) _

end Entries

theorem Statement.Bounded.item {s : Statement} (h : s.Bounded) : ∀ item ∈ s.item?, item.Bounded := by
  intro item hitem
  cases s with
  | assign path key v span =>
      cases hitem
      exact h
  | header path key span => cases hitem
  | element path key span => cases hitem

/-- No document has an entry with an integer from `2 ^ 63` on. -/
theorem document_bounded {cs : List Char} {es : List Entry} (h : document cs = some es) :
    ∀ e ∈ es, e.value.Bounded := by
  unfold document at h
  obtain ⟨all, hall, h⟩ := Option.bind_eq_some_iff.1 h
  obtain ⟨d, hd, h⟩ := Option.bind_eq_some_iff.1 h
  cases h
  have hempty : (Draft.root {}).Bounded := by
    intro e he
    cases he
  have hroot : d.root.Bounded := Draft.foldlM_induction
    (fun s hs _ _ hedit hes => hedit.bounded hes (statementsWithin_bounded hall s hs).item) hempty hd
  intro e he
  obtain ⟨⟨key, item⟩, hmem, rfl⟩ := List.mem_map.1 he
  have hitem : item.Bounded := hroot _ hmem
  cases item with
  | value v span => exact hitem
  | table origin span inner => trivial
  | tables span inner => trivial

end Toml

namespace Config

/-! ### Configurations -/

/-- The line that sets the size. -/
def sizeLine (n : UInt64) : String := "requested_size" ++ " = " ++ Numeral.decimal n.toNat

/-- The line that sets the filter, in a spelling of it. -/
def filterLine (spelling : List Char) : String :=
  "log_filter" ++ " = " ++ ("\"" ++ String.ofList spelling ++ "\"")

theorem settingLine_of_bare {name text : String} {x : Toml.Value} (hname : Toml.IsBare name.toList)
    (hvalue : Toml.Written x text.toList) :
    Toml.SettingLine (name, x) (name ++ " = " ++ text).toList := by
  have hequals : " = ".toList = [' ', '=', ' '] := by decide
  have hline := Toml.SettingLine.mk hname hvalue
  rw [String.ofList_toList] at hline
  rw [String.toList_append, String.toList_append, hequals, List.append_assoc]
  exact hline

theorem sizeLine_setting {n : UInt64} (h : n.toNat < 0x8000000000000000) :
    Toml.SettingLine ("requested_size", .integer n.toNat) (sizeLine n).toList := by
  have hdigits : (Numeral.decimal n.toNat).toList = Nat.toDigits 10 n.toNat := Nat.toList_repr
  refine settingLine_of_bare ⟨by decide, List.all_eq_true.1 (by decide)⟩ ?_
  rw [hdigits]
  exact .integer h

theorem quoted_written {s : String} {ws : List Char} (h : Toml.Spelled s.toList ws) :
    Toml.Written (.string s) ("\"" ++ String.ofList ws ++ "\"").toList := by
  have hquote : "\"".toList = ['"'] := by decide
  have hspelling : (String.ofList ws).toList = ws := String.toList_ofList
  have hwritten := Toml.Written.string h
  rw [String.ofList_toList] at hwritten
  rw [String.toList_append, String.toList_append, hspelling, hquote, List.append_assoc]
  exact hwritten

theorem filterLine_setting {s : String} {ws : List Char} (h : Toml.Spelled s.toList ws) :
    Toml.SettingLine ("log_filter", .string s) (filterLine ws).toList :=
  settingLine_of_bare ⟨by decide, List.all_eq_true.1 (by decide)⟩ (quoted_written h)

/-- The ends of a line that others follow. -/
def lineEnds : List String := ["\n", "\r\n"]

/-- Two lines make a document; the last one may lack its end. -/
theorem settings_two {p q : String × Toml.Value} {first second eol last : String}
    (hfirst : Toml.SettingLine p first.toList) (hsecond : Toml.SettingLine q second.toList)
    (heol : eol ∈ lineEnds) (hlast : last = "" ∨ last ∈ lineEnds) :
    Toml.Settings [p, q] (first ++ eol ++ second ++ last).toList := by
  have hend : Toml.lineEnd last.toList = some [] := by
    simp only [lineEnds, List.mem_cons, List.not_mem_nil, or_false] at hlast
    rcases hlast with rfl | rfl | rfl <;> rfl
  have hnext : Toml.lineEnd (eol.toList ++ (second.toList ++ last.toList))
      = some (second.toList ++ last.toList) := by
    simp only [lineEnds, List.mem_cons, List.not_mem_nil, or_false] at heol
    rcases heol with rfl | rfl <;> rfl
  rw [String.toList_append, String.toList_append, String.toList_append, List.append_assoc,
    List.append_assoc]
  exact .cons hfirst hnext (.cons hsecond hend .nil)

theorem ofText_settings {text : String} {ss : List (String × Toml.Value)} {c : Config}
    (h : Toml.Settings ss text.toList) (hnodup : (ss.map Prod.fst).Nodup)
    (hset : ∀ es : List Toml.Entry, es.map Toml.Entry.setting = ss → setAll {} es = .ok c) :
    ofText text = .ok c := by
  obtain ⟨es, hes, hsettings⟩ := Toml.document_settings h hnodup
  unfold ofText ofDocument
  simp only [hes, hset es hsettings]

theorem set_size {c : Config} {e : Toml.Entry} {n : UInt64}
    (h : e.setting = ("requested_size", .integer n.toNat)) :
    c.set e = .ok { c with requestedSize := n } := by
  obtain ⟨hname, hvalue⟩ := Prod.mk.inj h
  unfold set
  rw [hname, hvalue]
  have hfield : Field.ofName? "requested_size" = some .requestedSize := by decide
  have hnat : UInt64.ofNat (Int.toNat (n.toNat : Int)) = n := by simp
  simp only [hfield, hnat]
  rw [if_neg (by omega)]

theorem set_filter {c : Config} {e : Toml.Entry} {s : String}
    (h : e.setting = ("log_filter", .string s)) : c.set e = .ok { c with logFilter := s } := by
  obtain ⟨hname, hvalue⟩ := Prod.mk.inj h
  unfold set
  rw [hname, hvalue]
  have hfield : Field.ofName? "log_filter" = some .logFilter := by decide
  simp only [hfield]

/-- Taking in two entries. -/
theorem setAll_two {c c₁ c₂ : Config} {es : List Toml.Entry} {p q : String × Toml.Value}
    (hes : es.map Toml.Entry.setting = [p, q])
    (hfirst : ∀ e : Toml.Entry, e.setting = p → c.set e = .ok c₁)
    (hsecond : ∀ e : Toml.Entry, e.setting = q → c₁.set e = .ok c₂) : setAll c es = .ok c₂ := by
  obtain ⟨e, es, rfl, he, hes⟩ := List.map_eq_cons_iff.1 hes
  obtain ⟨f, es, rfl, hf, hes⟩ := List.map_eq_cons_iff.1 hes
  rw [List.map_eq_nil_iff.1 hes]
  simp only [setAll, hfirst e he, hsecond f hf]

theorem set_bounded {c c' : Config} {e : Toml.Entry} (hc : c.requestedSize.toNat < 0x8000000000000000)
    (he : e.value.Bounded) (h : c.set e = .ok c') : c'.requestedSize.toNat < 0x8000000000000000 := by
  unfold set at h
  split at h
  · cases h
  · split at h
    · next i hvalue =>
      rw [hvalue] at he
      have hi : i < 0x8000000000000000 := he
      split at h
      · cases h
      · cases h
        rw [UInt64.toNat_ofNat']
        omega
    · cases h
  · split at h
    · cases h
      exact hc
    · cases h

theorem setAll_bounded {c c' : Config} {es : List Toml.Entry}
    (hc : c.requestedSize.toNat < 0x8000000000000000) (hes : ∀ e ∈ es, e.value.Bounded)
    (h : c.setAll es = .ok c') : c'.requestedSize.toNat < 0x8000000000000000 := by
  induction es generalizing c with
  | nil =>
      cases h
      exact hc
  | cons e es ih =>
      unfold setAll at h
      split at h
      · next c₁ hset =>
        exact ih (set_bounded hc (hes e List.mem_cons_self) hset)
          (fun f hf => hes f (List.mem_cons_of_mem e hf)) h
      · cases h

theorem ofText_bounded {text : String} {c : Config} (h : ofText text = .ok c) :
    c.requestedSize.toNat < 0x8000000000000000 := by
  unfold ofText ofDocument at h
  split at h
  · cases h
  · next es hes =>
    split at h
    · next c' hset =>
      cases h
      exact setAll_bounded (by decide) (Toml.document_bounded hes) hset
    · cases h

/-- Size first or filter first, with any spelling of the filter. -/
theorem ofText_lines {n : UInt64} {s : String} {ws : List Char} (hn : n.toNat < 0x8000000000000000)
    (hws : Toml.Spelled s.toList ws) {eol last : String} (heol : eol ∈ lineEnds)
    (hlast : last = "" ∨ last ∈ lineEnds) :
    ofText (sizeLine n ++ eol ++ filterLine ws ++ last) = .ok ⟨n, s⟩
    ∧ ofText (filterLine ws ++ eol ++ sizeLine n ++ last) = .ok ⟨n, s⟩ := by
  have hsize := sizeLine_setting hn
  have hfilter := filterLine_setting hws
  refine ⟨ofText_settings (settings_two hsize hfilter heol hlast) (by simp) fun es hes => ?_,
    ofText_settings (settings_two hfilter hsize heol hlast) (by simp) fun es hes => ?_⟩
  · exact setAll_two hes (fun _ => set_size) fun _ => set_filter
  · exact setAll_two hes (fun _ => set_filter) fun _ => set_size

theorem exists_text {c : Config} (h : c.requestedSize.toNat < 0x8000000000000000) :
    ∃ text, ofText text = .ok c := by
  have hfeed : "\n" ∈ lineEnds := by decide
  exact ⟨_, (ofText_lines h (Toml.spelled_escaped c.logFilter.toList) hfeed (Or.inl rfl)).1⟩

end Config

namespace Job

theorem requestedSize_of_requested {j : Job} {c : Config} {size : UInt64}
    (hrequested : j.requested = some size) (h : j.config = .ok c) : c.requestedSize = size := by
  have hmap : ∀ base : Except Config.Error Config,
      base.map (·.withRequestedSize size) = .ok c → c.requestedSize = size := by
    intro base hbase
    cases base with
    | error e => cases hbase
    | ok base =>
        cases hbase
        rfl
  unfold config at h
  rw [hrequested] at h
  exact hmap _ h

/-- A job asks for a size from `2 ^ 63` on only by naming it beside its document. -/
theorem requested_of_large {j : Job} {c : Config} (h : j.config = .ok c)
    (hlarge : 0x8000000000000000 ≤ c.requestedSize.toNat) : j.requested = some c.requestedSize := by
  cases hrequested : j.requested with
  | some size => rw [requestedSize_of_requested hrequested h]
  | none =>
      unfold config at h
      rw [hrequested] at h
      dsimp only at h
      split at h
      · exact absurd (Config.ofText_bounded h) (by omega)
      · cases h
        exact absurd hlarge (by decide)

end Job

namespace Config

/-- **What documents express.** A size below `2 ^ 63` in decimal and a filter in any spelling of it
between double quotes, each on its own line and in either order, read as just this configuration;
every filter has a spelling. So the configurations that texts give are those with a size below
`2 ^ 63`. A job that asks for a larger size names it beside its document, and in this way every
configuration can be had. -/
theorem documents_express :
    (∀ (n : UInt64) (s : String) (ws : List Char), n.toNat < 0x8000000000000000 → Toml.Spelled s.toList ws →
      ∀ eol last : String, eol ∈ lineEnds → (last = "" ∨ last ∈ lineEnds) →
        ofText (sizeLine n ++ eol ++ filterLine ws ++ last) = .ok ⟨n, s⟩
        ∧ ofText (filterLine ws ++ eol ++ sizeLine n ++ last) = .ok ⟨n, s⟩)
    ∧ (∀ s : String, Toml.Spelled s.toList (Toml.escaped s.toList))
    ∧ (∀ c : Config, (∃ text, ofText text = .ok c) ↔ c.requestedSize.toNat < 0x8000000000000000)
    ∧ (∀ (j : Job) (c : Config), j.config = .ok c → 0x8000000000000000 ≤ c.requestedSize.toNat →
        j.requested = some c.requestedSize)
    ∧ ∀ c : Config, ∃ text base, ofText text = .ok base
        ∧ base.withRequestedSize c.requestedSize = c := by
  refine ⟨fun n s ws hn hws eol last heol hlast => ofText_lines hn hws heol hlast,
    fun s => Toml.spelled_escaped s.toList,
    fun c => ⟨fun ⟨_, h⟩ => ofText_bounded h, exists_text⟩,
    fun j c h hlarge => Job.requested_of_large h hlarge, fun c => ?_⟩
  have hzero : (UInt64.toNat 0) < 0x8000000000000000 := by decide
  obtain ⟨text, htext⟩ := exists_text (c := ⟨0, c.logFilter⟩) hzero
  exact ⟨text, _, htext, rfl⟩

/-- The largest size of a document, and a filter with a quote, a backslash, a line feed, a null and
a letter beyond ASCII; the filter comes first, and the last line has no end. -/
theorem documents_express_largest :
    Toml.escaped "a\"b\\c\nd\x00é".toList = "a\\\"b\\\\c\\u000ad\\u0000é".toList
    ∧ ofText (filterLine (Toml.escaped "a\"b\\c\nd\x00é".toList) ++ "\r\n"
        ++ sizeLine 0x7fffffffffffffff ++ "") = .ok ⟨0x7fffffffffffffff, "a\"b\\c\nd\x00é"⟩ := by
  obtain ⟨hlines, hspelled, -⟩ := documents_express
  have hfit : UInt64.toNat 0x7fffffffffffffff < 0x8000000000000000 := by decide
  have hend : "\r\n" ∈ lineEnds := by decide
  exact ⟨by decide, (hlines _ _ _ hfit (hspelled _) _ _ hend (Or.inl rfl)).2⟩

end Config

end TapeProbe
