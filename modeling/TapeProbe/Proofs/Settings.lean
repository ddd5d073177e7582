import TapeProbe.Proofs.Spelling

/-!
# Settings in documents

A document with one line for each setting (`Toml.Settings`), read line by line and put together
into its outermost table. Where no key is set twice its entries are these settings, in the order of
the lines (`Toml.document_settings`).
-/

namespace TapeProbe.Toml

/-! ### A line -/

/-- A key that can stand without quotes. -/
structure IsBare (name : List Char) : Prop where
  ne_nil : name ≠ []
  bare : ∀ c ∈ name, isBareChar c = true

/-- What starts with a character of a class without blanks has no blanks to skip. -/
theorem skipBlanks_of_class {p : Char → Bool} {c : Char} (hc : p c = true) (hspace : p ' ' = false)
    (htab : p '\t' = false) (cs : List Char) : skipBlanks (c :: cs) = c :: cs := by
  refine List.dropWhile_cons_of_neg ?_
  rw [isBlank, Bool.or_eq_true, beq_iff_eq, beq_iff_eq]
  rintro (rfl | rfl)
  · rw [hspace] at hc
    cases hc
  · rw [htab] at hc
    cases hc

theorem skipBlanks_written {x : Value} {v : List Char} (h : Written x v) (rest : List Char) :
    skipBlanks (v ++ rest) = v ++ rest := by
  cases h with
  | string h => rfl
  | @integer n h =>
      obtain ⟨d, ds, hcons, hd⟩ :=
        Numeral.exists_toDigits_eq_cons (b := 10) (by decide) (by decide) n
      rw [hcons]
      exact skipBlanks_of_class hd (by decide) (by decide) _

theorem keyName_bare {name : List Char} (h : IsBare name) (rest : List Char) :
    keyName (name ++ ' ' :: rest) = some (String.ofList name, ' ' :: rest) := by
  have htake : (name ++ ' ' :: rest).takeWhile isBareChar = name := by
    rw [List.takeWhile_append_of_pos h.bare, List.takeWhile_cons_of_neg (by decide),
      List.append_nil]
  have hdrop : (name ++ ' ' :: rest).dropWhile isBareChar = ' ' :: rest := by
    rw [List.dropWhile_append_of_pos h.bare, List.dropWhile_cons_of_neg (by decide)]
  obtain ⟨c, cs, rfl⟩ := List.exists_cons_of_ne_nil h.ne_nil
  have hc := h.bare c List.mem_cons_self
  unfold keyName
  dsimp only
  split
  · next heq => exact absurd heq (cons_ne_of_class hc (by decide))
  · next heq => exact absurd heq (cons_ne_of_class hc (by decide))
  · rw [htake, hdrop]
    rfl

/-- A bare key in front of an equals sign leads through no tables. -/
theorem keyPath_bare {name : List Char} (h : IsBare name) (rest : List Char) :
    ∃ key, key.name = String.ofList name ∧
      keyPath (name ++ ' ' :: '=' :: rest) = some (([], key), '=' :: rest) := by
  have hblanks : skipBlanks (name ++ ' ' :: '=' :: rest) = name ++ ' ' :: '=' :: rest := by
    obtain ⟨c, cs, rfl⟩ := List.exists_cons_of_ne_nil h.ne_nil
    exact skipBlanks_of_class (h.bare c List.mem_cons_self) (by decide) (by decide) _
  refine ⟨⟨String.ofList name, ⟨name ++ ' ' :: '=' :: rest, ' ' :: '=' :: rest⟩⟩, rfl, ?_⟩
  have hpart : keyPart (name ++ ' ' :: '=' :: rest)
      = some (⟨String.ofList name, ⟨name ++ ' ' :: '=' :: rest, ' ' :: '=' :: rest⟩⟩,
          '=' :: rest) := by
    unfold keyPart spanned
    rw [hblanks, keyName_bare h]
    rfl
  unfold keyPath
  rw [hpart]
  rfl

theorem assignment_bare {name v rest : List Char} {x : Value} {item : Reader Value}
    (hname : IsBare name) (hblanks : skipBlanks (v ++ rest) = v ++ rest)
    (hitem : item (v ++ rest) = some (x, rest)) :
    ∃ key span, key.name = String.ofList name ∧
      assignment item (name ++ ' ' :: '=' :: ' ' :: (v ++ rest))
        = some ((([], key), x, span), skipBlanks rest) := by
  obtain ⟨key, hkey, hpath⟩ := keyPath_bare hname (' ' :: (v ++ rest))
  refine ⟨key, ⟨v ++ rest, rest⟩, hkey, ?_⟩
  have hskip : skipBlanks (' ' :: (v ++ rest)) = v ++ rest := hblanks
  have hequals : word ['='] ('=' :: ' ' :: (v ++ rest)) = some (' ' :: (v ++ rest)) := rfl
  unfold assignment spanned
  simp [hpath, hequals, hskip, hitem]

/-- A line, without its end, that sets a bare key. -/
inductive SettingLine : String × Value → List Char → Prop where
  | mk {name v : List Char} {x : Value} (hname : IsBare name) (hvalue : Written x v) :
    SettingLine (String.ofList name, x) (name ++ ' ' :: '=' :: ' ' :: v)

theorem SettingLine.exists_cons {p : String × Value} {l : List Char} (h : SettingLine p l) :
    ∃ c cs, l = c :: cs ∧ isBareChar c = true := by
  cases h with
  | @mk name v x hname hvalue =>
      obtain ⟨c, cs, rfl⟩ := List.exists_cons_of_ne_nil hname.ne_nil
      exact ⟨c, _, rfl, hname.bare c List.mem_cons_self⟩

theorem line_setting {p : String × Value} {l rest next : List Char} (h : SettingLine p l)
    (hend : lineEnd rest = some next) :
    ∃ key span, key.name = p.1 ∧
      line (l ++ rest) = some (some (.assign [] key p.2 span), next) := by
  obtain ⟨c, cs, hl, hc⟩ := h.exists_cons
  obtain @⟨name, v, x, hname, hvalue⟩ := h
  obtain ⟨key, span, hkey, hassign⟩ :=
    assignment_bare hname (skipBlanks_written hvalue rest)
      (value_written hvalue hend (maxDepth - 1))
  refine ⟨key, span, hkey, ?_⟩
  have hclose : restOfLine (skipBlanks rest) = some next := by
    obtain ⟨rfl, rfl⟩ | rfl | rfl := lineEnd_cases hend <;> rfl
  have hjoin : name ++ ' ' :: '=' :: ' ' :: (v ++ rest) = c :: (cs ++ rest) := by
    calc name ++ ' ' :: '=' :: ' ' :: (v ++ rest)
        = (name ++ ' ' :: '=' :: ' ' :: v) ++ rest := by simp
      _ = c :: (cs ++ rest) := by rw [hl, List.cons_append]
  rw [hl, List.cons_append]
  rw [hjoin] at hassign
  have hstatement : statement (c :: (cs ++ rest)) = some (.assign [] key x span, next) := by
    unfold statement
    split
    · next heq => exact absurd heq (cons_ne_of_class hc (by decide))
    · next heq => exact absurd heq (cons_ne_of_class hc (by decide))
    · simp [hassign, hclose]
  unfold line
  rw [skipBlanks_of_class hc (by decide) (by decide)]
  split
  · next heq => exact absurd heq (cons_ne_of_class hc (by decide))
  · next heq => exact absurd heq (cons_ne_of_class hc (by decide))
  · next heq => exact absurd heq (cons_ne_of_class hc (by decide))
  · rw [hstatement]
    rfl

/-! ### A document of settings -/

/-- A document in which every line sets a bare key. The last line may lack its end. -/
inductive Settings : List (String × Value) → List Char → Prop where
  | nil : Settings [] []
  | cons {p : String × Value} {ss : List (String × Value)} {l rest next : List Char}
    (hline : SettingLine p l) (hend : lineEnd rest = some next) (h : Settings ss next) :
    Settings (p :: ss) (l ++ rest)

/-- The name and the value, if the statement sets a key of the outermost table. -/
def Statement.setting? : Statement → Option (String × Value)
  | .assign [] key x _ => some (key.name, x)
  | _ => none

/-- The name and the value of an entry. -/
def Entry.setting (e : Entry) : String × Value := (e.key.name, e.value)

/-- The names and values of the outermost table. -/
def Draft.settings (d : Draft) : List (String × Value) :=
  d.root.map fun e => (Entry.ofItem e.1 e.2).setting

theorem Settings.length_le {ss : List (String × Value)} {cs : List Char} (h : Settings ss cs) :
    ss.length ≤ cs.length := by
  induction h with
  | nil => exact Nat.le_refl 0
  | @cons p ss l rest next hline hend h ih =>
      obtain ⟨c, cs, rfl, -⟩ := hline.exists_cons
      have hnext : next.length ≤ rest.length := by
        obtain ⟨rfl, rfl⟩ | rfl | rfl := lineEnd_cases hend
        · exact Nat.le_refl _
        · simp
        · simp only [List.length_cons]
          omega
      simp only [List.length_cons, List.length_append]
      omega

theorem statementsWithin_settings {ss : List (String × Value)} {cs : List Char}
    (h : Settings ss cs) {budget : List Char} (hbudget : ss.length ≤ budget.length) :
    ∃ all, statementsWithin budget cs = some all ∧ all.map Statement.setting? = ss.map some := by
  induction h generalizing budget with
  | nil =>
      refine ⟨[], ?_, rfl⟩
      cases budget <;> rfl
  | @cons p ss l rest next hline hend h ih =>
      cases budget with
      | nil => simp at hbudget
      | cons b budget =>
          have hlength : ss.length ≤ budget.length := by simpa using hbudget
          obtain ⟨all, hall, hsettings⟩ := ih hlength
          obtain ⟨key, span, hkey, hread⟩ := line_setting hline hend
          have hsome : (skipBlanks (l ++ rest)).isEmpty = false := by
            obtain ⟨c, cs, rfl, hc⟩ := hline.exists_cons
            rw [List.cons_append, skipBlanks_of_class hc (by decide) (by decide)]
            rfl
          refine ⟨.assign [] key p.2 span :: all, ?_, ?_⟩
          · unfold statementsWithin
            simp [hsome, hread, hall]
          · simp [Statement.setting?, hkey, hsettings]

theorem Entries.item?_eq_none {es : Entries} {name : String} (h : ∀ e ∈ es, e.1.name ≠ name) :
    es.item? name = none := by
  have hfind : List.find? (fun e => e.1.name == name) es = none := by
    rw [List.find?_eq_none]
    intro e he
    simpa using h e he
  unfold Entries.item?
  rw [hfind]
  rfl

theorem Entry.name_ofItem (key : Key) (item : Item) :
    (Entry.ofItem key item).setting.1 = key.name := by
  cases item <;> rfl

/-- A statement that sets a new key of the outermost table adds it at the end. -/
theorem Draft.add_setting {d : Draft} {s : Statement} {name : String} {x : Value}
    (hopened : d.opened = none) (hs : s.setting? = some (name, x))
    (hnew : name ∉ d.settings.map Prod.fst) :
    ∃ d', d.add s = some d' ∧ d'.opened = none ∧ d'.settings = d.settings ++ [(name, x)] := by
  unfold Statement.setting? at hs
  split at hs
  · next key y span =>
    cases hs
    have hitem : d.root.item? key.name = none := by
      refine Entries.item?_eq_none fun e he heq => hnew ?_
      rw [Draft.settings, List.map_map]
      refine List.mem_map.2 ⟨e, he, ?_⟩
      exact (Entry.name_ofItem e.1 e.2).trans heq
    refine ⟨{ d with root := d.root.push key (.value x span) }, ?_, hopened, ?_⟩
    · unfold Draft.add
      simp [hopened, Entries.assign, hitem]
    · simp [Draft.settings, Entries.push, Entry.ofItem, Entry.setting]
  · cases hs

theorem Draft.foldlM_settings {ss : List (String × Value)} {all : List Statement} {d : Draft}
    (hopened : d.opened = none) (hall : all.map Statement.setting? = ss.map some)
    (hnodup : ((d.settings ++ ss).map Prod.fst).Nodup) :
    ∃ d', all.foldlM Draft.add d = some d' ∧ d'.settings = d.settings ++ ss := by
  -- the names of the draft and those still to come stay all different
  induction all generalizing d ss with
  | nil =>
      cases ss with
      | nil => exact ⟨d, rfl, (List.append_nil _).symm⟩
      | cons p ss => cases hall
  | cons s all ih =>
      cases ss with
      | nil => cases hall
      | cons p ss =>
          obtain ⟨hs, hall⟩ := List.cons.inj hall
          have hnew : p.1 ∉ d.settings.map Prod.fst := by
            rw [List.map_append, List.nodup_append] at hnodup
            intro hmem
            exact hnodup.2.2 _ hmem _ (List.mem_map_of_mem List.mem_cons_self) rfl
          obtain ⟨d₁, hadd, hopened₁, hsettings₁⟩ := Draft.add_setting hopened hs hnew
          have hassoc : d₁.settings ++ ss = d.settings ++ p :: ss := by
            rw [hsettings₁, List.append_assoc]
            rfl
          obtain ⟨d', hfold, hsettings⟩ := ih hopened₁ hall (by rw [hassoc]; exact hnodup)
          refine ⟨d', ?_, hsettings.trans hassoc⟩
          rw [List.foldlM_cons, hadd]
          exact hfold

theorem skipMark_settings {ss : List (String × Value)} {cs : List Char} (h : Settings ss cs) :
    skipMark cs = cs := by
  cases h with
  | nil => rfl
  | @cons p ss l rest next hline hend h =>
      obtain ⟨c, cs, rfl, hc⟩ := hline.exists_cons
      unfold skipMark
      split
      · next heq => exact absurd heq (cons_ne_of_class hc (by decide))
      · rfl

/-- A document that sets different keys has just these entries, in order. -/
theorem document_settings {ss : List (String × Value)} {cs : List Char} (h : Settings ss cs)
    (hnodup : (ss.map Prod.fst).Nodup) :
    ∃ es, document cs = some es ∧ es.map Entry.setting = ss := by
  obtain ⟨all, hall, hsettings⟩ := statementsWithin_settings h h.length_le
  obtain ⟨d, hfold, hd⟩ := Draft.foldlM_settings (d := {}) rfl hsettings hnodup
  refine ⟨d.root.map fun e => .ofItem e.1 e.2, ?_, ?_⟩
  · unfold document statements
    rw [skipMark_settings h, hall]
    simp [hfold]
  · rw [List.map_map]
    exact hd

end TapeProbe.Toml
