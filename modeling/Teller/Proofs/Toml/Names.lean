import Teller.Proofs.Toml.Path

/-!
# Names stand once

In no table that is read from a text does a name stand twice, however deep the table is. Whoever
goes through a table finds what is found by name.

* `Item.Distinct`, `Entries.Distinct`: in every table inside, a name stands once.
* `within_distinct`: acting at a path keeps it so.
* `readItemUpTo_distinct`: values are read so; `ofStatements?_distinct`: so are whole documents.
-/

namespace Teller.Toml

mutual

/-- In every table of an item, a name stands once. -/
def Item.Distinct : Item → Prop
  | .table _ _ entries => entries.Distinct
  | .array _ items | .tables _ items => items.Distinct
  | .text _ _ | .integer _ _ | .float _ _ | .flag _ _ | .moment _ => True

/-- So it does in every table of elements. -/
def Items.Distinct : Items → Prop
  | .nil => True
  | .cons item rest => item.Distinct ∧ rest.Distinct

/-- Among entries and in every table of theirs, a name stands once. -/
def Entries.Distinct : Entries → Prop
  | .nil => True
  | .cons key item rest => rest.find? key.name = none ∧ item.Distinct ∧ rest.Distinct

end

/-- Elements one behind the other, without what stands inside them. -/
@[elab_as_elim, induction_eliminator]
theorem Items.rows {motive : Items → Prop} (nil : motive .nil)
    (cons : ∀ item rest, motive rest → motive (.cons item rest)) : ∀ items, motive items
  | .nil => nil
  | .cons item rest => cons item rest (rows nil cons rest)

section

variable {e e' : Entries} {items items' : Items} {key : Key} {name : String} {item : Item}
  {α : Type} {P : α → Prop} {a : α}

/-! ## Tables that are changed -/

theorem Entries.Distinct.alter {f : Option Item → Option (Item × α)} (he : e.Distinct)
    (hf : ∀ x i a, (∀ y, x = some y → y.Distinct) → f x = some (i, a) → i.Distinct ∧ P a)
    (h : e.alter key f = some (e', a)) : e'.Distinct ∧ P a := by
  induction e generalizing e' with
  | nil =>
    obtain ⟨⟨i, b⟩, hi, heq⟩ := Option.map_eq_some_iff.1 h
    cases heq
    obtain ⟨hdistinct, hP⟩ := hf none i a (fun _ hy => nomatch hy) hi
    exact ⟨⟨rfl, hdistinct, trivial⟩, hP⟩
  | cons k item rest ih =>
    obtain ⟨hnew, hitem, hrest⟩ := he
    rw [Entries.alter] at h
    split at h
    · obtain ⟨⟨i, b⟩, hi, heq⟩ := Option.map_eq_some_iff.1 h
      cases heq
      obtain ⟨hdistinct, hP⟩ := hf (some item) i a (fun y hy => Option.some.inj hy ▸ hitem) hi
      exact ⟨⟨hnew, hdistinct, hrest⟩, hP⟩
    · rename_i hk
      obtain ⟨⟨rest', b⟩, hr, heq⟩ := Option.map_eq_some_iff.1 h
      cases heq
      obtain ⟨hdistinct, hP⟩ := ih hrest hr
      obtain ⟨-, -, -, hother⟩ := Entries.alter_eq_some hr
      exact ⟨⟨(hother k.name hk).trans hnew, hitem, hdistinct⟩, hP⟩

theorem Entries.Distinct.erase (he : e.Distinct) : (e.erase name).Distinct := by
  induction e with
  | nil => exact he
  | cons k item rest ih =>
    obtain ⟨hnew, hitem, hrest⟩ := he
    rw [Entries.erase]
    split
    · exact hrest
    · rename_i hk
      exact ⟨(Entries.find?_erase_of_ne hk rest).trans hnew, hitem, ih hrest⟩

theorem Entries.Distinct.find? (he : e.Distinct) (h : e.find? name = some item) :
    item.Distinct := by
  induction e with
  | nil => cases h
  | cons k i rest ih =>
    obtain ⟨-, hitem, hrest⟩ := he
    rw [Entries.find?] at h
    split at h
    · cases h
      exact hitem
    · exact ih hrest h

theorem Items.Distinct.push (h : items.Distinct) (hitem : item.Distinct) :
    (items.push item).Distinct := by
  induction items with
  | nil => exact ⟨hitem, trivial⟩
  | cons first rest ih => exact ⟨h.1, ih h.2⟩

theorem Items.Distinct.alterLast {f : Item → Option (Item × α)} (h : items.Distinct)
    (hf : ∀ i i' a, i.Distinct → f i = some (i', a) → i'.Distinct ∧ P a)
    (halter : items.alterLast f = some (items', a)) : items'.Distinct ∧ P a := by
  induction items generalizing items' with
  | nil => cases halter
  | cons item rest ih =>
    cases rest with
    | nil =>
      obtain ⟨⟨i, b⟩, hi, heq⟩ := Option.map_eq_some_iff.1 halter
      cases heq
      obtain ⟨hdistinct, hP⟩ := hf item i a h.1 hi
      exact ⟨⟨hdistinct, trivial⟩, hP⟩
    | cons next rest =>
      obtain ⟨⟨rest', b⟩, hr, heq⟩ := Option.map_eq_some_iff.1 halter
      cases heq
      obtain ⟨hdistinct, hP⟩ := ih h.2 hr
      exact ⟨⟨h.1, hdistinct⟩, hP⟩

/-- **Acting at a path keeps names distinct**, if the action does. -/
theorem within_distinct {dotted : Bool} {act : Origin → Entries → Option (Entries × α)}
    {keys : List Key} {origin : Origin}
    (hact : ∀ o i i' a, i.Distinct → act o i = some (i', a) → i'.Distinct ∧ P a)
    (he : e.Distinct) (h : within dotted act keys origin e = some (e', a)) :
    e'.Distinct ∧ P a := by
  -- A step inwards changes one table among distinct names, so the others stay as they are.
  induction keys generalizing origin e e' a with
  | nil => exact hact origin e e' a he h
  | cons key keys ih =>
    refine he.alter (fun x i b hx hi => ?_) h
    cases x with
    | none =>
      obtain ⟨⟨inner, c⟩, hw, heq⟩ := Option.map_eq_some_iff.1 hi
      cases heq
      exact ih (show Entries.nil.Distinct from trivial) hw
    | some old =>
      have hold := hx old rfl
      cases old with
      | table o s inner =>
        dsimp only at hi
        split at hi
        · cases hi
        · obtain ⟨⟨inner', c⟩, hw, heq⟩ := Option.map_eq_some_iff.1 hi
          cases heq
          exact ih hold hw
      | tables s items =>
        obtain ⟨⟨items', c⟩, hlast, heq⟩ := Option.map_eq_some_iff.1 hi
        cases heq
        refine Items.Distinct.alterLast hold (fun j j' d hj hdone => ?_) hlast
        cases j with
        | table o s inner =>
          obtain ⟨⟨inner', c⟩, hw, heq⟩ := Option.map_eq_some_iff.1 hdone
          cases heq
          exact ih hj hw
        | _ => cases hdone
      | _ => cases hi

end

variable {e e' : Entries} {item : Item} {path : Path} {origin : Origin} {d d' : Draft}

theorem Entries.Distinct.assign (he : e.Distinct) (hitem : item.Distinct)
    (h : e.assign path item origin = some e') : e'.Distinct := by
  obtain ⟨⟨e'', a⟩, hw, rfl⟩ := Option.map_eq_some_iff.1 h
  refine (within_distinct (P := fun _ => True) (fun o i i' b hi hdone => ?_) he hw).1
  split at hdone
  · cases hdone
  · refine hi.alter (P := fun _ => True) (fun x j c _ hj => ?_) hdone
    cases x with
    | none =>
      cases hj
      exact ⟨hitem, trivial⟩
    | some old => cases hj

/-! ## Values -/

section

variable {s r : List Char}

theorem readScalar_distinct (h : readScalar s = some (item, r)) : item.Distinct := by
  -- No scalar has anything inside it.
  unfold readScalar at h
  split at h
  · cases h
  · split at h
    · obtain ⟨_, -, heq⟩ := Option.map_eq_some_iff.1 h
      cases heq
      trivial
    · split at h
      · obtain ⟨_, -, heq⟩ := Option.map_eq_some_iff.1 h
        cases heq
        trivial
      · split at h
        · obtain ⟨_, -, heq⟩ := Option.map_eq_some_iff.1 h
          cases heq
          trivial
        · unfold readNumeral at h
          split at h
          · cases h
            trivial
          · split at h
            · cases h
              trivial
            · obtain ⟨_, -, heq⟩ := Option.map_eq_some_iff.1 h
              cases heq
              trivial

variable {read : List Char → Option (Item × List Char)}

theorem readElements_distinct (hread : ∀ s item r, read s = some (item, r) → item.Distinct)
    {fuel : Nat} {items : Items} (h : readElements read fuel s = some (items, r)) :
    items.Distinct := by
  induction fuel generalizing s items r with
  | zero => cases h
  | succ fuel ih =>
    rw [readElements] at h
    split at h
    · cases h
      trivial
    · obtain ⟨⟨item, r₁⟩, hitem, h⟩ := Option.bind_eq_some_iff.1 h
      have hdistinct := hread _ _ _ hitem
      dsimp only at h
      split at h
      · cases h
        exact ⟨hdistinct, trivial⟩
      · obtain ⟨⟨more, r₂⟩, hmore, h⟩ := Option.bind_eq_some_iff.1 h
        cases h
        exact ⟨hdistinct, ih hmore⟩
      · cases h

theorem readEntries_distinct (hread : ∀ s item r, read s = some (item, r) → item.Distinct)
    {fuel : Nat} (he : e.Distinct) (h : readEntries read e fuel s = some (e', r)) :
    e'.Distinct := by
  induction fuel generalizing s e with
  | zero => cases h
  | succ fuel ih =>
    rw [readEntries] at h
    simp only [Option.bind_eq_bind, Option.bind_eq_some_iff] at h
    obtain ⟨⟨path, r₁⟩, -, r₂, -, ⟨item, r₃⟩, hitem, e₁, hassign, h⟩ := h
    have hdistinct := he.assign (hread _ _ _ hitem) hassign
    split at h
    · cases h
    · split at h
      · cases h
        exact hdistinct
      · split at h
        · exact ih hdistinct h
        · cases h

theorem readBraces_distinct (hread : ∀ s item r, read s = some (item, r) → item.Distinct)
    (h : readBraces read s = some (e, r)) : e.Distinct := by
  have hnil : Entries.nil.Distinct := trivial
  unfold readBraces at h
  split at h
  · cases h
  · split at h
    · cases h
      exact hnil
    · exact readEntries_distinct hread hnil h

theorem readItemUpTo_distinct {levels : Nat} (h : readItemUpTo levels s = some (item, r)) :
    item.Distinct := by
  induction levels generalizing s item r with
  | zero =>
    unfold readItemUpTo at h
    split at h
    · cases h
    · dsimp only at h
      split at h
      · cases h
      · exact readScalar_distinct h
  | succ levels ih =>
    have hread : ∀ s item r, readItemUpTo levels s = some (item, r) → item.Distinct :=
      fun s item r hitem => ih hitem
    unfold readItemUpTo at h
    split at h
    · cases h
    · dsimp only at h
      split at h
      · obtain ⟨⟨items, r'⟩, hitems, heq⟩ := Option.map_eq_some_iff.1 h
        cases heq
        exact readElements_distinct hread hitems
      · split at h
        · obtain ⟨⟨entries, r'⟩, hentries, heq⟩ := Option.map_eq_some_iff.1 h
          cases heq
          exact readBraces_distinct hread hentries
        · exact readScalar_distinct h

end

/-! ## Documents -/

/-- What a statement gives has distinct names. -/
def Statement.Distinct : Statement → Prop
  | .assign _ item _ => item.Distinct
  | .header _ _ _ => True

theorem Statement.readHeader_distinct {start s r : List Char} {array : Bool}
    {statement : Statement} (h : readHeader start array s = some (statement, r)) :
    statement.Distinct := by
  simp only [readHeader, Option.bind_eq_bind, Option.bind_eq_some_iff] at h
  obtain ⟨⟨path, r₁⟩, -, r₂, -, h⟩ := h
  split at h
  · obtain ⟨r₃, -, h⟩ := Option.bind_eq_some_iff.1 h
    obtain ⟨r₄, -, heq⟩ := Option.bind_eq_some_iff.1 h
    cases heq
    trivial
  · obtain ⟨r₃, -, h⟩ := Option.bind_eq_some_iff.1 h
    obtain ⟨r₄, -, heq⟩ := Option.bind_eq_some_iff.1 h
    cases heq
    trivial

theorem Statement.read_distinct {s r : List Char} {statement : Statement}
    (h : Statement.read s = some (statement, r)) : statement.Distinct := by
  unfold Statement.read at h
  split at h
  · exact readHeader_distinct h
  · exact readHeader_distinct h
  · simp only [readAssign, Option.bind_eq_bind, Option.bind_eq_some_iff] at h
    obtain ⟨⟨path, r₁⟩, -, r₂, -, ⟨item, r₃⟩, hitem, r₄, -, heq⟩ := h
    cases heq
    exact readItemUpTo_distinct hitem

theorem Statement.readLines_distinct {fuel : Nat} {s : List Char} {ss : List Statement}
    (h : Statement.readLines fuel s = some ss) : ∀ statement ∈ ss, statement.Distinct := by
  induction fuel generalizing s ss with
  | zero => cases h
  | succ fuel ih =>
    rw [readLines] at h
    split at h
    · cases h
      exact fun _ hmem => nomatch hmem
    · split at h
      · obtain ⟨r, -, hlines⟩ := Option.bind_eq_some_iff.1 h
        exact ih hlines
      · simp only [Option.bind_eq_bind, Option.bind_eq_some_iff] at h
        obtain ⟨⟨statement, r⟩, hread, rest, hrest, heq⟩ := h
        cases heq
        rw [List.forall_mem_cons]
        exact ⟨read_distinct hread, ih hrest⟩

/-- The tables of a draft have distinct names. -/
def Draft.Distinct (d : Draft) : Prop := d.root.Distinct ∧ d.table.entries.Distinct

theorem Draft.Distinct.close (hd : d.Distinct) (h : d.close = some e) : e.Distinct := by
  unfold Draft.close at h
  split at h
  · cases h
    exact hd.2
  · rename_i span array path hheader
    obtain ⟨⟨e', a⟩, hw, rfl⟩ := Option.map_eq_some_iff.1 h
    refine (within_distinct (P := fun _ => True) (fun o i i' b hi hdone => ?_) hd.1 hw).1
    refine hi.alter (P := fun _ => True) (fun x j c hx hj => ⟨?_, trivial⟩) hdone
    have hitem : (Item.table .header d.table.span d.table.entries).Distinct := hd.2
    split at hj
    · split at hj
      · cases hj
        exact ⟨hitem, trivial⟩
      · rename_i s items
        cases hj
        exact Items.Distinct.push (hx _ rfl) hitem
      · cases hj
    · split at hj
      · cases hj
        exact hitem
      · cases hj

theorem Draft.take_distinct {entries : Entries} (he : e.Distinct)
    (h : Draft.take path e = some (e', entries)) : e'.Distinct ∧ entries.Distinct := by
  refine within_distinct (P := Entries.Distinct) (fun o i i' b hi hdone => ?_) he h
  split at hdone
  · cases hdone
    exact ⟨hi, trivial⟩
  · rename_i s inner himplied
    cases hdone
    exact ⟨hi.erase, hi.find? himplied⟩
  · cases hdone

theorem Draft.check_distinct (he : e.Distinct) (h : Draft.check path e = some e') :
    e'.Distinct := by
  obtain ⟨⟨e'', a⟩, hw, rfl⟩ := Option.map_eq_some_iff.1 h
  refine (within_distinct (P := fun _ => True) (fun o i i' b hi hdone => ⟨?_, trivial⟩) he hw).1
  split at hdone
  · cases hdone
    exact hi
  · cases hdone
    exact hi
  · cases hdone

theorem Draft.Distinct.step {statement : Statement} (hd : d.Distinct)
    (hs : statement.Distinct) (h : d.step statement = some d') : d'.Distinct := by
  cases statement with
  | assign path item stop =>
    obtain ⟨entries, hassign, rfl⟩ := Option.map_eq_some_iff.1 h
    exact ⟨hd.1, hd.2.assign hs hassign⟩
  | header span array path =>
    simp only [Draft.step, Option.bind_eq_bind, Option.bind_eq_some_iff] at h
    obtain ⟨root, hclose, h⟩ := h
    have hroot := hd.close hclose
    split at h
    · obtain ⟨root', hcheck, heq⟩ := Option.bind_eq_some_iff.1 h
      cases heq
      exact ⟨Draft.check_distinct hroot hcheck, trivial⟩
    · obtain ⟨⟨root', entries⟩, htake, heq⟩ := Option.bind_eq_some_iff.1 h
      cases heq
      exact Draft.take_distinct hroot htake

theorem Draft.Distinct.run {ss : List Statement} (hd : d.Distinct)
    (hss : ∀ statement ∈ ss, statement.Distinct) (h : ss.foldlM Draft.step d = some d') :
    d'.Distinct := by
  induction ss generalizing d with
  | nil =>
    cases h
    exact hd
  | cons statement ss ih =>
    rw [List.forall_mem_cons] at hss
    rw [List.foldlM_cons] at h
    obtain ⟨d₁, hstep, hrest⟩ := Option.bind_eq_some_iff.1 h
    exact ih (hd.step hss.1 hstep) hss.2 hrest

/-- **No name stands twice in a table of a document.** -/
theorem ofStatements?_distinct {s : List Char} {ss : List Statement}
    (hss : Statement.readAll s = some ss) (h : Document.ofStatements? ss = some e) :
    e.Distinct := by
  obtain ⟨d, hrun, hclose⟩ := Option.bind_eq_some_iff.1 h
  have hstart : Draft.start.Distinct := ⟨trivial, trivial⟩
  exact (hstart.run (Statement.readLines_distinct hss) hrun).close hclose

end Teller.Toml
