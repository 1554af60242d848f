import Teller.Proofs.Toml.Path

/-!
# What the lines of a document give

A line of a TOML document gives an item to a name, under the header in front of it. The name may
have dots, and the item may be a table in braces. Whatever of these the document uses, in the table
that it makes stands what its lines give, and nothing else.

* `Statement.lines`: the lines, with all their names; `itemsAt`: what they give under a path.
* `Leads`: a document says nothing about a path but what its lines give under it.
* `Draft.sight`: what stands under a path while a document is read; `Sees`: it is what the lines
  give that were read.
* `at?_ofStatements?`: so it is in the table of the document.
-/

namespace Teller.Toml

/-- The lines of statements, each with all its names: those of the header in front of it, and its
own. -/
def Statement.lines : List String → List Statement → List (List String × Item)
  | _, [] => []
  | here, .assign path item _ :: rest => (here ++ path.names, item) :: lines here rest
  | _, .header _ _ path :: rest => lines path.names rest

/-- The headers among statements, with whether each one adds a table to a row. -/
def Statement.headers (ss : List Statement) : List (Bool × List String) :=
  ss.filterMap fun
    | .header _ array path => some (array, path.names)
    | .assign _ _ _ => none

/-- **What lines give under a path**: what one of them gives to this name, or what is there in a
table that it gives to a name on the way. -/
def itemsAt (lines : List (List String × Item)) (p : List String) : List Item :=
  lines.filterMap fun line =>
    if line.1 <+: p then line.2.at? (p.drop line.1.length) else none

/-- **A document leads to a path**: under it stands what lines give, if anything, and on the way to
it there are tables only. -/
structure Leads (here : List String) (ss : List Statement) (p : List String) : Prop where
  /-- No row of tables is on the way. -/
  row : ∀ header ∈ Statement.headers ss, header.1 = true → ¬ header.2 <+: p
  /-- No header opens a table there. -/
  header : ∀ header ∈ Statement.headers ss, ¬ p <+: header.2
  /-- Nor does a name with dots. -/
  dotted : ∀ line ∈ Statement.lines here ss, p <+: line.1 → p = line.1
  /-- What is given on the way is a table. -/
  way : ∀ q ∈ p.inits, q ≠ [] → q ≠ p → ∀ item ∈ itemsAt (Statement.lines here ss) q, item.IsTable
  /-- What is given there is no row of tables. -/
  given : ∀ item ∈ itemsAt (Statement.lines here ss) p, ¬ item.IsRow

instance (here : List String) (ss : List Statement) (p : List String) :
    Decidable (Leads here ss p) :=
  decidable_of_iff
    ((∀ header ∈ Statement.headers ss, header.1 = true → ¬ header.2 <+: p) ∧
      (∀ header ∈ Statement.headers ss, ¬ p <+: header.2) ∧
      (∀ line ∈ Statement.lines here ss, p <+: line.1 → p = line.1) ∧
      (∀ q ∈ p.inits, q ≠ [] → q ≠ p → ∀ item ∈ itemsAt (Statement.lines here ss) q,
        item.IsTable) ∧
      ∀ item ∈ itemsAt (Statement.lines here ss) p, ¬ item.IsRow)
    ⟨fun ⟨row, header, dotted, way, given⟩ => ⟨row, header, dotted, way, given⟩,
      fun ⟨row, header, dotted, way, given⟩ => ⟨row, header, dotted, way, given⟩⟩

namespace Draft

/-- The names of the header in force. -/
def here (d : Draft) : List String :=
  match d.table.header with
  | none => []
  | some (_, _, path) => path.names

/-- The open table. -/
def openItem (d : Draft) : Item := .table .header d.table.span d.table.entries

/-- What stands under a path: in the open table, if the path goes there, or else in the finished
ones. -/
def sight (d : Draft) (p : List String) : Option Item :=
  if d.here <+: p then d.openItem.at? (p.drop d.here.length) else d.root.at? p

/-- No row of tables is on a path. -/
def Clear (d : Draft) (p : List String) : Prop :=
  ∀ q, q ≠ [] → q <+: p → ∀ span items, d.sight q ≠ some (.tables span items)

/-- The open table is no element of a row on a path. -/
def Apart (d : Draft) (p : List String) : Prop :=
  ∀ span path, d.table.header = some (span, true, path) → ¬ path.names <+: p

end Draft

variable {d d' : Draft} {e e' : Entries} {p q r : List String} {item : Item} {path : Path}
  {stop : List Char} {span : Span} {array : Bool} {origin : Origin}
  {lines : List (List String × Item)} {ss : List Statement} {given : Item}

/-! ## What stands under a path -/

namespace Draft

theorem sight_append (d : Draft) (r : List String) :
    d.sight (d.here ++ r) = d.openItem.at? r := by
  rw [sight, if_pos (List.prefix_append _ _), List.drop_left]

theorem sight_open (d : Draft) (hr : r ≠ []) : d.sight (d.here ++ r) = d.table.entries.at? r :=
  (d.sight_append r).trans (Item.at?_table hr)

/-- The open table stands under its header. -/
theorem isOpen_sight_here (d : Draft) : IsOpen (d.sight d.here) := by
  have hself := d.sight_append []
  rw [List.append_nil] at hself
  rw [hself]
  exact isOpen_table

theorem sight_elsewhere (h : ¬ d.here <+: p) : d.sight p = d.root.at? p := if_neg h

/-- In front of the header, paths go to the finished tables. -/
theorem root_clear (hclear : d.Clear p) (hhere : d.here = path.names) :
    d.root.Clear (path.front.map Key.name) p := by
  intro q hq hqp hqfront s items
  have hnot : ¬ d.here <+: q := by
    intro hpre
    have hle := (hpre.trans hqfront).length_le
    rw [hhere, Path.names, List.length_append, List.length_singleton] at hle
    omega
  rw [← sight_elsewhere hnot]
  exact hclear q hq hqp s items

theorem Clear.of_prefix (h : d.Clear p) (hq : q <+: p) : d.Clear q :=
  fun q' hq' hpre => h q' hq' (hpre.trans hq)

theorem Apart.of_prefix (h : d.Apart p) (hq : q <+: p) : d.Apart q :=
  fun span path hheader hpre => h span path hheader (hpre.trans hq)

/-! ### The header in force -/

theorem header_of_assign (h : d.step (.assign path item stop) = some d') :
    d'.table.header = d.table.header := by
  obtain ⟨entries, -, hd'⟩ := Option.map_eq_some_iff.1 h
  rw [← hd']

theorem here_of_assign (h : d.step (.assign path item stop) = some d') : d'.here = d.here := by
  rw [here, header_of_assign h, here]

theorem header_of_header (h : d.step (.header span array path) = some d') :
    d'.table.header = some (span, array, path) := by
  simp only [step, Option.bind_eq_bind, Option.bind_eq_some_iff] at h
  obtain ⟨root, -, h⟩ := h
  split at h
  · obtain ⟨root', -, hd'⟩ := Option.bind_eq_some_iff.1 h
    cases hd'
    rfl
  · obtain ⟨taken, -, hd'⟩ := Option.bind_eq_some_iff.1 h
    cases hd'
    rfl

theorem here_of_header (h : d.step (.header span array path) = some d') :
    d'.here = path.names := by
  rw [here, header_of_header h]

/-! ### A line more -/

/-- **What an item that is put under one path leaves under another**: nothing was there and a part
of the item is now, or it stays as it is. -/
def Puts (q : List String) (item : Item) (p : List String) (before after : Option Item) : Prop :=
  (∀ r, p = q ++ r → before = none ∧ after = item.at? r) ∧
    (¬ q <+: p → Stays (p <+: q) before after)

/-- The same further inside. -/
theorem Puts.inside {before after : Option Item} (h : Puts q item p before after)
    (here : List String) : Puts (here ++ q) item (here ++ p) before after := by
  rw [Puts, List.prefix_append_right_inj, List.prefix_append_right_inj]
  refine ⟨fun r hpr => h.1 r ?_, h.2⟩
  rw [List.append_assoc] at hpr
  exact List.append_cancel_left hpr

theorem assign_at? (h : e.assign path item origin = some e') (hp : p ≠ [])
    (hclear : e.Clear (path.front.map Key.name) p) :
    Puts path.names item p (e.at? p) (e'.at? p) := by
  obtain ⟨⟨e'', a⟩, hw, rfl⟩ := Option.map_eq_some_iff.1 h
  have hother (o : Origin) (inner inner' : Entries) hdone :=
    (@Entries.enter_open path.last item inner inner' a ((o == .dotted) == path.front.isEmpty)
      hdone).2.2
  obtain ⟨hbelow, hbeside⟩ := within_path hw hother hp hclear
  refine ⟨fun r hpr => ?_, hbeside⟩
  obtain ⟨o, inner, inner', hdone, hat, hat'⟩ := hbelow r hpr
  obtain ⟨hnone, hfind, -⟩ := Entries.enter_open hdone
  rw [hat, hat', hnone, hfind]
  exact ⟨rfl, rfl⟩

/-- **A line gives its item to its name**, to which nothing was given before; everything else
stays. -/
theorem sight_assign (h : d.step (.assign path item stop) = some d') (hp : p ≠ [])
    (hclear : d.Clear p) : Puts (d.here ++ path.names) item p (d.sight p) (d'.sight p) := by
  have hhere := here_of_assign h
  obtain ⟨entries, hassign, hd'⟩ := Option.map_eq_some_iff.1 h
  have hroot : d'.root = d.root := by rw [← hd']
  have hentries : d'.table.entries = entries := by rw [← hd']
  by_cases hpre : d.here <+: p
  · obtain ⟨p', rfl⟩ := hpre
    by_cases hp' : p' = []
    · -- The open table itself stays open, and no line gives an item to its name.
      subst hp'
      rw [List.append_nil]
      constructor
      · intro r hpr
        have hlength := congrArg List.length hpr
        simp [Path.names] at hlength
      · intro _
        refine .inr ⟨List.prefix_append _ _, d.isOpen_sight_here, ?_⟩
        rw [← hhere]
        exact d'.isOpen_sight_here
    · have hclear' : d.table.entries.Clear (path.front.map Key.name) p' := by
        intro q hq hqp _ s items
        rw [← d.sight_open hq]
        exact hclear _ (List.append_ne_nil_of_right_ne_nil _ hq)
          ((List.prefix_append_right_inj _).2 hqp) s items
      have hnow : d'.sight (d.here ++ p') = entries.at? p' := by
        rw [← hhere, d'.sight_open hp', hentries]
      rw [d.sight_open hp', hnow]
      exact (assign_at? hassign hp' hclear').inside d.here
  · -- The path does not go to the open table, and the finished ones stay as they are.
    constructor
    · rintro r rfl
      rw [List.append_assoc] at hpre
      exact absurd (List.prefix_append _ _) hpre
    · intro _
      rw [sight_elsewhere hpre, sight_elsewhere (hhere ▸ hpre), hroot]
      exact Stays.refl _ _

/-! ### The open table is finished -/

/-- Where a path goes in a finished table, it went before in the tables with the open one. -/
theorem at?_close (h : d.close = some e) (hp : p ≠ []) (hclear : d.Clear p) (hapart : d.Apart p) :
    Stays (p <+: d.here) (d.sight p) (e.at? p) := by
  cases hheader : d.table.header with
  | none =>
    have hhere : d.here = [] := by rw [here, hheader]
    have hself := d.sight_open hp
    rw [hhere, List.nil_append] at hself
    rw [close, hheader] at h
    cases h
    rw [hself]
    exact Stays.refl _ _
  | some header =>
    obtain ⟨span, array, path⟩ := header
    have hhere : d.here = path.names := by rw [here, hheader]
    rw [close, hheader] at h
    obtain ⟨⟨e'', a⟩, hw, rfl⟩ := Option.map_eq_some_iff.1 h
    obtain ⟨hbelow, hbeside⟩ := within_path hw (fun o i i' hdone n hn => by
      obtain ⟨_, -, -, hother⟩ := Entries.alter_eq_some hdone
      exact hother n hn) hp (root_clear hclear hhere)
    by_cases hpre : path.names <+: p
    · -- Closing puts the open table where it was in sight before; rows are not on the path.
      obtain ⟨r, rfl⟩ := hpre
      have harray : array = false := by
        by_contra hrow
        rw [Bool.not_eq_false] at hrow
        subst hrow
        exact hapart span path hheader (List.prefix_append _ _)
      subst harray
      obtain ⟨o, inner, inner', hdone, -, hat'⟩ := hbelow r rfl
      simp only [Bool.false_eq_true, if_false] at hdone
      rw [hat', (Entries.enter_eq_some hdone).2.1, ← hhere, d.sight_append]
      exact Stays.refl _ _
    · rw [sight_elsewhere (hhere ▸ hpre), hhere]
      exact hbeside hpre

/-! ### A header more -/

/-- A table that is opened was not there, or only as a part of others. -/
theorem opened_eq_some {name : String} {inner inner' entries : Entries}
    (h : (match inner.find? name with
      | none => some (inner, .nil)
      | some (.table .implied _ inside) => some (inner.erase name, inside)
      | some _ => none) = some (inner', entries)) :
    (∀ n, n ≠ name → inner'.find? n = inner.find? n) ∧ IsOpen (inner.find? name) ∧
      ∀ n ns, (inner.find? name).bind (Item.at? (n :: ns)) = entries.at? (n :: ns) := by
  split at h
  · rename_i hnone
    cases h
    rw [hnone]
    exact ⟨fun _ _ => rfl, isOpen_none, fun n ns => rfl⟩
  · rename_i s inside himplied
    cases h
    rw [himplied]
    exact ⟨fun n hn => Entries.find?_erase_of_ne hn inner, isOpen_table, fun n ns => rfl⟩
  · cases h

/-- Opening the table of a header takes along what stood under it, and leaves everything else. -/
theorem at?_take (span : Option Span) {entries : Entries} (h : take path e = some (e', entries))
    (hp : p ≠ []) (hclear : e.Clear (path.front.map Key.name) p) :
    (∀ r, p = path.names ++ r →
      Stays (p <+: path.names) (e.at? p) ((Item.table .header span entries).at? r)) ∧
      (¬ path.names <+: p → Stays (p <+: path.names) (e.at? p) (e'.at? p)) := by
  obtain ⟨hbelow, hbeside⟩ :=
    within_path h (fun _ _ _ hdone => (opened_eq_some hdone).1) hp hclear
  refine ⟨fun r hpr => ?_, hbeside⟩
  obtain ⟨o, inner, inner', hdone, hat, -⟩ := hbelow r hpr
  obtain ⟨-, hopen, hinside⟩ := opened_eq_some hdone
  cases r with
  | nil =>
    rw [List.append_nil] at hpr
    refine .inr ⟨hpr ▸ List.prefix_refl _, ?_, isOpen_table⟩
    show IsOpen (e.at? p)
    rw [hat]
    show IsOpen (inner.at? [path.last.name])
    rw [Entries.at?_singleton]
    exact hopen
  | cons n ns =>
    rw [hat, hinside n ns]
    exact Stays.refl _ _

/-- Looking for other tables of a row changes nothing. -/
theorem at?_check (h : check path e = some e') (hp : p ≠ [])
    (hclear : e.Clear (path.front.map Key.name) p) (hnot : ¬ path.names <+: p) :
    Stays (p <+: path.names) (e.at? p) (e'.at? p) := by
  obtain ⟨⟨e'', a⟩, hw, rfl⟩ := Option.map_eq_some_iff.1 h
  refine (within_path hw (fun o i i' hdone n hn => ?_) hp hclear).2 hnot
  split at hdone
  · cases hdone
    rfl
  · cases hdone
    rfl
  · cases hdone

/-- **A header leaves what stands under a path**, or opens a table there or on the way to it. -/
theorem sight_header (h : d.step (.header span array path) = some d') (hp : p ≠ [])
    (hclear : d.Clear p) (hapart : d.Apart p) (hrow : array = true → ¬ path.names <+: p) :
    Stays (p <+: d.here ∨ p <+: path.names) (d.sight p) (d'.sight p) := by
  have hhere := here_of_header h
  simp only [step, Option.bind_eq_bind, Option.bind_eq_some_iff] at h
  obtain ⟨root, hclose, h⟩ := h
  have hclosed := (at?_close hclose hp hclear hapart).mono
    (Or.inl (b := p <+: path.names))
  have hclear' : root.Clear (path.front.map Key.name) p := by
    intro q hq hqp _ s items
    have hstays := at?_close hclose hq (hclear.of_prefix hqp) (hapart.of_prefix hqp)
    rcases hstays with heq | ⟨-, -, hopen⟩
    · rw [heq]
      exact hclear q hq hqp s items
    · exact hopen.ne_tables
  -- First the open table is closed, then another one is opened.
  refine hclosed.trans (Stays.mono ?_ Or.inr)
  split at h
  · rename_i harray
    obtain ⟨root', hcheck, hd'⟩ := Option.bind_eq_some_iff.1 h
    have hroot : d'.root = root' := by
      cases hd'
      rfl
    rw [sight_elsewhere (hhere ▸ hrow harray), hroot]
    exact at?_check hcheck hp hclear' (hrow harray)
  · obtain ⟨⟨root', entries⟩, htake, hd'⟩ := Option.bind_eq_some_iff.1 h
    have hroot : d'.root = root' := by
      cases hd'
      rfl
    have hentries : d'.table.entries = entries := by
      cases hd'
      rfl
    obtain ⟨hbelow, hbeside⟩ := at?_take d'.table.span htake hp hclear'
    by_cases hpre : path.names <+: p
    · obtain ⟨r, rfl⟩ := hpre
      rw [← hhere, d'.sight_append, openItem, hentries, hhere]
      exact hbelow r rfl
    · rw [sight_elsewhere (hhere ▸ hpre), hroot]
      exact hbeside hpre

end Draft

/-! ## Lines and what they give -/

theorem itemsAt_append (lines more : List (List String × Item)) (p : List String) :
    itemsAt (lines ++ more) p = itemsAt lines p ++ itemsAt more p :=
  List.filterMap_append

theorem mem_itemsAt_assign {here : List String} :
    item ∈ itemsAt (Statement.lines here (.assign path given stop :: ss)) p ↔
      item ∈ itemsAt [(here ++ path.names, given)] p ∨
        item ∈ itemsAt (Statement.lines here ss) p := by
  rw [← List.mem_append, ← itemsAt_append]
  rfl

theorem mem_itemsAt_singleton :
    item ∈ itemsAt [(q, given)] p ↔ ∃ r, p = q ++ r ∧ given.at? r = some item := by
  rw [itemsAt, List.mem_filterMap]
  constructor
  · rintro ⟨line, hline, hitem⟩
    cases List.mem_singleton.1 hline
    obtain ⟨⟨r, rfl⟩, hitem⟩ := Option.ite_none_right_eq_some.1 hitem
    rw [List.drop_left] at hitem
    exact ⟨r, rfl, hitem⟩
  · rintro ⟨r, rfl, hitem⟩
    refine ⟨_, List.mem_singleton_self _, ?_⟩
    rw [if_pos (List.prefix_append _ _), List.drop_left]
    exact hitem

/-! ## A document sees what its lines give -/

/-- **A draft sees what lines give** under a path: just that stands there, and on the way to it
there is nothing but tables. -/
structure Sees (p : List String) (lines : List (List String × Item)) (d : Draft) : Prop where
  /-- The path starts with no row of tables that is open, nor ends at the open table or before. -/
  apart : d.Apart p
  header : ¬ p <+: d.here
  way : ∀ q, q ≠ [] → q <+: p → q ≠ p → IsOpen (d.sight q)
  given : ∀ item, d.sight p = some item ↔ item ∈ itemsAt lines p

theorem sees_start (hp : p ≠ []) : Sees p [] .start := by
  have hnone : ∀ q, q ≠ [] → Draft.start.sight q = none := by
    intro q hq
    rw [show q = Draft.start.here ++ q from rfl, Draft.sight_open _ hq]
    exact Entries.at?_nil_left
  refine ⟨fun span path h => (nomatch h), fun h => hp (List.prefix_nil.1 h), fun q hq _ _ => ?_,
    fun item => ?_⟩
  · rw [hnone q hq]
    exact isOpen_none
  · rw [hnone p hp]
    exact iff_of_false (fun h => nomatch h) List.not_mem_nil

theorem Sees.clear (h : Sees p lines d)
    (hgiven : ∀ item ∈ itemsAt lines p, ¬ item.IsRow) :
    d.Clear p := by
  intro q hq hqp span items
  by_cases hqeq : q = p
  · subst hqeq
    intro hsight
    exact hgiven _ ((h.given _).1 hsight) ⟨span, items, rfl⟩
  · exact (h.way q hq hqp hqeq).ne_tables

/-- A line more. -/
theorem Sees.assign (h : Sees p lines d) (hp : p ≠ []) (hclear : d.Clear p)
    (hstep : d.step (.assign path item stop) = some d')
    (hdotted : p <+: d.here ++ path.names → p = d.here ++ path.names)
    (hway : ∀ q ∈ p.inits, q ≠ [] → q ≠ p → ∀ i ∈ itemsAt [(d.here ++ path.names, item)] q,
      i.IsTable) :
    Sees p (lines ++ [(d.here ++ path.names, item)]) d' := by
  have hheader := Draft.header_of_assign hstep
  have hhere := Draft.here_of_assign hstep
  refine ⟨?_, hhere ▸ h.header, fun q hq hqp hqne => ?_, fun i => ?_⟩
  · intro span path hrow
    exact h.apart span path (hheader ▸ hrow)
  · obtain ⟨hextends, hstays⟩ := Draft.sight_assign hstep hq (hclear.of_prefix hqp)
    by_cases hpre : d.here ++ path.names <+: q
    · obtain ⟨r, rfl⟩ := hpre
      intro i hi
      rw [(hextends r rfl).2] at hi
      exact hway _ ((List.mem_inits _ _).2 hqp) hq hqne i (mem_itemsAt_singleton.2 ⟨r, rfl, hi⟩)
    · exact (hstays hpre).isOpen (h.way q hq hqp hqne)
  · obtain ⟨hextends, hstays⟩ := Draft.sight_assign hstep hp hclear
    rw [itemsAt_append, List.mem_append, ← h.given i, mem_itemsAt_singleton]
    by_cases hpre : d.here ++ path.names <+: p
    · obtain ⟨r, rfl⟩ := hpre
      obtain ⟨hnone, hitem⟩ := hextends r rfl
      rw [hnone, hitem]
      constructor
      · exact fun hi => .inr ⟨r, rfl, hi⟩
      · rintro (hi | ⟨r', hr', hi⟩)
        · cases hi
        · rwa [List.append_cancel_left hr']
    · rw [(hstays hpre).eq fun hle => hpre (hdotted hle ▸ List.prefix_refl _)]
      refine (or_iff_left ?_).symm
      rintro ⟨r, rfl, -⟩
      exact hpre (List.prefix_append _ _)

/-- A header more. -/
theorem Sees.opened (h : Sees p lines d) (hp : p ≠ []) (hclear : d.Clear p)
    (hstep : d.step (.header span array path) = some d') (hrow : array = true → ¬ path.names <+: p)
    (hheader : ¬ p <+: path.names) : Sees p lines d' := by
  have hnew := Draft.header_of_header hstep
  have hhere := Draft.here_of_header hstep
  refine ⟨?_, hhere ▸ hheader, fun q hq hqp hqne => ?_, fun i => ?_⟩
  · intro s path' hpath'
    rw [hnew] at hpath'
    cases hpath'
    exact hrow rfl
  · refine (Draft.sight_header hstep hq (hclear.of_prefix hqp) (h.apart.of_prefix hqp) ?_).isOpen
      (h.way q hq hqp hqne)
    exact fun harray hpre => hrow harray (hpre.trans hqp)
  · have hstays := Draft.sight_header hstep hp hclear h.apart hrow
    rw [hstays.eq fun hopened => hopened.elim h.header hheader]
    exact h.given i

/-! ## Whole documents -/

theorem Leads.of_assign {here : List String} (h : Leads here (.assign path item stop :: ss) p) :
    Leads here ss p :=
  { row := h.row
    header := h.header
    dotted := fun line hmem => h.dotted line (List.mem_cons_of_mem _ hmem)
    way := fun q hqp hq hqne i hi => h.way q hqp hq hqne i (mem_itemsAt_assign.2 (.inr hi))
    given := fun i hi => h.given i (mem_itemsAt_assign.2 (.inr hi)) }

theorem Leads.of_header {here : List String} (h : Leads here (.header span array path :: ss) p) :
    Leads path.names ss p :=
  { row := fun header hmem => h.row header (List.mem_cons_of_mem _ hmem)
    header := fun header hmem => h.header header (List.mem_cons_of_mem _ hmem)
    dotted := h.dotted
    way := h.way
    given := h.given }

/-- **A document keeps in sight what its lines give**, statement by statement. -/
theorem sees_run (hp : p ≠ []) (hd : Sees p lines d) (hleads : Leads d.here ss p)
    (hgiven : ∀ item ∈ itemsAt lines p, ¬ item.IsRow)
    (h : ss.foldlM Draft.step d = some d') :
    Sees p (lines ++ Statement.lines d.here ss) d' := by
  -- The lines that are read move from those of the rest to those that the draft sees.
  induction ss generalizing lines d with
  | nil =>
    cases h
    rw [Statement.lines, List.append_nil]
    exact hd
  | cons s ss ih =>
    rw [List.foldlM_cons] at h
    obtain ⟨d₁, hstep, hrest⟩ := Option.bind_eq_some_iff.1 h
    have hclear := hd.clear hgiven
    cases s with
    | assign path item stop =>
      have hsees := hd.assign hp hclear hstep (hleads.dotted _ List.mem_cons_self)
        fun q hqp hq hqne i hi => hleads.way q hqp hq hqne i (mem_itemsAt_assign.2 (.inl hi))
      have hleads' : Leads d₁.here ss p := by
        rw [Draft.here_of_assign hstep]
        exact hleads.of_assign
      have hall := ih hsees hleads' (fun i hi => ?_) hrest
      · rw [Draft.here_of_assign hstep, List.append_assoc] at hall
        exact hall
      · rw [itemsAt_append] at hi
        rcases List.mem_append.1 hi with hi | hi
        · exact hgiven i hi
        · exact hleads.given i (mem_itemsAt_assign.2 (.inl hi))
    | header span array path =>
      have hsees := hd.opened hp hclear hstep (fun harray => ?_)
        (hleads.header (array, path.names) List.mem_cons_self)
      · have hleads' : Leads d₁.here ss p := by
          rw [Draft.here_of_header hstep]
          exact hleads.of_header
        have hall := ih hsees hleads' hgiven hrest
        rw [Draft.here_of_header hstep] at hall
        exact hall
      · subst harray
        exact hleads.row (true, path.names) List.mem_cons_self rfl

/-- **The table of a document holds what its lines give** under a path that it leads to, and tables
on the way to it. -/
theorem at?_ofStatements? (hp : p ≠ []) (hleads : Leads [] ss p)
    (h : Document.ofStatements? ss = some e) :
    (∀ item, e.at? p = some item ↔ item ∈ itemsAt (Statement.lines [] ss) p) ∧
      ∀ q, q ≠ [] → q <+: p → q ≠ p → IsOpen (e.at? q) := by
  obtain ⟨d, hrun, hclose⟩ := Option.bind_eq_some_iff.1 h
  have hsees := sees_run hp (sees_start hp) hleads (fun item hi => absurd hi List.not_mem_nil) hrun
  have hclear : d.Clear p := hsees.clear hleads.given
  constructor
  · intro item
    have hstays := Draft.at?_close hclose hp hclear hsees.apart
    rw [hstays.eq hsees.header]
    exact hsees.given item
  · intro q hq hqp hqne
    have hstays := Draft.at?_close hclose hq (hclear.of_prefix hqp) (hsees.apart.of_prefix hqp)
    exact hstays.isOpen (hsees.way q hq hqp hqne)

end Teller.Toml
