import Mathlib.Data.List.Infix
import Teller.Toml.Document

/-!
# Items by their paths

What stands under a path of names, and what is left of it when something is done at another path.
A path stays as it is unless it starts with the other one; where it is the beginning of the other
one, a table stands under it.

* `Item.at?`, `Entries.at?`: the item under a path.
* `Stays`: an item that is the same as before, or a table before and after.
* `within_at`: acting at a path; `within_path`: acting on one name at the end of a path.
-/

namespace Teller.Toml

/-- The names of a path. -/
def Path.names (path : Path) : List String := path.front.map Key.name ++ [path.last.name]

/-- The item under a path inside an item. -/
def Item.at? : List String → Item → Option Item
  | [], item => some item
  | n :: ns, .table _ _ entries => (entries.find? n).bind (at? ns)
  | _ :: _, _ => none

/-- The item under a path, of one name at least, among entries. -/
def Entries.at? : List String → Entries → Option Item
  | [], _ => none
  | n :: ns, entries => (entries.find? n).bind (Item.at? ns)

/-- A table of any origin. -/
def Item.IsTable (item : Item) : Prop := ∃ origin span entries, item = .table origin span entries

/-- A row of tables. -/
def Item.IsRow (item : Item) : Prop := ∃ span items, item = .tables span items

instance (item : Item) : Decidable item.IsTable :=
  match item with
  | .table origin span entries => isTrue ⟨origin, span, entries, rfl⟩
  | .text _ _ | .integer _ _ | .float _ _ | .flag _ _ | .moment _ | .array _ _ | .tables _ _ =>
    isFalse (by rintro ⟨_, _, _, ⟨⟩⟩)

instance (item : Item) : Decidable item.IsRow :=
  match item with
  | .tables span items => isTrue ⟨span, items, rfl⟩
  | .text _ _ | .integer _ _ | .float _ _ | .flag _ _ | .moment _ | .array _ _ | .table _ _ _ =>
    isFalse (by rintro ⟨_, _, ⟨⟩⟩)

/-- Nothing, or a table. -/
def IsOpen (x : Option Item) : Prop := ∀ item, x = some item → item.IsTable

/-- **What stands under a path stays**: it is the same as before, or it is open now and before. -/
def Stays (opened : Prop) (x y : Option Item) : Prop := y = x ∨ opened ∧ IsOpen x ∧ IsOpen y

variable {opened : Prop} {x y z : Option Item} {n : String} {ns names p r : List String}
  {key : Key} {item : Item} {origin : Origin} {span : Option Span} {e e' inner : Entries}

theorem isOpen_none : IsOpen none := fun _ h => nomatch h

theorem isOpen_table : IsOpen (some (.table origin span e)) := by
  intro item h
  cases h
  exact ⟨origin, span, e, rfl⟩

theorem IsOpen.ne_tables {items : Items} (h : IsOpen x) : x ≠ some (.tables span items) := by
  rintro rfl
  obtain ⟨_, _, _, htable⟩ := h _ rfl
  cases htable

theorem Stays.refl (opened : Prop) (x : Option Item) : Stays opened x x := .inl rfl

theorem Stays.trans (h : Stays opened x y) (h' : Stays opened y z) : Stays opened x z := by
  rcases h with rfl | ⟨ho, hx, hy⟩
  · exact h'
  · rcases h' with rfl | ⟨-, -, hz⟩
    · exact .inr ⟨ho, hx, hy⟩
    · exact .inr ⟨ho, hx, hz⟩

theorem Stays.mono {opened' : Prop} (h : Stays opened x y) (ho : opened → opened') :
    Stays opened' x y := h.imp_right fun ⟨hopened, hxy⟩ => ⟨ho hopened, hxy⟩

theorem Stays.isOpen (h : Stays opened x y) (hx : IsOpen x) : IsOpen y := by
  rcases h with rfl | ⟨-, -, hy⟩
  · exact hx
  · exact hy

theorem Stays.eq (h : Stays opened x y) (ho : ¬ opened) : y = x :=
  h.resolve_right fun hopened => ho hopened.1

/-! ## Paths -/

@[simp] theorem Entries.at?_nil_left : Entries.nil.at? p = none := by
  cases p <;> rfl

theorem Item.at?_table (hp : p ≠ []) : (Item.table origin span e).at? p = e.at? p := by
  cases p with
  | nil => exact absurd rfl hp
  | cons n ns => rfl

@[simp] theorem Entries.at?_singleton (e : Entries) (n : String) : e.at? [n] = e.find? n := by
  show (e.find? n).bind some = _
  cases e.find? n <;> rfl

/-- A path stands under its first name. -/
theorem Entries.at?_cons_of_find? (h : e'.find? n = e.find? n) :
    e'.at? (n :: ns) = e.at? (n :: ns) := by
  show (e'.find? n).bind _ = (e.find? n).bind _
  rw [h]

/-! ## Entries that are changed -/

/-- Entries one behind the other, without what stands inside them. -/
@[elab_as_elim, induction_eliminator]
theorem Entries.rows {motive : Entries → Prop} (nil : motive .nil)
    (cons : ∀ key item rest, motive rest → motive (.cons key item rest)) : ∀ e, motive e
  | .nil => nil
  | .cons key item rest => cons key item rest (rows nil cons rest)

/-- Changing the entry of a name changes no other. -/
theorem Entries.alter_eq_some {α : Type} {f : Option Item → Option (Item × α)} {a : α}
    (h : e.alter key f = some (e', a)) :
    ∃ item, f (e.find? key.name) = some (item, a) ∧ e'.find? key.name = some item ∧
      ∀ n, n ≠ key.name → e'.find? n = e.find? n := by
  induction e generalizing e' with
  | nil =>
    obtain ⟨⟨item, b⟩, hf, heq⟩ := Option.map_eq_some_iff.1 h
    cases heq
    refine ⟨item, hf, if_pos rfl, fun n hn => ?_⟩
    exact if_neg (Ne.symm hn)
  | cons k i rest ih =>
    rw [alter] at h
    split at h
    · rename_i hk
      obtain ⟨⟨item, b⟩, hf, heq⟩ := Option.map_eq_some_iff.1 h
      cases heq
      refine ⟨item, ?_, if_pos hk, fun n hn => ?_⟩
      · rw [find?, if_pos hk]
        exact hf
      · have hne : k.name ≠ n := fun hkn => hn (hkn.symm.trans hk)
        rw [find?, find?, if_neg hne, if_neg hne]
    · rename_i hk
      obtain ⟨⟨rest', b⟩, hrest, heq⟩ := Option.map_eq_some_iff.1 h
      cases heq
      obtain ⟨item, hf, hfind, hother⟩ := ih hrest
      refine ⟨item, ?_, ?_, fun n hn => ?_⟩
      · rw [find?, if_neg hk]
        exact hf
      · rw [find?, if_neg hk]
        exact hfind
      · rw [find?, find?, hother n hn]

/-- An item can be entered under a name that is new. -/
theorem Entries.enter_eq_some {a : Unit}
    (h : e.alter key (fun | none => some (item, ()) | some _ => none) = some (e', a)) :
    e.find? key.name = none ∧ e'.find? key.name = some item ∧
      ∀ n, n ≠ key.name → e'.find? n = e.find? n := by
  obtain ⟨new, hf, hfind, hother⟩ := alter_eq_some h
  cases hold : e.find? key.name with
  | none =>
    rw [hold] at hf
    cases hf
    exact ⟨rfl, hfind, hother⟩
  | some old =>
    rw [hold] at hf
    cases hf

/-- So it can in a table that is open to names with or without dots. -/
theorem Entries.enter_open {a : Unit} {closed : Bool}
    (h : (if closed then none
      else e.alter key (fun | none => some (item, ()) | some _ => none)) = some (e', a)) :
    e.find? key.name = none ∧ e'.find? key.name = some item ∧
      ∀ n, n ≠ key.name → e'.find? n = e.find? n :=
  enter_eq_some (Option.ite_none_left_eq_some.1 h).2

/-- Erasing a name erases no other. -/
theorem Entries.find?_erase_of_ne {name : String} (h : n ≠ name) (e : Entries) :
    (e.erase name).find? n = e.find? n := by
  induction e with
  | nil => rfl
  | cons k i rest ih =>
    rw [erase]
    split
    · rename_i hk
      rw [find?, if_neg fun hkn => h (hkn.symm.trans hk)]
    · rw [find?, find?, ih]

/-! ## Acting at a path -/

section

variable {α : Type} {dotted : Bool} {act : Origin → Entries → Option (Entries × α)} {a : α}
  {keys : List Key}

/-- A path goes through no row of tables as far as it is a part of another one. -/
def Entries.Clear (e : Entries) (names p : List String) : Prop :=
  ∀ q, q ≠ [] → q <+: p → q <+: names → ∀ span items, e.at? q ≠ some (.tables span items)

/-- No row of tables is under the first name. -/
theorem Entries.Clear.head (h : e.Clear (n :: names) (n :: ns)) {items : Items} :
    e.find? n ≠ some (.tables span items) := by
  rw [← e.at?_singleton]
  refine h [n] (List.cons_ne_nil _ _) ?_ ?_ span items
  · exact List.cons_prefix_cons.2 ⟨rfl, List.nil_prefix⟩
  · exact List.cons_prefix_cons.2 ⟨rfl, List.nil_prefix⟩

/-- Nor is one further on. -/
theorem Entries.Clear.inside (h : e.Clear (n :: names) (n :: ns))
    (hinner : ∀ q, q ≠ [] → e.at? (n :: q) = inner.at? q) : inner.Clear names ns := by
  intro q hq hqns hqnames span items
  rw [← hinner q hq]
  refine h (n :: q) (List.cons_ne_nil _ _) ?_ ?_ span items
  · exact List.cons_prefix_cons.2 ⟨rfl, hqns⟩
  · exact List.cons_prefix_cons.2 ⟨rfl, hqnames⟩

/-- What the first step of a path comes to. -/
theorem within_cons (h : within dotted act (key :: keys) origin e = some (e', a)) :
    (∀ n, n ≠ key.name → e'.find? n = e.find? n) ∧
      ((∃ origin' s inner inner', IsOpen (e.find? key.name) ∧
        (∀ ns, ns ≠ [] → e.at? (key.name :: ns) = inner.at? ns) ∧
        e'.find? key.name = some (.table origin' s inner') ∧
        within dotted act keys origin' inner = some (inner', a)) ∨
      ∃ s items, e.find? key.name = some (.tables s items)) := by
  obtain ⟨item, hf, hfind, hother⟩ := Entries.alter_eq_some h
  refine ⟨hother, ?_⟩
  cases hold : e.find? key.name with
  | none =>
    rw [hold] at hf
    obtain ⟨⟨inner', b⟩, hw, heq⟩ := Option.map_eq_some_iff.1 hf
    cases heq
    refine .inl ⟨_, none, .nil, inner', isOpen_none, fun ns _ => ?_, hfind, hw⟩
    rw [Entries.at?, hold, Entries.at?_nil_left]
    rfl
  | some old =>
    rw [hold] at hf
    cases old with
    | table origin' s inner =>
      dsimp only at hf
      split at hf
      · cases hf
      · obtain ⟨⟨inner', b⟩, hw, heq⟩ := Option.map_eq_some_iff.1 hf
        cases heq
        refine .inl ⟨origin', s, inner, inner', isOpen_table, fun ns hns => ?_, hfind, hw⟩
        rw [Entries.at?, hold]
        exact Item.at?_table hns
    | tables s items => exact .inr ⟨s, items, rfl⟩
    | _ => cases hf

/-- **Acting at a path.** What stands under longer paths is what the action left there, and what
stands under all others stays. -/
theorem within_at (h : within dotted act keys origin e = some (e', a)) (hp : p ≠ [])
    (hclear : e.Clear (keys.map Key.name) p) :
    (∀ r, r ≠ [] → p = keys.map Key.name ++ r → ∃ origin' inner inner',
      act origin' inner = some (inner', a) ∧ e.at? p = inner.at? r ∧ e'.at? p = inner'.at? r) ∧
    ((∀ r, r ≠ [] → p ≠ keys.map Key.name ++ r) →
      Stays (p <+: keys.map Key.name) (e.at? p) (e'.at? p)) := by
  -- Each step goes one table inwards, and the path that is looked at loses its first name with it.
  induction keys generalizing origin e e' p with
  | nil =>
    refine ⟨fun r hr hpr => ?_, fun hne => absurd rfl (hne p hp)⟩
    cases hpr
    exact ⟨origin, e, e', h, rfl, rfl⟩
  | cons key keys ih =>
    obtain ⟨hother, hstep⟩ := within_cons h
    cases p with
    | nil => exact absurd rfl hp
    | cons n ns =>
      by_cases hn : n = key.name
      · subst hn
        rcases hstep with ⟨origin', s, inner, inner', hopen, hinner, hfind, hw⟩ | ⟨s, items, hold⟩
        · have hafter : ∀ q, q ≠ [] → e'.at? (key.name :: q) = inner'.at? q := by
            intro q hq
            rw [Entries.at?, hfind]
            exact Item.at?_table hq
          by_cases hns : ns = []
          · -- The path ends at a table that the keys go through.
            subst hns
            refine ⟨fun r hr hpr => ?_, fun _ => .inr ⟨⟨keys.map Key.name, rfl⟩, ?_, ?_⟩⟩
            · exact absurd (List.append_eq_nil_iff.1 (List.cons.inj hpr).2.symm).2 hr
            · rwa [Entries.at?_singleton]
            · rw [Entries.at?_singleton, hfind]
              exact isOpen_table
          · rw [hinner ns hns, hafter ns hns]
            obtain ⟨hbelow, hbeside⟩ := ih hw hns (hclear.inside hinner)
            refine ⟨fun r hr hpr => hbelow r hr (List.cons.inj hpr).2, fun hne => ?_⟩
            refine (hbeside fun r hr hpr => hne r hr ?_).mono fun hpre => ?_
            · rw [hpr, List.map_cons, List.cons_append]
            · exact List.cons_prefix_cons.2 ⟨rfl, hpre⟩
        · exact absurd hold hclear.head
      · refine ⟨fun r _ hpr => absurd (List.cons.inj hpr).1 hn, fun _ => .inl ?_⟩
        exact Entries.at?_cons_of_find? (hother n hn)

/-- **Acting on one name at the end of a path.** Under longer paths stands what is found by that
name, and what stands under all others stays. -/
theorem within_path {path : Path} (h : within dotted act path.front origin e = some (e', a))
    (hact : ∀ origin inner inner', act origin inner = some (inner', a) →
      ∀ n, n ≠ path.last.name → inner'.find? n = inner.find? n)
    (hp : p ≠ []) (hclear : e.Clear (path.front.map Key.name) p) :
    (∀ r, p = path.names ++ r → ∃ origin' inner inner', act origin' inner = some (inner', a) ∧
      e.at? p = (inner.find? path.last.name).bind (Item.at? r) ∧
      e'.at? p = (inner'.find? path.last.name).bind (Item.at? r)) ∧
    (¬ path.names <+: p → Stays (p <+: path.names) (e.at? p) (e'.at? p)) := by
  obtain ⟨hbelow, hbeside⟩ := within_at h hp hclear
  constructor
  · intro r hpr
    rw [Path.names, List.append_assoc] at hpr
    obtain ⟨origin', inner, inner', hdone, hat, hat'⟩ := hbelow _ (List.cons_ne_nil _ _) hpr
    exact ⟨origin', inner, inner', hdone, hat, hat'⟩
  · intro hnot
    by_cases hfront : ∃ r, r ≠ [] ∧ p = path.front.map Key.name ++ r
    · obtain ⟨r, hr, hpr⟩ := hfront
      obtain ⟨origin', inner, inner', hdone, hat, hat'⟩ := hbelow r hr hpr
      cases r with
      | nil => exact absurd rfl hr
      | cons n r =>
        have hn : n ≠ path.last.name := by
          rintro rfl
          exact hnot ⟨r, by rw [hpr, Path.names, List.append_assoc]; rfl⟩
        rw [hat, hat']
        exact .inl (Entries.at?_cons_of_find? (hact _ _ _ hdone n hn))
    · refine (hbeside fun r hr hpr => hfront ⟨r, hr, hpr⟩).mono fun hpre => ?_
      exact hpre.trans (List.prefix_append _ _)

end

end Teller.Toml
