import Teller.Proofs.Json.Decode
import Teller.Proofs.Toml.Names
import Teller.Toml.Decode

/-!
# What tables are decoded as

A table is gone through entry by entry, and what no field knows is passed over. Where no name stands
twice, every field takes what is found by its name, and nothing else counts.

* `putEntry_of_adds`: an entry more; `fold_of_adds`: all entries.
* `Fills`: fields hold what stands under their names.
* `ofItem_of_fills`: what a table is decoded as; `exists_slot_of_fills`: where there may be none.
* `decode_of_ofItem`: what a text gives.
-/

namespace Teller.Schema

/-- Fields of one name each, which no two of them share. -/
def Fields.Single : Fields → Prop
  | .nil => True
  | .cons field _ rest => field.aliases = [] ∧ field.name ∉ rest.keys ∧ rest.Single

instance decidableSingle : (fields : Fields) → Decidable fields.Single
  | .nil => isTrue trivial
  | .cons field _ rest =>
    have := decidableSingle rest
    inferInstanceAs (Decidable (field.aliases = [] ∧ field.name ∉ rest.keys ∧ rest.Single))

end Teller.Schema

namespace Teller.Toml

open Schema (Shape Fields Field)

/-- **Fields hold what is found** by their names, in addition to what they held before. -/
def Adds (e : Entries) : (fields : Fields) → fields.Carrier → fields.Carrier → Prop
  | .nil, _, _ => True
  | .cons field shape rest, (old, olds), (new, news) =>
    (match e.find? field.name with
      | none => new = old
      | some item => old = none ∧ ∃ v, ofItem shape item = .ok v ∧ new = some v) ∧
    Adds e rest olds news

variable {e : Entries} {key : Key} {item : Item} {origin : Origin} {span : Option Span}
  {fields : Fields} {st c : fields.Carrier}

theorem eq_of_adds_nil {fields : Fields} {st c : fields.Carrier} (h : Adds .nil fields st c) :
    c = st := by
  match fields, st, c with
  | .nil, (), () => rfl
  | .cons field shape rest, (old, olds), (new, news) =>
    obtain ⟨rfl, hrest⟩ := h
    exact congrArg (Prod.mk new) (eq_of_adds_nil hrest)

/-- An entry that no field knows adds nothing. -/
theorem adds_of_not_mem {fields : Fields} {st c : fields.Carrier} (hk : key.name ∉ fields.keys)
    (h : Adds (.cons key item e) fields st c) : Adds e fields st c := by
  match fields, st, c with
  | .nil, (), () => trivial
  | .cons field shape rest, (old, olds), (new, news) =>
    rw [Fields.keys, List.mem_cons, not_or] at hk
    obtain ⟨hslot, hrest⟩ := h
    refine ⟨?_, adds_of_not_mem hk.2 hrest⟩
    rwa [Entries.find?, if_neg hk.1] at hslot

/-- **An entry more** is taken by the field that knows its name, or is passed over. -/
theorem putEntry_of_adds {fields : Fields} {st c : fields.Carrier} (hs : fields.Single)
    (hnew : e.find? key.name = none) (h : Adds (.cons key item e) fields st c) :
    (∃ st', putEntry fields key.name item st = some (.ok st') ∧ Adds e fields st' c) ∨
      (putEntry fields key.name item st = none ∧ Adds e fields st c) := by
  match fields, st, c with
  | .nil, (), () => exact .inr ⟨rfl, trivial⟩
  | .cons field shape rest, (old, olds), (new, news) =>
    obtain ⟨haliases, hname, hrest⟩ := hs
    obtain ⟨hslot, hothers⟩ := h
    have hnames : field.names = [field.name] := by rw [Field.names, haliases]
    by_cases hk : key.name = field.name
    · -- The entry is of this field, which then holds it, and of no later one.
      rw [Entries.find?, if_pos hk] at hslot
      obtain ⟨rfl, v, hv, rfl⟩ := hslot
      have hnot : key.name ∉ rest.keys := hk ▸ hname
      refine .inl ⟨(some v, olds), ?_, ?_, adds_of_not_mem hnot hothers⟩
      · rw [putEntry, if_pos (by rw [hnames, hk]; exact List.mem_singleton_self _), hv]
        rfl
      · rw [← hk, hnew]
    · have hnot : key.name ∉ field.names := by
        rw [hnames]
        exact fun hmem => hk (List.mem_singleton.1 hmem)
      rw [Entries.find?, if_neg hk] at hslot
      have hpast : putEntry (.cons field shape rest) key.name item (old, olds) =
          (putEntry rest key.name item olds).map ((fun r => (old, r)) <$> ·) := if_neg hnot
      rw [hpast]
      rcases putEntry_of_adds hrest hnew hothers with ⟨olds', hput, hadds⟩ | ⟨hput, hadds⟩
      · refine .inl ⟨(old, olds'), ?_, hslot, hadds⟩
        rw [hput]
        rfl
      · refine .inr ⟨?_, hslot, hadds⟩
        rw [hput]
        rfl

/-- **All entries.** -/
theorem fold_of_adds (hs : fields.Single) (he : e.Distinct) (h : Adds e fields st c) :
    e.fold (putEntry fields) st = .ok c := by
  induction e generalizing st with
  | nil =>
    rw [eq_of_adds_nil h]
    rfl
  | cons key item rest ih =>
    obtain ⟨hnew, -, hrest⟩ := he
    rw [Entries.fold]
    rcases putEntry_of_adds hs hnew h with ⟨st', hput, hadds⟩ | ⟨hput, hadds⟩
    · rw [hput]
      exact ih hrest hadds
    · rw [hput]
      exact ih hrest hadds

/-- **Fields hold what stands under their names**, and nothing else. -/
def Fills (find : String → Option Item) : (fields : Fields) → fields.Carrier → Prop
  | .nil, _ => True
  | .cons field shape rest, (slot, others) =>
    (find field.name).map (ofItem shape) = slot.map .ok ∧ Fills find rest others

theorem adds_of_fills {fields : Fields} {c : fields.Carrier} (h : Fills e.find? fields c) :
    Adds e fields fields.none c := by
  match fields, c with
  | .nil, () => trivial
  | .cons field shape rest, (slot, others) =>
    obtain ⟨hslot, hothers⟩ := h
    replace hslot : (e.find? field.name).map (ofItem shape) = slot.map .ok := hslot
    refine ⟨?_, adds_of_fills hothers⟩
    cases hfind : e.find? field.name with
    | none =>
      rw [hfind] at hslot
      exact Option.map_eq_none_iff.1 hslot.symm
    | some item =>
      rw [hfind] at hslot
      obtain ⟨v, rfl, hv⟩ := Option.map_eq_some_iff.1 hslot.symm
      exact ⟨rfl, v, hv.symm, rfl⟩

/-- Where nothing stands, fields hold nothing. -/
theorem eq_none_of_fills {fields : Fields} {c : fields.Carrier}
    (h : Fills (fun _ => none) fields c) : c = fields.none := by
  match fields, c with
  | .nil, () => rfl
  | .cons field shape rest, (slot, others) =>
    obtain ⟨hslot, hothers⟩ := h
    rw [Option.map_eq_none_iff.1 hslot.symm, eq_none_of_fills hothers]
    rfl

section

variable {typeName : String} (hs : fields.Single) (hmissing : fields.missing? c = none)
include hs hmissing

/-- **What a table is decoded as**: what stands under the names of the fields, if none is
missing. -/
theorem ofItem_of_fills (he : e.Distinct) (h : Fills e.find? fields c) :
    ofItem (.object typeName fields) (.table origin span e) = .ok c := by
  rw [ofItem, fold_of_adds hs he (adds_of_fills h)]
  dsimp only [Except.mapError, bind, Except.bind]
  rw [hmissing]
  rfl

/-- What is decoded where a table stands or nothing; nothing leaves all fields empty. -/
theorem exists_slot_of_fills {x : Option Item} (hopen : IsOpen x)
    (hx : ∀ item, x = some item → item.Distinct)
    (h : Fills (fun name => x.bind (Item.at? [name])) fields c) :
    ∃ slot : Option fields.Carrier, x.map (ofItem (.object typeName fields)) = slot.map .ok ∧
      slot.getD fields.none = c := by
  cases x with
  | none => exact ⟨none, rfl, (eq_none_of_fills h).symm⟩
  | some item =>
    obtain ⟨origin, span, e, rfl⟩ := hopen _ rfl
    have hfind : (fun name => (some (Item.table origin span e)).bind (Item.at? [name])) =
        fun name => e.find? name := funext e.at?_singleton
    rw [hfind] at h
    exact ⟨some c, congrArg some (ofItem_of_fills hs hmissing (hx _ rfl) h), rfl⟩

end

/-- A text gives what the table of its statements is decoded as. -/
theorem decode_of_ofItem {text : String} {ss : List Statement} {shape : Shape}
    {v : shape.Carrier} (hread : Statement.readAll text.toList = some ss)
    (he : Document.ofStatements? ss = some e) (h : ofItem shape (.table .header none e) = .ok v) :
    decode shape text = .ok v := by
  unfold decode Document.read?
  rw [hread, Option.bind_some, he]
  show Except.mapError _ _ = _
  rw [h]
  rfl

end Teller.Toml
