import Mathlib.Data.List.Perm.Basic
import Teller.Proofs.Json.Decoding

/-!
# Rearranged documents

A shape says which names of members it knows. It does not tell documents apart whose objects have
their members in another order, have more that no name tells, or call a member by another of its
names.

* `Doc.Rearranged`: such documents; `Rearranged.as?_eq`: they stand for one value.
* `given?_perm`, `put?_congr`: members in another order, and by another name.
* `Doc.Written`: documents that some text has; `written_object_iff`, `named_some`: objects have one
  if their members do, and any text may be a name; `Rearranged.written`.
* `ReadsThrough`: readings that see none of that; `readsThrough_decode`: they are what a value is
  made of that is decoded.
-/

namespace Teller.Schema

/-- A member of an object, and the shape of its value. -/
def Fields.Has : Fields → Field → Shape → Prop
  | .nil, _, _ => False
  | .cons field shape rest, f, s => field = f ∧ shape = s ∨ rest.Has f s

variable {field : Field} {shape : Shape} {name : String}

theorem Fields.mem_names_of_has {fields : Fields} (h : fields.Has field shape)
    (hname : name ∈ field.names) : name ∈ fields.names := by
  match fields with
  | .cons field' shape' rest =>
    rcases h with ⟨rfl, rfl⟩ | h
    · exact List.mem_append_left _ hname
    · exact List.mem_append_right _ (mem_names_of_has h hname)

theorem Fields.isPlain_of_has {fields : Fields} (hp : fields.isPlain = true)
    (h : fields.Has field shape) : shape.isPlain = true := by
  match fields with
  | .cons field' shape' rest =>
    rw [Fields.isPlain, Bool.and_eq_true, Bool.and_eq_true] at hp
    rcases h with ⟨rfl, rfl⟩ | h
    · exact hp.1.1
    · exact isPlain_of_has hp.2 h

end Teller.Schema

namespace Teller.Json

open Schema (Shape Fields Field)

namespace Doc

/-- **A document that some text has.** -/
def Written (d : Doc) : Prop := ∃ cs, Writes d cs

/-- **Documents that differ in what a shape does not see.** -/
inductive Rearranged : Shape → Doc → Doc → Prop
  | refl (shape d) : Rearranged shape d d
  | trans {shape d d' d''} (h : Rearranged shape d d') (h' : Rearranged shape d' d'') :
      Rearranged shape d d''
  /-- The members of an object are in another order. -/
  | ordered {typeName fields ms ms'} (h : List.Perm ms ms') :
      Rearranged (.object typeName fields) (.object ms) (.object ms')
  /-- There is one more, of which nothing is known, whatever its value is. -/
  | unknown {typeName fields ms name d} (hname : name ∉ Fields.names fields) (hd : Written d) :
      Rearranged (.object typeName fields) (.object ms) (.object ((some name, d) :: ms))
  /-- One that is known has another of its names, and a rearranged value. -/
  | known {typeName fields field shape ms name name' d d'} (hfield : Fields.Has fields field shape)
      (hname : name ∈ field.names) (hname' : name' ∈ field.names) (h : Rearranged shape d d') :
      Rearranged (.object typeName fields) (.object ((some name, d) :: ms))
        (.object ((some name', d') :: ms))
  | optional {inner d d'} (h : Rearranged inner d d') : Rearranged (.optional inner) d d'

variable {ms ms' : List (Option String × Doc)} {d d' : Doc} {shape : Shape} {fields : Fields}
  {field : Field} {name name' : String} {typeName : String}

/-! ## Rearranged documents stand for one value -/

theorem slot?_perm {α : Type} (read : Doc → Option α) (slot : Option α) {ds ds' : List Doc}
    (h : ds.Perm ds') : slot? read slot ds = slot? read slot ds' := by
  match ds with
  | [] => rw [h.nil_eq]
  | [d] => rw [List.singleton_perm.1 h]
  | d :: e :: ds =>
    -- Two are refused in any order.
    have hnone (x y : Doc) (xs : List Doc) : slot? read slot (x :: y :: xs) = none := by
      cases slot <;> rfl
    have hlength := h.length_eq
    match ds' with
    | [] => cases hlength
    | [_] => cases hlength
    | x :: y :: xs => rw [hnone, hnone]

/-- **The order of members does not matter.** -/
theorem given?_perm {fields : Fields} (h : ms.Perm ms') (state : fields.Carrier) :
    given? fields state ms = given? fields state ms' := by
  match fields, state with
  | .nil, () => rfl
  | .cons field shape rest, (slot, others) =>
    have hunder : (under field.names ms).Perm (under field.names ms') := (h.filter _).map _
    show (slot? (as? shape) slot (under field.names ms)).bind _ = _
    rw [slot?_perm _ slot hunder]
    exact Option.bind_congr fun _ _ => congrArg _ (given?_perm h others)

/-- **What a member adds** does not depend on which of its names it has. -/
theorem put?_congr {fields : Fields} (hp : fields.isPlain = true) (hfield : fields.Has field shape)
    (hname : name ∈ field.names) (hname' : name' ∈ field.names)
    (hd : d'.as? shape = d.as? shape) (state : fields.Carrier) :
    put? fields name' d' state = put? fields name d state := by
  match fields, state with
  | .cons field' shape' rest, (slot, others) =>
    rw [Fields.isPlain, Bool.and_eq_true, Bool.and_eq_true] at hp
    rcases hfield with ⟨rfl, rfl⟩ | hfield
    · rw [put?_of_mem hname, put?_of_mem hname', hd]
    · -- No name of a later field is one of the first.
      have hnot {k : String} (hk : k ∈ field.names) : k ∉ field'.names := fun hk' =>
        of_decide_eq_true (List.all_eq_true.1 hp.1.2 k hk') (Fields.mem_names_of_has hfield hk)
      rw [put?_of_not_mem (hnot hname), put?_of_not_mem (hnot hname'),
        put?_congr hp.2 hfield hname hname' hd others]

theorem as?_object_congr (hall : ms'.all (·.1.isSome) = ms.all (·.1.isSome))
    (hgiven : given? fields fields.none ms' = given? fields fields.none ms) :
    (object ms').as? (.object typeName fields) = (object ms).as? (.object typeName fields) := by
  show (if ms'.all (·.1.isSome) then (given? fields fields.none ms').filter _ else none) = _
  rw [hall, hgiven]
  rfl

theorem as?_optional (hd : d ≠ .null) : d.as? (.optional shape) = some <$> d.as? shape := by
  cases d <;> first | exact absurd rfl hd | rfl

/-- Null stays null, and nothing else becomes it. -/
theorem Rearranged.null_iff (h : Rearranged shape d d') : d' = .null ↔ d = .null := by
  induction h with
  | refl => rfl
  | trans _ _ ih ih' => rw [ih', ih]
  | ordered | unknown | known => exact iff_of_false nofun nofun
  | optional _ ih => exact ih

/-- **Rearranged documents stand for one value**, or for none. -/
theorem Rearranged.as?_eq (h : Rearranged shape d d') (hp : shape.isPlain = true) :
    d'.as? shape = d.as? shape := by
  induction h with
  | refl => rfl
  | trans _ _ ih ih' => rw [ih' hp, ih hp]
  | ordered h => exact as?_object_congr h.symm.all_eq (given?_perm h.symm _)
  | unknown hname => exact as?_object_congr rfl (given?_of_not_mem hname _)
  | @known typeName fields field shape ms name name' d d' hfield hname hname' _ ih =>
    rw [Shape.isPlain, Bool.and_eq_true] at hp
    refine as?_object_congr rfl ?_
    rw [given?_cons (Fields.apart_of_isPlain hp.2), given?_cons (Fields.apart_of_isPlain hp.2),
      put?_congr hp.2 hfield hname hname' (ih (Fields.isPlain_of_has hp.2 hfield))]
  | @optional inner d d' h ih =>
    -- Only here null is read in another way than everything else.
    by_cases hd : d = .null
    · rw [hd, h.null_iff.2 hd]
    · rw [as?_optional hd, as?_optional (mt h.null_iff.1 hd), ih hp]

/-! ## Rearranged documents have texts -/

/-- A name that some string stands for. -/
def Named (k : Option String) : Prop := ∃ ps cs, WritesParts ps cs ∧ textOf? ps = k

/-- **Any text may be a name.** -/
theorem named_some (name : String) : Named (some name) := by
  obtain ⟨ps, hps, htext⟩ := writesParts_escaped name
  exact ⟨ps, _, hps, htext⟩

theorem exists_writesMembers (h : ∀ m ∈ ms, Named m.1 ∧ m.2.Written) (first : Bool) :
    ∃ cs, WritesMembers first ms cs := by
  induction ms generalizing first with
  | nil => exact ⟨_, .close space_nil⟩
  | cons m ms ih =>
    rw [List.forall_mem_cons] at h
    obtain ⟨⟨⟨ps, name, hname, htext⟩, cs, hcs⟩, h⟩ := h
    obtain ⟨cs', hcs'⟩ := ih h false
    obtain ⟨lead, hlead⟩ : ∃ lead, Leads first lead := by
      cases first with
      | true => exact ⟨[], space_nil⟩
      | false => exact ⟨[','], [], [], space_nil, space_nil, rfl⟩
    obtain ⟨k, d⟩ := m
    cases htext
    exact ⟨_, .member hlead hname ⟨[], [], space_nil, space_nil, rfl⟩ hcs hcs'⟩

theorem of_writesMembers {first : Bool} {cs : List Char} (h : WritesMembers first ms cs) :
    ∀ m ∈ ms, Named m.1 ∧ m.2.Written := by
  induction ms generalizing first cs with
  | nil => exact fun m hm => nomatch hm
  | cons m ms ih =>
    cases h with
    | member hl hn hc h hs => exact List.forall_mem_cons.2 ⟨⟨⟨_, _, hn, rfl⟩, _, h⟩, ih hs⟩

/-- **An object has a text** if all its members do. -/
theorem written_object_iff : (object ms).Written ↔ ∀ m ∈ ms, Named m.1 ∧ m.2.Written := by
  constructor
  · rintro ⟨_, ⟨⟩⟩
    rename_i h
    exact of_writesMembers h
  · intro h
    obtain ⟨cs, hcs⟩ := exists_writesMembers h true
    exact ⟨_, .object hcs⟩

/-- **A rearranged document has a text** if the other does. -/
theorem Rearranged.written (h : Rearranged shape d d') (hd : d.Written) : d'.Written := by
  induction h with
  | refl => exact hd
  | trans _ _ ih ih' => exact ih' (ih hd)
  | ordered h =>
    rw [written_object_iff] at hd ⊢
    exact fun m hm => hd m (h.mem_iff.2 hm)
  | unknown _ hnew =>
    rw [written_object_iff] at hd ⊢
    exact List.forall_mem_cons.2 ⟨⟨named_some _, hnew⟩, hd⟩
  | known _ _ _ _ ih =>
    rw [written_object_iff, List.forall_mem_cons] at hd
    exact written_object_iff.2 (List.forall_mem_cons.2 ⟨⟨named_some _, ih hd.1.2⟩, hd.2⟩)
  | optional _ ih => exact ih hd

end Doc

/-! ## Texts -/

theorem exists_isText_iff {d : Doc} : (∃ text, IsText d text) ↔ d.Written := by
  constructor
  · rintro ⟨text, gap, cs, gap', -, h, -⟩
    exact ⟨cs, h⟩
  · rintro ⟨cs, h⟩
    refine ⟨String.ofList cs, [], cs, [], space_nil, h, space_nil, ?_⟩
    rw [String.toList_ofList, List.nil_append, List.append_nil]

/-- **A reading that sees no rearrangement.** Whatever comes of a text comes of each text of a
rearranged document, and there are such texts. -/
def ReadsThrough {α : Type} (shape : Shape) (read : String → Except Error α) : Prop :=
  ∀ text v, read text = .ok v → (∃ d, IsText d text) ∧
    ∀ d d', IsText d text → Doc.Rearranged shape d d' →
      (∃ text', IsText d' text') ∧ ∀ text', IsText d' text' → read text' = .ok v

/-- **Decoding sees no rearrangement**, nor does what is made of its value. -/
theorem readsThrough_decode {α : Type} {shape : Shape} (hp : shape.isPlain = true)
    (hl : shape.levels < depthLimit) (make : shape.Carrier → α) :
    ReadsThrough shape fun text => make <$> decode shape text := by
  intro text v h
  obtain ⟨c, hc, hv⟩ := ok_of_map h
  obtain ⟨d, hd, -⟩ := (decode_iff hp hl).1 hc
  refine ⟨⟨d, hd⟩, fun d d' hd hr => ?_⟩
  have hwritten : d'.Written := hr.written (exists_isText_iff.1 ⟨text, hd⟩)
  refine ⟨exists_isText_iff.2 hwritten, fun text' hd' => ?_⟩
  have hsame : (decode shape text').toOption = some c := by
    rw [decode_of_isText hp hl hd', hr.as?_eq hp, ← decode_of_isText hp hl hd, hc]
    rfl
  show make <$> decode shape text' = _
  rw [ok_of_toOption hsame, ← hv]
  rfl

end Teller.Json
