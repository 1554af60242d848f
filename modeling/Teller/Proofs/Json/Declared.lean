import Teller.Proofs.Json.Decoding

/-!
# Documents as they are declared

A shape declares of each value what kind it is of, and of each object which members it has. Decoding
asks for more than that in some places, and for less where it lets an array stand for an object.

* `Doc.member?`: a member that is given and not null; `Doc.value`: what it is decoded as.
* `Doc.Each`: a condition on each value of which a shape knows.
* `Doc.Declared`, `Doc.Legible`, `Doc.Full`: what a shape declares, what can be read, and what must
  be there; `Doc.Listless`: no array stands for an object.
* `isSome_as?_iff`: when a document without such arrays is decoded.
* `Doc.Slots`: what it is decoded as.
-/

namespace Teller.Schema

/-- Null is a value of the shape. -/
def Shape.isNullable : Shape → Bool
  | .optional _ => true
  | _ => false

/-- The fields, without the shapes of their values. -/
def Fields.heads : Fields → List Field
  | .nil => []
  | .cons field _ rest => field :: rest.heads

end Teller.Schema

namespace Teller.Json

open Schema (Shape Fields Field)

namespace Doc

/-! ## Members -/

/-- The members of an object; anything else has none. -/
def members : Doc → List (Option String × Doc)
  | .object ms => ms
  | _ => []

/-- Null. -/
def isNull : Doc → Bool
  | .null => true
  | _ => false

/-- **The member under any of some names**, if it is given and not null. -/
def member? (names : List String) (d : Doc) : Option Doc :=
  (under names d.members).find? fun m => !m.isNull

/-! ## Conditions on each value -/

mutual

/-- **A condition on each value** of which a shape knows. Members may be missing or null. -/
def Each (here : Shape → Doc → Prop) : Shape → Doc → Prop
  | .optional inner, d => d = .null ∨ Each here inner d
  | .object typeName fields, d =>
    here (.object typeName fields) d ∧ EachMember here fields d.members
  | .text, d => here .text d
  | .flag, d => here .flag d
  | .count typeName, d => here (.count typeName) d
  | .timestamp, d => here .timestamp d
  | .word choices, d => here (.word choices) d

/-- The condition on each value under the name of a member. -/
def EachMember (here : Shape → Doc → Prop) : Fields → List (Option String × Doc) → Prop
  | .nil, _ => True
  | .cons field shape rest, ms =>
    (∀ d ∈ under field.names ms, d = .null ∨ Each here shape d) ∧ EachMember here rest ms

end

variable {here there : Shape → Doc → Prop}

mutual

theorem each_and (shape : Shape) (d : Doc) :
    Each (fun s d => here s d ∧ there s d) shape d ↔ Each here shape d ∧ Each there shape d := by
  match shape with
  | .optional inner => rw [Each, Each, Each, each_and inner d, or_and_left]
  | .object _ fields => rw [Each, Each, Each, eachMember_and fields d.members, and_and_and_comm]
  | .text | .flag | .count _ | .timestamp | .word _ => rw [Each, Each, Each]

theorem eachMember_and (fields : Fields) (ms : List (Option String × Doc)) :
    EachMember (fun s d => here s d ∧ there s d) fields ms ↔
      EachMember here fields ms ∧ EachMember there fields ms := by
  match fields with
  | .nil => simp [EachMember]
  | .cons field shape rest =>
    simp only [EachMember, eachMember_and rest ms, each_and shape, or_and_left, forall_and]
    exact and_and_and_comm

end

/-- What follows from a condition holds of each value of which that does. -/
theorem Each.imp {shape : Shape} {d : Doc} (hd : Each here shape d)
    (h : ∀ s d, here s d → there s d) : Each there shape d := by
  -- Then both conditions together are no more than the first.
  have heq : (fun s d => here s d ∧ there s d) = here :=
    funext fun s => funext fun d => propext (and_iff_left_of_imp (h s d))
  exact ((each_and shape d).1 (heq.symm ▸ hd)).2

/-! ## What shapes declare -/

/-- The integer without point and exponent that a document is. -/
def int? : Doc → Option Int
  | .number n => n.int?
  | _ => none

/-- A value is of the kind that a shape declares. An object has no member twice. -/
def OfKind : Shape → Doc → Prop
  | .text, d => ∃ s, d = .text s
  | .flag, d => ∃ b, d = .flag b
  | .count _, d => ∃ k ∈ d.int?, 0 ≤ k ∧ k < 0x10000000000000000
  | .timestamp, d => (∃ k ∈ d.int?, Int64.minValue.toInt ≤ k ∧ k ≤ Int64.maxValue.toInt) ∨
      ∃ s, d = .text s
  | .object _ fields, d => (∃ ms, d = .object ms) ∧
      ∀ field ∈ fields.heads, (under field.names d.members).length ≤ 1
  | .word choices, d => ∃ s ∈ choices, d = .text (some s)
  | .optional _, _ => True

/-- A value can be read: no surrogate stands alone in its text or in the name of a member, and no
number has a sign in front of a zero. -/
def Readable : Shape → Doc → Prop
  | .object _ _, d => ∀ m ∈ d.members, m.1 ≠ none
  | _, .text s => s ≠ none
  | _, .number n => ¬ n.MinusZero
  | _, _ => True

/-- Members that must be given are there, and those that must not be null are not. -/
def Present : Fields → List (Option String × Doc) → Prop
  | .nil, _ => True
  | .cons field shape rest, ms =>
    (field.required = true → under field.names ms ≠ []) ∧
      (shape.isNullable = false → .null ∉ under field.names ms) ∧ Present rest ms

/-- An object has all members that it must have. -/
def HasAll : Shape → Doc → Prop
  | .object _ fields, d => Present fields d.members
  | _, _ => True

/-- No array stands in place of an object. -/
def NoList : Shape → Doc → Prop
  | .object _ _, d => ∀ ds, d ≠ .array ds
  | _, _ => True

/-- **A document is as a shape declares it.** -/
def Declared (shape : Shape) (d : Doc) : Prop := d.Each OfKind shape

/-- **All texts, names and numbers of which a shape knows can be read.** -/
def Legible (shape : Shape) (d : Doc) : Prop := d.Each Readable shape

/-- **No member is missing** or null that must not be. -/
def Full (shape : Shape) (d : Doc) : Prop := d.Each HasAll shape

/-- **No array stands for an object.** -/
def Listless (shape : Shape) (d : Doc) : Prop := d.Each NoList shape

/-! ## Single values -/

/-- An integer of 64 bits is read unless it is a zero with a sign. -/
theorem integer?_eq_some_iff {n : Lexeme} {k : Int} : n.integer? = some k ↔
    n.int? = some k ∧ -0x8000000000000000 ≤ k ∧ k < 0x10000000000000000 ∧ ¬ n.MinusZero := by
  rw [Lexeme.integer?, Option.filter_eq_some_iff, decide_eq_true_eq]

theorem isSome_count?_iff (typeName : String) (d : Doc) : d.count?.isSome = true ↔
    OfKind (.count typeName) d ∧ Readable (.count typeName) d := by
  cases d with
  | number n =>
    rw [count?, Option.isSome_iff_exists]
    constructor
    · rintro ⟨c, hc⟩
      obtain ⟨k, hk, hc⟩ := Option.bind_eq_some_iff.1 hc
      obtain ⟨hint, -, hhigh, hzero⟩ := integer?_eq_some_iff.1 hk
      have hk0 : 0 ≤ k := by
        by_contra hneg
        rw [if_neg hneg] at hc
        cases hc
      exact ⟨⟨k, hint, hk0, hhigh⟩, hzero⟩
    · rintro ⟨⟨k, hint, hlow, hhigh⟩, hzero⟩
      have hk := integer?_eq_some_iff.2 ⟨hint, by omega, hhigh, hzero⟩
      exact ⟨_, Option.bind_eq_some_iff.2 ⟨k, hk, if_pos hlow⟩⟩
  | null | flag | text | array | object => simp [count?, OfKind, int?]

theorem isSome_moment?_iff (d : Doc) :
    d.moment?.isSome = true ↔ OfKind .timestamp d ∧ Readable .timestamp d := by
  cases d with
  | number n =>
    rw [moment?, Option.isSome_iff_exists]
    constructor
    · rintro ⟨c, hc⟩
      obtain ⟨k, hk, hc⟩ := Option.bind_eq_some_iff.1 hc
      obtain ⟨hint, -, -, hzero⟩ := integer?_eq_some_iff.1 hk
      have hrange : Int64.minValue.toInt ≤ k ∧ k ≤ Int64.maxValue.toInt := by
        by_contra hout
        rw [if_neg hout] at hc
        cases hc
      exact ⟨.inl ⟨k, hint, hrange⟩, hzero⟩
    · rintro ⟨⟨k, hint, hrange⟩ | ⟨s, hs⟩, hzero⟩
      · have hmin := Int64.minValue.le_toInt
        have hmax := Int64.maxValue.toInt_lt
        have hk := integer?_eq_some_iff.2 ⟨hint, by omega, by omega, hzero⟩
        exact ⟨_, Option.bind_eq_some_iff.2 ⟨k, hk, if_pos hrange⟩⟩
      · cases hs
  | text s => cases s <;> simp [moment?, OfKind, Readable]
  | null | flag | array | object => simp [moment?, OfKind, int?]

theorem isSome_text_iff (d : Doc) :
    (d.as? .text).isSome = true ↔ OfKind .text d ∧ Readable .text d := by
  cases d with
  | text s =>
    show s.isSome = true ↔ _
    cases s <;> simp [OfKind, Readable]
  | null | flag | number | array | object =>
    show (none : Option String).isSome = true ↔ _
    simp [OfKind]

theorem isSome_flag_iff (d : Doc) :
    (d.as? .flag).isSome = true ↔ OfKind .flag d ∧ Readable .flag d := by
  cases d with
  | flag b =>
    show (some b).isSome = true ↔ _
    simp [OfKind, Readable]
  | null | number | text | array | object =>
    show (none : Option Bool).isSome = true ↔ _
    simp [OfKind]

/-- What may be null is decoded if it is null or else as it would be. -/
theorem isSome_optional_iff {inner : Shape} {d : Doc} :
    (d.as? (.optional inner)).isSome = true ↔ d = .null ∨ (d.as? inner).isSome = true := by
  cases d with
  | null => exact ⟨fun _ => .inl rfl, fun _ => rfl⟩
  | flag | number | text | array | object =>
    refine Iff.trans ?_ (or_iff_right nofun).symm
    exact iff_of_eq (congrArg (· = true) Option.isSome_map)

/-- Null is decoded where it is a value. -/
theorem isSome_as?_null (shape : Shape) :
    (Doc.null.as? shape).isSome = true ↔ shape.isNullable = true := by
  cases shape with
  | optional => exact ⟨fun _ => rfl, fun _ => rfl⟩
  | _ => exact ⟨fun h => (nomatch h), fun h => nomatch h⟩

/-! ## Objects -/

/-- The members of an object, if none is missing. -/
def whole? (fields : Fields) (ms : List (Option String × Doc)) : Option fields.Carrier :=
  (given? fields fields.none ms).filter fun c => (fields.missing? c).isNone

section

variable {field : Field} {shape : Shape} {rest : Fields} {ms : List (Option String × Doc)}

theorem given?_cons_eq_some_iff {slot : Option shape.Carrier} {others : rest.Carrier} :
    given? (.cons field shape rest) (none, rest.none) ms = some (slot, others) ↔
      slot? (as? shape) none (under field.names ms) = some slot ∧
        given? rest rest.none ms = some others := by
  refine Option.bind_eq_some_iff.trans ?_
  constructor
  · rintro ⟨slot', hslot, h⟩
    obtain ⟨others', hothers, heq⟩ := Option.map_eq_some_iff.1 h
    cases heq
    exact ⟨hslot, hothers⟩
  · rintro ⟨hslot, hothers⟩
    exact ⟨slot, hslot, Option.map_eq_some_iff.2 ⟨others, hothers, rfl⟩⟩

theorem missing?_cons_eq_none_iff {slot : Option shape.Carrier} {others : rest.Carrier} :
    (Fields.cons field shape rest).missing? (slot, others) = none ↔
      (field.required = true → slot ≠ none) ∧ rest.missing? others = none := by
  show (if field.required && slot.isNone then some field else _) = none ↔ _
  cases field.required <;> cases slot <;> simp

theorem whole?_eq_some_iff {fields : Fields} {c : fields.Carrier} :
    whole? fields ms = some c ↔ given? fields fields.none ms = some c ∧
      fields.missing? c = none := by
  rw [whole?, Option.filter_eq_some_iff, Option.isNone_iff_eq_none]

/-- **An object is whole** if its first member is and the others are. -/
theorem whole?_cons_eq_some_iff {slot : Option shape.Carrier} {others : rest.Carrier} :
    whole? (.cons field shape rest) ms = some (slot, others) ↔
      slot? (as? shape) none (under field.names ms) = some slot ∧
        (field.required = true → slot ≠ none) ∧ whole? rest ms = some others := by
  refine whole?_eq_some_iff.trans ?_
  refine (and_congr given?_cons_eq_some_iff missing?_cons_eq_none_iff).trans ?_
  rw [whole?_eq_some_iff, and_assoc, and_congr_right_iff]
  exact fun _ => and_left_comm

theorem isSome_whole?_cons : (whole? (.cons field shape rest) ms).isSome = true ↔
    (∃ slot, slot? (as? shape) none (under field.names ms) = some slot ∧
      (field.required = true → slot ≠ none)) ∧ (whole? rest ms).isSome = true := by
  rw [Option.isSome_iff_exists, Option.isSome_iff_exists]
  constructor
  · rintro ⟨⟨slot, others⟩, h⟩
    obtain ⟨hslot, hrequired, hothers⟩ := whole?_cons_eq_some_iff.1 h
    exact ⟨⟨slot, hslot, hrequired⟩, others, hothers⟩
  · rintro ⟨⟨slot, hslot, hrequired⟩, others, hothers⟩
    exact ⟨(slot, others), whole?_cons_eq_some_iff.2 ⟨hslot, hrequired, hothers⟩⟩

theorem isSome_as?_object {typeName : String} {fields : Fields} :
    ((object ms).as? (.object typeName fields)).isSome = true ↔
      (∀ m ∈ ms, m.1 ≠ none) ∧ (whole? fields ms).isSome = true := by
  show (if ms.all (·.1.isSome) then whole? fields ms else none).isSome = true ↔ _
  have hall : ms.all (·.1.isSome) = true ↔ ∀ m ∈ ms, m.1 ≠ none := by
    simp only [List.all_eq_true, Option.isSome_iff_ne_none]
  rw [← hall]
  split
  · rename_i h
    simp [h]
  · rename_i h
    simp [h]

end

/-- The kinds, the texts and the members that decoding asks for. -/
def Fit (shape : Shape) (d : Doc) : Prop := (OfKind shape d ∧ Readable shape d) ∧ HasAll shape d

/-- What is decoded of a member: it is given once at most, and if so it is null, where it may be, or
fit to be decoded. -/
theorem slot?_each {shape : Shape} (required : Prop)
    (h : ∀ d : Doc, (d.as? shape).isSome = true ∧ d.Each NoList shape ↔ d.Each Fit shape)
    (ds : List Doc) :
    (∃ slot, slot? (as? shape) none ds = some slot ∧ (required → slot ≠ none)) ∧
        (∀ d ∈ ds, d = .null ∨ d.Each NoList shape) ↔
      ds.length ≤ 1 ∧ (required → ds ≠ []) ∧ (shape.isNullable = false → .null ∉ ds) ∧
        ∀ d ∈ ds, d = .null ∨ d.Each Fit shape := by
  match ds with
  | [] => simp [slot?]
  | [d] =>
    have hslot : (∃ slot, slot? (as? shape) none [d] = some slot ∧ (required → slot ≠ none)) ↔
        (d.as? shape).isSome = true := by
      cases hd : d.as? shape <;> simp [slot?, hd]
    -- A null is given as well, but it is decoded only where it may stand.
    have hnull := isSome_as?_null shape
    rw [hslot]
    by_cases hd : d = .null
    · subst hd
      simp [hnull]
    · simp [hd, h, Ne.symm hd]
  | _ :: _ :: _ => simp [slot?]

mutual

/-- **What is fit to be decoded** is decoded, and nothing else is unless it has an array for an
object. -/
theorem isSome_as?_each (shape : Shape) (d : Doc) (hp : shape.isPlain = true) :
    (d.as? shape).isSome = true ∧ d.Each NoList shape ↔ d.Each Fit shape := by
  match shape with
  | .text => exact and_congr_left' (isSome_text_iff d)
  | .flag => exact and_congr_left' (isSome_flag_iff d)
  | .count typeName => exact and_congr_left' (isSome_count?_iff typeName d)
  | .timestamp => exact and_congr_left' (isSome_moment?_iff d)
  | .word _ => cases hp
  | .optional inner =>
    rw [Each, Each, ← isSome_as?_each inner d hp, or_and_left, isSome_optional_iff]
  | .object typeName fields =>
    rw [Shape.isPlain, Bool.and_eq_true] at hp
    rw [Each, Each]
    -- Of the conditions on the object itself, its names are looked at here, and its members below.
    have hwhole := isSome_whole?_each fields d.members hp.2
    cases d with
    | object ms =>
      rw [isSome_as?_object]
      constructor
      · rintro ⟨⟨hnames, hms⟩, -, hnolist⟩
        obtain ⟨hheads, hpresent, hfit⟩ := hwhole.1 ⟨hms, hnolist⟩
        exact ⟨⟨⟨⟨⟨ms, rfl⟩, hheads⟩, hnames⟩, hpresent⟩, hfit⟩
      · rintro ⟨⟨⟨⟨-, hheads⟩, hnames⟩, hpresent⟩, hfit⟩
        obtain ⟨hms, hnolist⟩ := hwhole.2 ⟨hheads, hpresent, hfit⟩
        exact ⟨⟨hnames, hms⟩, nofun, hnolist⟩
    | array ds => exact ⟨fun h => absurd rfl (h.2.1 ds), fun h => nomatch h.1.1.1.1⟩
    | null | flag | number | text => exact ⟨fun h => (nomatch h.1), fun h => nomatch h.1.1.1.1⟩

/-- So with the members of an object. -/
theorem isSome_whole?_each (fields : Fields) (ms : List (Option String × Doc))
    (hp : fields.isPlain = true) :
    (whole? fields ms).isSome = true ∧ EachMember NoList fields ms ↔
      (∀ field ∈ fields.heads, (under field.names ms).length ≤ 1) ∧ Present fields ms ∧
        EachMember Fit fields ms := by
  match fields with
  | .nil =>
    refine ⟨fun _ => ⟨fun _ h => ?_, trivial, trivial⟩, fun _ => ⟨rfl, trivial⟩⟩
    cases h
  | .cons field shape rest =>
    rw [Fields.isPlain, Bool.and_eq_true, Bool.and_eq_true] at hp
    have hrest := isSome_whole?_each rest ms hp.2
    rw [isSome_whole?_cons, EachMember, EachMember, Present, Fields.heads, List.forall_mem_cons]
    have hslot := slot?_each (field.required = true) (fun d => isSome_as?_each shape d hp.1.1)
      (under field.names ms)
    constructor
    · rintro ⟨⟨hs, hothers⟩, hnull, hnolist⟩
      obtain ⟨hheads, hpresent, hfit⟩ := hrest.1 ⟨hothers, hnolist⟩
      obtain ⟨hone, hrequired, hnonnull, hfit'⟩ := hslot.1 ⟨hs, hnull⟩
      exact ⟨⟨hone, hheads⟩, ⟨hrequired, hnonnull, hpresent⟩, hfit', hfit⟩
    · rintro ⟨⟨hone, hheads⟩, ⟨hrequired, hnonnull, hpresent⟩, hfit', hfit⟩
      obtain ⟨hothers, hnolist⟩ := hrest.2 ⟨hheads, hpresent, hfit⟩
      obtain ⟨hs, hnull⟩ := hslot.2 ⟨hone, hrequired, hnonnull, hfit'⟩
      exact ⟨⟨hs, hothers⟩, hnull, hnolist⟩

end

/-- **What is decoded of a document** in which no array stands for an object: it is as declared, all
of it can be read, and nothing is missing. -/
theorem isSome_as?_iff {shape : Shape} {d : Doc} (hp : shape.isPlain = true) :
    (d.as? shape).isSome = true ∧ d.Listless shape ↔
      d.Declared shape ∧ d.Legible shape ∧ d.Full shape := by
  refine (isSome_as?_each shape d hp).trans ?_
  refine (each_and shape d).trans ((and_congr_left' (each_and shape d)).trans ?_)
  exact and_assoc

/-- Where an object is declared, no array stands. -/
theorem Declared.listless {shape : Shape} {d : Doc} (h : d.Declared shape) : d.Listless shape := by
  refine h.imp fun s d hkind => ?_
  cases s with
  | object typeName fields =>
    obtain ⟨ms, rfl⟩ := hkind.1
    exact nofun
  | _ => trivial

/-! ## What members are decoded as -/

/-- What a member is decoded as, if it is given and not null. -/
def value (shape : Shape) (names : List String) (d : Doc) : Option shape.Carrier :=
  (d.member? names).bind (as? shape)

/-- Each slot holds what is under its names. -/
def Slots (d : Doc) : (fields : Fields) → fields.Carrier → Prop
  | .nil, _ => True
  | .cons field shape rest, (slot, others) =>
    slot? (as? shape) none (under field.names d.members) = some slot ∧ Slots d rest others

theorem slots_of_whole? {d : Doc} {fields : Fields} {c : fields.Carrier}
    (h : whole? fields d.members = some c) : Slots d fields c := by
  match fields, c with
  | .nil, () => trivial
  | .cons field shape rest, (slot, others) =>
    obtain ⟨hslot, -, hothers⟩ := whole?_cons_eq_some_iff.1 h
    exact ⟨hslot, slots_of_whole? hothers⟩

theorem slots_of_as? {typeName : String} {fields : Fields} {d : Doc} {c : fields.Carrier}
    (hk : d.Declared (.object typeName fields)) (h : d.as? (.object typeName fields) = some c) :
    Slots d fields c := by
  obtain ⟨ms, rfl⟩ := hk.1.1
  refine slots_of_whole? ?_
  have h : (if ms.all (·.1.isSome) then whole? fields ms else none) = some c := h
  split at h
  · exact h
  · cases h

section

variable {shape : Shape} {names : List String} {d m : Doc}

theorem ne_null_of_member? (h : d.member? names = some m) : m ≠ .null := by
  rintro rfl
  cases List.find?_some h

theorem mem_of_member? (h : d.member? names = some m) : m ∈ under names d.members :=
  List.mem_of_find?_eq_some h

/-- What holds of a member that is given once at most, unless it is null. -/
theorem forall_member?_iff (hone : (under names d.members).length ≤ 1) {P : Doc → Prop} :
    (∀ m ∈ under names d.members, m = .null ∨ P m) ↔ ∀ m, d.member? names = some m → P m := by
  constructor
  · exact fun h m hm => (h m (mem_of_member? hm)).resolve_left (ne_null_of_member? hm)
  · intro h
    rw [member?] at h
    match hds : under names d.members with
    | [] => exact fun m hm => nomatch hm
    | [m] =>
      rw [hds] at h
      rw [List.forall_mem_singleton]
      cases m with
      | null => exact .inl rfl
      | flag | number | text | array | object => exact .inr (h _ rfl)
    | _ :: _ :: _ =>
      rw [hds] at hone
      simp at hone

theorem member?_ne_none_iff (hone : (under names d.members).length ≤ 1) :
    d.member? names ≠ none ↔
      under names d.members ≠ [] ∧ .null ∉ under names d.members := by
  rw [member?]
  match hds : under names d.members with
  | [] => simp
  | [m] => cases m <;> simp [isNull]
  | _ :: _ :: _ =>
    rw [hds] at hone
    simp at hone

/-- A slot that may hold nothing does so where no member is given, or holds what the member is
decoded as. -/
theorem slot_cases {slot : Option (Shape.optional shape).Carrier}
    (h : slot? (as? (.optional shape)) none (under names d.members) = some slot) :
    d.member? names = none ∧ Option.join slot = none ∨
      ∃ m v, d.member? names = some m ∧ m.as? shape = some v ∧ Option.join slot = some v := by
  rw [member?]
  generalize under names d.members = ds at h
  match ds with
  | [] =>
    cases h
    exact .inl ⟨rfl, rfl⟩
  | [m] =>
    obtain ⟨v, hv, rfl⟩ := Option.map_eq_some_iff.1 h
    cases m with
    | null =>
      cases hv
      exact .inl ⟨rfl, rfl⟩
    | flag | number | text | array | object =>
      have hv : Option.map some (as? shape _) = some v := hv
      obtain ⟨w, hw, rfl⟩ := Option.map_eq_some_iff.1 hv
      exact .inr ⟨_, w, rfl, hw, rfl⟩
  | _ :: _ :: _ => cases h

theorem join_slot {slot : Option (Shape.optional shape).Carrier}
    (h : slot? (as? (.optional shape)) none (under names d.members) = some slot) :
    Option.join slot = d.value shape names := by
  rw [value]
  rcases slot_cases h with ⟨hm, hslot⟩ | ⟨m, v, hm, hv, hslot⟩
  · rw [hm, hslot]
    rfl
  · rw [hm, hslot, ← hv]
    rfl

/-- So with a member that is declared to be an object. -/
theorem map_join_slot {α : Type} {typeName : String} {fields : Fields}
    {ofMembers : fields.Carrier → α} {ofDoc : Doc → α}
    (hof : ∀ {m c}, Slots m fields c → ofMembers c = ofDoc m)
    (hk : ∀ m ∈ under names d.members, m = .null ∨ m.Declared (.optional (.object typeName fields)))
    {slot : Option (Shape.optional (.object typeName fields)).Carrier}
    (h : slot? (as? (.optional (.object typeName fields))) none (under names d.members) =
      some slot) :
    (Option.join slot).map ofMembers = (d.member? names).map ofDoc := by
  rcases slot_cases h with ⟨hm, hslot⟩ | ⟨m, v, hm, hv, hslot⟩
  · rw [hm, hslot]
    rfl
  · have hnull := ne_null_of_member? hm
    have hdeclared : m.Declared (.object typeName fields) :=
      ((hk m (mem_of_member? hm)).resolve_left hnull).resolve_left hnull
    rw [hm, hslot]
    exact congrArg some (hof (slots_of_as? hdeclared hv))

/-- A slot that must not hold nothing holds what its member is decoded as. -/
theorem eq_slot (hn : shape.isNullable = false) {slot : Option shape.Carrier}
    (h : slot? (as? shape) none (under names d.members) = some slot) :
    slot = d.value shape names := by
  rw [value, member?]
  generalize under names d.members = ds at h
  match ds with
  | [] =>
    cases h
    rfl
  | [m] =>
    obtain ⟨v, hv, rfl⟩ := Option.map_eq_some_iff.1 h
    cases m with
    | null =>
      have hnull := (isSome_as?_null shape).1 (by rw [hv]; rfl)
      rw [hn] at hnull
      cases hnull
    | flag | number | text | array | object => exact hv.symm
  | _ :: _ :: _ => cases h

end

end Doc

end Teller.Json
