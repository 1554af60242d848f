import Teller.Proofs.Json.Tree

/-!
# What documents mean

What a tree gives where a value of some shape is wanted depends on its document alone. An object is
looked at member by member: what is given for one of them is what stands under its names, and that
may be one thing at most.

* `Shape.isPlain`: shapes whose values are told by documents; `Shape.levels`: their nesting.
* `Doc.as?`: the value of a shape that a document stands for.
* `given?_cons`: members are taken one by one.
* `ofNode_holds`: a tree gives what its document stands for.
-/

namespace Teller.Schema

/-- All names that stand for members. -/
def Fields.names : Fields → List String
  | .nil => []
  | .cons field _ rest => field.names ++ rest.names

/-- Whether no name stands for two members. -/
def Fields.apart : Fields → Bool
  | .nil => true
  | .cons field _ rest => field.names.all (· ∉ rest.names) && rest.apart

mutual

/-- The shapes without words, whose objects have members that no name confuses. -/
def Shape.isPlain : Shape → Bool
  | .word _ => false
  | .optional inner => inner.isPlain
  | .object _ fields => 0 < fields.length && fields.isPlain
  | .text | .flag | .count _ | .timestamp => true

/-- Members of such shapes. -/
def Fields.isPlain : Fields → Bool
  | .nil => true
  | .cons field shape rest =>
    shape.isPlain && field.names.all (· ∉ rest.names) && rest.isPlain

end

theorem Fields.apart_of_isPlain {fields : Fields} (h : fields.isPlain = true) :
    fields.apart = true := by
  match fields with
  | .nil => rfl
  | .cons field shape rest =>
    rw [Fields.isPlain, Bool.and_eq_true, Bool.and_eq_true] at h
    rw [Fields.apart, Bool.and_eq_true]
    exact ⟨h.1.2, apart_of_isPlain h.2⟩

mutual

/-- How deep the objects of a shape are nested. -/
def Shape.levels : Shape → Nat
  | .optional inner => inner.levels
  | .object _ fields => fields.levels + 1
  | .text | .flag | .count _ | .timestamp | .word _ => 0

/-- How deep the objects of members are nested. -/
def Fields.levels : Fields → Nat
  | .nil => 0
  | .cons _ shape rest => max shape.levels rest.levels

end

end Teller.Schema

namespace Teller.Json

open Schema (Shape Fields Field Timestamp)

/-! ## The values of documents -/

instance (n : Lexeme) : Decidable n.MinusZero :=
  inferInstanceAs (Decidable (n.negative = true ∧ n.int? = some 0))

/-- The integer of 64 bits that a number is read as. -/
def Lexeme.integer? (n : Lexeme) : Option Int :=
  n.int?.filter fun k =>
    -0x8000000000000000 ≤ k ∧ k < 0x10000000000000000 ∧ ¬ n.MinusZero

namespace Doc

/-- The unsigned number of 64 bits that a document stands for. -/
def count? : Doc → Option UInt64
  | .number n => n.integer?.bind fun k => if 0 ≤ k then some (UInt64.ofNat k.toNat) else none
  | _ => none

/-- The moment that a document stands for. -/
def moment? : Doc → Option Timestamp
  | .number n => n.integer?.bind fun k =>
    if Int64.minValue.toInt ≤ k ∧ k ≤ Int64.maxValue.toInt then some (.millis (Int64.ofInt k))
    else none
  | .text s => Timestamp.text <$> s
  | _ => none

/-- The documents that stand under any of some names. -/
def under (names : List String) (ms : List (Option String × Doc)) : List Doc :=
  (ms.filter fun m => m.1.any (· ∈ names)).map Prod.snd

/-- What a slot holds that takes some documents. It takes one at most. -/
def slot? {α : Type} (read : Doc → Option α) : Option α → List Doc → Option (Option α)
  | slot, [] => some slot
  | none, [d] => some <$> read d
  | _, _ => none

mutual

/-- **The value of a shape that a document stands for.** -/
def as? : (shape : Shape) → Doc → Option shape.Carrier
  | .text, d =>
    match d with
    | .text s => s
    | _ => none
  | .flag, d =>
    match d with
    | .flag b => some b
    | _ => none
  | .count _, d => d.count?
  | .timestamp, d => d.moment?
  | .word choices, d =>
    match d with
    | .text s => s.bind fun s => choices.finIdxOf? s
    | _ => none
  | .optional inner, d =>
    match d with
    | .null => some none
    | d => some <$> as? inner d
  | .object _ fields, d =>
    match d with
    | .array ds => listed? fields ds
    | .object ms =>
      if ms.all (·.1.isSome) then
        (given? fields fields.none ms).filter fun c => (fields.missing? c).isNone
      else none
    | _ => none

/-- The members that an array lists, one behind the other. There may be fewer elements, but no
more. -/
def listed? : (fields : Fields) → List Doc → Option fields.Carrier
  | .nil, ds => if ds.isEmpty then some () else none
  | .cons field shape rest, ds =>
    match ds with
    | [] => if field.required then none else (fun r => (none, r)) <$> listed? rest []
    | d :: ds => (as? shape d).bind fun v => (fun r => (some v, r)) <$> listed? rest ds

/-- The members that are given in addition to those that were given before. -/
def given? : (fields : Fields) → fields.Carrier → List (Option String × Doc) →
    Option fields.Carrier
  | .nil, _, _ => some ()
  | .cons field shape rest, (slot, others), ms =>
    (slot? (as? shape) slot (under field.names ms)).bind fun slot =>
      (fun r => (slot, r)) <$> given? rest others ms

end

end Doc

/-! ## Trees give the values of their documents -/

variable {node : Node} {d : Doc} {rest : List Char} {depth : Nat}

/-- A number is read as an integer, or as none at all. -/
theorem Lexeme.decode_cases (n : Lexeme) (rest : List Char) :
    (∃ k, (n.numeral rest).decode = .ok (.integer k) ∧ n.integer? = some k) ∨
      ((∀ k, (n.numeral rest).decode ≠ .ok (.integer k)) ∧ n.integer? = none) := by
  have hiff (k : Int) : (n.numeral rest).decode = .ok (.integer k) ↔ n.integer? = some k := by
    rw [integer?, Option.filter_eq_some_iff, decide_eq_true_eq]
    exact number_integer_iff
  cases hk : n.integer? with
  | some k => exact .inl ⟨k, (hiff k).2 hk, rfl⟩
  | none =>
    refine .inr ⟨fun k h => ?_, rfl⟩
    rw [(hiff k).1 h] at hk
    cases hk

theorem Node.count_holds (h : node.Holds d rest) (wanted : String) :
    (node.count wanted).toOption = d.count? := by
  cases h with
  | @number start n rest =>
    rw [Doc.count?, Node.count]
    rcases n.decode_cases rest with ⟨k, hk, hint⟩ | ⟨hno, hint⟩
    · rw [hk, hint]
      show Except.toOption (if 0 ≤ k then _ else _) = if 0 ≤ k then _ else _
      split <;> rfl
    · rw [hint]
      cases hdecode : (n.numeral rest).decode with
      | error => rfl
      | ok x =>
        cases x with
        | integer k => exact absurd hdecode (hno k)
        | float => rfl
  | null | flag | text | array | object => rfl

theorem Node.timestamp_holds (h : node.Holds d rest) (depth : Nat) :
    (node.timestamp depth).toOption = d.moment? := by
  cases h with
  | @number start n rest =>
    rw [Doc.moment?, Node.timestamp, Node.value]
    rcases n.decode_cases rest with ⟨k, hk, hint⟩ | ⟨hno, hint⟩
    · rw [hk, hint]
      show Except.toOption (if _ then _ else _) = if _ then _ else _
      split <;> rfl
    · rw [hint]
      cases hdecode : (n.numeral rest).decode with
      | error => rfl
      | ok x =>
        cases x with
        | integer k => exact absurd hdecode (hno k)
        | float => rfl
  | @text start q =>
    rw [Doc.moment?, Node.timestamp, Node.value]
    cases q.text <;> rfl
  | null | flag => rfl
  | @array c ahead items ds =>
    show _ = none
    rw [Node.timestamp, Node.value]
    split
    · rfl
    · cases items.values (depth - 1) <;> rfl
  | @object start members ms =>
    show _ = none
    rw [Node.timestamp, Node.value]
    split
    · rfl
    · cases members.values (depth - 1) <;> rfl

/-! ## Objects member by member -/

section

variable {name : String} {names : List String} {ms : List (Option String × Doc)}

theorem Doc.under_nil : under names [] = [] := rfl

theorem Doc.under_cons (k : Option String) : under names ((k, d) :: ms) =
    if k.any (· ∈ names) then d :: under names ms else under names ms := by
  rw [under, List.filter_cons]
  dsimp only
  split <;> rfl

theorem Doc.under_cons_of_mem (h : name ∈ names) :
    under names ((some name, d) :: ms) = d :: under names ms := by
  rw [under_cons]
  exact if_pos (decide_eq_true h)

theorem Doc.under_cons_of_not_mem (h : name ∉ names) :
    under names ((some name, d) :: ms) = under names ms := by
  rw [under_cons]
  exact if_neg (mt of_decide_eq_true h)

/-- A slot takes one document behind the other. -/
theorem Doc.slot?_cons {α : Type} (read : Doc → Option α) (slot : Option α) (ds : List Doc) :
    slot? read slot (d :: ds) =
      match slot with
      | some _ => none
      | none => (read d).bind fun v => slot? read (some v) ds := by
  cases slot with
  | some => cases ds <;> rfl
  | none =>
    cases ds with
    | nil => cases h : read d <;> simp [slot?, h]
    | cons => cases h : read d <;> simp [slot?]

/-- **What a member adds** to those that are given; nothing is known where no field has its name. -/
def put? : (fields : Fields) → String → Doc → fields.Carrier → Option (Option fields.Carrier)
  | .nil, _, _, _ => none
  | .cons field shape rest, name, d, (slot, others) =>
    if name ∈ field.names then
      some <| match slot with
        | some _ => none
        | none => (fun v => (some v, others)) <$> d.as? shape
    else (put? rest name d others).map ((fun r => (slot, r)) <$> ·)

theorem put?_of_mem {field : Field} {shape : Shape} {rest : Fields} {slot : Option shape.Carrier}
    {others : rest.Carrier} (h : name ∈ field.names) :
    put? (.cons field shape rest) name d (slot, others) =
      some (match slot with
        | some _ => none
        | none => (fun v => (some v, others)) <$> d.as? shape) :=
  if_pos h

theorem put?_of_not_mem {field : Field} {shape : Shape} {rest : Fields}
    {slot : Option shape.Carrier} {others : rest.Carrier} (h : name ∉ field.names) :
    put? (.cons field shape rest) name d (slot, others) =
      (put? rest name d others).map ((fun r => (slot, r)) <$> ·) :=
  if_neg h

/-- A member that no field knows adds nothing. -/
theorem given?_of_not_mem {fields : Fields} (h : name ∉ fields.names) (state : fields.Carrier) :
    Doc.given? fields state ((some name, d) :: ms) = Doc.given? fields state ms := by
  match fields, state with
  | .nil, () => rfl
  | .cons field shape rest, (slot, others) =>
    rw [Fields.names, List.mem_append, not_or] at h
    show (Doc.slot? _ slot (Doc.under field.names ((some name, d) :: ms))).bind _ = _
    rw [Doc.under_cons_of_not_mem h.1]
    exact Option.bind_congr fun _ _ => congrArg _ (given?_of_not_mem h.2 others)

/-- **Members are taken one by one.** -/
theorem given?_cons {fields : Fields} (hp : fields.apart = true) (state : fields.Carrier) :
    Doc.given? fields state ((some name, d) :: ms) =
      match put? fields name d state with
      | none => Doc.given? fields state ms
      | some next => next.bind fun state => Doc.given? fields state ms := by
  match fields, state with
  | .nil, () => rfl
  | .cons field shape rest, (slot, others) =>
    rw [Fields.apart, Bool.and_eq_true] at hp
    show (Doc.slot? _ slot (Doc.under field.names ((some name, d) :: ms))).bind _ = _
    by_cases hname : name ∈ field.names
    · -- No later field knows the name, so for them the member is not there.
      have hrest : name ∉ rest.names := of_decide_eq_true (List.all_eq_true.1 hp.1 name hname)
      rw [Doc.under_cons_of_mem hname, Doc.slot?_cons, put?_of_mem hname]
      cases slot with
      | some => rfl
      | none =>
        cases d.as? shape with
        | none => rfl
        | some v => exact Option.bind_congr fun _ _ => congrArg _ (given?_of_not_mem hrest others)
    · rw [Doc.under_cons_of_not_mem hname, put?_of_not_mem hname]
      refine (Option.bind_congr fun _ _ => congrArg _ (given?_cons hp.2 others)).trans ?_
      cases put? rest name d others with
      | none => rfl
      | some next =>
        cases next with
        | none => exact Option.bind_fun_none _
        | some => rfl

theorem given?_nil (fields : Fields) (state : fields.Carrier) :
    Doc.given? fields state [] = some state := by
  match fields, state with
  | .nil, () => rfl
  | .cons field shape rest, (slot, others) =>
    have hslot : Doc.slot? (Doc.as? shape) slot [] = some slot := by cases slot <;> rfl
    show (Doc.slot? _ slot []).bind _ = _
    rw [hslot]
    exact congrArg ((fun r => (slot, r)) <$> ·) (given?_nil rest others)

end

/-! ## Arrays and objects -/

/-- What the elements of an array give, if it ends behind those that are taken. -/
def endsListed {fields : Fields} (x : Except Trouble (fields.Carrier × List Char)) :
    Option fields.Carrier :=
  x.toOption.bind fun p => (fun _ => p.1) <$> (endOfArray p.2).toOption

/-- What the members of an object give, if none is missing. -/
def complete {fields : Fields} (x : Except Trouble (fields.Carrier × List Char)) :
    Option fields.Carrier :=
  (Prod.fst <$> x.toOption).filter fun c => (fields.missing? c).isNone

theorem ofNode_array {typeName : String} {fields : Fields} {start : List Char} {items : Items}
    (hd : ¬ depth ≤ 1) :
    (ofNode (.object typeName fields) depth (.array start items)).toOption =
      endsListed (ofItems typeName fields.length 0 fields (depth - 1) start.tail items) := by
  refine (congrArg Except.toOption (if_neg hd)).trans ?_
  cases ofItems typeName fields.length 0 fields (depth - 1) start.tail items with
  | error t => rfl
  | ok p =>
    show _ = (fun _ => p.1) <$> (endOfArray p.2).toOption
    dsimp only
    cases endOfArray p.2 <;> rfl

theorem ofNode_object {typeName : String} {fields : Fields} {start : List Char} {members : Members}
    (hd : ¬ depth ≤ 1) :
    (ofNode (.object typeName fields) depth (.object start members)).toOption =
      complete (members.fold (putMember fields (depth - 1)) fields.none) := by
  refine (congrArg Except.toOption (if_neg hd)).trans ?_
  cases members.fold (putMember fields (depth - 1)) fields.none with
  | error t => rfl
  | ok p =>
    show _ = (some p.1).filter fun c => (fields.missing? c).isNone
    dsimp only
    cases hmissing : fields.missing? p.1 with
    | none => exact (Option.filter_some_pos (by rw [hmissing]; rfl)).symm
    | some field => exact (Option.filter_some_neg (by rw [hmissing]; rfl)).symm

/-- The end of an array is where its tree has it. -/
theorem endOfArray_holds {items : Items} {ahead : List Char} {ds : List Doc}
    (h : items.Holds ahead ds rest) :
    (endOfArray ahead).toOption = if ds.isEmpty then some () else none := by
  unfold endOfArray
  cases h with
  | close h =>
    rw [h]
    rfl
  | item hopen =>
    split
    · rfl
    · rename_i hskip
      rw [hskip] at hopen
      exact absurd rfl hopen
    · split <;> rfl
    · rfl

theorem endsListed_map {field : Field} {shape : Shape} {rest : Fields} (slot : Option shape.Carrier)
    (x : Except Trouble (rest.Carrier × List Char)) :
    @endsListed (.cons field shape rest) ((fun p => ((slot, p.1), p.2)) <$> x) =
      (fun r => (slot, r)) <$> endsListed x := by
  cases x with
  | error t => rfl
  | ok p =>
    show (fun _ => (slot, p.1)) <$> _ = (fun r => (slot, r)) <$> (fun _ => p.1) <$> _
    cases (endOfArray p.2).toOption <;> rfl

/-- Members are looked at one by one where a field takes what it should. -/
theorem fold_holds {fields : Fields} (hp : fields.isPlain = true)
    (hput : ∀ name ahead node d rest (state : fields.Carrier), Node.Holds node d rest →
      (putMember fields depth name ahead node state).map Except.toOption = put? fields name d state)
    (members : Members) {ms : List (Option String × Doc)} (state : fields.Carrier)
    (h : members.Holds ms rest) :
    Prod.fst <$> (members.fold (putMember fields depth) state).toOption =
      if ms.all (·.1.isSome) then Doc.given? fields state ms else none := by
  cases members with
  | close =>
    cases h
    exact (given?_nil fields state).symm
  | broken => cases h
  | member name node more =>
    cases h with
    | @member _ _ _ d _ _ ms _ hn h hs =>
      rw [Members.fold]
      cases hname : name.text with
      | error => rfl
      | ok k =>
        -- A member is taken or passed over; `given?_cons` has the same two ways.
        have hstep := hput k name.rest node d _ state h
        have hgiven := @given?_cons d k ms _ (Fields.apart_of_isPlain hp) state
        rw [← hstep] at hgiven
        refine Eq.trans ?_ (congrArg (if ms.all (·.1.isSome) then · else none) hgiven).symm
        dsimp only [orFault, bind, Except.bind]
        cases putMember fields depth k name.rest node state with
        | none =>
          rw [h.whole.2]
          exact fold_holds hp hput more state hs
        | some next =>
          cases next with
          | error t => exact (ite_self _).symm
          | ok state => exact fold_holds hp hput more state hs

mutual

/-- **A tree gives what its document stands for.** -/
theorem ofNode_holds (shape : Shape) {depth : Nat} {node : Node} {d : Doc} {rest : List Char}
    (hp : shape.isPlain = true) (hl : shape.levels < depth) (h : node.Holds d rest) :
    (ofNode shape depth node).toOption = d.as? shape := by
  match shape with
  | .text =>
    cases h with
    | @text start q =>
      show (orFault q.text >>= _).toOption = q.text.toOption
      cases q.text <;> rfl
    | null | flag | number | array | object => rfl
  | .flag =>
    cases h with
    | null | flag | number | text | array | object => rfl
  | .count typeName => exact Node.count_holds h typeName
  | .timestamp => exact Node.timestamp_holds h depth
  | .word choices => cases hp
  | .optional inner =>
    have hinner := ofNode_holds inner hp hl h
    cases h with
    | null => rfl
    | flag | number | text | array | object =>
      exact (toOption_map some _).trans (congrArg (some <$> ·) hinner)
  | .object typeName fields =>
    rw [Shape.levels] at hl
    rw [Shape.isPlain, Bool.and_eq_true] at hp
    have hd : ¬ depth ≤ 1 := by omega
    cases h with
    | null | flag | number | text => rfl
    | array h =>
      rw [ofNode_array hd]
      exact ofItems_holds typeName fields.length 0 fields hp.2 (by omega) h
    | @object _ members ms _ h =>
      rw [ofNode_object hd, complete, fold_holds hp.2 (fun name ahead node d rest state =>
        putMember_holds fields hp.2 (by omega) name ahead state) members fields.none h]
      exact apply_ite (Option.filter _) _ _ _

/-- So does a member. -/
theorem putMember_holds (fields : Fields) {depth : Nat} {node : Node} {d : Doc} {rest : List Char}
    (hp : fields.isPlain = true) (hl : fields.levels < depth) (name : String) (ahead : List Char)
    (state : fields.Carrier) (h : node.Holds d rest) :
    (putMember fields depth name ahead node state).map Except.toOption =
      put? fields name d state := by
  match fields, state with
  | .nil, () => rfl
  | .cons field shape more, (slot, others) =>
    rw [Fields.isPlain, Bool.and_eq_true, Bool.and_eq_true] at hp
    rw [Fields.levels] at hl
    by_cases hname : name ∈ field.names
    · rw [put?_of_mem hname]
      refine (congrArg (Option.map Except.toOption) (if_pos hname)).trans ?_
      cases slot with
      | some => rfl
      | none =>
        refine congrArg some ((toOption_map _ _).trans ?_)
        rw [ofNode_holds shape hp.1.1 (by omega) h]
    · rw [put?_of_not_mem hname, putMember_past hname,
        ← putMember_holds more hp.2 (show more.levels < depth by omega) name ahead others h]
      cases putMember more depth name ahead node others with
      | none => rfl
      | some next => exact congrArg some (toOption_map _ next)

/-- Elements give the members that they list. -/
theorem ofItems_holds (typeName : String) (count given : Nat) (fields : Fields) {depth : Nat}
    {items : Items} {ahead : List Char} {ds : List Doc} {rest : List Char}
    (hp : fields.isPlain = true) (hl : fields.levels < depth) (h : items.Holds ahead ds rest) :
    endsListed (ofItems typeName count given fields depth ahead items) =
      Doc.listed? fields ds := by
  match fields with
  | .nil =>
    show (fun _ => ()) <$> (endOfArray ahead).toOption = _
    rw [endOfArray_holds h]
    cases ds <;> rfl
  | .cons field shape more =>
    rw [Fields.isPlain, Bool.and_eq_true, Bool.and_eq_true] at hp
    rw [Fields.levels] at hl
    cases h with
    -- Where the array ends, the end stays in front of all fields that are left.
    | close hclose =>
      show endsListed (if _ then _ else _) = if _ then _ else _
      split
      · rfl
      · exact (endsListed_map _ _).trans <| congrArg _ <|
          ofItems_holds typeName count given more hp.2 (by omega) (.close hclose)
    | @item _ node d mid _ ds _ _ h hs =>
      have hnode := ofNode_holds shape hp.1.1 (show shape.levels < depth by omega) h
      show endsListed (ofNode shape depth node >>= _) = (d.as? shape).bind _
      rw [← hnode, h.whole.1]
      cases ofNode shape depth node with
      | error => rfl
      | ok v =>
        exact (endsListed_map _ _).trans <| congrArg _ <|
          ofItems_holds typeName count (given + 1) more hp.2 (by omega) hs

end

end Teller.Json
