import Teller.Proofs.Json.Declared

/-!
# What documents stand for is decoded

A document that stands for a value of a shape is decoded as that value from each of its texts. Of a
shape with words only this half is told by documents: a word may also be decoded from an object, of
which its document does not tell.

* `ofNode_of_as?`: a tree gives what its document stands for, if it stands for anything.
* `decode_of_as?`: so does a text.
-/

namespace Teller.Schema

mutual

/-- Shapes in which no name stands for two members of one object. -/
def Shape.apart : Shape → Bool
  | .optional inner => inner.apart
  | .object _ fields => fields.apart && fields.allApart
  | .text | .flag | .count _ | .timestamp | .word _ => true

/-- Members of such shapes. -/
def Fields.allApart : Fields → Bool
  | .nil => true
  | .cons _ shape rest => shape.apart && rest.allApart

end

end Teller.Schema

namespace Teller.Json

open Schema (Shape Fields Field)

variable {node : Node} {d : Doc} {rest : List Char} {depth : Nat}

/-- Where no field knows a name, nothing is taken. -/
theorem putMember_of_put?_none {fields : Fields} {name : String} {ahead : List Char}
    {state : fields.Carrier} (h : put? fields name d state = none) :
    putMember fields depth name ahead node state = none := by
  match fields, state with
  | .nil, () => rfl
  | .cons field shape more, (slot, others) =>
    by_cases hname : name ∈ field.names
    · rw [put?_of_mem hname] at h
      cases h
    · rw [put?_of_not_mem hname] at h
      rw [putMember_past hname, putMember_of_put?_none (Option.map_eq_none_iff.1 h)]
      rfl

/-- Members are taken one by one where each of them is. -/
theorem fold_of_given? {fields : Fields} (hp : fields.apart = true)
    (hput : ∀ name ahead node d rest (state next : fields.Carrier), Node.Holds node d rest →
      put? fields name d state = some (some next) →
      putMember fields depth name ahead node state = some (.ok next))
    (members : Members) {ms : List (Option String × Doc)} {state c : fields.Carrier}
    (h : members.Holds ms rest) (hnames : ms.all (·.1.isSome) = true)
    (hc : Doc.given? fields state ms = some c) :
    ∃ r, members.fold (putMember fields depth) state = .ok (c, r) := by
  cases members with
  | close r =>
    cases h
    rw [given?_nil] at hc
    cases hc
    exact ⟨_, rfl⟩
  | broken => cases h
  | member name node more =>
    cases h with
    | @member _ _ _ d _ _ ms _ hn h hs =>
      rw [List.all_cons, Bool.and_eq_true] at hnames
      cases hname : name.text with
      | error =>
        rw [hname] at hnames
        exact absurd hnames.1 Bool.false_ne_true
      | ok k =>
        rw [hname] at hc
        replace hc : Doc.given? fields state ((some k, d) :: ms) = some c := hc
        rw [given?_cons hp] at hc
        cases hstep : put? fields k d state with
        | none =>
          -- The member is passed over, so its tree has to be read to its end only.
          rw [hstep] at hc
          obtain ⟨r, hr⟩ := fold_of_given? hp hput more hs hnames.2 hc
          exact ⟨r, (Members.fold_member hname).2
            (.inr ⟨putMember_of_put?_none hstep, h.whole.2, hr⟩)⟩
        | some next =>
          rw [hstep] at hc
          obtain ⟨next, rfl, hc⟩ := Option.bind_eq_some_iff.1 hc
          obtain ⟨r, hr⟩ := fold_of_given? hp hput more hs hnames.2 hc
          exact ⟨r, (Members.fold_member hname).2 (.inl ⟨next, hput _ _ _ _ _ _ _ h hstep, hr⟩)⟩

/-- So an object is, if nothing is missing. -/
theorem ofNode_object_of_as? {typeName : String} {fields : Fields} {start : List Char}
    {members : Members} {ms : List (Option String × Doc)} {c : fields.Carrier}
    (hp : fields.apart = true) (hd : ¬ depth ≤ 1)
    (hput : ∀ name ahead node d rest (state next : fields.Carrier), Node.Holds node d rest →
      put? fields name d state = some (some next) →
      putMember fields (depth - 1) name ahead node state = some (.ok next))
    (h : members.Holds ms rest) (hc : (Doc.object ms).as? (.object typeName fields) = some c) :
    ofNode (.object typeName fields) depth (.object start members) = .ok c := by
  obtain ⟨hnames, hc⟩ := Option.ite_none_right_eq_some.1 hc
  obtain ⟨hgiven, hmissing⟩ := Option.filter_eq_some_iff.1 hc
  obtain ⟨r, hfold⟩ := fold_of_given? hp hput members h hnames hgiven
  refine ok_of_toOption ?_
  rw [ofNode_object hd, complete, hfold]
  exact Option.filter_eq_some_iff.2 ⟨rfl, hmissing⟩

/-- An array is read as an object if its elements are and it ends behind them. -/
theorem ofNode_array_of_ofItems {typeName : String} {fields : Fields} {c : Char}
    {ahead after : List Char} {items : Items} {v : fields.Carrier} (hd : ¬ depth ≤ 1)
    (hitems : ofItems typeName fields.length 0 fields (depth - 1) ahead items = .ok (v, after))
    (hend : endOfArray after = .ok ()) :
    ofNode (.object typeName fields) depth (.array (c :: ahead) items) = .ok v := by
  refine ok_of_toOption ?_
  rw [ofNode_array hd, List.tail_cons, hitems]
  show (fun _ => v) <$> (endOfArray after).toOption = some v
  rw [hend]
  rfl

mutual

/-- **A tree gives what its document stands for**, if it stands for anything. -/
theorem ofNode_of_as? (shape : Shape) {depth : Nat} {node : Node} {d : Doc} {rest : List Char}
    {c : shape.Carrier} (hp : shape.apart = true) (hl : shape.levels < depth)
    (h : node.Holds d rest) (hc : d.as? shape = some c) : ofNode shape depth node = .ok c := by
  match shape with
  | .text => exact ok_of_toOption ((ofNode_holds .text rfl hl h).trans hc)
  | .flag => exact ok_of_toOption ((ofNode_holds .flag rfl hl h).trans hc)
  | .count typeName => exact ok_of_toOption ((ofNode_holds (.count typeName) rfl hl h).trans hc)
  | .timestamp => exact ok_of_toOption ((ofNode_holds .timestamp rfl hl h).trans hc)
  | .word choices =>
    cases h with
    | @text start q =>
      obtain ⟨s, hs, hpick⟩ := Option.bind_eq_some_iff.1 hc
      exact @Node.textAs_text _ "" s _ c start q (ok_of_toOption hs) (pickWord_of_index hpick)
    | _ => cases hc
  | .optional inner =>
    have hinner : ∀ v, d.as? inner = some v → ofNode inner depth node = .ok v :=
      fun v hv => ofNode_of_as? inner hp hl h hv
    cases h with
    | null =>
      cases hc
      rfl
    | flag | number | text | array | object =>
      obtain ⟨v, hv, rfl⟩ := Option.map_eq_some_iff.1 hc
      exact congrArg (some <$> ·) (hinner v hv)
  | .object typeName fields =>
    rw [Shape.levels] at hl
    rw [Shape.apart, Bool.and_eq_true] at hp
    have hd : ¬ depth ≤ 1 := by omega
    have hinner : fields.levels < depth - 1 := by omega
    cases h with
    | null | flag | number | text => cases hc
    | array h =>
      obtain ⟨after, hend, hitems⟩ :=
        ofItems_of_listed? typeName fields.length 0 fields hp.2 hinner h hc
      exact ofNode_array_of_ofItems hd hitems hend
    | object h =>
      refine ofNode_object_of_as? hp.1 hd ?_ h hc
      intro name ahead _ _ _ _ _ hnode hput
      exact putMember_of_put? fields hp.2 hinner name ahead hnode hput

/-- So does a member. -/
theorem putMember_of_put? (fields : Fields) {depth : Nat} {node : Node} {d : Doc} {rest : List Char}
    (hp : fields.allApart = true) (hl : fields.levels < depth) (name : String) (ahead : List Char)
    {state next : fields.Carrier} (h : node.Holds d rest)
    (hput : put? fields name d state = some (some next)) :
    putMember fields depth name ahead node state = some (.ok next) := by
  match fields, state with
  | .nil, () => cases hput
  | .cons field shape more, (slot, others) =>
    rw [Fields.allApart, Bool.and_eq_true] at hp
    rw [Fields.levels] at hl
    by_cases hname : name ∈ field.names
    · rw [put?_of_mem hname] at hput
      cases slot with
      | some => cases hput
      | none =>
        obtain ⟨v, hv, rfl⟩ := Option.map_eq_some_iff.1 (Option.some.inj hput)
        have hnode := ofNode_of_as? shape hp.1 (show shape.levels < depth by omega) h hv
        refine (if_pos hname).trans ?_
        dsimp only
        rw [hnode]
        rfl
    · rw [put?_of_not_mem hname] at hput
      obtain ⟨inner, hinner, heq⟩ := Option.map_eq_some_iff.1 hput
      obtain ⟨others', rfl, rfl⟩ := Option.map_eq_some_iff.1 heq
      rw [putMember_past hname,
        putMember_of_put? more hp.2 (show more.levels < depth by omega) name ahead h hinner]
      rfl

/-- Elements give the members that they list. -/
theorem ofItems_of_listed? (typeName : String) (count given : Nat) (fields : Fields) {depth : Nat}
    {items : Items} {ahead : List Char} {ds : List Doc} {rest : List Char} {c : fields.Carrier}
    (hp : fields.allApart = true) (hl : fields.levels < depth) (h : items.Holds ahead ds rest)
    (hc : Doc.listed? fields ds = some c) : ∃ after, endOfArray after = .ok () ∧
      ofItems typeName count given fields depth ahead items = .ok (c, after) := by
  match fields with
  | .nil =>
    obtain ⟨hempty, -⟩ := Option.ite_none_right_eq_some.1 hc
    refine ⟨ahead, ok_of_toOption ?_, rfl⟩
    rw [endOfArray_holds h, if_pos hempty]
  | .cons field shape more =>
    rw [Fields.allApart, Bool.and_eq_true] at hp
    rw [Fields.levels] at hl
    cases h with
    | @close _ r hclose =>
      obtain ⟨hrequired, hc⟩ := Option.ite_none_left_eq_some.1 hc
      obtain ⟨others, hothers, rfl⟩ := Option.map_eq_some_iff.1 hc
      obtain ⟨after, hend, hitems⟩ :=
        ofItems_of_listed? typeName count given more hp.2 (show more.levels < depth by omega)
          (.close hclose) hothers
      refine ⟨after, hend, (if_neg hrequired).trans ?_⟩
      rw [hitems]
      rfl
    | @item _ node d mid _ ds _ _ h hs =>
      obtain ⟨v, hv, hc⟩ := Option.bind_eq_some_iff.1 hc
      obtain ⟨others, hothers, rfl⟩ := Option.map_eq_some_iff.1 hc
      have hnode := ofNode_of_as? shape hp.1 (show shape.levels < depth by omega) h hv
      obtain ⟨after, hend, hitems⟩ :=
        ofItems_of_listed? typeName count (given + 1) more hp.2 (show more.levels < depth by omega)
          hs hothers
      refine ⟨after, hend, ?_⟩
      show (ofNode shape depth node >>= _) = _
      rw [hnode, h.whole.1]
      exact congrArg ((fun p => ((some v, p.1), p.2)) <$> ·) hitems

end

/-- **A text gives what its document stands for**, if it stands for anything. -/
theorem decode_of_as? {shape : Shape} {text : String} {c : shape.Carrier}
    (hp : shape.apart = true) (hl : shape.levels < depthLimit) (h : IsText d text)
    (hc : d.as? shape = some c) : decode shape text = .ok c := by
  obtain ⟨_, -, hholds⟩ := h.holds
  exact h.decodeAs_iff.2 (ofNode_of_as? shape hp hl hholds hc)

/-! ## Members that may not be there -/

/-- An object. -/
def Doc.IsObject (d : Doc) : Prop := ∃ ms, d = .object ms

instance (d : Doc) : Decidable d.IsObject :=
  match d with
  | .object ms => isTrue ⟨ms, rfl⟩
  | .null | .flag _ | .number _ | .text _ | .array _ => isFalse nofun

theorem as?_object_of_whole? {typeName : String} {fields : Fields} {c : fields.Carrier}
    {ms : List (Option String × Doc)} (hnames : ∀ m ∈ ms, m.1 ≠ none)
    (h : Doc.whole? fields ms = some c) :
    (Doc.object ms).as? (.object typeName fields) = some c := by
  have hall : ms.all (·.1.isSome) = true :=
    List.all_eq_true.2 fun m hm => Option.isSome_iff_ne_none.2 (hnames m hm)
  exact (if_pos hall).trans h

/-- A slot takes the only document, if there is one. -/
theorem slot?_of_head? {α : Type} {read : Doc → Option α} {ds : List Doc} {slot : Option α}
    (hone : ds.length ≤ 1) (h : ds.head?.map read = slot.map some) :
    Doc.slot? read none ds = some slot := by
  match ds with
  | [] =>
    rw [Option.map_eq_none_iff.1 h.symm]
    rfl
  | [d] =>
    obtain ⟨v, rfl, hv⟩ := Option.map_eq_some_iff.1 h.symm
    show some <$> read d = _
    rw [← hv]
    rfl
  | _ :: _ :: _ => exact absurd hone (by simp)

/-- Where an object may stand, what its members are decoded as; without it there are none. -/
theorem exists_slot_of_whole? (typeName : String) {fields : Fields} {c : fields.Carrier}
    {ds : List Doc} (hone : ds.length ≤ 1) (hobject : ∀ d ∈ ds, d.IsObject)
    (hnames : ∀ m ∈ ds.flatMap Doc.members, m.1 ≠ none)
    (h : Doc.whole? fields (ds.flatMap Doc.members) = some c) :
    ∃ slot, Doc.slot? (Doc.as? (.object typeName fields)) none ds = some slot ∧
      slot.getD fields.none = c := by
  match ds with
  | [] =>
    refine ⟨none, rfl, ?_⟩
    have hgiven := (Doc.whole?_eq_some_iff.1 h).1
    rw [List.flatMap_nil, given?_nil] at hgiven
    exact Option.some.inj hgiven
  | [d] =>
    obtain ⟨ms, rfl⟩ := hobject d List.mem_cons_self
    rw [List.flatMap_singleton] at hnames h
    refine ⟨some c, slot?_of_head? hone (congrArg some ?_), rfl⟩
    exact as?_object_of_whole? hnames h
  | _ :: _ :: _ => exact absurd hone (by simp)

end Teller.Json
