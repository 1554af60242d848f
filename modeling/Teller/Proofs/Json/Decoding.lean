import Teller.Proofs.Json.Meaning

/-!
# What texts are decoded as

A value is decoded only if it could be passed over, so only from a text of a document. With the
value of that document this says what every text is decoded as.

* `Node.Stems`: the trees that readers give.
* `skip_of_ofNode`: what is decoded could be passed over.
* `decode_of_isText`, `decode_iff`: what a text is decoded as.
-/

namespace Teller.Json

open Schema (Shape Fields)

/-! ## Tokens -/

theorem ok_of_toOption {ε α : Type} {x : Except ε α} {a : α} (h : x.toOption = some a) :
    x = .ok a := by
  cases x with
  | ok => exact congrArg Except.ok (Option.some.inj h)
  | error => cases h

theorem ok_of_orFault {α : Type} {x : Except Fault α} {a : α} (h : orFault x = .ok a) :
    x = .ok a := by
  cases x with
  | ok => exact congrArg Except.ok (Except.ok.inj h)
  | error => cases h

/-- A string that breaks off stands for no text. -/
theorem decodePieces_ne_ok (gap : Gap) (ps : List Piece) (cs : List Char) :
    decodePieces (.error gap) ps ≠ .ok cs := by
  intro h
  fun_induction decodePieces (.error gap) ps generalizing cs with
  | case1 _ hgap => cases hgap
  | case2 | case4 | case6 | case7 => cases h
  | case3 _ _ ih | case5 _ _ _ _ _ _ _ _ ih | case8 _ _ _ _ _ ih =>
    obtain ⟨cs, h, -⟩ := ok_of_map h
    exact ih cs h

/-- A string that is read as a text could be passed over. -/
theorem Quoted.skip_of_text {q : Quoted} {s : String} (h : q.text = .ok s) : q.skip = .ok () := by
  obtain ⟨cs, h, -⟩ := ok_of_map h
  rw [Quoted.skip]
  cases hending : q.ending with
  | ok => rfl
  | error gap =>
    rw [hending] at h
    exact absurd h (decodePieces_ne_ok gap q.pieces cs)

/-- So could a number. -/
theorem Node.skip_of_decode {start : List Char} {n : Numeral} {x : Number} (h : n.decode = .ok x) :
    (Node.number start n).skip = .ok () := by
  rw [Numeral.decode] at h
  rw [Node.skip]
  cases hending : n.ending with
  | ok => rfl
  | error gap =>
    rw [hending] at h
    cases h

/-! ## Trees -/

/-- **A tree that a reader gives**, or one in place of a value that is not there. -/
inductive Node.Stems : Node → Prop
  | read (fuel : Nat) (s : List Char) : (readNode fuel s).Stems
  | broken (start : List Char) (gap : Gap) : (Node.broken start gap).Stems

/-- The end of an array is read as such. -/
theorem readItems_of_endOfArray {fuel : Nat} {first : Bool} {s : List Char}
    (h : endOfArray s = .ok ()) : (readItems (fuel + 1) first s).skip = .ok () := by
  rw [endOfArray] at h
  rw [readItems]
  split at h
  · cases h
  · rename_i hs
    rw [hs]
    rfl
  · split at h <;> cases h
  · cases h

/-- Members of which each could be passed over, could be passed over. -/
theorem skip_of_fold {σ : Type}
    {put : String → List Char → Node → σ → Option (Except Trouble σ)}
    (hput : ∀ name ahead node state next, node.Stems →
      put name ahead node state = some (.ok next) → node.skip = .ok ())
    (fuel : Nat) {first : Bool} {s : List Char} {state : σ} {r : σ × List Char}
    (h : (readMembers fuel first s).fold put state = .ok r) :
    (readMembers fuel first s).skip = .ok () := by
  cases fuel with
  | zero => cases h
  | succ fuel =>
    have hstep := readMembers_succ fuel first s
    generalize readMembers (fuel + 1) first s = members at h hstep ⊢
    cases hstep with
    | close => rfl
    | broken => cases h
    | @member lead t colon s' more hs hl hc ht hmore =>
      obtain ⟨k, hk, -⟩ := ok_of_bind h
      have hk := ok_of_orFault hk
      have hnode : (readNode fuel s').skip = .ok () := by
        rcases (Members.fold_member hk).1 h with ⟨next, hnext, -⟩ | ⟨-, hskip, -⟩
        · exact hput _ _ _ _ _ (.read fuel s') hnext
        · exact hskip
      -- What could be passed over has an end, and behind that the tree goes on.
      obtain ⟨gap, d, cs, mid, -, -, -, hholds⟩ := readNode_exists fuel hnode
      cases hmore mid hholds.whole.1
      rw [Members.skip, Quoted.skip_of_text hk, hnode]
      rcases (Members.fold_member hk).1 h with ⟨next, -, hrest⟩ | ⟨-, -, hrest⟩
      · exact skip_of_fold hput fuel hrest
      · exact skip_of_fold hput fuel hrest
    | cut =>
      obtain ⟨k, hk, -⟩ := ok_of_bind h
      rcases (Members.fold_member (ok_of_orFault hk)).1 h with ⟨next, hnext, -⟩ | ⟨-, hskip, -⟩
      · cases hput _ _ _ _ _ (.broken _ _) hnext
      · cases hskip

mutual

/-- **What is decoded could be passed over.** -/
theorem skip_of_ofNode (shape : Shape) {depth : Nat} {node : Node} {c : shape.Carrier}
    (hp : shape.isPlain = true) (hn : node.Stems) (h : ofNode shape depth node = .ok c) :
    node.skip = .ok () := by
  match shape with
  | .text =>
    cases node with
    | text start q =>
      obtain ⟨s, hs, -⟩ := ok_of_bind h
      exact Quoted.skip_of_text (ok_of_orFault hs)
    | _ => cases h
  | .flag =>
    cases node with
    | bool => rfl
    | _ => cases h
  | .count _ =>
    cases node with
    | number start n =>
      obtain ⟨x, hx, -⟩ := ok_of_bind h
      exact Node.skip_of_decode (ok_of_orFault hx)
    | _ => cases h
  | .timestamp =>
    obtain ⟨v, hv, h⟩ := ok_of_bind h
    have hfor := Node.isFor_of_value (ok_of_orFault hv)
    cases v with
    | number x =>
      obtain ⟨start, n, rfl, hx⟩ := hfor
      exact Node.skip_of_decode hx
    | text s =>
      obtain ⟨start, q, rfl, hq⟩ := hfor
      exact Quoted.skip_of_text hq
    | _ => cases h
  | .word _ => cases hp
  | .optional inner =>
    cases node with
    | null => rfl
    | _ =>
      obtain ⟨c, h, -⟩ := ok_of_map h
      exact skip_of_ofNode inner hp hn h
  | .object typeName fields =>
    rw [Shape.isPlain, Bool.and_eq_true, decide_eq_true_eq] at hp
    cases hn with
    | broken start gap => cases h
    | read fuel s =>
      cases fuel with
      | zero => cases h
      | succ fuel =>
        have hstep := readNode_succ fuel s
        generalize readNode (fuel + 1) s = node at h hstep ⊢
        cases hstep with
        | null | yes | no | number | text | broken => cases h
        | @array r hs =>
          by_cases hd : depth ≤ 1
          · cases (if_pos hd).symm.trans h
          have hends := (ofNode_array hd).symm.trans (congrArg Except.toOption h)
          obtain ⟨p, hitems, hend⟩ := Option.bind_eq_some_iff.1 hends
          obtain ⟨_, hend, -⟩ := Option.map_eq_some_iff.1 hend
          exact skip_of_ofItems typeName fields.length 0 fields hp.2
            (fun h => absurd hp.1 (by omega)) (ok_of_toOption hitems) (ok_of_toOption hend)
        | @object r hs =>
          by_cases hd : depth ≤ 1
          · cases (if_pos hd).symm.trans h
          have hall := (ofNode_object hd).symm.trans (congrArg Except.toOption h)
          obtain ⟨p, hfold, -⟩ := Option.map_eq_some_iff.1 (Option.filter_eq_some_iff.1 hall).1
          exact skip_of_fold (fun _ _ _ _ _ => skip_of_putMember fields hp.2) fuel
            (ok_of_toOption hfold)

theorem skip_of_putMember (fields : Fields) {depth : Nat} {node : Node} {name : String}
    {ahead : List Char} {state next : fields.Carrier} (hp : fields.isPlain = true)
    (hn : node.Stems) (h : putMember fields depth name ahead node state = some (.ok next)) :
    node.skip = .ok () := by
  match fields, state with
  | .nil, () => cases h
  | .cons field shape rest, (slot, others) =>
    rw [Fields.isPlain, Bool.and_eq_true, Bool.and_eq_true] at hp
    by_cases hname : name ∈ field.names
    · have h := (if_pos hname).symm.trans h
      cases slot with
      | some => cases h
      | none =>
        obtain ⟨c, hc, -⟩ := ok_of_map (Option.some.inj h)
        exact skip_of_ofNode shape hp.1.1 hn hc
    · rw [putMember_past hname] at h
      obtain ⟨r, hr, h⟩ := Option.map_eq_some_iff.1 h
      obtain ⟨next, rfl, -⟩ := ok_of_map h
      exact skip_of_putMember rest hp.2 hn hr

theorem skip_of_ofItems (typeName : String) (count given : Nat) (fields : Fields)
    {depth fuel : Nat} {first : Bool} {s ahead : List Char} {c : fields.Carrier}
    (hp : fields.isPlain = true) (hf : fields.length = 0 → 0 < fuel)
    (h : ofItems typeName count given fields depth s (readItems fuel first s) = .ok (c, ahead))
    (hend : endOfArray ahead = .ok ()) : (readItems fuel first s).skip = .ok () := by
  match fields with
  | .nil =>
    obtain ⟨fuel, rfl⟩ := Nat.exists_eq_add_of_lt (hf rfl)
    cases h
    rw [Nat.zero_add]
    exact readItems_of_endOfArray hend
  | .cons field shape rest =>
    rw [Fields.isPlain, Bool.and_eq_true, Bool.and_eq_true] at hp
    cases fuel with
    | zero => cases h
    | succ fuel =>
      have hstep := readItems_succ fuel first s
      generalize readItems (fuel + 1) first s = items at h hstep ⊢
      cases hstep with
      | close => rfl
      | broken => cases h
      | @item lead s' more hs hl hopen hmore =>
        obtain ⟨v, hv, h⟩ := ok_of_bind h
        obtain ⟨p, hp', heq⟩ := ok_of_map h
        have hnode := skip_of_ofNode shape hp.1.1 (.read fuel s') hv
        obtain ⟨gap, d, cs, mid, -, -, -, hholds⟩ := readNode_exists fuel hnode
        cases hmore mid hholds.whole.1
        rw [hholds.whole.1] at hp'
        cases heq
        rw [Items.skip, hnode]
        refine skip_of_ofItems typeName count (given + 1) rest hp.2 (fun _ => ?_) hp' hend
        -- Without fuel the element would be a gap.
        cases fuel with
        | zero => cases hnode
        | succ => exact Nat.succ_pos _

end

/-! ## Texts -/

/-- Of the text of a document, whatever reads its tree gives what it gives. -/
theorem IsText.decodeAs_iff {α : Type} {read : Node → Except Trouble α} {text : String} {d : Doc}
    {a : α} (h : IsText d text) :
    decodeAs read text = .ok a ↔ read (Node.read text.toList) = .ok a := by
  obtain ⟨gap, hg, hholds⟩ := h.holds
  have hrest : skipSpace ((Node.read text.toList).rest?.getD []) = [] := by
    rw [hholds.whole.1, Option.getD_some]
    have := skipSpace_append hg []
    rwa [List.append_nil] at this
  rw [decodeAs_eq_ok_iff]
  exact and_iff_left hrest

/-- A text that gives something is the text of a document, if its tree has no fault. -/
theorem exists_isText_of_decodeAs {α : Type} {read : Node → Except Trouble α} {text : String}
    {a : α} (h : decodeAs read text = .ok a)
    (hskip : (Node.read text.toList).skip = .ok ()) : ∃ d, IsText d text := by
  obtain ⟨-, hrest⟩ := decodeAs_eq_ok_iff.1 h
  obtain ⟨gap, d, cs, rest, hg, hcs, hs, hholds⟩ := readNode_exists _ hskip
  rw [Node.read, hholds.whole.1, Option.getD_some] at hrest
  have hend : Space rest := fun c hc => by
    obtain ⟨gap', hg', hgap'⟩ := exists_space_append rest
    rw [hrest, List.append_nil] at hgap'
    exact hg' c (hgap' ▸ hc)
  exact ⟨d, gap, cs, rest, hg, hcs, hend, hs⟩

/-- **A text gives what its document stands for.** -/
theorem decode_of_isText {shape : Shape} {text : String} {d : Doc} (hp : shape.isPlain = true)
    (hl : shape.levels < depthLimit) (h : IsText d text) :
    (decode shape text).toOption = d.as? shape := by
  obtain ⟨gap, -, hholds⟩ := h.holds
  rw [← ofNode_holds shape hp hl hholds]
  refine Option.ext fun c => ⟨fun hc => ?_, fun hc => ?_⟩
  · exact congrArg Except.toOption (h.decodeAs_iff.1 (ok_of_toOption hc))
  · exact congrArg Except.toOption (h.decodeAs_iff.2 (ok_of_toOption hc))

/-- **What a text is decoded as.** -/
theorem decode_iff {shape : Shape} {text : String} {c : shape.Carrier} (hp : shape.isPlain = true)
    (hl : shape.levels < depthLimit) :
    decode shape text = .ok c ↔ ∃ d, IsText d text ∧ d.as? shape = some c := by
  constructor
  · intro h
    have hof := (decodeAs_eq_ok_iff.1 h).1
    obtain ⟨d, hd⟩ := exists_isText_of_decodeAs h (skip_of_ofNode shape hp (.read _ _) hof)
    exact ⟨d, hd, (decode_of_isText hp hl hd).symm.trans (congrArg Except.toOption h)⟩
  · rintro ⟨d, hd, hc⟩
    exact ok_of_toOption ((decode_of_isText hp hl hd).trans hc)

end Teller.Json
