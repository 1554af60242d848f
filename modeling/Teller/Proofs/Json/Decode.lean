import Teller.Json.Decode
import Teller.Proofs.Json.Spelling

/-!
# Values that stand for data

What is written as a JSON value can be read again by its shape. There is one rule for each shape; an
object takes one for each of its members. With them the written form of a whole document stands for
that document, and so does every text of it.

* `StandsFor`: a value stands for data of a shape; `MembersStandFor`: members stand for those of an
  object.
* `StandsFor.text` and its like: the shapes; `MembersStandFor.cons`: one more member in front.
* `StandsFor.decode`: every text of a value is decoded as what the value stands for.
-/

namespace Teller.Schema

/-- The names under which members are written. -/
def Fields.keys : Fields → List String
  | .nil => []
  | .cons field _ rest => field.name :: rest.keys

/-- Whether no name under which a member is written stands for one in front of it. -/
def Fields.distinct : Fields → Bool
  | .nil => true
  | .cons field _ rest => rest.keys.all (· ∉ field.names) && rest.distinct

end Teller.Schema

namespace Teller.Json

open Schema (Shape Fields Field Timestamp)

/-- **A value stands for data of a shape**: a tree that gives the one is decoded as the other. So
many levels of nesting must be left. -/
structure StandsFor (levels : Nat) (shape : Shape) (c : shape.Carrier) (v : Value) : Prop where
  fits : v.Fits levels
  decodes : ∀ node depth, node.value depth = .ok v → ofNode shape depth node = .ok c

/-- Members that are all given and stand for those of an object, in their order. -/
structure MembersStandFor (levels : Nat) (fields : Fields) (c : fields.Carrier)
    (ms : List (String × Value)) : Prop where
  fit : MembersFit levels ms
  keys : ms.map Prod.fst = fields.keys
  complete : fields.missing? c = none
  fold : fields.distinct = true → ∀ (members : Members) depth, members.values depth = .ok ms →
    ∃ rest, members.fold (putMember fields depth) fields.none = .ok (c, rest)

/-! ## Trees by their values -/

theorem ok_of_map {ε α β : Type} {g : α → β} {x : Except ε α} {b : β} (h : g <$> x = .ok b) :
    ∃ a, x = .ok a ∧ g a = b := by
  cases x with
  | error e => cases h
  | ok a =>
    cases h
    exact ⟨a, rfl, rfl⟩

theorem ok_of_bind {ε α β : Type} {g : α → Except ε β} {x : Except ε α} {b : β}
    (h : x >>= g = .ok b) : ∃ a, x = .ok a ∧ g a = .ok b := by
  cases x with
  | error e => cases h
  | ok a => exact ⟨a, rfl, h⟩

/-- What a tree is that gives a value, by the kind of the value. -/
def Node.IsFor (depth : Nat) (node : Node) : Value → Prop
  | .null => ∃ start rest, node = .null start rest
  | .bool b => ∃ start rest, node = .bool start b rest
  | .number x => ∃ start n, node = .number start n ∧ n.decode = .ok x
  | .text s => ∃ start q, node = .text start q ∧ q.text = .ok s
  | .array vs => ∃ start items, node = .array start items ∧ ¬ depth ≤ 1 ∧
      items.values (depth - 1) = .ok vs
  | .object ms => ∃ start members, node = .object start members ∧ ¬ depth ≤ 1 ∧
      members.values (depth - 1) = .ok ms

theorem Node.isFor_of_value {node : Node} {depth : Nat} {v : Value}
    (h : node.value depth = .ok v) : node.IsFor depth v := by
  cases node with
  | null start rest =>
    cases h
    exact ⟨start, rest, rfl⟩
  | bool start b rest =>
    cases h
    exact ⟨start, rest, rfl⟩
  | number start n =>
    obtain ⟨x, hx, rfl⟩ := ok_of_map h
    exact ⟨start, n, rfl, hx⟩
  | text start q =>
    obtain ⟨s, hs, rfl⟩ := ok_of_map h
    exact ⟨start, q, rfl, hs⟩
  | array start items =>
    rw [Node.value] at h
    split at h
    · cases h
    · rename_i hd
      obtain ⟨vs, hvs, rfl⟩ := ok_of_map h
      exact ⟨start, items, rfl, hd, hvs⟩
  | object start members =>
    rw [Node.value] at h
    split at h
    · cases h
    · rename_i hd
      obtain ⟨ms, hms, rfl⟩ := ok_of_map h
      exact ⟨start, members, rfl, hd, hms⟩
  | broken start gap => cases h

theorem Members.eq_of_values_nil {members : Members} {depth : Nat}
    (h : members.values depth = .ok []) : ∃ rest, members = .close rest := by
  cases members with
  | close rest => exact ⟨rest, rfl⟩
  | member name node more =>
    obtain ⟨k, -, h⟩ := ok_of_bind h
    obtain ⟨v, -, h⟩ := ok_of_bind h
    obtain ⟨ms, -, h⟩ := ok_of_bind h
    cases h
  | broken gap => cases h

theorem Members.eq_of_values_cons {members : Members} {depth : Nat} {k : String} {v : Value}
    {ms : List (String × Value)} (h : members.values depth = .ok ((k, v) :: ms)) :
    ∃ name node more, members = .member name node more ∧ name.text = .ok k ∧
      node.value depth = .ok v ∧ more.values depth = .ok ms := by
  cases members with
  | close rest => cases h
  | member name node more =>
    obtain ⟨k', hk, h⟩ := ok_of_bind h
    obtain ⟨v', hv, h⟩ := ok_of_bind h
    obtain ⟨ms', hms, h⟩ := ok_of_bind h
    cases h
    exact ⟨name, node, more, rfl, hk, hv, hms⟩
  | broken gap => cases h

/-! ## What the readers give -/

theorem Node.textAs_text {α : Type} {wanted s : String} {read : String → Except Schema.Mismatch α}
    {a : α} {start : List Char} {q : Quoted} (hq : q.text = .ok s) (ha : read s = .ok a) :
    Node.textAs wanted read (.text start q) = .ok a := by
  rw [Node.textAs, hq]
  simp only [orFault, bind, Except.bind, ha]

theorem Node.count_number {wanted : String} {start : List Char} {m : Numeral} {n : UInt64}
    (hm : m.decode = .ok (.integer n.toNat)) : Node.count wanted (.number start m) = .ok n := by
  rw [Node.count, hm]
  simp only [orFault, bind, Except.bind, Int.natCast_nonneg, if_true, Int.toNat_natCast,
    UInt64.ofNat_toNat]

theorem Node.timestamp_millis {node : Node} {depth : Nat} {n : Int64}
    (h : node.value depth = .ok (.number (.integer n.toInt))) :
    node.timestamp depth = .ok (.millis n) := by
  rw [Node.timestamp, h]
  show (if Int64.minValue.toInt ≤ n.toInt ∧ n.toInt ≤ Int64.maxValue.toInt then
    Except.ok (Timestamp.millis (Int64.ofInt n.toInt)) else _) = _
  rw [if_pos ⟨n.minValue_le_toInt, n.toInt_le⟩, Int64.ofInt_toInt]

theorem Node.timestamp_text {node : Node} {depth : Nat} {s : String}
    (h : node.value depth = .ok (.text s)) : node.timestamp depth = .ok (.text s) := by
  rw [Node.timestamp, h]
  rfl

theorem pickWord_of_index {choices : List String} {s : String} {i : Fin choices.length}
    (h : choices.finIdxOf? s = some i) : pickWord choices s = .ok i := by
  rw [pickWord, h]

theorem ofNode_optional_some {shape : Shape} {node : Node} {depth : Nat} {c : shape.Carrier}
    (hn : ∀ start rest, node ≠ .null start rest) (h : ofNode shape depth node = .ok c) :
    ofNode (.optional shape) depth node = .ok (some c) := by
  rw [ofNode, h]
  · rfl
  · exact hn

/-! ## Single values -/

variable {levels : Nat}

namespace StandsFor

theorem text (s : String) : StandsFor levels .text s (.text s) := by
  refine ⟨trivial, fun node depth h => ?_⟩
  obtain ⟨start, q, rfl, hq⟩ := Node.isFor_of_value h
  exact Node.textAs_text hq rfl

theorem flag (b : Bool) : StandsFor levels .flag b (.bool b) := by
  refine ⟨trivial, fun node depth h => ?_⟩
  obtain ⟨start, rest, rfl⟩ := Node.isFor_of_value h
  rfl

theorem count (typeName : String) (n : UInt64) :
    StandsFor levels (.count typeName) n (.number (.integer n.toNat)) := by
  refine ⟨⟨by omega, Int.ofNat_lt.2 n.toNat_lt⟩, fun node depth h => ?_⟩
  obtain ⟨start, m, rfl, hm⟩ := Node.isFor_of_value h
  exact Node.count_number hm

theorem millis (n : Int64) :
    StandsFor levels .timestamp (.millis n) (.number (.integer n.toInt)) := by
  have hlow := n.le_toInt
  have hhigh := n.toInt_lt
  exact ⟨⟨by omega, by omega⟩, fun node depth h => Node.timestamp_millis h⟩

theorem textTimestamp (s : String) : StandsFor levels .timestamp (.text s) (.text s) :=
  ⟨trivial, fun _ _ h => Node.timestamp_text h⟩

theorem word {choices : List String} {s : String} {i : Fin choices.length}
    (hs : choices.finIdxOf? s = some i) : StandsFor levels (.word choices) i (.text s) := by
  refine ⟨trivial, fun node depth h => ?_⟩
  obtain ⟨start, q, rfl, hq⟩ := Node.isFor_of_value h
  exact @Node.textAs_text _ "" s _ i start q hq (pickWord_of_index hs)

/-- What may be unset. What is set must not be written as null. -/
theorem orNull {shape : Shape} {α : Type} {members : α → shape.Carrier} {write : α → Value}
    (h : ∀ a, StandsFor levels shape (members a) (write a)) (hw : ∀ a, write a ≠ .null)
    (o : Option α) : StandsFor levels (.optional shape) (o.map members) (Json.orNull write o) := by
  cases o with
  | none =>
    refine ⟨trivial, fun node depth hn => ?_⟩
    obtain ⟨start, rest, rfl⟩ := Node.isFor_of_value hn
    rfl
  | some a =>
    refine ⟨(h a).fits, fun node depth hn => ?_⟩
    refine ofNode_optional_some (fun start rest heq => ?_) ((h a).decodes node depth hn)
    rw [heq] at hn
    exact hw a (Except.ok.inj hn).symm

theorem orNull_self {shape : Shape} {write : shape.Carrier → Value}
    (h : ∀ c, StandsFor levels shape c (write c)) (hw : ∀ c, write c ≠ .null)
    (o : Option shape.Carrier) : StandsFor levels (.optional shape) o (Json.orNull write o) := by
  have ho := orNull h hw o
  rwa [Option.map_id'] at ho

theorem unsetText (o : Option String) :
    StandsFor levels (.optional .text) o (Json.orNull .text o) :=
  @orNull_self _ .text _ text (fun _ => nofun) o

end StandsFor

/-! ## Objects -/

/-- A member is either taken or, where its name is not known, checked and left out. -/
theorem Members.fold_member {σ : Type}
    {put : String → List Char → Node → σ → Option (Except Trouble σ)} {name : Quoted} {node : Node}
    {more : Members} {k : String} {state : σ} {r : σ × List Char} (hk : name.text = .ok k) :
    (Members.member name node more).fold put state = .ok r ↔
      (∃ next, put k name.rest node state = some (.ok next) ∧ more.fold put next = .ok r) ∨
        (put k name.rest node state = none ∧ node.skip = .ok () ∧ more.fold put state = .ok r) := by
  simp only [Members.fold, hk, orFault, bind, Except.bind]
  split
  · rename_i next _
    cases next <;> simp [*]
  · cases hskip : node.skip <;> simp [*]

section

variable {field : Field} {shape : Shape} {rest : Fields} {depth : Nat} {others : rest.Carrier}

theorem putMember_here {name : String} {ahead : List Char} {node : Node} {v : shape.Carrier}
    (hname : name ∈ field.names) (hv : ofNode shape depth node = .ok v) :
    putMember (.cons field shape rest) depth name ahead node (none, others) =
      some (.ok (some v, others)) := by
  refine (if_pos hname).trans ?_
  show some ((fun v => (some v, others)) <$> ofNode shape depth node) = _
  rw [hv]
  rfl

theorem putMember_past {name : String} {ahead : List Char} {node : Node}
    {slot : Option shape.Carrier} (hname : name ∉ field.names) :
    putMember (.cons field shape rest) depth name ahead node (slot, others) =
      (putMember rest depth name ahead node others).map ((fun r => (slot, r)) <$> ·) :=
  if_neg hname

/-- Members that stand for none of the names of the first are taken as if it were not there. -/
theorem fold_putMember_past {slot : Option shape.Carrier} {taken : rest.Carrier}
    {after : List Char} {members : Members} {ms : List (String × Value)}
    (hms : members.values depth = .ok ms) (hk : ∀ k ∈ ms.map Prod.fst, k ∉ field.names)
    (h : members.fold (putMember rest depth) others = .ok (taken, after)) :
    members.fold (putMember (.cons field shape rest) depth) (slot, others) =
      .ok ((slot, taken), after) := by
  induction ms generalizing members others with
  | nil =>
    obtain ⟨r, rfl⟩ := Members.eq_of_values_nil hms
    cases h
    rfl
  | cons m ms ih =>
    obtain ⟨k, v⟩ := m
    obtain ⟨name, node, more, rfl, hname, -, hmore⟩ := Members.eq_of_values_cons hms
    rw [List.map_cons, List.forall_mem_cons] at hk
    -- With the field in front or without it, a member is taken by the same field behind it.
    refine (Members.fold_member hname).2 ?_
    rcases (Members.fold_member hname).1 h with ⟨next, hput, h⟩ | ⟨hput, hskip, h⟩
    · refine .inl ⟨(slot, next), ?_, ih hmore hk.2 h⟩
      rw [putMember_past hk.1, hput]
      rfl
    · refine .inr ⟨?_, hskip, ih hmore hk.2 h⟩
      rw [putMember_past hk.1, hput]
      rfl

end

namespace MembersStandFor

theorem nil : MembersStandFor levels .nil () [] := by
  refine ⟨trivial, rfl, rfl, fun _ members depth h => ?_⟩
  obtain ⟨rest, rfl⟩ := Members.eq_of_values_nil h
  exact ⟨rest, rfl⟩

/-- One more member in front. -/
theorem cons {field : Field} {shape : Shape} {rest : Fields} {c : shape.Carrier}
    {cs : rest.Carrier} {v : Value} {ms : List (String × Value)} (h : StandsFor levels shape c v)
    (hs : MembersStandFor levels rest cs ms) :
    MembersStandFor levels (.cons field shape rest) (some c, cs) ((field.name, v) :: ms) := by
  refine ⟨⟨h.fits, hs.fit⟩, ?_, ?_, fun hd members depth hm => ?_⟩
  · rw [List.map_cons, hs.keys, Fields.keys]
  · rw [Fields.missing?, Option.isNone_some, Bool.and_false, if_neg Bool.false_ne_true, hs.complete]
  · obtain ⟨name, node, more, rfl, hname, hv, hmore⟩ := Members.eq_of_values_cons hm
    obtain ⟨hnames, hrest⟩ := Bool.and_eq_true_iff.1 hd
    obtain ⟨after, hfold⟩ := hs.fold hrest more depth hmore
    -- The members behind this one are named by later fields, so none of them is this one again.
    have hk : ∀ k ∈ ms.map Prod.fst, k ∉ field.names := fun k h =>
      of_decide_eq_true (List.all_eq_true.1 hnames k (hs.keys ▸ h))
    exact ⟨after, (Members.fold_member hname).2 <|
      .inl ⟨_, putMember_here List.mem_cons_self (h.decodes node depth hv),
        fold_putMember_past hmore hk hfold⟩⟩

end MembersStandFor

/-- An object of which every member is given. -/
theorem StandsFor.object {typeName : String} {fields : Fields} {c : fields.Carrier}
    {ms : List (String × Value)} (hd : fields.distinct = true)
    (h : MembersStandFor levels fields c ms) :
    StandsFor (levels + 1) (.object typeName fields) c (.object ms) := by
  refine ⟨⟨Nat.succ_pos _, h.fit⟩, fun node depth hn => ?_⟩
  obtain ⟨start, members, rfl, hdepth, hms⟩ := Node.isFor_of_value hn
  obtain ⟨rest, hfold⟩ := h.fold hd members _ hms
  refine (if_neg hdepth).trans ?_
  rw [hfold]
  dsimp only
  split
  · rename_i hmissing
    rw [h.complete] at hmissing
    cases hmissing
  · rfl

/-- **Every text of a value** that stands for data is decoded as these. -/
theorem StandsFor.decode {shape : Shape} {c : shape.Carrier} {v : Value} {cs : List Char}
    (h : StandsFor levels shape c v) (hl : levels < depthLimit) (hs : Spells v cs) :
    Json.decode shape (String.ofList cs) = .ok c := by
  have hread := Node.read_spells hs h.fits
  have hof := h.decodes _ _ (hread.value depthLimit hl)
  rw [Json.decode, decodeAs, String.toList_ofList]
  simp only [hof, hread.rest?]
  rfl

/-- A whole text is decoded if its tree is, and nothing stands behind it. -/
theorem decodeAs_eq_ok_iff {α : Type} {read : Node → Except Trouble α} {text : String} {a : α} :
    decodeAs read text = .ok a ↔ read (Node.read text.toList) = .ok a ∧
      skipSpace ((Node.read text.toList).rest?.getD []) = [] := by
  unfold decodeAs
  dsimp only
  cases read (Node.read text.toList) with
  | error t => cases t <;> simp
  | ok v =>
    dsimp only
    cases skipSpace ((Node.read text.toList).rest?.getD []) with
    | nil => simp
    | cons c r => simp

end Teller.Json
