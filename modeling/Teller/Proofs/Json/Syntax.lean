import Teller.Json.Decode

/-!
# Faults of syntax

Where any JSON value is wanted, only the syntax of a text can be at fault, and such a fault is told
without a word of the text itself.

* `Fault.Plain`: a fault of syntax; `Node.Plain`: a tree that breaks off at none but such faults.
* `Node.read_plain`: every tree that was read is one; `Node.value_plain`: so is what its value
  fails with.
* `readValue_plain`: the fault of a whole text.
-/

namespace Teller.Json

/-- A cause that is no mismatch, and so repeats nothing. -/
def Cause.Plain : Cause → Prop
  | .mismatch _ => False
  | _ => True

/-- A fault of syntax. -/
def Fault.Plain (f : Fault) : Prop := f.cause.Plain

/-- A token that breaks off at a fault of syntax, if it breaks off. -/
def PlainEnd (ending : Except Gap (List Char)) : Prop :=
  ∀ gap, ending = .error gap → gap.decoding.Plain

mutual

/-- A value that breaks off at faults of syntax only. -/
def Node.Plain : Node → Prop
  | .null _ _ | .bool _ _ _ => True
  | .number _ n => PlainEnd n.ending
  | .text _ q => PlainEnd q.ending
  | .array _ items => items.Plain
  | .object _ members => members.Plain
  | .broken _ gap => gap.decoding.Plain

/-- Elements that break off at faults of syntax only. -/
def Items.Plain : Items → Prop
  | .close _ => True
  | .item node more => node.Plain ∧ more.Plain
  | .broken gap => gap.decoding.Plain

/-- Members that break off at faults of syntax only. -/
def Members.Plain : Members → Prop
  | .close _ => True
  | .member name node more => PlainEnd name.ending ∧ node.Plain ∧ more.Plain
  | .broken gap => gap.decoding.Plain

end

/-! ## Tokens -/

theorem plainEnd_ok (rest : List Char) : PlainEnd (.ok rest) := by
  intro gap h
  cases h

theorem plainEnd_error {gap : Gap} (h : gap.decoding.Plain) : PlainEnd (.error gap) := by
  intro gap' h'
  cases h'
  exact h

theorem badUnit_plain (s : List Char) : (badUnit s).decoding.Plain := by
  unfold badUnit
  split <;> trivial

theorem Quoted.read_plain (s : List Char) : PlainEnd (Quoted.read s).ending := by
  fun_induction Quoted.read s <;>
    first
    | assumption
    | exact plainEnd_ok _
    | exact plainEnd_error (badUnit_plain _)
    | exact plainEnd_error trivial

theorem readExponent_plain (negative : Bool) (whole : List Char) (fraction : Option (List Char))
    (s : List Char) : PlainEnd (readExponent negative whole fraction s).ending := by
  fun_cases readExponent negative whole fraction s <;>
    first
    | exact plainEnd_ok _
    | exact plainEnd_error trivial

theorem readFraction_plain (negative : Bool) (whole s : List Char) :
    PlainEnd (readFraction negative whole s).ending := by
  unfold readFraction
  dsimp only
  repeat' split
  all_goals
    first
    | exact readExponent_plain _ _ _ _
    | exact plainEnd_ok _
    | exact plainEnd_error trivial

theorem Numeral.read_plain (negative : Bool) (s : List Char) :
    PlainEnd (Numeral.read negative s).ending := by
  fun_cases Numeral.read negative s <;>
    first
    | exact readFraction_plain _ _ _
    | exact plainEnd_error trivial

/-! ## The tree -/

theorem wordNode_plain {start : List Char} {node : List Char → Node} (w : List Char)
    (s : List Char) (h : ∀ rest, (node rest).Plain) :
    (wordNode start node (readWord w s)).Plain := by
  fun_induction readWord w s with
  | case1 s => exact h s
  | case2 => trivial
  | case3 _ _ _ ih => exact ih
  | case4 => trivial

mutual

theorem readNode_plain (fuel : Nat) (s : List Char) : (readNode fuel s).Plain := by
  cases fuel with
  | zero => trivial
  | succ fuel =>
    -- A branch ends in a word, in a token, in a list of its own, or at a fault of syntax.
    unfold readNode
    dsimp only
    repeat' split
    all_goals
      first
      | exact wordNode_plain _ _ fun _ => trivial
      | exact Numeral.read_plain _ _
      | exact Quoted.read_plain _
      | exact readItems_plain fuel _ _
      | exact readMembers_plain fuel _ _
      | trivial

theorem readItems_plain (fuel : Nat) (first : Bool) (s : List Char) :
    (readItems fuel first s).Plain := by
  cases fuel with
  | zero => trivial
  | succ fuel =>
    unfold readItems
    dsimp only
    repeat' split
    all_goals
      first
      | exact ⟨readNode_plain fuel _, readItems_plain fuel _ _⟩
      | exact ⟨readNode_plain fuel _, trivial⟩
      | trivial

theorem readMembers_plain (fuel : Nat) (first : Bool) (s : List Char) :
    (readMembers fuel first s).Plain := by
  cases fuel with
  | zero => trivial
  | succ fuel =>
    unfold readMembers
    dsimp only
    repeat' split
    all_goals
      first
      | exact ⟨Quoted.read_plain _, readNode_plain fuel _, readMembers_plain fuel _ _⟩
      | exact ⟨Quoted.read_plain _, readNode_plain fuel _, trivial⟩
      | exact ⟨Quoted.read_plain _, trivial, trivial⟩
      | trivial

end

theorem Node.read_plain (s : List Char) : (Node.read s).Plain := readNode_plain _ s

/-! ## Values -/

theorem error_of_map {ε α β : Type} {g : α → β} {x : Except ε α} {e : ε}
    (h : g <$> x = .error e) : x = .error e := by
  cases x with
  | error e' =>
    cases h
    rfl
  | ok a => cases h

theorem error_of_bind {ε α β : Type} {g : α → Except ε β} {x : Except ε α} {e : ε}
    (h : x >>= g = .error e) : x = .error e ∨ ∃ a, g a = .error e := by
  cases x with
  | error e' =>
    cases h
    exact Or.inl rfl
  | ok a => exact Or.inr ⟨a, h⟩

theorem cutShort_plain {ending : Except Gap (List Char)} (h : PlainEnd ending) (s : List Char) :
    (cutShort ending s).Plain := by
  unfold cutShort
  repeat' split
  all_goals
    first
    | exact h _ rfl
    | trivial

theorem decodePieces_plain {ending : Except Gap (List Char)} (h : PlainEnd ending)
    (ps : List Piece) {f : Fault} (hf : decodePieces ending ps = .error f) : f.Plain := by
  fun_induction decodePieces ending ps with
  | case1 => cases hf
  | case2 gap hgap =>
    cases hf
    exact h gap hgap
  | case3 c ps ih => exact ih (error_of_map hf)
  | case4 =>
    cases hf
    trivial
  | case5 _ _ _ _ _ _ _ _ ih => exact ih (error_of_map hf)
  | case6 =>
    cases hf
    trivial
  | case7 =>
    cases hf
    exact cutShort_plain h _
  | case8 _ _ _ _ _ ih => exact ih (error_of_map hf)

theorem Quoted.text_plain {q : Quoted} (h : PlainEnd q.ending) {f : Fault}
    (hf : q.text = .error f) : f.Plain := decodePieces_plain h _ (error_of_map hf)

theorem Numeral.number_plain {n : Numeral} {rest : List Char} {f : Fault}
    (hf : n.number rest = .error f) : f.Plain := by
  unfold Numeral.number at hf
  dsimp only at hf
  repeat' split at hf
  all_goals cases hf <;> trivial

theorem Numeral.decode_plain {n : Numeral} (h : PlainEnd n.ending) {f : Fault}
    (hf : n.decode = .error f) : f.Plain := by
  unfold Numeral.decode at hf
  cases hn : n.ending with
  | ok rest =>
    rw [hn] at hf
    exact number_plain hf
  | error gap =>
    rw [hn] at hf
    cases hf
    exact h gap hn

theorem placed_of_orFault {α : Type} {x : Except Fault α} {f : Fault}
    (h : orFault x = .error (.placed f)) : x = .error f := by
  cases x <;> cases h
  rfl

theorem orFault_ne_floating {α : Type} (x : Except Fault α) {m : Schema.Mismatch}
    {ahead : List Char} : orFault x ≠ .error (.floating m ahead) := by
  cases x <;> exact fun h => nomatch h

mutual

/-- **A value fails with faults of syntax only.** -/
theorem Node.value_plain (depth : Nat) (node : Node) (h : node.Plain) {f : Fault}
    (hf : node.value depth = .error f) : f.Plain := by
  cases node with
  | null | bool => cases hf
  | number start n => exact Numeral.decode_plain h (error_of_map hf)
  | text start q => exact Quoted.text_plain h (error_of_map hf)
  | array start items =>
    simp only [Node.value] at hf
    split at hf
    · cases hf
      trivial
    · exact Items.values_plain _ items h (error_of_map hf)
  | object start members =>
    simp only [Node.value] at hf
    split at hf
    · cases hf
      trivial
    · exact Members.values_plain _ members h (error_of_map hf)
  | broken start gap =>
    cases hf
    exact h

theorem Items.values_plain (depth : Nat) (items : Items) (h : items.Plain) {f : Fault}
    (hf : items.values depth = .error f) : f.Plain := by
  cases items with
  | close => cases hf
  | item node more =>
    rcases error_of_bind hf with hv | ⟨v, hf⟩
    · exact Node.value_plain depth node h.1 hv
    · rcases error_of_bind hf with hvs | ⟨vs, hf⟩
      · exact Items.values_plain depth more h.2 hvs
      · cases hf
  | broken gap =>
    cases hf
    exact h

theorem Members.values_plain (depth : Nat) (members : Members) (h : members.Plain) {f : Fault}
    (hf : members.values depth = .error f) : f.Plain := by
  cases members with
  | close => cases hf
  | member name node more =>
    rcases error_of_bind hf with hk | ⟨k, hf⟩
    · exact Quoted.text_plain h.1 hk
    · rcases error_of_bind hf with hv | ⟨v, hf⟩
      · exact Node.value_plain depth node h.2.1 hv
      · rcases error_of_bind hf with hvs | ⟨vs, hf⟩
        · exact Members.values_plain depth more h.2.2 hvs
        · cases hf
  | broken gap =>
    cases hf
    exact h

end

/-- **Where any value is wanted, no message repeats the text.** -/
theorem readValue_plain {text : String} {e : Error} (h : readValue text = .error e) :
    e.cause.Plain := by
  have hd := error_of_map h
  unfold decodeAs at hd
  dsimp only at hd
  split at hd
  next f hf =>
    cases hd
    exact Node.value_plain depthLimit _ (Node.read_plain _) (placed_of_orFault hf)
  next m ahead hf => exact absurd hf (orFault_ne_floating _)
  next =>
    split at hd <;> cases hd
    trivial

end Teller.Json
