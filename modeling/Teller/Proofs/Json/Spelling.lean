import Teller.Json.Node
import Teller.Proofs.Json.Token

/-!
# Texts of values

A value has many texts, which differ in the space between tokens. Whatever the space, a text is read
back as the value it was written for, as long as its numbers are integers of 64 bits and its arrays
and objects are not nested too deep.

* `Spells`: the texts of a value; `compact_spells` and `indented_spells`: both ways of writing give
  one.
* `Value.Fits`: the values that are read back; `Node.Gives`: a tree that gives a value.
* `readNode_spells`: the tree of each text gives the value.
-/

namespace Teller.Json

/-! ## The texts of a value -/

/-- Space between tokens. -/
def Space (gap : List Char) : Prop := ∀ c ∈ gap, isSpace c = true

/-- What stands in front of an element or a member. -/
def separator (first : Bool) : List Char := if first then [] else [',']

mutual

/-- **A text of a value.** -/
inductive Spells : Value → List Char → Prop
  | null : Spells .null ['n', 'u', 'l', 'l']
  | true : Spells (.bool true) ['t', 'r', 'u', 'e']
  | false : Spells (.bool false) ['f', 'a', 'l', 's', 'e']
  | number (n : Number) : Spells (.number n) n.write.toList
  | text (s : String) : Spells (.text s) (writeText s)
  | array {items cs} (h : SpellsItems Bool.true items cs) : Spells (.array items) ('[' :: cs)
  | object {members cs} (h : SpellsMembers Bool.true members cs) :
      Spells (.object members) ('\x7b' :: cs)

/-- A text of elements up to the end of their array; `first` tells that none came before. -/
inductive SpellsItems : Bool → List Value → List Char → Prop
  | close {first gap} (hg : Space gap) : SpellsItems first [] (gap ++ [']'])
  | item {first gap v cs vs ds} (hg : Space gap) (h : Spells v cs) (hs : SpellsItems false vs ds) :
      SpellsItems first (v :: vs) (separator first ++ gap ++ cs ++ ds)

/-- A text of members up to the end of their object. -/
inductive SpellsMembers : Bool → List (String × Value) → List Char → Prop
  | close {first gap} (hg : Space gap) : SpellsMembers first [] (gap ++ ['\x7d'])
  | member {first gap k gap' v cs ms ds} (hg : Space gap) (hg' : Space gap') (h : Spells v cs)
      (hs : SpellsMembers false ms ds) :
      SpellsMembers first ((k, v) :: ms)
        (separator first ++ gap ++ writeText k ++ ':' :: gap' ++ cs ++ ds)

end

theorem space_nil : Space [] := fun _ h => nomatch h

mutual

/-- The text without space is one. -/
theorem compact_spells (v : Value) : Spells v v.compactChars := by
  cases v with
  | null => exact .null
  | bool b => cases b <;> constructor
  | number n => exact .number n
  | text s => exact .text s
  | array items => exact .array (compactItems_spells Bool.true items)
  | object members => exact .object (compactMembers_spells Bool.true members)

theorem compactItems_spells (first : Bool) (vs : List Value) :
    SpellsItems first vs (compactItems first vs) := by
  cases vs with
  | nil => exact .close space_nil
  | cons v vs =>
    have h : SpellsItems first (v :: vs)
        (separator first ++ [] ++ v.compactChars ++ compactItems Bool.false vs) :=
      .item space_nil (compact_spells v) (compactItems_spells Bool.false vs)
    rwa [List.append_nil] at h

theorem compactMembers_spells (first : Bool) (ms : List (String × Value)) :
    SpellsMembers first ms (compactMembers first ms) := by
  cases ms with
  | nil => exact .close space_nil
  | cons m ms =>
    obtain ⟨k, v⟩ := m
    have h := @SpellsMembers.member first _ k _ _ _ _ _ space_nil space_nil (compact_spells v)
      (compactMembers_spells Bool.false ms)
    simpa [compactMembers, separator] using h

end

theorem space_lineStart (level : Nat) : Space (lineStart level) := by
  intro c hc
  rcases List.mem_cons.1 hc with rfl | hc
  · rfl
  · rw [List.eq_of_mem_replicate hc]
    rfl

theorem space_singleton : Space [' '] := fun c hc => by rw [List.mem_singleton.1 hc]; rfl

mutual

/-- The text with one element or member a line is one. -/
theorem indented_spells (level : Nat) (v : Value) : Spells v (v.indentedChars level) := by
  match v with
  | .null => exact .null
  | .bool true => exact .true
  | .bool false => exact .false
  | .number n => exact .number n
  | .text s => exact .text s
  | .array [] => exact .array (.close space_nil)
  | .object [] => exact .object (.close space_nil)
  | .array (v :: vs) => exact .array (indentedItems_spells level Bool.true (v :: vs))
  | .object (m :: ms) => exact .object (indentedMembers_spells level Bool.true (m :: ms))

theorem indentedItems_spells (level : Nat) (first : Bool) (vs : List Value) :
    SpellsItems first vs (indentedItems level first vs) := by
  match vs with
  | [] => exact .close (space_lineStart level)
  | v :: vs =>
    exact .item (space_lineStart (level + 1)) (indented_spells (level + 1) v)
      (indentedItems_spells level Bool.false vs)

theorem indentedMembers_spells (level : Nat) (first : Bool) (ms : List (String × Value)) :
    SpellsMembers first ms (indentedMembers level first ms) := by
  match ms with
  | [] => exact .close (space_lineStart level)
  | (k, v) :: ms =>
    have h := @SpellsMembers.member first _ k _ _ _ _ _ (space_lineStart (level + 1))
      space_singleton (indented_spells (level + 1) v) (indentedMembers_spells level Bool.false ms)
    simpa [indentedMembers, separator] using h

end

/-! ## Reading them back -/

mutual

/-- A value that is read back where so many levels of nesting are left: all its numbers are integers
of 64 bits. -/
def Value.Fits (levels : Nat) : Value → Prop
  | .number (.integer n) => -0x8000000000000000 ≤ n ∧ n < 0x10000000000000000
  | .number (.float _) => False
  | .array items => 0 < levels ∧ ItemsFit (levels - 1) items
  | .object members => 0 < levels ∧ MembersFit (levels - 1) members
  | .null | .bool _ | .text _ => True

/-- Elements that are read back. -/
def ItemsFit (levels : Nat) : List Value → Prop
  | [] => True
  | v :: vs => v.Fits levels ∧ ItemsFit levels vs

/-- Members that are read back. -/
def MembersFit (levels : Nat) : List (String × Value) → Prop
  | [] => True
  | (_, v) :: ms => v.Fits levels ∧ MembersFit levels ms

end

/-- **A tree that gives a value**, where more than so many levels of nesting are left, and the text
behind it. -/
structure Node.Gives (node : Node) (levels : Nat) (v : Value) (rest : List Char) : Prop where
  rest? : node.rest? = some rest
  value : ∀ depth, levels < depth → node.value depth = .ok v

/-- Elements that give values. -/
structure Items.Gives (items : Items) (levels : Nat) (vs : List Value) (rest : List Char) :
    Prop where
  rest? : items.rest? = some rest
  values : ∀ depth, levels < depth → items.values depth = .ok vs

/-- Members that give values. -/
structure Members.Gives (members : Members) (levels : Nat) (ms : List (String × Value))
    (rest : List Char) : Prop where
  rest? : members.rest? = some rest
  values : ∀ depth, levels < depth → members.values depth = .ok ms

/-! ### First characters -/

theorem skipSpace_append {gap : List Char} (hg : Space gap) (s : List Char) :
    skipSpace (gap ++ s) = skipSpace s := List.dropWhile_append_of_pos hg

theorem skipSpace_cons {c : Char} (hc : isSpace c = false) (r : List Char) :
    skipSpace (c :: r) = c :: r := List.dropWhile_cons_of_neg (by simp [hc])

/-- An integer begins with its sign or a digit. -/
theorem write_integer (n : Int) :
    (Number.integer n).write.toList =
      if 0 ≤ n then Nat.toDigits 10 n.toNat else '-' :: Nat.toDigits 10 (-n).toNat := by
  show (toString n).toList = _
  rw [Int.toString_eq_repr, Int.repr_eq_if]
  split
  · exact Nat.toList_repr
  · rw [String.toList_append, Nat.toList_repr]
    rfl

/-- No value begins with space or the end of an array. -/
theorem spells_head {v : Value} {cs : List Char} {levels : Nat} (h : Spells v cs)
    (hv : v.Fits levels) : ∃ c r, cs = c :: r ∧ isSpace c = false ∧ c ≠ ']' := by
  cases h with
  | null | true | false | text | array | object => exact ⟨_, _, rfl, rfl, by decide⟩
  | number n =>
    cases n with
    | float x => exact hv.elim
    | integer n =>
      rw [write_integer]
      split
      · cases hd : Nat.toDigits 10 n.toNat with
        | nil => exact absurd hd Nat.toDigits_ne_nil
        | cons c r =>
          have hc : c.isDigit = Bool.true :=
            Nat.isDigit_of_mem_toDigits (by decide) (by decide) (hd ▸ List.mem_cons_self)
          refine ⟨c, r, rfl, ?_, ?_⟩
          · simp only [isSpace, Bool.or_eq_false_iff, beq_eq_false_iff_ne]
            refine ⟨⟨⟨?_, ?_⟩, ?_⟩, ?_⟩ <;> rintro rfl <;> cases hc
          · rintro rfl
            cases hc
      · exact ⟨_, _, rfl, rfl, by decide⟩

theorem endsNumber_cons {c : Char} (hc : c ∈ [',', ']', '\x7d', ' ', '\n', '\t', '\r'])
    (r : List Char) : EndsNumber (c :: r) := by
  rintro _ ⟨⟩
  simp only [List.mem_cons, List.not_mem_nil, or_false] at hc
  rcases hc with rfl | rfl | rfl | rfl | rfl | rfl | rfl <;> decide

theorem endsNumber_gap {gap : List Char} (hg : Space gap) {s : List Char} (hs : EndsNumber s) :
    EndsNumber (gap ++ s) := by
  cases gap with
  | nil => exact hs
  | cons c gap =>
    refine endsNumber_cons ?_ _
    have hc := hg c List.mem_cons_self
    simp only [isSpace, Bool.or_eq_true, beq_iff_eq] at hc
    rcases hc with ((rfl | rfl) | rfl) | rfl <;> decide

/-- What follows an element is no part of a number. -/
theorem endsNumber_items {vs : List Value} {cs : List Char} (h : SpellsItems false vs cs)
    (rest : List Char) : EndsNumber (cs ++ rest) := by
  cases h with
  | close hg =>
    rw [List.append_assoc]
    exact endsNumber_gap hg (endsNumber_cons (by decide) _)
  | item => exact endsNumber_cons (c := ',') (by decide) _

/-- What follows a member is no part of a number. -/
theorem endsNumber_members {ms : List (String × Value)} {cs : List Char}
    (h : SpellsMembers false ms cs) (rest : List Char) : EndsNumber (cs ++ rest) := by
  cases h with
  | close hg =>
    rw [List.append_assoc]
    exact endsNumber_gap hg (endsNumber_cons (by decide) _)
  | member =>
    simp only [separator, List.append_assoc]
    exact endsNumber_cons (c := ',') (by decide) _

/-! ### Single trees -/

section

variable {fuel levels : Nat} {s r rest : List Char} {c : Char}

theorem readNode_digit (hs : skipSpace s = c :: r) (hc : c.isDigit = true) :
    readNode (fuel + 1) s = .number (c :: r) (Numeral.read false (c :: r)) := by
  have hne {d : Char} (hd : d.isDigit = false) : c ≠ d := by
    rintro rfl
    rw [hc] at hd
    cases hd
  rw [readNode]
  simp only [hs]
  rw [if_neg (hne rfl), if_neg (hne rfl), if_neg (hne rfl), if_neg (hne rfl), if_pos hc]

theorem readNode_minus (hs : skipSpace s = '-' :: r) :
    readNode (fuel + 1) s = .number ('-' :: r) (Numeral.read true r) := by
  rw [readNode]
  simp only [hs]
  rfl

theorem readNode_null (hs : skipSpace s = ['n', 'u', 'l', 'l'] ++ rest) :
    readNode (fuel + 1) s = .null (['n', 'u', 'l', 'l'] ++ rest) rest := by
  rw [readNode]
  simp only [hs]
  rfl

theorem readNode_true (hs : skipSpace s = ['t', 'r', 'u', 'e'] ++ rest) :
    readNode (fuel + 1) s = .bool (['t', 'r', 'u', 'e'] ++ rest) true rest := by
  rw [readNode]
  simp only [hs]
  rfl

theorem readNode_false (hs : skipSpace s = ['f', 'a', 'l', 's', 'e'] ++ rest) :
    readNode (fuel + 1) s = .bool (['f', 'a', 'l', 's', 'e'] ++ rest) false rest := by
  rw [readNode]
  simp only [hs]
  rfl

theorem readNode_quote (hs : skipSpace s = '"' :: r) :
    readNode (fuel + 1) s = .text ('"' :: r) (Quoted.read r) := by
  rw [readNode]
  simp only [hs]
  rfl

theorem readNode_bracket (hs : skipSpace s = '[' :: r) :
    readNode (fuel + 1) s = .array ('[' :: r) (readItems fuel true r) := by
  rw [readNode]
  simp only [hs]
  rfl

theorem readNode_brace (hs : skipSpace s = '\x7b' :: r) :
    readNode (fuel + 1) s = .object ('\x7b' :: r) (readMembers fuel true r) := by
  rw [readNode]
  simp only [hs]
  rfl

/-- A number that was read gives its value. -/
theorem gives_number (levels : Nat) (rest start : List Char) (negative : Bool) {n : Nat}
    (h : if negative then 0 < n ∧ n ≤ 0x8000000000000000 else n < UInt64.size) :
    (Node.number start ⟨negative, Nat.toDigits 10 n, none, none, .ok rest⟩).Gives levels
      (.number (.integer (if negative then -n else n))) rest := by
  refine ⟨rfl, fun depth _ => ?_⟩
  simp only [Node.value, Numeral.decode, Numeral.number_toDigits rest h]
  rfl

/-- The tree of an integer. -/
theorem readNode_integer {n : Int} (hv : (Value.number (.integer n)).Fits levels)
    (hr : EndsNumber rest) (hs : skipSpace s = (Number.integer n).write.toList ++ rest) :
    (readNode (fuel + 1) s).Gives levels (.number (.integer n)) rest := by
  obtain ⟨hlow, hhigh⟩ := hv
  rw [write_integer] at hs
  split at hs
  · rename_i hn
    cases hd : Nat.toDigits 10 n.toNat with
    | nil => exact absurd hd Nat.toDigits_ne_nil
    | cons c ds =>
      have hc : c.isDigit = true :=
        Nat.isDigit_of_mem_toDigits (by decide) (by decide) (hd ▸ List.mem_cons_self)
      have hread := Numeral.read_toDigits hr false n.toNat
      have hgives := gives_number levels rest (c :: (ds ++ rest)) false (n := n.toNat)
        (by show n.toNat < 0x10000000000000000; omega)
      rw [hd, List.cons_append] at hs hread
      rw [readNode_digit hs hc, hread, ← hd]
      rwa [if_neg Bool.false_ne_true, Int.toNat_of_nonneg hn] at hgives
  · rename_i hn
    rw [List.cons_append] at hs
    rw [readNode_minus hs, Numeral.read_toDigits hr]
    have hgives := gives_number levels rest
      ('-' :: (Nat.toDigits 10 (-n).toNat ++ rest)) true (n := (-n).toNat)
      ⟨by omega, by omega⟩
    rwa [if_pos rfl, Int.toNat_of_nonneg (by omega), Int.neg_neg] at hgives

theorem writeText_append (t : String) (rest : List Char) :
    writeText t ++ rest = '"' :: (t.toList.flatMap escape ++ '"' :: rest) := by
  rw [writeText, List.append_assoc]
  rfl

/-- The tree of a string. -/
theorem readNode_text {t : String} (hs : skipSpace s = writeText t ++ rest) :
    (readNode (fuel + 1) s).Gives levels (.text t) rest := by
  obtain ⟨q, hending, htext, hq⟩ := Quoted.read_writeText t rest
  rw [writeText_append] at hs
  rw [readNode_quote hs, hq]
  refine ⟨?_, fun depth _ => ?_⟩
  · rw [Node.rest?, hending]
    rfl
  · rw [Node.value, htext]
    rfl

/-! ### Arrays and objects -/

variable {first : Bool} {gap : List Char}

theorem readItems_close (hg : Space gap) :
    readItems (fuel + 1) first (gap ++ ']' :: rest) = .close rest := by
  rw [readItems]
  simp only [skipSpace_append hg, skipSpace_cons (c := ']') rfl]
  rfl

/-- An element is read where its first character stands. -/
theorem readItems_item (hg : Space gap) (hc : isSpace c = false) (hend : c ≠ ']')
    (hn : (readNode fuel (c :: r)).rest? = some rest) :
    readItems (fuel + 1) first (separator first ++ gap ++ c :: r) =
      .item (readNode fuel (c :: r)) (readItems fuel false rest) := by
  have hskip : skipSpace (gap ++ c :: r) = c :: r := by
    rw [skipSpace_append hg, skipSpace_cons hc]
  rw [readItems]
  cases first with
  | true =>
    simp only [separator, if_true, List.nil_append, hskip, hn]
    rw [if_neg hend]
  | false =>
    have hcomma : skipSpace (separator false ++ gap ++ c :: r) = ',' :: (gap ++ c :: r) := by
      rw [separator, if_neg Bool.false_ne_true, List.append_assoc]
      exact skipSpace_cons rfl _
    simp only [hcomma]
    rw [if_neg (by decide), if_neg Bool.false_ne_true, if_pos trivial]
    simp only [hskip]
    split
    · rename_i heq
      cases heq
      exact absurd rfl hend
    · rw [hn]

theorem readMembers_close (hg : Space gap) :
    readMembers (fuel + 1) first (gap ++ '\x7d' :: rest) = .close rest := by
  rw [readMembers]
  simp only [skipSpace_append hg, skipSpace_cons (c := '\x7d') rfl]
  rfl

/-- A member is read where its name stands. -/
theorem readMembers_member (hg : Space gap) {q : Quoted} (hq : Quoted.read r = q)
    (hcolon : q.ending = .ok (':' :: s)) (hn : (readNode fuel s).rest? = some rest) :
    readMembers (fuel + 1) first (separator first ++ gap ++ '"' :: r) =
      .member q (readNode fuel s) (readMembers fuel false rest) := by
  have hskip : skipSpace (gap ++ '"' :: r) = '"' :: r := by
    rw [skipSpace_append hg, skipSpace_cons rfl]
  have hrest : skipSpace q.rest = ':' :: s := by
    rw [Quoted.rest, hcolon]
    exact skipSpace_cons rfl s
  rw [readMembers]
  cases first with
  | true =>
    simp only [separator, if_true, List.nil_append, hskip, hq, hrest, hn]
    rfl
  | false =>
    have hcomma : skipSpace (separator false ++ gap ++ '"' :: r) = ',' :: (gap ++ '"' :: r) := by
      rw [separator, if_neg Bool.false_ne_true, List.append_assoc]
      exact skipSpace_cons rfl _
    simp only [hcomma, hskip, hq, hrest, hn]
    rfl

theorem gives_array {items : Items} {vs : List Value} (start : List Char) (hl : 0 < levels)
    (h : items.Gives (levels - 1) vs rest) :
    (Node.array start items).Gives levels (.array vs) rest := by
  refine ⟨h.rest?, fun depth hd => ?_⟩
  rw [Node.value, if_neg (by omega), h.values _ (by omega)]
  rfl

theorem gives_object {members : Members} {ms : List (String × Value)} (start : List Char)
    (hl : 0 < levels) (h : members.Gives (levels - 1) ms rest) :
    (Node.object start members).Gives levels (.object ms) rest := by
  refine ⟨h.rest?, fun depth hd => ?_⟩
  rw [Node.value, if_neg (by omega), h.values _ (by omega)]
  rfl

theorem gives_item {node : Node} {more : Items} {v : Value} {vs : List Value}
    (hn : node.Gives levels v r) (hm : more.Gives levels vs rest) :
    (Items.item node more).Gives levels (v :: vs) rest := by
  refine ⟨hm.rest?, fun depth hd => ?_⟩
  rw [Items.values, hn.value depth hd, hm.values depth hd]
  rfl

theorem gives_member {name : Quoted} {node : Node} {more : Members} {k : String} {v : Value}
    {ms : List (String × Value)} (hk : name.text = .ok k) (hn : node.Gives levels v r)
    (hm : more.Gives levels ms rest) :
    (Members.member name node more).Gives levels ((k, v) :: ms) rest := by
  refine ⟨hm.rest?, fun depth hd => ?_⟩
  rw [Members.values, hk, hn.value depth hd, hm.values depth hd]
  rfl

end

/-! ### Whole texts -/

mutual

/-- **Every text of a value is read as that value**, up to its end. -/
theorem readNode_spells (fuel : Nat) {v : Value} {cs gap rest : List Char} {levels : Nat}
    (h : Spells v cs) (hv : v.Fits levels) (hg : Space gap) (hr : EndsNumber rest)
    (hf : 2 * cs.length ≤ fuel) : (readNode fuel (gap ++ (cs ++ rest))).Gives levels v rest := by
  -- The fuel goes down with each reader that is entered, the text at least every second time.
  cases fuel with
  | zero =>
    obtain ⟨c, r, rfl, -⟩ := spells_head h hv
    cases hf
  | succ fuel =>
    have hskip : skipSpace (gap ++ (cs ++ rest)) = cs ++ rest := by
      obtain ⟨c, r, rfl, hc, -⟩ := spells_head h hv
      rw [skipSpace_append hg]
      exact skipSpace_cons hc _
    cases h with
    | null =>
      rw [readNode_null hskip]
      exact ⟨rfl, fun _ _ => by rw [Node.value]⟩
    | true =>
      rw [readNode_true hskip]
      exact ⟨rfl, fun _ _ => by rw [Node.value]⟩
    | false =>
      rw [readNode_false hskip]
      exact ⟨rfl, fun _ _ => by rw [Node.value]⟩
    | number n =>
      cases n with
      | float x => exact hv.elim
      | integer n => exact readNode_integer hv hr hskip
    | text s => exact readNode_text hskip
    | array h =>
      rw [readNode_bracket hskip]
      rw [Value.Fits] at hv
      exact gives_array _ hv.1 (readItems_spells fuel h hv.2 (by simp at hf; omega))
    | object h =>
      rw [readNode_brace hskip]
      rw [Value.Fits] at hv
      exact gives_object _ hv.1 (readMembers_spells fuel h hv.2 (by simp at hf; omega))

theorem readItems_spells (fuel : Nat) {first : Bool} {vs : List Value} {cs rest : List Char}
    {levels : Nat} (h : SpellsItems first vs cs) (hv : ItemsFit levels vs)
    (hf : 2 * cs.length + 1 ≤ fuel) : (readItems fuel first (cs ++ rest)).Gives levels vs rest := by
  cases fuel with
  | zero => cases hf
  | succ fuel =>
    cases h with
    | close hg =>
      rw [List.append_assoc, List.singleton_append, readItems_close hg]
      exact ⟨rfl, fun _ _ => by rw [Items.values]⟩
    | @item _ gap v cs vs ds hg h hs =>
      rw [ItemsFit] at hv
      simp only [List.length_append] at hf
      -- The element takes one character or more, so fuel is left for the elements behind it.
      obtain ⟨c, r, rfl, hc, hend⟩ := spells_head h hv.1
      have hlength : 0 < (c :: r).length := Nat.succ_pos _
      have hnode := readNode_spells fuel h hv.1 space_nil (endsNumber_items hs rest) (by omega)
      rw [List.nil_append, List.cons_append] at hnode
      rw [List.append_assoc, List.append_assoc, List.cons_append,
        readItems_item hg hc hend hnode.rest?]
      exact gives_item hnode (readItems_spells fuel hs hv.2 (by omega))

theorem readMembers_spells (fuel : Nat) {first : Bool} {ms : List (String × Value)}
    {cs rest : List Char} {levels : Nat} (h : SpellsMembers first ms cs) (hv : MembersFit levels ms)
    (hf : 2 * cs.length + 1 ≤ fuel) :
    (readMembers fuel first (cs ++ rest)).Gives levels ms rest := by
  cases fuel with
  | zero => cases hf
  | succ fuel =>
    cases h with
    | close hg =>
      rw [List.append_assoc, List.singleton_append, readMembers_close hg]
      exact ⟨rfl, fun _ _ => by rw [Members.values]⟩
    | @member _ gap k gap' v cs ms ds hg hg' h hs =>
      rw [MembersFit] at hv
      simp only [List.length_append, List.length_cons] at hf
      have hlength : 0 < (writeText k).length := Nat.succ_pos _
      have hnode := readNode_spells fuel h hv.1 hg' (endsNumber_members hs rest) (by omega)
      -- The name is read up to the colon, and the value starts behind that.
      obtain ⟨q, hending, htext, hq⟩ :=
        Quoted.read_writeText k (':' :: (gap' ++ (cs ++ (ds ++ rest))))
      have hsplit : separator first ++ gap ++ writeText k ++ ':' :: gap' ++ cs ++ ds ++ rest =
          separator first ++ gap ++
            '"' :: (k.toList.flatMap escape ++ '"' :: ':' :: (gap' ++ (cs ++ (ds ++ rest)))) := by
        simp [writeText]
      rw [hsplit, readMembers_member hg hq hending hnode.rest?]
      exact gives_member htext hnode (readMembers_spells fuel hs hv.2 (by omega))

end

/-- **Every text of a value is read back.** -/
theorem Node.read_spells {v : Value} {cs : List Char} {levels : Nat} (h : Spells v cs)
    (hv : v.Fits levels) : (Node.read cs).Gives levels v [] := by
  have hnode := readNode_spells (2 * cs.length + 2) h hv space_nil endsNumber_nil (by omega)
  rwa [List.nil_append, List.append_nil] at hnode

end Teller.Json
