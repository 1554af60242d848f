import Teller.Proofs.Json.Decode
import Teller.Proofs.Json.Lexing

/-!
# Trees of texts

A tree without gaps holds a document, and it was read from a text of that document. So a value that
nobody asks for is passed over exactly if it is JSON.

* `Node.Holds`: a tree holds a document, and the text behind it.
* `NodeRead`, `ItemsRead`, `MembersRead`: what a single step of the readers can give.
* `readNode_writes`: the tree of a text of a document holds that document.
* `readNode_exists`: a tree that is passed over was read from a text of some document.
* `IsText.holds`: a whole text is read as its document; `IsText.unique`: it has one at most.
-/

namespace Teller.Json

/-! ## Trees that hold documents -/

mutual

/-- **A tree holds a document.** `rest` is the text behind it. -/
inductive Node.Holds : Node → Doc → List Char → Prop
  | null {start rest} : Node.Holds (.null start rest) .null rest
  | flag {start b rest} : Node.Holds (.bool start b rest) (.flag b) rest
  | number {start n rest} : Node.Holds (.number start (n.numeral rest)) (.number n) rest
  | text {start q rest} (h : q.ending = .ok rest) :
      Node.Holds (.text start q) (.text q.text.toOption) rest
  | array {c ahead items docs rest} (h : Items.Holds items ahead docs rest) :
      Node.Holds (.array (c :: ahead) items) (.array docs) rest
  | object {start members ms rest} (h : Members.Holds members ms rest) :
      Node.Holds (.object start members) (.object ms) rest

/-- Elements hold documents. They are read from the text `ahead`. -/
inductive Items.Holds : Items → List Char → List Doc → List Char → Prop
  | close {ahead rest} (h : skipSpace ahead = ']' :: rest) : Items.Holds (.close rest) ahead [] rest
  | item {ahead node d mid more ds rest} (hopen : (skipSpace ahead).head? ≠ some ']')
      (h : Node.Holds node d mid) (hs : Items.Holds more mid ds rest) :
      Items.Holds (.item node more) ahead (d :: ds) rest

/-- Members hold documents under their names. -/
inductive Members.Holds : Members → List (Option String × Doc) → List Char → Prop
  | close {rest} : Members.Holds (.close rest) [] rest
  | member {name behind node d mid more ms rest} (hn : name.ending = .ok behind)
      (h : Node.Holds node d mid) (hs : Members.Holds more ms rest) :
      Members.Holds (.member name node more) ((name.text.toOption, d) :: ms) rest

end

mutual

/-- A tree that holds a document has no gap, and the text behind it is the one behind the tree. -/
theorem Node.Holds.whole (node : Node) {d : Doc} {rest : List Char} (h : node.Holds d rest) :
    node.rest? = some rest ∧ node.skip = .ok () := by
  cases node with
  | null | bool =>
    cases h
    exact ⟨rfl, rfl⟩
  | number start n =>
    cases h
    exact ⟨rfl, rfl⟩
  | text start q =>
    cases h with
    | text h =>
      rw [Node.rest?, Node.skip, Quoted.skip, h]
      exact ⟨rfl, rfl⟩
  | array start items =>
    cases h with
    | array h => exact Items.Holds.whole items h
  | object start members =>
    cases h with
    | object h => exact Members.Holds.whole members h
  | broken => cases h

theorem Items.Holds.whole (items : Items) {ahead : List Char} {ds : List Doc} {rest : List Char}
    (h : items.Holds ahead ds rest) : items.rest? = some rest ∧ items.skip = .ok () := by
  cases items with
  | close =>
    cases h
    exact ⟨rfl, rfl⟩
  | item node more =>
    cases h with
    | item _ h hs =>
      have hmore := Items.Holds.whole more hs
      rw [Items.skip, (Node.Holds.whole node h).2, hmore.2]
      exact ⟨hmore.1, rfl⟩
  | broken => cases h

theorem Members.Holds.whole (members : Members) {ms : List (Option String × Doc)}
    {rest : List Char} (h : members.Holds ms rest) :
    members.rest? = some rest ∧ members.skip = .ok () := by
  cases members with
  | close =>
    cases h
    exact ⟨rfl, rfl⟩
  | member name node more =>
    cases h with
    | member hn h hs =>
      have hmore := Members.Holds.whole more hs
      rw [Members.skip, Quoted.skip, hn, (Node.Holds.whole node h).2, hmore.2]
      exact ⟨hmore.1, rfl⟩
  | broken => cases h

end

/-! ## Single steps of the readers -/

/-- A text is its space, and the text from its next token on. -/
theorem exists_space_append (s : List Char) : ∃ gap, Space gap ∧ s = gap ++ skipSpace s :=
  ⟨s.takeWhile isSpace, fun _ => List.mem_takeWhile_imp, List.takeWhile_append_dropWhile.symm⟩

theorem eq_of_readWord {w s rest : List Char} (h : readWord w s = .ok rest) : s = w ++ rest := by
  fun_induction readWord w s with
  | case1 s =>
    cases h
    rfl
  | case2 => cases h
  | case3 _ _ _ ih => rw [ih h, List.cons_append]
  | case4 => cases h

/-- **What one step gives of a value.** -/
inductive NodeRead (fuel : Nat) (s : List Char) : Node → Prop
  | null {rest} (h : skipSpace s = ['n', 'u', 'l', 'l'] ++ rest) :
      NodeRead fuel s (.null (skipSpace s) rest)
  | yes {rest} (h : skipSpace s = ['t', 'r', 'u', 'e'] ++ rest) :
      NodeRead fuel s (.bool (skipSpace s) true rest)
  | no {rest} (h : skipSpace s = ['f', 'a', 'l', 's', 'e'] ++ rest) :
      NodeRead fuel s (.bool (skipSpace s) false rest)
  | number {negative r} (h : skipSpace s = (if negative then ['-'] else []) ++ r) :
      NodeRead fuel s (.number (skipSpace s) (Numeral.read negative r))
  | text {r} (h : skipSpace s = '"' :: r) : NodeRead fuel s (.text (skipSpace s) (Quoted.read r))
  | array {r} (h : skipSpace s = '[' :: r) :
      NodeRead fuel s (.array ('[' :: r) (readItems fuel true r))
  | object {r} (h : skipSpace s = '\x7b' :: r) :
      NodeRead fuel s (.object (skipSpace s) (readMembers fuel true r))
  | broken {start gap} : NodeRead fuel s (.broken start gap)

/-- A word is there, or the value breaks off. -/
theorem nodeRead_word {fuel : Nat} {s r w start : List Char} {node : List Char → Node}
    (h : ∀ rest, r = w ++ rest → NodeRead fuel s (node rest)) :
    NodeRead fuel s (wordNode start node (readWord w r)) := by
  cases hw : readWord w r with
  | ok rest => exact h rest (eq_of_readWord hw)
  | error f => exact .broken

theorem readNode_succ (fuel : Nat) (s : List Char) : NodeRead fuel s (readNode (fuel + 1) s) := by
  unfold readNode
  split
  · exact .broken
  rename_i c r hs
  dsimp only
  rw [← hs]
  split
  · rename_i hc
    refine nodeRead_word fun rest hr => .null ?_
    rw [hs, hc, hr]
    rfl
  split
  · rename_i hc
    refine nodeRead_word fun rest hr => .yes ?_
    rw [hs, hc, hr]
    rfl
  split
  · rename_i hc
    refine nodeRead_word fun rest hr => .no ?_
    rw [hs, hc, hr]
    rfl
  split
  · rename_i hc
    exact .number (by rw [hs, hc]; rfl)
  split
  · exact .number rfl
  split
  · rename_i hc
    exact .text (by rw [hs, hc])
  split
  · rename_i hc
    rw [hs, hc]
    exact .array (by rw [hs, hc])
  split
  · rename_i hc
    exact .object (by rw [hs, hc])
  · exact .broken

/-- **What one step gives of elements.** The elements behind one are read behind its text. -/
inductive ItemsRead (fuel : Nat) (first : Bool) (s : List Char) : Items → Prop
  | close {rest} (h : skipSpace s = ']' :: rest) : ItemsRead fuel first s (.close rest)
  | item {lead s' more} (hs : s = lead ++ s') (hl : Leads first lead)
      (hopen : (skipSpace s).head? ≠ some ']')
      (hmore : ∀ rest, (readNode fuel s').rest? = some rest → more = readItems fuel false rest) :
      ItemsRead fuel first s (.item (readNode fuel s') more)
  | broken {gap} : ItemsRead fuel first s (.broken gap)

theorem readItems_succ (fuel : Nat) (first : Bool) (s : List Char) :
    ItemsRead fuel first s (readItems (fuel + 1) first s) := by
  obtain ⟨gap, hg, hgap⟩ := exists_space_append s
  unfold readItems
  split
  · exact .broken
  rename_i c r hs
  rw [hs] at hgap
  dsimp only
  split
  · rename_i hc
    exact .close (by rw [hs, hc])
  rename_i hend
  have hopen : (skipSpace s).head? ≠ some ']' := by
    rw [hs]
    exact fun h => hend (Option.some.inj h)
  split
  · rename_i hfirst
    cases hfirst
    exact .item hgap hg hopen fun rest h => by rw [h]
  rename_i hfirst
  split
  · rename_i hc
    subst hc
    obtain ⟨gap', hg', hgap'⟩ := exists_space_append r
    split
    · exact .broken
    · rename_i r' hr'
      have hlead : Leads first (gap ++ ',' :: gap') := by
        rw [Leads, if_neg hfirst]
        exact ⟨gap, gap', hg, hg', rfl⟩
      refine .item ?_ hlead hopen fun rest h => by rw [h]
      rw [List.append_assoc, List.cons_append, ← hgap', ← hgap]
  · exact .broken

/-- **What one step gives of members.** -/
inductive MembersRead (fuel : Nat) (first : Bool) (s : List Char) : Members → Prop
  | close {rest} (h : skipSpace s = '\x7d' :: rest) : MembersRead fuel first s (.close rest)
  | member {lead r colon s' more} (hs : s = lead ++ '"' :: r) (hl : Leads first lead)
      (hc : Around ':' colon) (hr : (Quoted.read r).rest = colon ++ s')
      (hmore : ∀ rest, (readNode fuel s').rest? = some rest → more = readMembers fuel false rest) :
      MembersRead fuel first s (.member (Quoted.read r) (readNode fuel s') more)
  | cut {name start gap more} : MembersRead fuel first s (.member name (.broken start gap) more)
  | broken {gap} : MembersRead fuel first s (.broken gap)

/-- A member from behind the first quote of its name. -/
theorem membersRead_name {fuel : Nat} {first : Bool} {s lead r : List Char}
    (hs : s = lead ++ '"' :: r) (hl : Leads first lead) :
    MembersRead fuel first s
      (match skipSpace (Quoted.read r).rest with
      | [] => .member (Quoted.read r) (.broken [] (.both ⟨.endInObject, [], 0⟩)) (.close [])
      | c :: r' =>
        if c = ':' then
          .member (Quoted.read r) (readNode fuel r') (match (readNode fuel r').rest? with
            | some rest => readMembers fuel false rest
            | none => .close [])
        else .member (Quoted.read r) (.broken [] (.both ⟨.colonExpected, c :: r', 1⟩))
          (.close [])) := by
  obtain ⟨gap, hg, hgap⟩ := exists_space_append (Quoted.read r).rest
  split
  · exact .cut
  rename_i c r' hr'
  rw [hr'] at hgap
  split
  · rename_i hc
    subst hc
    have hcolon : Around ':' (gap ++ [':']) := ⟨gap, [], hg, space_nil, rfl⟩
    refine .member hs hl hcolon ?_ fun rest h => by rw [h]
    rw [hgap, List.append_assoc, List.singleton_append]
  · exact .cut

theorem readMembers_succ (fuel : Nat) (first : Bool) (s : List Char) :
    MembersRead fuel first s (readMembers (fuel + 1) first s) := by
  obtain ⟨gap, hg, hgap⟩ := exists_space_append s
  unfold readMembers
  split
  · exact .broken
  rename_i c r hs
  rw [hs] at hgap
  dsimp only
  split
  · rename_i hc
    exact .close (by rw [hs, hc])
  split
  · rename_i hfirst
    cases hfirst
    split
    · rename_i hc
      subst hc
      exact membersRead_name hgap hg
    · exact .broken
  rename_i hfirst
  split
  · rename_i hc
    subst hc
    obtain ⟨gap', hg', hgap'⟩ := exists_space_append r
    split
    · exact .broken
    rename_i d r' hr'
    have hlead : Leads first (gap ++ ',' :: gap') := by
      rw [Leads, if_neg hfirst]
      exact ⟨gap, gap', hg, hg', rfl⟩
    split
    · rename_i hd
      subst hd
      refine membersRead_name ?_ hlead
      rw [List.append_assoc, List.cons_append, ← hr', ← hgap', ← hgap]
    split
    · exact .broken
    · exact .broken
  · exact .broken

/-! ## What is passed over is JSON -/

theorem Space.append {gap gap' : List Char} (h : Space gap) (h' : Space gap') :
    Space (gap ++ gap') := fun c hc => (List.mem_append.1 hc).elim (h c) (h' c)

theorem Around.append {mark : Char} {cs gap : List Char} (h : Around mark cs) (hg : Space gap) :
    Around mark (cs ++ gap) := by
  obtain ⟨a, b, ha, hb, rfl⟩ := h
  exact ⟨a, b ++ gap, ha, hb.append hg, by rw [List.append_assoc, List.cons_append]⟩

theorem Leads.append {first : Bool} {lead gap : List Char} (h : Leads first lead)
    (hg : Space gap) : Leads first (lead ++ gap) := by
  cases first with
  | true => exact Space.append h hg
  | false => exact Around.append h hg

/-- A token without a gap ends somewhere. -/
theorem Quoted.ending_of_skip {q : Quoted} (h : q.skip = .ok ()) : q.ending = .ok q.rest := by
  unfold Quoted.skip at h
  unfold Quoted.rest
  split at h
  · rename_i hq
    rw [hq]
  · cases h

mutual

/-- **What is passed over** is a text of a document, and its tree holds that. -/
theorem readNode_exists (fuel : Nat) {s : List Char} (h : (readNode fuel s).skip = .ok ()) :
    ∃ gap d cs rest, Space gap ∧ Writes d cs ∧ s = gap ++ (cs ++ rest) ∧
      (readNode fuel s).Holds d rest := by
  cases fuel with
  | zero => cases h
  | succ fuel =>
    obtain ⟨gap, hg, hgap⟩ := exists_space_append s
    have hstep := readNode_succ fuel s
    generalize readNode (fuel + 1) s = node at h hstep ⊢
    cases hstep with
    | null hs =>
      rw [hs] at hgap
      exact ⟨gap, _, _, _, hg, .null, hgap, .null⟩
    | yes hs =>
      rw [hs] at hgap
      exact ⟨gap, _, _, _, hg, .true, hgap, .flag⟩
    | no hs =>
      rw [hs] at hgap
      exact ⟨gap, _, _, _, hg, .false, hgap, .flag⟩
    | @number negative r hs =>
      have hending : ∃ rest, (Numeral.read negative r).ending = .ok rest := by
        rw [Node.skip] at h
        split at h
        · exact ⟨_, ‹_›⟩
        · cases h
      obtain ⟨rest, hending⟩ := hending
      obtain ⟨n, cs, hn, rfl, hread⟩ := Numeral.exists_writes hending
      refine ⟨gap, .number n, _, rest, hg, .number hn, ?_, ?_⟩
      · rw [List.append_assoc, ← hs]
        exact hgap
      · rw [hread]
        exact .number
    | @text r hs =>
      have hending := Quoted.ending_of_skip h
      obtain ⟨cs, hcs, hr⟩ := Quoted.exists_writes r hending
      refine ⟨gap, .text (textOf? (Quoted.read r).parts), _, (Quoted.read r).rest, hg, .text hcs,
        ?_, ?_⟩
      · rw [List.cons_append, ← hr, ← hs]
        exact hgap
      · rw [← Quoted.text_toOption hending]
        exact .text hending
    | array hs =>
      obtain ⟨ds, cs, rest, hcs, rfl, hholds⟩ := readItems_exists fuel h
      refine ⟨gap, .array ds, _, rest, hg, .array hcs, ?_, .array hholds⟩
      rw [List.cons_append, ← hs]
      exact hgap
    | object hs =>
      obtain ⟨ms, cs, rest, hcs, rfl, hholds⟩ := readMembers_exists fuel h
      refine ⟨gap, .object ms, _, rest, hg, .object hcs, ?_, .object hholds⟩
      rw [List.cons_append, ← hs]
      exact hgap
    | broken => cases h

theorem readItems_exists (fuel : Nat) {first : Bool} {s : List Char}
    (h : (readItems fuel first s).skip = .ok ()) :
    ∃ ds cs rest, WritesItems first ds cs ∧ s = cs ++ rest ∧
      (readItems fuel first s).Holds s ds rest := by
  cases fuel with
  | zero => cases h
  | succ fuel =>
    have hstep := readItems_succ fuel first s
    generalize readItems (fuel + 1) first s = items at h hstep ⊢
    cases hstep with
    | @close rest hs =>
      obtain ⟨gap, hg, hgap⟩ := exists_space_append s
      refine ⟨[], _, rest, .close hg, ?_, .close hs⟩
      rw [List.append_assoc, List.singleton_append, ← hs]
      exact hgap
    | @item lead s' more hs hl hopen hmore =>
      obtain ⟨_, hnode, hskip⟩ := ok_of_bind h
      obtain ⟨gap, d, cs, mid, hg, hcs, hs', hholds⟩ := readNode_exists fuel hnode
      cases hmore mid (hholds.whole).1
      obtain ⟨ds, cs', rest, hcs', rfl, hrest⟩ := readItems_exists fuel hskip
      refine ⟨d :: ds, _, rest, .item (hl.append hg) hcs hcs', ?_, .item hopen hholds hrest⟩
      rw [hs, hs']
      simp only [List.append_assoc]
    | broken => cases h

theorem readMembers_exists (fuel : Nat) {first : Bool} {s : List Char}
    (h : (readMembers fuel first s).skip = .ok ()) :
    ∃ ms cs rest, WritesMembers first ms cs ∧ s = cs ++ rest ∧
      (readMembers fuel first s).Holds ms rest := by
  cases fuel with
  | zero => cases h
  | succ fuel =>
    have hstep := readMembers_succ fuel first s
    generalize readMembers (fuel + 1) first s = members at h hstep ⊢
    cases hstep with
    | @close rest hs =>
      obtain ⟨gap, hg, hgap⟩ := exists_space_append s
      refine ⟨[], _, rest, .close hg, ?_, .close⟩
      rw [List.append_assoc, List.singleton_append, ← hs]
      exact hgap
    | @member lead r colon s' more hs hl hc hr hmore =>
      obtain ⟨_, hname, h⟩ := ok_of_bind h
      obtain ⟨_, hnode, hskip⟩ := ok_of_bind h
      have hending := Quoted.ending_of_skip hname
      obtain ⟨name, hwrites, hr'⟩ := Quoted.exists_writes r hending
      obtain ⟨gap, d, cs, mid, hg, hcs, hs', hholds⟩ := readNode_exists fuel hnode
      cases hmore mid (hholds.whole).1
      obtain ⟨ms, cs', rest, hcs', hmid, hrest⟩ := readMembers_exists fuel hskip
      have hmember := WritesMembers.member hl hwrites (hc.append hg) hcs hcs'
      rw [← Quoted.text_toOption hending] at hmember
      refine ⟨_, _, rest, hmember, ?_, .member hending hholds hrest⟩
      rw [hs, hr', hr, hs', hmid]
      simp
    | cut =>
      obtain ⟨_, -, h⟩ := ok_of_bind h
      cases h
    | broken => cases h

end

/-! ## Documents are read back -/

section

variable {fuel : Nat} {first : Bool} {lead gap s r rest cs : List Char} {c : Char}

/-- No text of a document begins with space or the end of an array. -/
theorem writes_head {d : Doc} (h : Writes d cs) :
    ∃ c r, cs = c :: r ∧ isSpace c = false ∧ c ≠ ']' := by
  cases h with
  | null | true | false | text | array | object => exact ⟨_, _, rfl, rfl, by decide⟩
  | @number n _ h =>
    obtain ⟨c, tail, rfl, hc, -⟩ := Numeral.read_writes h endsNumber_nil
    cases n.negative with
    | true => exact ⟨_, _, rfl, rfl, by decide⟩
    | false =>
      refine ⟨c, tail, rfl, ?_, ?_⟩
      · simp only [isSpace, Bool.or_eq_false_iff, beq_eq_false_iff_ne]
        refine ⟨⟨⟨?_, ?_⟩, ?_⟩, ?_⟩ <;> rintro rfl <;> cases hc
      · rintro rfl
        cases hc

theorem endsNumber_around {mark : Char} (hm : mark = ',') (h : Around mark cs) (s : List Char) :
    EndsNumber (cs ++ s) := by
  obtain ⟨gap, gap', hg, -, rfl⟩ := h
  rw [List.append_assoc, hm]
  exact endsNumber_gap hg (endsNumber_cons (by decide) _)

/-- What follows an element is no part of a number. -/
theorem endsNumber_writesItems {ds : List Doc} (h : WritesItems false ds cs) (s : List Char) :
    EndsNumber (cs ++ s) := by
  cases h with
  | close hg =>
    rw [List.append_assoc]
    exact endsNumber_gap hg (endsNumber_cons (by decide) _)
  | item hl =>
    rw [List.append_assoc]
    exact endsNumber_around rfl hl _

/-- What follows a member is no part of a number. -/
theorem endsNumber_writesMembers {ms : List (Option String × Doc)} (h : WritesMembers false ms cs)
    (s : List Char) : EndsNumber (cs ++ s) := by
  cases h with
  | close hg =>
    rw [List.append_assoc]
    exact endsNumber_gap hg (endsNumber_cons (by decide) _)
  | member hl =>
    rw [List.append_assoc]
    exact endsNumber_around rfl hl _

/-- What stands in front of an element is passed over. -/
theorem readItems_lead (hl : Leads first lead) (hc : isSpace c = false) (hend : c ≠ ']')
    (hn : (readNode fuel (c :: r)).rest? = some rest) :
    (skipSpace (lead ++ c :: r)).head? ≠ some ']' ∧
      readItems (fuel + 1) first (lead ++ c :: r) =
        .item (readNode fuel (c :: r)) (readItems fuel false rest) := by
  cases first with
  | true =>
    have hg : Space lead := hl
    refine ⟨?_, readItems_item hg hc hend hn⟩
    rw [skipSpace_append hg, skipSpace_cons hc]
    exact fun h => hend (Option.some.inj h)
  | false =>
    obtain ⟨gap, gap', hg, hg', rfl⟩ := hl
    have hskip : skipSpace (gap ++ ',' :: gap' ++ c :: r) =
        skipSpace (',' :: (gap' ++ c :: r)) := by
      rw [List.append_assoc, skipSpace_append hg, List.cons_append]
    have hread : readItems (fuel + 1) false (gap ++ ',' :: gap' ++ c :: r) =
        readItems (fuel + 1) false (',' :: (gap' ++ c :: r)) := by
      rw [readItems, readItems, hskip]
    refine ⟨?_, hread.trans (readItems_item hg' hc hend hn)⟩
    rw [hskip, skipSpace_cons rfl]
    simp

/-- So is what stands in front of a member, and in front of the colon behind its name. -/
theorem readMembers_lead (hl : Leads first lead) (hg : Space gap) {q : Quoted}
    (hq : Quoted.read r = q) (hending : q.ending = .ok (gap ++ ':' :: s))
    (hn : (readNode fuel s).rest? = some rest) :
    readMembers (fuel + 1) first (lead ++ '"' :: r) =
      .member q (readNode fuel s) (readMembers fuel false rest) := by
  have hrest : skipSpace q.rest = ':' :: s := by
    rw [Quoted.rest, hending]
    exact (skipSpace_append hg _).trans (skipSpace_cons rfl s)
  rw [readMembers]
  cases first with
  | true =>
    have hskip : skipSpace (lead ++ '"' :: r) = '"' :: r := by
      rw [skipSpace_append hl, skipSpace_cons rfl]
    simp only [hskip, hq, hrest, hn]
    rfl
  | false =>
    obtain ⟨a, b, ha, hb, rfl⟩ := hl
    have hcomma : skipSpace (a ++ ',' :: b ++ '"' :: r) = ',' :: (b ++ '"' :: r) := by
      rw [List.append_assoc, skipSpace_append ha, List.cons_append, skipSpace_cons rfl]
    have hskip : skipSpace (b ++ '"' :: r) = '"' :: r := by
      rw [skipSpace_append hb, skipSpace_cons rfl]
    simp only [hcomma, hskip, hq, hrest, hn]
    rfl

end

mutual

/-- **The tree of a text holds its document**, whatever stands behind it. -/
theorem readNode_writes (fuel : Nat) {d : Doc} {cs gap rest : List Char} (h : Writes d cs)
    (hg : Space gap) (hr : EndsNumber rest) (hf : 2 * cs.length ≤ fuel) :
    (readNode fuel (gap ++ (cs ++ rest))).Holds d rest := by
  -- The fuel goes down with each reader that is entered, the text at least every second time.
  have hskip : skipSpace (gap ++ (cs ++ rest)) = cs ++ rest := by
    obtain ⟨c, r, rfl, hc, -⟩ := writes_head h
    rw [skipSpace_append hg]
    exact skipSpace_cons hc _
  cases fuel with
  | zero =>
    obtain ⟨c, r, rfl, -⟩ := writes_head h
    cases hf
  | succ fuel =>
    cases h with
    | null =>
      rw [readNode_null hskip]
      exact .null
    | true =>
      rw [readNode_true hskip]
      exact .flag
    | false =>
      rw [readNode_false hskip]
      exact .flag
    | @number n _ h =>
      obtain ⟨c, tail, rfl, hc, hread⟩ := Numeral.read_writes h hr
      cases hn : n.negative with
      | true =>
        rw [hn] at hskip hread
        have hminus : skipSpace _ = '-' :: (c :: tail ++ rest) := hskip
        rw [readNode_minus hminus, hread]
        exact .number
      | false =>
        rw [hn] at hskip hread
        have hdigit : skipSpace _ = c :: (tail ++ rest) := hskip
        rw [List.cons_append] at hread
        rw [readNode_digit hdigit hc, hread]
        exact .number
    | @text ps cs h =>
      obtain ⟨hending, hparts⟩ := Quoted.read_writes h rest
      rw [readNode_quote hskip, ← hparts, ← Quoted.text_toOption hending]
      exact .text hending
    | array h =>
      rw [readNode_bracket hskip]
      exact .array (readItems_writes fuel h (by simp at hf; omega))
    | object h =>
      rw [readNode_brace hskip]
      exact .object (readMembers_writes fuel h (by simp at hf; omega))

theorem readItems_writes (fuel : Nat) {first : Bool} {ds : List Doc} {cs rest : List Char}
    (h : WritesItems first ds cs) (hf : 2 * cs.length + 1 ≤ fuel) :
    (readItems fuel first (cs ++ rest)).Holds (cs ++ rest) ds rest := by
  cases fuel with
  | zero => cases hf
  | succ fuel =>
    cases h with
    | @close _ gap hg =>
      have hskip : skipSpace (gap ++ ']' :: rest) = ']' :: rest := by
        rw [skipSpace_append hg, skipSpace_cons rfl]
      rw [List.append_assoc, List.singleton_append, readItems_close hg]
      exact .close hskip
    | @item _ lead d cs ds cs' hl h hs =>
      simp only [List.length_append] at hf
      -- The element takes one character or more, so fuel is left for the elements behind it.
      obtain ⟨c, r, rfl, hc, hend⟩ := writes_head h
      have hlength : 0 < (c :: r).length := Nat.succ_pos _
      have hnode := readNode_writes fuel h space_nil (endsNumber_writesItems hs rest) (by omega)
      rw [List.nil_append, List.cons_append] at hnode
      rw [List.append_assoc, List.append_assoc, List.cons_append]
      obtain ⟨hopen, hread⟩ := readItems_lead hl hc hend hnode.whole.1
      rw [hread]
      exact .item hopen hnode (readItems_writes fuel hs (by omega))

theorem readMembers_writes (fuel : Nat) {first : Bool} {ms : List (Option String × Doc)}
    {cs rest : List Char} (h : WritesMembers first ms cs) (hf : 2 * cs.length + 1 ≤ fuel) :
    (readMembers fuel first (cs ++ rest)).Holds ms rest := by
  cases fuel with
  | zero => cases hf
  | succ fuel =>
    cases h with
    | close hg =>
      rw [List.append_assoc, List.singleton_append, readMembers_close hg]
      exact .close
    | @member _ lead ps name colon d cs ms cs' hl hn hc h hs =>
      obtain ⟨gap, gap', hg, hg', rfl⟩ := hc
      simp only [List.length_append, List.length_cons] at hf
      have hnode := readNode_writes fuel h hg' (endsNumber_writesMembers hs rest) (by omega)
      obtain ⟨hending, hparts⟩ :=
        Quoted.read_writes hn (gap ++ ':' :: (gap' ++ (cs ++ (cs' ++ rest))))
      have hsplit : lead ++ '"' :: (name ++ (gap ++ ':' :: gap' ++ (cs ++ cs'))) ++ rest =
          lead ++ '"' :: (name ++ (gap ++ ':' :: (gap' ++ (cs ++ (cs' ++ rest))))) := by
        simp
      rw [hsplit, readMembers_lead hl hg rfl hending hnode.whole.1, ← hparts,
        ← Quoted.text_toOption hending]
      exact .member hending hnode (readMembers_writes fuel hs (by omega))

end

/-! ## A text has one document -/

theorem eq_of_holds_number {start : List Char} {n : Numeral} {d : Doc} {rest : List Char}
    (h : (Node.number start n).Holds d rest) :
    d = .number ⟨n.negative, n.whole, n.fraction, n.exponent⟩ := by
  cases h
  rfl

mutual

/-- A tree holds one document at most. -/
theorem Node.Holds.unique (node : Node) {d d' : Doc} {rest rest' : List Char}
    (h : node.Holds d rest) (h' : node.Holds d' rest') : d = d' := by
  cases node with
  | null | bool | text =>
    cases h
    cases h'
    rfl
  | number => rw [eq_of_holds_number h, eq_of_holds_number h']
  | array start items =>
    cases h with
    | array h =>
      cases h' with
      | array h' => exact congrArg Doc.array (Items.Holds.unique items h h')
  | object start members =>
    cases h with
    | object h =>
      cases h' with
      | object h' => exact congrArg Doc.object (Members.Holds.unique members h h')
  | broken => cases h

theorem Items.Holds.unique (items : Items) {ahead ahead' : List Char} {ds ds' : List Doc}
    {rest rest' : List Char} (h : items.Holds ahead ds rest) (h' : items.Holds ahead' ds' rest') :
    ds = ds' := by
  cases items with
  | close =>
    cases h
    cases h'
    rfl
  | item node more =>
    cases h with
    | item _ h hs =>
      cases h' with
      | item _ h' hs' => rw [Node.Holds.unique node h h', Items.Holds.unique more hs hs']
  | broken => cases h

theorem Members.Holds.unique (members : Members) {ms ms' : List (Option String × Doc)}
    {rest rest' : List Char} (h : members.Holds ms rest) (h' : members.Holds ms' rest') :
    ms = ms' := by
  cases members with
  | close =>
    cases h
    cases h'
    rfl
  | member name node more =>
    cases h with
    | member _ h hs =>
      cases h' with
      | member _ h' hs' => rw [Node.Holds.unique node h h', Members.Holds.unique more hs hs']
  | broken => cases h

end

/-- **A whole text is read as its document.** Behind it there is space only. -/
theorem IsText.holds {d : Doc} {text : String} (h : IsText d text) :
    ∃ gap, Space gap ∧ (Node.read text.toList).Holds d gap := by
  obtain ⟨gap, cs, gap', hg, hcs, hg', htext⟩ := h
  have hends : EndsNumber gap' := by
    have hends := endsNumber_gap hg' endsNumber_nil
    rwa [List.append_nil] at hends
  have hholds := readNode_writes (2 * text.toList.length + 2) hcs hg hends
    (by rw [htext]; simp only [List.length_append]; omega)
  rw [← htext] at hholds
  exact ⟨gap', hg', hholds⟩

/-- **A text has one document** at most. -/
theorem IsText.unique {d d' : Doc} {text : String} (h : IsText d text) (h' : IsText d' text) :
    d = d' := by
  obtain ⟨gap, -, hholds⟩ := h.holds
  obtain ⟨gap', -, hholds'⟩ := h'.holds
  exact hholds.unique _ hholds'

end Teller.Json
