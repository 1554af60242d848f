import Mathlib.Algebra.GroupWithZero.Nat
import Mathlib.Data.List.Basic
import Teller.Proofs.Json.Decoding
import Teller.Proofs.Text.Infix
import Teller.Session.Id

/-!
# Texts that spell session ids

An id has many spellings: its thirty-two digits, each in either case, alone or in five groups, and
the groups alone, between braces or behind `urn:uuid:`. Nothing else is read as an id, whether from
a text or from a string in a JSON text.

* `Spelling`: the spellings of an id.
* `ofText_eq_ok_iff`: a text is read as an id exactly if it spells it.
* `ofJson_eq_ok_iff`: so is a JSON text exactly if it is a string that spells it.
* `spelling_chars`: the written form is a spelling.
-/

namespace Teller

namespace SessionId

variable {id : SessionId} {c : Char} {cs ds : List Char}

/-! ## Spellings -/

/-- Characters that are the digits of an id, each in either case. -/
def DigitsOf (id : SessionId) (ds : List Char) : Prop := ds.map digit? = id.digits.map some

/-- Characters in the groups of an id, with hyphens between them. -/
def grouped (ds : List Char) : List Char := ['-'].intercalate (cut groupLengths ds)

/-- What names an id in a URN. -/
def urnLead : List Char := ['u', 'r', 'n', ':', 'u', 'u', 'i', 'd', ':']

/-- **How an id is spelled.** -/
inductive Spelling (id : SessionId) : List Char → Prop
  | plain {ds : List Char} : DigitsOf id ds → Spelling id ds
  | hyphenated {ds : List Char} : DigitsOf id ds → Spelling id (grouped ds)
  | braced {ds : List Char} : DigitsOf id ds → Spelling id ('\x7b' :: grouped ds ++ ['\x7d'])
  | urn {lead ds : List Char} : lead.map Char.toLower = urnLead → DigitsOf id ds →
      Spelling id (lead ++ grouped ds)

/-! ## Digits -/

theorem digit?_lowerHex (d : Fin 16) : digit? (Text.lowerHex d.val) = some d := by
  revert d
  decide

theorem toNat_of_digit? (h : (digit? c).isSome) : c.toNat < 128 := by
  by_contra hge
  have hbound : ∀ d : Char, d.toNat < 128 → ¬ c ≤ d := by
    intro d hd hle
    rw [Char.le_def, UInt32.le_iff_toNat_le] at hle
    exact hge (lt_of_le_of_lt hle hd)
  have hnone : Text.hexValue? c = none := by
    have hdigit : ¬ c.isDigit = true := by
      rw [Char.isDigit, Bool.and_eq_true, decide_eq_true_eq, decide_eq_true_eq]
      exact fun hc => hbound '9' (by decide) hc.2
    rw [Text.hexValue?, if_neg hdigit, if_neg, if_neg]
    · simp [hbound 'F' (by decide)]
    · simp [hbound 'f' (by decide)]
  simp [digit?, hnone] at h

/-- A digit is none of the characters that stand between and around digits. -/
theorem ne_of_digit? (h : (digit? c).isSome) : c ≠ '-' ∧ c ≠ '\x7b' ∧ c.toLower ≠ 'u' := by
  have hall : ∀ n : Fin 128, (digit? (Char.ofNat n)).isSome → Char.ofNat n ≠ '-' ∧
      Char.ofNat n ≠ '\x7b' ∧ (Char.ofNat n).toLower ≠ 'u' := by decide
  have hself := hall ⟨c.toNat, toNat_of_digit? h⟩
  rw [Char.ofNat_toNat] at hself
  exact hself h

/-- Digits stand for an id if there are thirty-two. -/
theorem digitsOf_of_isSome (hds : ∀ c ∈ ds, (digit? c).isSome)
    (h : ofDigits? (ds.filterMap digit?) = some id) : DigitsOf id ds := by
  have hid : id.digits = ds.filterMap digit? := by
    unfold ofDigits? at h
    split at h
    · cases h
      rfl
    · cases h
  rw [DigitsOf, hid]
  clear h hid
  induction ds with
  | nil => rfl
  | cons c ds ih =>
    rw [List.forall_mem_cons] at hds
    obtain ⟨d, hd⟩ := Option.isSome_iff_exists.1 hds.1
    rw [List.map_cons, List.filterMap_cons, hd, ih hds.2]
    rfl

theorem DigitsOf.length (h : DigitsOf id ds) : ds.length = 32 := by
  have hlength := congrArg List.length h
  rwa [List.length_map, List.length_map, id.length_eq] at hlength

theorem DigitsOf.isSome (h : DigitsOf id ds) : ∀ c ∈ ds, (digit? c).isSome := by
  intro c hc
  have hmem : digit? c ∈ id.digits.map some := h ▸ List.mem_map_of_mem hc
  obtain ⟨d, -, hd⟩ := List.mem_map.1 hmem
  rw [← hd]
  rfl

theorem DigitsOf.filterMap (h : DigitsOf id ds) : ds.filterMap digit? = id.digits := by
  have hjoin := congrArg (List.filterMap fun d => d) h
  rw [List.filterMap_map, List.filterMap_map] at hjoin
  exact hjoin.trans List.filterMap_some

theorem DigitsOf.ofDigits? (h : DigitsOf id ds) : ofDigits? (ds.filterMap digit?) = some id := by
  rw [h.filterMap, SessionId.ofDigits?, dif_pos id.length_eq]

/-! ## Groups -/

theorem flatten_cut {α : Type} (ns : List Nat) (xs : List α) :
    (cut ns xs).flatten = xs.take ns.sum := by
  induction ns generalizing xs with
  | nil => rfl
  | cons n ns ih => rw [cut, List.flatten_cons, ih, List.sum_cons, List.take_add]

theorem length_cut {α : Type} {ns : List Nat} {xs : List α} (h : ns.sum ≤ xs.length) :
    (cut ns xs).map List.length = ns := by
  induction ns generalizing xs with
  | nil => rfl
  | cons n ns ih =>
    rw [List.sum_cons] at h
    rw [cut, List.map_cons, ih (by rw [List.length_drop]; omega), List.length_take_of_le (by omega)]

/-- Groups are cut again from what they are together. -/
theorem cut_flatten {α : Type} (gs : List (List α)) : cut (gs.map List.length) gs.flatten = gs := by
  induction gs with
  | nil => rfl
  | cons g gs ih =>
    rw [List.map_cons, List.flatten_cons, cut, List.take_left, List.drop_left, ih]

theorem DigitsOf.flatten_cut (h : DigitsOf id ds) : (cut groupLengths ds).flatten = ds := by
  rw [SessionId.flatten_cut]
  exact List.take_of_length_le (Nat.le_of_eq h.length)

/-- The groups of an id are what stands between its hyphens. -/
theorem DigitsOf.splitOn_grouped (h : DigitsOf id ds) :
    (grouped ds).splitOn '-' = cut groupLengths ds := by
  refine List.splitOn_intercalate '-' (fun g hg hmem => ?_) (List.cons_ne_nil _ _)
  have hc : '-' ∈ ds := h.flatten_cut ▸ List.mem_flatten_of_mem hg hmem
  exact (ne_of_digit? (h.isSome '-' hc)).1 rfl

/-- Hyphens between groups are no digits. -/
theorem filterMap_intercalate (gs : List (List Char)) :
    (['-'].intercalate gs).filterMap digit? = gs.flatten.filterMap digit? := by
  induction gs with
  | nil => rfl
  | cons g gs ih =>
    cases gs with
    | nil => rw [List.intercalate_singleton, List.flatten_singleton]
    | cons g' gs =>
      have hmark : ['-'].filterMap digit? = [] := by decide
      rw [List.intercalate_cons_cons, List.filterMap_append, List.filterMap_append, ih, hmark,
        List.append_nil, @List.flatten_cons _ g, List.filterMap_append]

/-! ## Reading -/

theorem badCharacter?_eq_none_iff {offset : Nat} :
    badCharacter? offset cs = none ↔ ∀ c ∈ cs, c = '-' ∨ (digit? c).isSome := by
  induction cs generalizing offset with
  | nil => simp [badCharacter?]
  | cons c cs ih =>
    rw [badCharacter?, List.forall_mem_cons]
    split
    · rename_i hc
      rw [ih]
      exact (and_iff_right hc).symm
    · rename_i hc
      exact iff_of_false (Option.some_ne_none _) fun h => hc h.1

/-- A body is read as an id if it has the groups of one, or is digits alone. -/
theorem ofChars_eq_ok_iff {body : List Char} {offset : Nat} {alone : Bool}
    (hi : inner cs = (body, offset, alone)) : ofChars cs = .ok id ↔
      (∀ c ∈ body, c = '-' ∨ (digit? c).isSome) ∧
        ((body.splitOn '-').map List.length = groupLengths ∨
          (alone ∧ body.length = 32 ∧ (body.splitOn '-').length = 1)) ∧
        ofDigits? (body.filterMap digit?) = some id := by
  rw [← @badCharacter?_eq_none_iff body offset, ofChars, hi]
  dsimp only
  cases hbad : badCharacter? offset body with
  | some e => simp
  | none =>
    rw [eq_self_iff_true, true_and]
    by_cases hknown : (body.splitOn '-').map List.length = groupLengths ∨
      (alone ∧ body.length = 32 ∧ (body.splitOn '-').length = 1)
    · rw [if_pos hknown, and_iff_right hknown]
      cases ofDigits? (body.filterMap digit?) with
      | some i => rw [Except.ok.injEq, Option.some.injEq]
      | none =>
        dsimp only
        split_ifs <;> simp
    · rw [if_neg hknown]
      refine iff_of_false ?_ fun h => hknown h.1
      dsimp only
      split_ifs <;> simp

/-- What stands between hyphens holds digits only. -/
theorem isSome_of_mem_splitOn (hcs : ∀ c ∈ cs, c = '-' ∨ (digit? c).isSome) {g : List Char}
    (hg : g ∈ cs.splitOn '-') : ∀ c ∈ g, (digit? c).isSome := by
  intro c hc
  obtain ⟨hne, hmem⟩ := Text.of_mem_splitOnP hg c hc
  exact (hcs c hmem).resolve_left (beq_eq_false_iff_ne.1 hne)

/-- **What is read of a body** as an id are its digits, in groups or, where nothing stands around
them, alone. -/
theorem exists_digitsOf {body : List Char} {offset : Nat} {alone : Bool}
    (hi : inner cs = (body, offset, alone)) (h : ofChars cs = .ok id) :
    ∃ ds, DigitsOf id ds ∧ (body = grouped ds ∨ alone ∧ body = ds) := by
  obtain ⟨hbody, hknown, hid⟩ := (ofChars_eq_ok_iff hi).1 h
  have hjoin : ['-'].intercalate (body.splitOn '-') = body := List.intercalate_splitOn '-'
  -- The digits are what stands between the hyphens, one part behind the other.
  refine ⟨(body.splitOn '-').flatten, digitsOf_of_isSome (fun c hc => ?_) ?_, ?_⟩
  · obtain ⟨g, hg, hcg⟩ := List.mem_flatten.1 hc
    exact isSome_of_mem_splitOn hbody hg c hcg
  · rwa [← filterMap_intercalate, hjoin]
  · rcases hknown with hlengths | ⟨halone, -, hone⟩
    · exact .inl (by rw [grouped, ← hlengths, cut_flatten, hjoin])
    · obtain ⟨g, hg⟩ := List.length_eq_one_iff.1 hone
      rw [hg, List.intercalate_singleton] at hjoin
      exact .inr ⟨halone, by rw [hg, List.flatten_singleton, hjoin]⟩

/-- The grouped digits of an id are read as it, wherever they are the body. -/
theorem DigitsOf.ofChars_grouped (h : DigitsOf id ds) {offset : Nat} {alone : Bool}
    (hi : inner cs = (grouped ds, offset, alone)) : ofChars cs = .ok id := by
  refine (ofChars_eq_ok_iff hi).2 ⟨?_, .inl ?_, ?_⟩
  · refine Text.forall_mem_intercalate (by simp) fun g hg c hc => .inr (h.isSome c ?_)
    exact h.flatten_cut ▸ List.mem_flatten_of_mem hg hc
  · rw [h.splitOn_grouped]
    exact length_cut (Nat.le_of_eq h.length.symm)
  · rw [grouped, filterMap_intercalate, h.flatten_cut, h.ofDigits?]

/-- The digits of an id alone are read as it. -/
theorem DigitsOf.ofChars_plain (h : DigitsOf id ds) {offset : Nat}
    (hi : inner cs = (ds, offset, true)) : ofChars cs = .ok id := by
  have hwhole : ds.splitOn '-' = [ds] :=
    List.splitOnP_eq_singleton fun c hc => beq_eq_false_iff_ne.2 (ne_of_digit? (h.isSome c hc)).1
  refine (ofChars_eq_ok_iff hi).2 ⟨fun c hc => .inr (h.isSome c hc), .inr ⟨rfl, h.length, ?_⟩, ?_⟩
  · rw [hwhole, List.length_singleton]
  · exact h.ofDigits?

/-! ## What stands around the digits -/

theorem inner_braced (body : List Char) :
    inner ('\x7b' :: body ++ ['\x7d']) = (body, 1, false) := by
  rw [inner, if_pos ⟨rfl, List.getLast?_concat⟩, List.cons_append, List.tail_cons,
    List.dropLast_concat]

theorem inner_urn {lead : List Char} (hlead : lead.map Char.toLower = urnLead) (body : List Char) :
    inner (lead ++ body) = (body, 9, false) := by
  have hlength : lead.length = 9 := by
    have := congrArg List.length hlead
    rwa [List.length_map] at this
  have hhead : ¬ ((lead ++ body).head? = some '\x7b' ∧ (lead ++ body).getLast? = some '\x7d') := by
    cases lead with
    | nil => cases hlength
    | cons c lead =>
      rintro ⟨hc, -⟩
      cases hc
      exact absurd (List.cons.inj hlead).1 (by decide)
  rw [inner, if_neg hhead, if_pos, List.drop_left' hlength]
  rw [List.take_left' hlength, hlead, urnLead]

theorem inner_of_digit (h : (digit? c).isSome) : inner (c :: cs) = (c :: cs, 0, true) := by
  obtain ⟨-, hbrace, hu⟩ := ne_of_digit? h
  rw [inner, if_neg, if_neg]
  · exact fun h => hu (List.cons.inj h).1
  · exact fun h => hbrace (Option.some.inj h.1)

/-- **Where the body of a text stands**: between braces, behind the lead of a URN, or alone. -/
theorem inner_cases (cs : List Char) :
    (∃ body, cs = '\x7b' :: body ++ ['\x7d'] ∧ inner cs = (body, 1, false)) ∨
      (∃ lead body, cs = lead ++ body ∧ lead.map Char.toLower = urnLead ∧
        inner cs = (body, 9, false)) ∨
      inner cs = (cs, 0, true) := by
  by_cases hbraces : cs.head? = some '\x7b' ∧ cs.getLast? = some '\x7d'
  · obtain ⟨hhead, hlast⟩ := hbraces
    obtain ⟨front, rfl⟩ := List.getLast?_eq_some_iff.1 hlast
    cases front with
    | nil => cases hhead
    | cons c body =>
      cases hhead
      exact .inl ⟨body, rfl, inner_braced body⟩
  · by_cases hurn : (cs.take 9).map Char.toLower = urnLead
    · have happend := List.take_append_drop 9 cs
      refine .inr (.inl ⟨_, _, happend.symm, hurn, ?_⟩)
      rw [← happend, inner_urn hurn, happend]
    · exact .inr (.inr (by rw [inner, if_neg hbraces]; exact if_neg hurn))

/-! ## The spellings are what is read -/

/-- Digits stand in front of their groups. -/
theorem exists_grouped_cons (c : Char) (ds : List Char) : ∃ rest, grouped (c :: ds) = c :: rest :=
  ⟨_, rfl⟩

/-- A text that starts with the digits of an id is its own body. -/
theorem DigitsOf.inner_eq (h : DigitsOf id ds) :
    inner ds = (ds, 0, true) ∧ inner (grouped ds) = (grouped ds, 0, true) := by
  cases ds with
  | nil => exact absurd h.length (by decide)
  | cons c ds =>
    have hc := h.isSome c List.mem_cons_self
    obtain ⟨rest, hrest⟩ := exists_grouped_cons c ds
    rw [hrest]
    exact ⟨inner_of_digit hc, inner_of_digit hc⟩

theorem Spelling.ofChars (h : Spelling id cs) : ofChars cs = .ok id := by
  cases h with
  | plain h => exact h.ofChars_plain h.inner_eq.1
  | hyphenated h => exact h.ofChars_grouped h.inner_eq.2
  | braced h => exact h.ofChars_grouped (inner_braced _)
  | urn hlead h => exact h.ofChars_grouped (inner_urn hlead _)

theorem spelling_of_ofChars (h : ofChars cs = .ok id) : Spelling id cs := by
  rcases inner_cases cs with ⟨body, rfl, hi⟩ | ⟨lead, body, rfl, hlead, hi⟩ | hi
  · obtain ⟨ds, hds, rfl | ⟨hno, -⟩⟩ := exists_digitsOf hi h
    · exact .braced hds
    · cases hno
  · obtain ⟨ds, hds, rfl | ⟨hno, -⟩⟩ := exists_digitsOf hi h
    · exact .urn hlead hds
    · cases hno
  · obtain ⟨ds, hds, rfl | ⟨-, rfl⟩⟩ := exists_digitsOf hi h
    · exact .hyphenated hds
    · exact .plain hds

/-- **A text is read as an id exactly if it spells it.** -/
theorem ofText_eq_ok_iff {t : String} : ofText t = .ok id ↔ Spelling id t.toList :=
  ⟨spelling_of_ofChars, Spelling.ofChars⟩

/-- The written form of an id is a spelling, in lower case and with hyphens. -/
theorem spelling_text (id : SessionId) : Spelling id id.text.toList := by
  rw [text, String.toList_ofList]
  refine .hyphenated ?_
  rw [DigitsOf, List.map_map]
  exact List.map_congr_left fun d _ => digit?_lowerHex d

/-- Ids with one written form are one. -/
theorem text_inj {id id' : SessionId} : id.text = id'.text ↔ id = id' := by
  refine ⟨fun h => ?_, congrArg text⟩
  have hid := ofText_eq_ok_iff.2 (spelling_text id)
  rw [h, ofText_eq_ok_iff.2 (spelling_text id')] at hid
  exact (Except.ok.inj hid).symm

/-! ## Ids in JSON texts -/

theorem ofJson_node {node : Json.Node}
    (h : Json.Node.textAs "a formatted UUID string" (fun s =>
      (ofText s).mapError fun e => .refused ("UUID parsing failed: " ++ e.message)) node = .ok id) :
    ∃ start q t, node = .text start q ∧ q.text = .ok t ∧ ofText t = .ok id := by
  cases node with
  | text start q =>
    obtain ⟨t, ht, h⟩ := Json.ok_of_bind h
    refine ⟨start, q, t, rfl, Json.ok_of_orFault ht, ?_⟩
    dsimp only at h
    cases hread : ofText t with
    | ok i => simpa [hread, Except.mapError] using h
    | error e => simp [hread, Except.mapError] at h
  | _ => cases h

/-- Of a string, the id is read that its text spells. -/
theorem ofJson_of_isText {t text : String} (h : Json.IsText (.text (some t)) text) :
    ofJson text = .ok id ↔ ofText t = .ok id := by
  obtain ⟨gap, -, hholds⟩ := h.holds
  rw [ofJson, h.decodeAs_iff]
  -- The tree that is read holds a string, so it is one.
  generalize Json.Node.read text.toList = node at hholds
  generalize hd : Json.Doc.text (some t) = d at hholds
  cases hholds with
  | @text start q _ hq =>
    have hqt : q.text = .ok t := Json.ok_of_toOption (Json.Doc.text.inj hd).symm
    constructor
    · intro h
      obtain ⟨_, _, t', hnode, ht', hid⟩ := ofJson_node h
      cases hnode
      rw [hqt] at ht'
      exact Except.ok.inj ht' ▸ hid
    · intro hid
      refine Json.Node.textAs_text hqt ?_
      rw [hid]
      rfl
  | _ => cases hd

/-- **A JSON text is read as an id exactly if it is a string that spells it**, whatever escapes the
string is written with and whatever space stands around it. -/
theorem ofJson_eq_ok_iff {text : String} : ofJson text = .ok id ↔
    ∃ t, Json.IsText (.text (some t)) text ∧ ofText t = .ok id := by
  refine ⟨fun h => ?_, fun ⟨t, ht, hid⟩ => (ofJson_of_isText ht).2 hid⟩
  obtain ⟨start, q, t, hnode, hq, hid⟩ := ofJson_node (Json.decodeAs_eq_ok_iff.1 h).1
  have hskip : (Json.Node.read text.toList).skip = .ok () := by
    rw [hnode]
    exact Json.Quoted.skip_of_text hq
  obtain ⟨d, hd⟩ := Json.exists_isText_of_decodeAs h hskip
  refine ⟨t, ?_, hid⟩
  obtain ⟨gap, -, hholds⟩ := hd.holds
  rw [hnode] at hholds
  cases hholds with
  | text =>
    rw [hq] at hd
    exact hd

end SessionId

end Teller
