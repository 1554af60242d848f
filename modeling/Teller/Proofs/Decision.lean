import Mathlib.Data.List.Forall2
import Teller.Decision
import Teller.Proofs.Json.Decode
import Teller.Proofs.Text.Trim

/-!
# Texts of decisions

A text names a decision if it is the decision's word in letters of either case, with blanks around
it. Such texts and no others are read as decisions; a JSON string has to be the word itself.

* `Decision.Names`: the texts that name a decision.
* `ofText?_eq_some_iff`: they are what reading accepts.
* `ofJson_eq_ok_iff`: the JSON strings that are decisions.
-/

namespace Teller

namespace Decision

/-- A letter, in capitals or small. -/
def IsLetter (c letter : Char) : Prop := c = letter ∨ c = letter.toLower

/-- **A text names a decision** if it is its word, in letters of either case, with blanks around
it. -/
def Names (text : String) (d : Decision) : Prop :=
  ∃ before core after, text.toList = before ++ core ++ after ∧
    (∀ c ∈ before, Text.isBlank c = true) ∧ (∀ c ∈ after, Text.isBlank c = true) ∧
    List.Forall₂ IsLetter core d.word.toList

variable {text : String} {d : Decision}

/-! ## Letters -/

/-- A capital is 32 places in front of its small letter. -/
theorem toNat_toUpper (c : Char) :
    c.toUpper.toNat = if 0x61 ≤ c.toNat ∧ c.toNat ≤ 0x7A then c.toNat - 0x20 else c.toNat := by
  have hsmall : ('a'.val ≤ c.val ∧ c.val ≤ 'z'.val) ↔ 0x61 ≤ c.toNat ∧ c.toNat ≤ 0x7A := by
    rw [UInt32.le_iff_toNat_le, UInt32.le_iff_toNat_le]
    rfl
  unfold Char.toUpper
  split
  · rename_i h
    have hc := hsmall.1 h
    rw [if_pos hc]
    -- Subtracting comes to adding and wrapping around.
    show (c.val + ('A'.val - 'a'.val)).toNat = c.toNat - 0x20
    have hval : c.val.toNat = c.toNat := rfl
    rw [UInt32.toNat_add]
    show (c.val.toNat + 0xFFFFFFE0) % 2 ^ 32 = c.toNat - 0x20
    omega
  · rename_i h
    rw [if_neg fun hc => h (hsmall.2 hc)]

/-- The letters of decisions are capitals, and no blanks. -/
theorem letters_of_word (d : Decision) : ∀ l ∈ d.word.toList,
    (0x41 ≤ l.toNat ∧ l.toNat ≤ 0x5A) ∧ l.toLower.toNat = l.toNat + 0x20 ∧
      Text.isBlank l = false ∧ Text.isBlank l.toLower = false := by
  have hall : d.word.toList.all (fun l =>
      decide ((0x41 ≤ l.toNat ∧ l.toNat ≤ 0x5A) ∧ l.toLower.toNat = l.toNat + 0x20 ∧
        Text.isBlank l = false ∧ Text.isBlank l.toLower = false)) = true := by
    cases d <;> decide
  intro l hl
  exact of_decide_eq_true (List.all_eq_true.1 hall l hl)

/-- A character is one of a decision's letters exactly if that letter is its capital. -/
theorem toUpper_eq_iff {c l : Char} (hl : l ∈ d.word.toList) : c.toUpper = l ↔ IsLetter c l := by
  obtain ⟨hcapital, hsmall, -, -⟩ := letters_of_word d l hl
  unfold IsLetter
  rw [← Char.toNat_inj, ← Char.toNat_inj, ← Char.toNat_inj, toNat_toUpper, hsmall]
  split <;> omega

/-- The letters of a word in either case are those that have the word as their capitals. -/
theorem map_toUpper_eq_iff {core letters : List Char} (hl : letters ⊆ d.word.toList) :
    core.map Char.toUpper = letters ↔ List.Forall₂ IsLetter core letters := by
  induction letters generalizing core with
  | nil => rw [List.map_eq_nil_iff, List.forall₂_nil_right_iff]
  | cons l letters ih =>
    obtain ⟨hfirst, hrest⟩ := List.cons_subset.1 hl
    cases core with
    | nil =>
      constructor
      · intro h
        cases h
      · intro h
        cases h
    | cons c core => rw [List.map_cons, List.cons.injEq, List.forall₂_cons, ih hrest,
        toUpper_eq_iff hfirst]

/-- No letter of a word is blank. -/
theorem not_blank_of_letters {core letters : List Char} (hl : letters ⊆ d.word.toList)
    (h : List.Forall₂ IsLetter core letters) : ∀ c ∈ core, Text.isBlank c = false := by
  induction h with
  | nil => exact fun c hc => nomatch hc
  | @cons c l core letters hcl h ih =>
    obtain ⟨hfirst, hrest⟩ := List.cons_subset.1 hl
    obtain ⟨-, -, hbig, hsmall⟩ := letters_of_word d l hfirst
    refine List.forall_mem_cons.2 ⟨?_, ih hrest⟩
    rcases hcl with rfl | rfl
    · exact hbig
    · exact hsmall

/-! ## Texts -/

/-- A text is read by the capitals of what trimming leaves of it. -/
theorem ofText?_eq_some_iff_toUpper :
    ofText? text = some d ↔ (Text.trim text).map Char.toUpper = d.word := by
  unfold ofText?
  dsimp only
  generalize (Text.trim text).map Char.toUpper = t
  by_cases ha : t = word .accepted
  · rw [if_pos ha, ha]
    cases d <;> simp [word]
  · rw [if_neg ha]
    by_cases hr : t = word .rejected
    · rw [if_pos hr, hr]
      cases d <;> simp [word]
    · rw [if_neg hr]
      cases d <;> simp [ha, hr]

/-- **The texts that are decisions** are those that name one. -/
theorem ofText?_eq_some_iff : ofText? text = some d ↔ Names text d := by
  rw [ofText?_eq_some_iff_toUpper, ← String.toList_inj, String.toList_map, Text.trim,
    String.toList_ofList, map_toUpper_eq_iff (List.Subset.refl _)]
  constructor
  · intro h
    obtain ⟨before, after, hcs, hbefore, hafter⟩ :=
      Text.exists_append_trimWhere Text.isBlank text.toList
    exact ⟨before, _, after, hcs, hbefore, hafter, h⟩
  · rintro ⟨before, core, after, hcs, hbefore, hafter, h⟩
    have hcore := not_blank_of_letters (List.Subset.refl _) h
    rw [hcs, Text.trimWhere_append hbefore hcore hafter]
    exact h

/-- A text that names no decision is none. -/
theorem ofText?_eq_none_iff : ofText? text = none ↔ ∀ d, ¬ Names text d := by
  rw [Option.eq_none_iff_forall_ne_some]
  constructor
  · intro h d hd
    exact h d (ofText?_eq_some_iff.2 hd)
  · intro h d hd
    exact h d (ofText?_eq_some_iff.1 hd)

/-- The word of a decision names it. -/
theorem names_word (d : Decision) : Names d.word d :=
  ofText?_eq_some_iff.1 (by cases d <;> decide +kernel)

end Decision

/-! ## Documents -/

namespace Json

/-- A text whose value is a string is the tree of a string. -/
theorem value_of_readValue {text s : String} (h : readValue text = .ok (.text s)) :
    (Node.read text.toList).value depthLimit = .ok (.text s) ∧
      skipSpace ((Node.read text.toList).rest?.getD []) = [] := by
  obtain ⟨v, hv, hsorted⟩ := ok_of_map h
  obtain ⟨hread, hrest⟩ := decodeAs_eq_ok_iff.1 hv
  refine ⟨?_, hrest⟩
  cases hvalue : (Node.read text.toList).value depthLimit with
  | error f =>
    rw [hvalue] at hread
    cases hread
  | ok v' =>
    rw [hvalue] at hread
    cases hread
    -- Sorting leaves strings, and makes none.
    cases v with
    | text s =>
      cases hsorted
      rfl
    | _ => cases hsorted

/-- A string that is read as one of some words is that word. -/
theorem textAs_pickWord {wanted s : String} {choices : List String} {start : List Char}
    {q : Quoted} {i : Fin choices.length} (hq : q.text = .ok s)
    (h : Node.textAs wanted (pickWord choices) (.text start q) = .ok i) : choices[i] = s := by
  rw [Node.textAs, hq] at h
  simp only [orFault, bind, Except.bind, pickWord] at h
  cases hi : choices.finIdxOf? s with
  | none =>
    rw [hi] at h
    cases h
  | some j =>
    rw [hi] at h
    cases h
    exact (List.finIdxOf?_eq_some_iff.1 hi).1

end Json

namespace Decision

variable {d : Decision}

/-- The decision at a place among the words is the one of that word. -/
theorem word_ofIndex (i : Fin words.length) : (ofIndex i).word = words[i] := by
  revert i
  decide

/-- The word of a decision stands at its place. -/
theorem finIdxOf?_word (d : Decision) : ∃ i, words.finIdxOf? d.word = some i ∧ ofIndex i = d := by
  cases d
  · exact ⟨⟨0, by decide⟩, by decide, rfl⟩
  · exact ⟨⟨1, by decide⟩, by decide, rfl⟩

/-- **A JSON string is a decision** exactly if it is the word of one. -/
theorem ofJson_eq_ok_iff {json content : String} (h : Json.readValue json = .ok (.text content)) :
    ofJson json = .ok d ↔ content = d.word := by
  obtain ⟨hvalue, hrest⟩ := Json.value_of_readValue h
  constructor
  · intro hjson
    obtain ⟨i, hi, rfl⟩ := Json.ok_of_map hjson
    obtain ⟨start, q, hnode, hq⟩ := Json.Node.isFor_of_value hvalue
    have hread := (Json.decodeAs_eq_ok_iff.1 hi).1
    rw [hnode] at hread
    have hpick : Json.Node.textAs "" (Json.pickWord words) (.text start q) = .ok i := hread
    rw [word_ofIndex]
    exact (Json.textAs_pickWord hq hpick).symm
  · rintro rfl
    obtain ⟨i, hi, rfl⟩ := finIdxOf?_word d
    have hread := (@Json.StandsFor.word 0 words _ i hi).decodes _ _ hvalue
    have hdecode : Json.decode shape json = .ok i := Json.decodeAs_eq_ok_iff.2 ⟨hread, hrest⟩
    unfold ofJson
    rw [hdecode]
    rfl

end Decision

end Teller
