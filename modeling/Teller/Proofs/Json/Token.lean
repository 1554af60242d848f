import Mathlib.Data.List.TakeWhile
import Teller.Json.Token

/-!
# Tokens that are read back

A string with its escapes is read back as it was, and so are the digits of an integer, if what
follows does not go on with the number.

* `Quoted.read_writeText`: strings.
* `EndsNumber`: a text that goes on with no number.
* `Numeral.read_toDigits`, `Numeral.number_toDigits`: integers.
-/

namespace Teller.Json

/-! ## Strings -/

/-- The control characters that have no escape of their own are read from their number. -/
theorem hexUnit?_lowerHex : ∀ n : Fin 0x20,
    hexUnit? '0' '0' (Text.lowerHex (n / 16)) (Text.lowerHex (n % 16)) = some n.val := by
  decide

/-- A part that stands for a character whatever is around it. -/
def Piece.Spells (p : Piece) (c : Char) : Prop :=
  ∀ ending ps, decodePieces ending (p :: ps) = (c :: ·) <$> decodePieces ending ps

theorem Piece.spells_char (c : Char) : (Piece.char c).Spells c := fun _ _ => by rw [decodePieces]

theorem Piece.spells_unit {c : Char} (h : c.toNat < 0xD800) (rest : List Char) :
    (Piece.unit c.toNat rest).Spells c := by
  intro ending ps
  have htrail : (0xDC00 ≤ c.toNat && c.toNat ≤ 0xDFFF) = false := by
    rw [Bool.and_eq_false_iff, decide_eq_false_iff_not]
    exact Or.inl (by omega)
  have hlead : (0xD800 ≤ c.toNat && c.toNat ≤ 0xDBFF) = false := by
    rw [Bool.and_eq_false_iff, decide_eq_false_iff_not]
    exact Or.inl (by omega)
  rw [decodePieces.eq_def]
  dsimp only
  rw [htrail, hlead, Char.ofNat_toNat]
  rfl

/-- An escape of one letter is read as the character it stands for. -/
theorem Quoted.read_shortEscape {x c : Char} (hx : x ≠ 'u') (h : shortEscape? x = some c)
    (r : List Char) : Quoted.read ('\\' :: x :: r) = (Quoted.read r).push (.char c) := by
  rw [Quoted.read.eq_def]
  dsimp only
  rw [if_neg (by decide), if_pos rfl]
  split
  · rename_i heq
    cases heq
  · rename_i heq
    cases heq
    exact absurd rfl hx
  · rename_i heq
    cases heq
    exact absurd rfl hx
  · rename_i heq
    cases heq
    rw [h]

/-- A character is escaped by one letter or by its number, or stands for itself. -/
theorem escape_cases (c : Char) :
    (∃ x, escape c = ['\\', x] ∧ x ≠ 'u' ∧ shortEscape? x = some c) ∨
      (c.toNat < 0x20 ∧ escape c =
        ['\\', 'u', '0', '0', Text.lowerHex (c.toNat / 16), Text.lowerHex (c.toNat % 16)]) ∨
      (escape c = [c] ∧ c ≠ '"' ∧ c ≠ '\\' ∧ ¬ c.toNat < 0x20) := by
  unfold escape
  split_ifs with hquote hbackslash h8 hc hn hr ht hcontrol
  case pos | pos | pos | pos | pos | pos | pos =>
    subst c
    exact Or.inl ⟨_, rfl, by decide, rfl⟩
  case pos => exact Or.inr (Or.inl ⟨hcontrol, rfl⟩)
  case neg => exact Or.inr (Or.inr ⟨rfl, hquote, hbackslash, hcontrol⟩)

/-- **An escape is read** as the character it stands for. -/
theorem Quoted.read_escape (c : Char) (r : List Char) :
    ∃ p : Piece, p.Spells c ∧ Quoted.read (escape c ++ r) = (Quoted.read r).push p := by
  rcases escape_cases c with ⟨x, hescape, hx, hshort⟩ | ⟨hcontrol, hescape⟩ |
    ⟨hescape, hquote, hbackslash, hcontrol⟩
  · rw [hescape]
    exact ⟨_, Piece.spells_char c, Quoted.read_shortEscape hx hshort r⟩
  · rw [hescape]
    refine ⟨_, Piece.spells_unit (by omega) r, ?_⟩
    have hunit := hexUnit?_lowerHex ⟨c.toNat, hcontrol⟩
    simp only [List.cons_append, List.nil_append]
    rw [Quoted.read.eq_def]
    dsimp only at hunit ⊢
    rw [if_neg (by decide), if_pos rfl]
    simp only [hunit]
  · rw [hescape]
    refine ⟨_, Piece.spells_char c, ?_⟩
    rw [List.singleton_append, Quoted.read.eq_def]
    dsimp only
    rw [if_neg hquote, if_neg hbackslash, if_neg hcontrol]

/-- **A string is read back** from behind its first quote. -/
theorem Quoted.read_escaped (cs rest : List Char) :
    ∃ pieces, Quoted.read (cs.flatMap escape ++ '"' :: rest) = ⟨pieces, .ok rest⟩ ∧
      decodePieces (.ok rest) pieces = .ok cs := by
  induction cs with
  | nil =>
    refine ⟨[], ?_, by rw [decodePieces]⟩
    rw [List.flatMap_nil, List.nil_append, Quoted.read.eq_def]
    exact if_pos rfl
  | cons c cs ih =>
    obtain ⟨pieces, hread, hdecode⟩ := ih
    obtain ⟨p, hp, hescape⟩ := Quoted.read_escape c (cs.flatMap escape ++ '"' :: rest)
    refine ⟨p :: pieces, ?_, ?_⟩
    · rw [List.flatMap_cons, List.append_assoc, hescape, hread]
      rfl
    · rw [hp, hdecode]
      rfl

/-- The string, its text and the text behind it. -/
theorem Quoted.read_writeText (s : String) (rest : List Char) :
    ∃ q : Quoted, q.ending = .ok rest ∧ q.text = .ok s ∧
      Quoted.read (s.toList.flatMap escape ++ '"' :: rest) = q := by
  obtain ⟨pieces, hread, hdecode⟩ := Quoted.read_escaped s.toList rest
  refine ⟨_, rfl, ?_, hread⟩
  rw [Quoted.text, hdecode]
  exact congrArg Except.ok (String.ofList_toList ..)

/-! ## Integers -/

/-- A text that goes on with no number. -/
def EndsNumber (rest : List Char) : Prop :=
  ∀ c ∈ rest.head?, c.isDigit = false ∧ c ≠ '.' ∧ c ≠ 'e' ∧ c ≠ 'E'

theorem endsNumber_nil : EndsNumber [] := fun _ h => nomatch h

theorem le_ofDigitChars (ds : List Char) (n : Nat) : n ≤ Nat.ofDigitChars 10 ds n := by
  induction ds generalizing n with
  | nil => exact Nat.le_refl n
  | cons d ds ih =>
    rw [Nat.ofDigitChars_cons]
    exact Nat.le_trans (by omega) (ih _)

/-- Digits are all taken where the number stays in its bounds. -/
theorem absorb_eq {ds : List Char} {n : Nat} (h : Nat.ofDigitChars 10 ds n < UInt64.size) :
    absorb n ds = (Nat.ofDigitChars 10 ds n, []) := by
  induction ds generalizing n with
  | nil => rfl
  | cons d ds ih =>
    rw [Nat.ofDigitChars_cons, Nat.mul_comm] at h ⊢
    have hn : n * 10 + digit d < UInt64.size := Nat.lt_of_le_of_lt (le_ofDigitChars ds _) h
    rw [absorb, if_pos hn]
    exact ih h

/-- No number but zero begins with one. -/
theorem toDigits_head (n : Nat) (hn : 0 < n) : ∀ c ∈ (Nat.toDigits 10 n).head?, c ≠ '0' := by
  induction n using Nat.strongRecOn with
  | ind n ih =>
    by_cases h : n < 10
    · rw [Nat.toDigits_of_lt_base h]
      rintro c ⟨⟩ hc
      have := congrArg Char.toNat hc
      rw [Nat.toNat_digitChar_of_lt_ten h] at this
      change 48 + n = 48 at this
      omega
    · rw [Nat.toDigits_of_base_le (by decide) (by omega)]
      have := ih (n / 10) (by omega) (by omega)
      cases hd : Nat.toDigits 10 (n / 10) with
      | nil => exact absurd hd Nat.toDigits_ne_nil
      | cons c cs =>
        rw [hd] at this
        exact this

theorem EndsNumber.head {rest : List Char} (h : EndsNumber rest) :
    ∀ c ∈ rest.head?, c.isDigit = false := fun c hc => (h c hc).1

/-- Digits are taken up to what is none. -/
theorem span_digits {ds rest : List Char} (hds : ∀ d ∈ ds, d.isDigit = true)
    (hr : ∀ c ∈ rest.head?, c.isDigit = false) :
    (ds ++ rest).takeWhile Char.isDigit = ds ∧ (ds ++ rest).dropWhile Char.isDigit = rest := by
  have hrest : rest.takeWhile Char.isDigit = [] ∧ rest.dropWhile Char.isDigit = rest := by
    cases rest with
    | nil => exact ⟨rfl, rfl⟩
    | cons c rest =>
      have hc := hr c rfl
      exact ⟨List.takeWhile_cons_of_neg (by simp [hc]), List.dropWhile_cons_of_neg (by simp [hc])⟩
  rw [List.takeWhile_append_of_pos hds, List.dropWhile_append_of_pos hds, hrest.1, hrest.2,
    List.append_nil]
  exact ⟨rfl, rfl⟩

theorem readFraction_of_ends {rest : List Char} (hr : EndsNumber rest) (negative : Bool)
    (whole : List Char) :
    readFraction negative whole rest = ⟨negative, whole, none, none, .ok rest⟩ := by
  cases rest with
  | nil => rfl
  | cons c rest =>
    obtain ⟨-, hpoint, he, hE⟩ := hr c rfl
    unfold readFraction
    dsimp only
    rw [if_neg hpoint, if_neg (by simp [he, hE])]

/-- **The digits of an integer are read**, up to where it ends. -/
theorem Numeral.read_toDigits {rest : List Char} (hr : EndsNumber rest) (negative : Bool)
    (n : Nat) :
    Numeral.read negative (Nat.toDigits 10 n ++ rest) =
      ⟨negative, Nat.toDigits 10 n, none, none, .ok rest⟩ := by
  have hdigits : ∀ c ∈ Nat.toDigits 10 n, c.isDigit = true :=
    fun c hc => Nat.isDigit_of_mem_toDigits (by decide) (by decide) hc
  obtain ⟨htake, hdrop⟩ := span_digits hdigits hr.head
  rcases Nat.eq_zero_or_pos n with rfl | hn
  · show Numeral.read negative ('0' :: rest) = _
    unfold Numeral.read
    dsimp only
    rw [if_pos rfl]
    cases rest with
    | nil => rfl
    | cons c rest =>
      dsimp only
      rw [if_neg (by simp [(hr c rfl).1])]
      exact readFraction_of_ends hr negative _
  · have hhead := toDigits_head n hn
    cases hd : Nat.toDigits 10 n with
    | nil => exact absurd hd Nat.toDigits_ne_nil
    | cons c cs =>
      rw [hd] at htake hdrop hhead hdigits
      unfold Numeral.read
      rw [List.cons_append] at htake hdrop ⊢
      dsimp only
      rw [if_neg (hhead c rfl), if_pos (hdigits c List.mem_cons_self), htake, hdrop]
      exact readFraction_of_ends hr negative _

/-- **The value of an integer** of 64 bits, given its digits. -/
theorem Numeral.number_toDigits (rest : List Char) {negative : Bool} {n : Nat}
    (h : if negative then 0 < n ∧ n ≤ 0x8000000000000000 else n < UInt64.size)
    (ending : Except Gap (List Char)) :
    Numeral.number ⟨negative, Nat.toDigits 10 n, none, none, ending⟩ rest =
      .ok (.integer (if negative then -n else n)) := by
  have hvalue : Nat.ofDigitChars 10 (Nat.toDigits 10 n) 0 = n :=
    Nat.ofDigitChars_toDigits (by decide) (by decide)
  have habsorb : absorb 0 (Nat.toDigits 10 n) = (n, []) := by
    rw [absorb_eq, hvalue]
    rw [hvalue]
    split at h
    · have : UInt64.size = 0x10000000000000000 := rfl
      omega
    · exact h
  unfold Numeral.number
  dsimp only
  rw [habsorb]
  cases negative with
  | false => rfl
  | true =>
    have hn : (n = 0 || n > 0x8000000000000000) = false := by
      simp only [if_true] at h
      rw [Bool.or_eq_false_iff, decide_eq_false_iff_not, decide_eq_false_iff_not]
      omega
    show (if (n = 0 || n > 0x8000000000000000) = true then _ else _) = _
    rw [hn]
    rfl

end Teller.Json
