import Teller.Proofs.Json.Document
import Teller.Proofs.Json.Syntax

/-!
# Strings and numbers of a text

The reader takes exactly what the grammar calls a string or a number, and what it takes stands for
the same.

* `Quoted.read_writes`, `Quoted.exists_writes`: strings; `Quoted.text_toOption`: their texts.
* `Numeral.read_writes`, `Numeral.exists_writes`: numbers; `Lexeme.number_integer_iff`: the integers
  of 64 bits among them.
-/

namespace Teller.Json

variable {rest cs : List Char}

/-! ## Strings -/

/-- A part of a string, wherever it stands. -/
def Piece.part : Piece → Part
  | .char c => .char c
  | .unit n _ => .unit n

/-- The parts of a string. -/
def Quoted.parts (q : Quoted) : List Part := q.pieces.map Piece.part

theorem toOption_map {ε α β : Type} (f : α → β) (x : Except ε α) :
    (f <$> x).toOption = f <$> x.toOption := by
  cases x <;> rfl

/-- Where a string ends, its parts stand for what is read of them. -/
theorem decodePieces_toOption (rest : List Char) (ps : List Piece) :
    (decodePieces (.ok rest) ps).toOption = charsOf? (ps.map Piece.part) := by
  generalize hok : (Except.ok rest : Except Gap (List Char)) = ending
  fun_induction decodePieces ending ps with
  | case1 => rfl
  | case2 gap hgap => cases hok.trans hgap
  | case3 c ps ih =>
    rw [toOption_map, ih]
    rfl
  | case4 n r ps htrail =>
    rw [List.map_cons, Piece.part, charsOf?.eq_def]
    exact (if_pos htrail).symm
  | case5 n r htrail hlead m r' ps hpair ih =>
    rw [toOption_map, ih, List.map_cons, List.map_cons, Piece.part, Piece.part,
      charsOf?.eq_def (.unit n :: _)]
    dsimp only
    rw [if_neg htrail, if_pos hlead, if_pos hpair]
  | case6 n r htrail hlead m r' ps hpair =>
    rw [List.map_cons, List.map_cons, Piece.part, Piece.part, charsOf?.eq_def]
    dsimp only
    rw [if_neg htrail, if_pos hlead, if_neg hpair]
    rfl
  | case7 n r ps htrail hlead hunit =>
    rw [List.map_cons, Piece.part, charsOf?.eq_def]
    dsimp only
    rw [if_neg htrail, if_pos hlead]
    split
    · rename_i m ps' heq
      obtain ⟨p, ps, rfl, hp, -⟩ := List.map_eq_cons_iff.1 heq
      cases p with
      | char c => cases hp
      | unit m r' => exact absurd rfl (hunit m r' ps)
    · rfl
  | case8 n r ps htrail hlead ih =>
    rw [toOption_map, ih, List.map_cons, Piece.part, charsOf?.eq_def (.unit n :: _)]
    dsimp only
    rw [if_neg htrail, if_neg hlead]

theorem Quoted.text_toOption {q : Quoted} (h : q.ending = .ok rest) :
    q.text.toOption = textOf? q.parts := by
  rw [Quoted.text, textOf?, toOption_map, h, decodePieces_toOption]
  rfl

/-- **A text of a string is read** to its end, and as its parts. -/
theorem Quoted.read_writes {ps : List Part} (h : WritesParts ps cs) (rest : List Char) :
    (Quoted.read (cs ++ rest)).ending = .ok rest ∧ (Quoted.read (cs ++ rest)).parts = ps := by
  induction h with
  | close =>
    rw [List.singleton_append, Quoted.read.eq_def]
    exact ⟨rfl, rfl⟩
  | @plain c ps cs hq hb hc _ ih =>
    rw [List.cons_append, Quoted.read.eq_def]
    dsimp only
    rw [if_neg hq, if_neg hb, if_neg hc]
    exact ⟨ih.1, congrArg (Part.char c :: ·) ih.2⟩
  | @short x c ps cs hx _ ih =>
    have hu : x ≠ 'u' := by
      rintro rfl
      cases hx
    rw [List.cons_append, List.cons_append, Quoted.read_shortEscape hu hx]
    exact ⟨ih.1, congrArg (Part.char c :: ·) ih.2⟩
  | @unit x y z w n ps cs hn _ ih =>
    simp only [List.cons_append]
    rw [Quoted.read.eq_def]
    dsimp only
    rw [if_neg (by decide), if_pos rfl]
    simp only [hn]
    exact ⟨ih.1, congrArg (Part.unit n :: ·) ih.2⟩

/-- **What is read as a string** is the text of one. -/
theorem Quoted.exists_writes (s : List Char) (h : (Quoted.read s).ending = .ok rest) :
    ∃ cs, WritesParts (Quoted.read s).parts cs ∧ s = cs ++ rest := by
  fun_induction Quoted.read s with
  | case2 =>
    cases h
    exact ⟨['"'], .close, rfl⟩
  | case4 x y z w r n hn _ ih =>
    obtain ⟨cs, hcs, rfl⟩ := ih h
    exact ⟨_, .unit hn hcs, rfl⟩
  | case7 x r _ _ y hx _ ih =>
    obtain ⟨cs, hcs, rfl⟩ := ih h
    exact ⟨_, .short hx hcs, rfl⟩
  | case10 c r hq hb hc ih =>
    obtain ⟨cs, hcs, rfl⟩ := ih h
    exact ⟨_, .plain hq hb hc hcs, rfl⟩
  | _ => cases h

/-! ## Numbers -/

/-- What is read of a number that a text follows. -/
def Lexeme.numeral (n : Lexeme) (rest : List Char) : Numeral :=
  ⟨n.negative, n.whole, n.fraction, n.exponent, .ok rest⟩

variable {negative : Bool} {whole ds s : List Char}

/-- What is taken while it is digits is digits, if there is one in front. -/
theorem digits_takeWhile {d : Char} (hd : d.isDigit = true) :
    Digits ((d :: s).takeWhile Char.isDigit) := by
  refine ⟨?_, fun c => List.mem_takeWhile_imp⟩
  rw [List.takeWhile_cons_of_pos hd]
  exact List.cons_ne_nil _ _

/-- A digit in front of all that follows. -/
theorem Digits.exists_cons (h : Digits ds) : ∃ d tail, ds = d :: tail ∧ d.isDigit = true := by
  obtain ⟨d, tail, rfl⟩ := List.exists_cons_of_ne_nil h.1
  exact ⟨d, tail, rfl, h.2 d List.mem_cons_self⟩

theorem not_isDigit_sign {c : Char} (hc : c.isDigit = true) :
    c ≠ '+' ∧ c ≠ '-' ∧ c ≠ '.' ∧ c ≠ 'e' ∧ c ≠ 'E' := by
  refine ⟨?_, ?_, ?_, ?_, ?_⟩ <;> (rintro rfl; cases hc)

/-- An exponent without a sign. -/
theorem readExponent_unsigned {fraction : Option (List Char)} {d : Char} (hd : d.isDigit = true)
    (s : List Char) :
    readExponent negative whole fraction (d :: s) =
      ⟨negative, whole, fraction, some (false, (d :: s).takeWhile Char.isDigit),
        .ok ((d :: s).dropWhile Char.isDigit)⟩ := by
  obtain ⟨hplus, hminus, -⟩ := not_isDigit_sign hd
  simp [readExponent, hplus, hminus, hd]

/-- An exponent is read behind its sign. -/
theorem readExponent_sign {fraction : Option (List Char)} {sign : List Char} {down : Bool}
    (hs : SignOf down sign) {d : Char} (hd : d.isDigit = true) (s : List Char) :
    readExponent negative whole fraction (sign ++ d :: s) =
      ⟨negative, whole, fraction, some (down, (d :: s).takeWhile Char.isDigit),
        .ok ((d :: s).dropWhile Char.isDigit)⟩ := by
  rcases hs with ⟨rfl | rfl, rfl⟩ | ⟨rfl, rfl⟩
  · exact readExponent_unsigned hd s
  · exact if_pos hd
  · exact if_pos hd

/-- An exponent is read behind its letter. -/
theorem readExponent_digits {fraction : Option (List Char)} {sign : List Char} {down : Bool}
    (hs : SignOf down sign) (h : Digits ds) (hrest : EndsNumber rest) :
    readExponent negative whole fraction (sign ++ (ds ++ rest)) =
      ⟨negative, whole, fraction, some (down, ds), .ok rest⟩ := by
  obtain ⟨htake, hdrop⟩ := span_digits h.2 hrest.head
  obtain ⟨d, tail, rfl, hd⟩ := h.exists_cons
  rw [List.cons_append] at htake hdrop ⊢
  rw [readExponent_sign hs hd, htake, hdrop]

/-- What follows the digits behind a point. -/
theorem readFraction_point {d : Char} (hd : d.isDigit = true) (s : List Char) :
    readFraction negative whole ('.' :: d :: s) =
      match (d :: s).dropWhile Char.isDigit with
      | e :: r =>
        if e = 'e' || e = 'E' then
          readExponent negative whole (some ((d :: s).takeWhile Char.isDigit)) r
        else ⟨negative, whole, some ((d :: s).takeWhile Char.isDigit), none, .ok (e :: r)⟩
      | [] => ⟨negative, whole, some ((d :: s).takeWhile Char.isDigit), none, .ok []⟩ := by
  unfold readFraction
  exact (if_pos rfl).trans (if_pos hd)

/-- **What stands behind the whole digits** is read as it is. -/
theorem readFraction_writes {fraction : Option (List Char)} {exponent : Option (Bool × List Char)}
    {fs es : List Char} (hf : WritesFraction fraction fs) (he : WritesExponent exponent es)
    (hrest : EndsNumber rest) :
    readFraction negative whole (fs ++ (es ++ rest)) =
      ⟨negative, whole, fraction, exponent, .ok rest⟩ := by
  cases hf with
  | none =>
    cases he with
    | none => exact readFraction_of_ends hrest _ _
    | @some e sign down ds he hs h =>
      have hpoint : e ≠ '.' := by rcases he with rfl | rfl <;> decide
      have hletter : (e = 'e' || e = 'E') = true := by simpa using he
      rw [List.nil_append, List.cons_append, List.append_assoc]
      unfold readFraction
      dsimp only
      rw [if_neg hpoint, if_pos hletter, readExponent_digits hs h hrest]
  | @some ds hds =>
    have hends : ∀ c ∈ (es ++ rest).head?, c.isDigit = false := by
      cases he with
      | none => exact hrest.head
      | some he =>
        rintro c ⟨⟩
        rcases he with rfl | rfl <;> decide
    obtain ⟨htake, hdrop⟩ := span_digits hds.2 hends
    obtain ⟨d, tail, rfl, hd⟩ := hds.exists_cons
    rw [List.cons_append] at htake hdrop
    rw [List.cons_append, List.cons_append, readFraction_point hd, htake, hdrop]
    cases he with
    | none =>
      rw [List.nil_append]
      cases rest with
      | nil => rfl
      | cons c rest =>
        obtain ⟨-, -, he, hE⟩ := hrest c rfl
        exact if_neg (by simp [he, hE])
    | @some e sign down ds he hs h =>
      have hletter : (e = 'e' || e = 'E') = true := by simpa using he
      rw [List.cons_append, List.append_assoc]
      exact (if_pos hletter).trans (readExponent_digits hs h hrest)

/-- A whole number is read up to what follows its digits. -/
theorem Numeral.read_whole (h : Digits ds) (hleading : ds.head? = some '0' → ds = ['0'])
    (hs : ∀ c ∈ s.head?, c.isDigit = false) :
    Numeral.read negative (ds ++ s) = readFraction negative ds s := by
  obtain ⟨htake, hdrop⟩ := span_digits h.2 hs
  obtain ⟨d, tail, rfl, hd⟩ := h.exists_cons
  by_cases hzero : d = '0'
  · subst hzero
    cases hleading rfl
    cases s with
    | nil => rfl
    | cons c s => exact if_neg (by simp [hs c rfl])
  · rw [List.cons_append] at htake hdrop
    unfold Numeral.read
    rw [List.cons_append]
    dsimp only
    rw [if_neg hzero, if_pos hd, htake, hdrop]

/-- **A text of a number is read** behind its sign, up to what goes on with no number. -/
theorem Numeral.read_writes {n : Lexeme} (h : WritesNumber n cs) (hrest : EndsNumber rest) :
    ∃ d tail, cs = (if n.negative then ['-'] else []) ++ d :: tail ∧ d.isDigit = true ∧
      Numeral.read n.negative (d :: tail ++ rest) = n.numeral rest := by
  obtain ⟨hdigits, hleading, fs, es, hf, he, rfl⟩ := h
  obtain ⟨d, tail, hwhole, hd⟩ := hdigits.exists_cons
  refine ⟨d, tail ++ (fs ++ es), by rw [hwhole, List.cons_append], hd, ?_⟩
  have hends : ∀ c ∈ (fs ++ (es ++ rest)).head?, c.isDigit = false := by
    clear hwhole
    generalize n.fraction = fraction at hf
    generalize n.exponent = exponent at he
    cases hf with
    | some =>
      rintro c ⟨⟩
      rfl
    | none =>
      cases he with
      | none => exact hrest.head
      | some he =>
        rintro c ⟨⟩
        rcases he with rfl | rfl <;> decide
  rw [← List.cons_append, ← hwhole, List.append_assoc, List.append_assoc,
    Numeral.read_whole hdigits hleading hends, readFraction_writes hf he hrest]
  rfl

/-! ### What is read -/

theorem readExponent_exists {fraction : Option (List Char)}
    (h : (readExponent negative whole fraction s).ending = .ok rest) :
    ∃ down sign ds, SignOf down sign ∧ Digits ds ∧ s = sign ++ (ds ++ rest) ∧
      readExponent negative whole fraction s =
        ⟨negative, whole, fraction, some (down, ds), .ok rest⟩ := by
  revert h
  fun_cases readExponent negative whole fraction s with
  | case1 | case3 =>
    intro h
    cases h
  | case2 down d r hd heq =>
    intro h
    have hsign : ∃ sign, SignOf down sign ∧ s = sign ++ d :: r := by
      split at heq
      · cases heq
        exact ⟨['-'], .inr ⟨rfl, rfl⟩, rfl⟩
      · cases heq
        exact ⟨['+'], .inl ⟨.inr rfl, rfl⟩, rfl⟩
      · cases heq
        exact ⟨[], .inl ⟨.inl rfl, rfl⟩, rfl⟩
    obtain ⟨sign, hs, rfl⟩ := hsign
    cases h
    refine ⟨down, sign, _, hs, digits_takeWhile hd, ?_, rfl⟩
    rw [List.takeWhile_append_dropWhile]

/-- **What is read behind the whole digits** is the text of a fraction and an exponent. -/
theorem readFraction_exists (h : (readFraction negative whole s).ending = .ok rest) :
    ∃ fraction exponent fs es, WritesFraction fraction fs ∧ WritesExponent exponent es ∧
      s = fs ++ (es ++ rest) ∧
      readFraction negative whole s = ⟨negative, whole, fraction, exponent, .ok rest⟩ := by
  cases s with
  | nil =>
    cases h
    exact ⟨_, _, _, _, .none, .none, rfl, rfl⟩
  | cons c r =>
    by_cases hpoint : c = '.'
    · subst hpoint
      cases r with
      | nil => cases h
      | cons d r =>
        by_cases hd : d.isDigit = true
        · rw [readFraction_point hd] at h ⊢
          have hfs : WritesFraction _ _ := .some (@digits_takeWhile r d hd)
          have hsplit : d :: r =
              (d :: r).takeWhile Char.isDigit ++ (d :: r).dropWhile Char.isDigit :=
            List.takeWhile_append_dropWhile.symm
          generalize (d :: r).takeWhile Char.isDigit = ds at h hfs hsplit ⊢
          generalize (d :: r).dropWhile Char.isDigit = r' at h hsplit ⊢
          rw [hsplit]
          split at h
          · rename_i e r'
            split at h
            · rename_i he
              obtain ⟨down, sign, es, hs, hes, rfl, hread⟩ := readExponent_exists h
              have hletter := WritesExponent.some (by simpa using he) hs hes
              refine ⟨_, _, _, _, hfs, hletter, ?_, (if_pos he).trans hread⟩
              simp
            · rename_i he
              cases h
              exact ⟨_, _, _, _, hfs, .none, rfl, if_neg he⟩
          · cases h
            exact ⟨_, _, _, _, hfs, .none, rfl, rfl⟩
        · unfold readFraction at h
          dsimp only at h
          rw [if_pos rfl, if_neg hd] at h
          cases h
    · unfold readFraction at h ⊢
      dsimp only at h ⊢
      rw [if_neg hpoint] at h ⊢
      split at h
      · rename_i he
        obtain ⟨down, sign, es, hs, hes, rfl, hread⟩ := readExponent_exists h
        refine ⟨_, _, _, _, .none, .some (by simpa using he) hs hes, ?_, (if_pos he).trans hread⟩
        simp
      · rename_i he
        cases h
        exact ⟨_, _, _, _, .none, .none, rfl, if_neg he⟩

/-- **What is read as a number** is the text of one. -/
theorem Numeral.exists_writes (h : (Numeral.read negative s).ending = .ok rest) :
    ∃ n cs, WritesNumber n ((if negative then ['-'] else []) ++ cs) ∧ s = cs ++ rest ∧
      Numeral.read negative s = n.numeral rest := by
  -- Behind whole digits there is a fraction and an exponent, in each of the three ways.
  have hwhole {ds r : List Char} (hds : Digits ds) (hleading : ds.head? = some '0' → ds = ['0'])
      (h : (readFraction negative ds r).ending = .ok rest) :
      ∃ n cs, WritesNumber n ((if negative then ['-'] else []) ++ cs) ∧ ds ++ r = cs ++ rest ∧
        readFraction negative ds r = n.numeral rest := by
    obtain ⟨fraction, exponent, fs, es, hf, he, rfl, hread⟩ := readFraction_exists h
    refine ⟨⟨negative, ds, fraction, exponent⟩, ds ++ (fs ++ es),
      ⟨hds, hleading, fs, es, hf, he, rfl⟩, ?_, hread⟩
    simp
  have hzero : Digits ['0'] := ⟨List.cons_ne_nil _ _, by simp⟩
  revert h
  fun_cases Numeral.read negative s with
  | case1 | case2 | case6 =>
    intro h
    cases h
  | case3 e r he => exact hwhole hzero fun _ => rfl
  | case4 => exact hwhole hzero fun _ => rfl
  | case5 d r hzero hd =>
    intro h
    have hleading : ((d :: r).takeWhile Char.isDigit).head? = some '0' →
        (d :: r).takeWhile Char.isDigit = ['0'] := by
      rw [List.takeWhile_cons_of_pos hd]
      exact fun hhead => absurd (Option.some.inj hhead) hzero
    obtain ⟨n, cs, hn, hcs, hread⟩ := hwhole (digits_takeWhile hd) hleading h
    rw [List.takeWhile_append_dropWhile] at hcs
    exact ⟨n, cs, hn, hcs, hread⟩

/-! ### Integers -/

/-- Where no digits are left over, all were taken. -/
theorem eq_of_absorb {m n : Nat} (hn : n < UInt64.size) (h : absorb n ds = (m, [])) :
    m = Nat.ofDigitChars 10 ds n ∧ m < UInt64.size := by
  induction ds generalizing n with
  | nil =>
    cases h
    exact ⟨rfl, hn⟩
  | cons d ds ih =>
    rw [absorb] at h
    split at h
    · rename_i hd
      rw [Nat.ofDigitChars_cons, Nat.mul_comm]
      exact ih hd h
    · cases h

/-- A number with a point or an exponent is no integer. -/
theorem number_ne_integer {n : Numeral} {k : Int} (h : n.fraction ≠ none ∨ n.exponent ≠ none) :
    n.number rest ≠ .ok (.integer k) := by
  obtain ⟨negative, whole, fraction, exponent, ending⟩ := n
  unfold Numeral.number
  dsimp only at h ⊢
  cases exponent with
  | some e =>
    dsimp only
    repeat' split
    all_goals exact fun h => nomatch h
  | none =>
    cases fraction with
    | none => simp at h
    | some ds =>
      dsimp only [Option.isSome_some]
      rw [if_pos (Bool.true_or _)]
      repeat' split
      all_goals exact fun h => nomatch h

/-- A number of nothing but digits is an integer where they were all taken, and none with a sign
unless it is one of 64 bits below zero. -/
theorem number_digits_iff {ending : Except Gap (List Char)} {k : Int} :
    Numeral.number ⟨negative, whole, none, none, ending⟩ rest = .ok (.integer k) ↔
      ∃ m, absorb 0 whole = (m, []) ∧
        (if negative then m ≠ 0 ∧ m ≤ 0x8000000000000000 ∧ k = -m else k = m) := by
  unfold Numeral.number
  dsimp only
  obtain ⟨m, left⟩ := absorb 0 whole
  dsimp only
  cases left with
  | cons d left =>
    rw [if_pos (by rfl)]
    constructor
    · intro h
      split at h <;> cases h
    · rintro ⟨_, ⟨⟩, -⟩
  | nil =>
    rw [if_neg (by decide)]
    cases negative with
    | false =>
      rw [if_pos (by rfl)]
      constructor
      · intro h
        cases h
        exact ⟨m, rfl, rfl⟩
      · rintro ⟨_, ⟨⟩, hk⟩
        rw [if_neg Bool.false_ne_true] at hk
        rw [hk]
    | true =>
      rw [if_neg (by decide)]
      by_cases hm : m = 0 ∨ 0x8000000000000000 < m
      · rw [if_pos (by simpa using hm)]
        refine iff_of_false (fun h => nomatch h) ?_
        rintro ⟨_, ⟨⟩, hk⟩
        rw [if_pos rfl] at hk
        omega
      · rw [if_neg (by simpa using hm)]
        rw [not_or, not_lt] at hm
        constructor
        · intro h
          cases h
          exact ⟨m, rfl, hm.1, hm.2, rfl⟩
        · rintro ⟨_, ⟨⟩, -, -, hk⟩
          rw [hk]

/-- **The integers of 64 bits** are what they say; only a zero with a sign is none of them. -/
theorem Lexeme.number_integer_iff {n : Lexeme} {k : Int} :
    (n.numeral rest).number rest = .ok (.integer k) ↔
      n.int? = some k ∧ -0x8000000000000000 ≤ k ∧ k < 0x10000000000000000 ∧ ¬ n.MinusZero := by
  obtain ⟨negative, whole, fraction, exponent⟩ := n
  by_cases hplain : fraction = none ∧ exponent = none
  · obtain ⟨rfl, rfl⟩ := hplain
    rw [Lexeme.numeral, number_digits_iff]
    have hint : Lexeme.int? ⟨negative, whole, none, none⟩ =
        some (if negative then -(Nat.ofDigitChars 10 whole 0 : Int)
          else (Nat.ofDigitChars 10 whole 0 : Int)) := if_pos ⟨rfl, rfl⟩
    have habsorb (m : Nat) : absorb 0 whole = (m, []) ↔
        m = Nat.ofDigitChars 10 whole 0 ∧ m < UInt64.size := by
      constructor
      · exact eq_of_absorb (by decide)
      · rintro ⟨rfl, hm⟩
        exact absorb_eq hm
    unfold MinusZero
    simp only [habsorb, hint, Option.some.injEq]
    generalize Nat.ofDigitChars 10 whole 0 = v
    have hsize : UInt64.size = 0x10000000000000000 := rfl
    cases negative with
    | false =>
      simp only [Bool.false_eq_true, if_false, false_and, not_false_eq_true, and_true]
      constructor
      · rintro ⟨m, ⟨rfl, hm⟩, rfl⟩
        omega
      · rintro ⟨rfl, -, hk⟩
        exact ⟨v, ⟨rfl, by omega⟩, rfl⟩
    | true =>
      simp only [if_true, true_and]
      constructor
      · rintro ⟨m, ⟨rfl, hm⟩, hzero, hhigh, rfl⟩
        omega
      · rintro ⟨rfl, hlow, hk, hzero⟩
        exact ⟨v, ⟨rfl, by omega⟩, by omega, by omega, rfl⟩
  · have hno : Lexeme.int? ⟨negative, whole, fraction, exponent⟩ = none := if_neg hplain
    rw [hno]
    refine iff_of_false (number_ne_integer ?_) fun h => nomatch h.1
    exact not_and_or.1 hplain

end Teller.Json
