import Mathlib.Data.List.DropRight
import Teller.Proofs.Text.Infix
import Teller.Proofs.Text.Octets
import Teller.Proofs.Url.Padding

/-!
# Segments

What a path of the web holds is read as it is written: its segments are escaped already, and none of
them is a place. A segment that is added to it is escaped, and read back from its escapes.

* `unescape_escapeWith`: escapes are read back where the percent sign is escaped too.
* `Settled`: segments that are read as they are written; `exists_settled_of_read`: a path of the web
  has no others; `read_segmentsText`: such a path is read back from its text.
* `exists_settled_rdropWhile`: what is left of it without the slashes at its end.
* `addLast_escapeWith`: what a segment adds that is escaped; `settled_escapeWith_pathSegment`: it
  is settled.
-/

namespace Teller.Url

open Text (hexValue? upperHex)

variable {set : EscapeSet} {c : Char} {cs : List Char}

/-! ## Escapes -/

theorem hexValue?_upperHex {n : Nat} (h : n < 16) : hexValue? (upperHex n) = some n := by
  revert n
  decide

/-- An octet is read back from its escape. -/
theorem unescape_escapeOctet (b : UInt8) (cs : List Char) :
    unescape (escapeOctet b ++ cs) = b :: unescape cs := by
  have hb : b.toNat < 256 := b.toNat_lt
  rw [escapeOctet, List.cons_append, List.cons_append, List.singleton_append, unescape, if_pos rfl,
    hexValue?_upperHex (by omega), hexValue?_upperHex (by omega)]
  dsimp only
  rw [Nat.div_add_mod', UInt8.ofNat_toNat]

theorem unescape_escapeOctets (octets : List UInt8) (cs : List Char) :
    unescape (octets.flatMap escapeOctet ++ cs) = octets ++ unescape cs := by
  induction octets with
  | nil => rfl
  | cons b octets ih =>
    rw [List.flatMap_cons, List.append_assoc, unescape_escapeOctet, ih, List.cons_append]

/-- **A text is read back from its escapes**, if the percent sign is one of what is escaped. -/
theorem unescape_escapeWith (hset : set.escapes '%' = true) (cs : List Char) :
    unescape (escapeWith set cs) = Text.Utf8.encode cs := by
  induction cs with
  | nil => simp [escapeWith, Text.Utf8.encode, unescape]
  | cons c cs ih =>
    have hcons : unescape (escapeChar set c ++ escapeWith set cs) =
        String.utf8EncodeChar c ++ unescape (escapeWith set cs) := by
      unfold escapeChar
      split
      · exact unescape_escapeOctets _ _
      · rename_i hc
        refine unescape_cons fun hpercent => ?_
        rw [hpercent] at hc
        exact absurd hset hc
    rw [show escapeWith set (c :: cs) = escapeChar set c ++ escapeWith set cs from rfl, hcons, ih]
    rfl

/-- Texts with the same escapes are the same. -/
theorem escapeWith_injective (hset : set.escapes '%' = true) :
    Function.Injective (escapeWith set) := by
  intro cs ds h
  have hsame := congrArg unescape h
  rw [unescape_escapeWith hset, unescape_escapeWith hset] at hsame
  exact Text.Utf8.encode_injective hsame

theorem escapes_eq_false_iff :
    set.escapes c = false ↔ 0x20 ≤ c.toNat ∧ c.toNat < 0x7F ∧ c ∉ set.chars := by
  simp [EscapeSet.escapes, and_assoc]

/-- What is left unescaped where more is escaped. -/
theorem not_escapes_mono {set' : EscapeSet} (hsub : set.chars ⊆ set'.chars)
    (h : set'.escapes c = false) : set.escapes c = false := by
  rw [escapes_eq_false_iff] at h ⊢
  exact ⟨h.1, h.2.1, mt (hsub ·) h.2.2⟩

/-- What stands among escapes: characters that are not escaped, and those of escapes. -/
theorem mem_escapeWith (h : c ∈ escapeWith set cs) :
    (c ∈ cs ∧ set.escapes c = false) ∨ c ∈ '%' :: (List.range 16).map upperHex := by
  obtain ⟨d, hd, hc⟩ := List.mem_flatMap.1 h
  unfold escapeChar at hc
  split at hc
  · obtain ⟨b, -, hb⟩ := List.mem_flatMap.1 hc
    have hdigit {n : Nat} (hn : n < 16) : upperHex n ∈ (List.range 16).map upperHex :=
      List.mem_map_of_mem (List.mem_range.2 hn)
    have hlt : b.toNat < 256 := b.toNat_lt
    right
    rw [escapeOctet, List.mem_cons, List.mem_cons, List.mem_singleton] at hb
    rcases hb with rfl | rfl | rfl
    · exact List.mem_cons_self
    · exact List.mem_cons_of_mem _ (hdigit (by omega))
    · exact List.mem_cons_of_mem _ (hdigit (by omega))
  · rename_i hno
    cases List.mem_singleton.1 hc
    exact Or.inl ⟨hd, Bool.eq_false_iff.2 hno⟩

/-- What is escaped does not stand there. -/
theorem not_mem_escapeWith (hc : set.escapes c = true)
    (hmark : c ∉ '%' :: (List.range 16).map upperHex) (cs : List Char) : c ∉ escapeWith set cs := by
  intro h
  rcases mem_escapeWith h with ⟨-, hno⟩ | h
  · rw [hc] at hno
    cases hno
  · exact hmark h

/-- A text without such characters is written as it is. -/
theorem escapeWith_eq_self (h : ∀ c ∈ cs, set.escapes c = false) : escapeWith set cs = cs := by
  induction cs with
  | nil => rfl
  | cons c cs ih =>
    rw [List.forall_mem_cons] at h
    have hc : escapeChar set c = [c] := by
      rw [escapeChar, h.1]
      rfl
    rw [show escapeWith set (c :: cs) = escapeChar set c ++ escapeWith set cs from rfl, hc, ih h.2]
    rfl

/-! ## Settled segments -/

/-- A segment that is read as it is written. -/
structure Settled (segment : List Char) : Prop where
  /-- Nothing divides it, … -/
  whole : ∀ c ∈ segment, Manner.web.isSlash c = false
  /-- … nothing is left to escape, … -/
  escaped : escapeWith .path segment = segment
  /-- … and it is no place. -/
  placed : ¬ (isUp segment ∨ isHere segment)

instance (segment : List Char) : Decidable (Settled segment) :=
  decidable_of_iff (segment.all (!Manner.web.isSlash ·) = true ∧
      escapeWith .path segment = segment ∧ ¬ (isUp segment ∨ isHere segment))
    ⟨fun h => ⟨by simpa using h.1, h.2.1, h.2.2⟩,
      fun h => ⟨by simpa using h.whole, h.escaped, h.placed⟩⟩

variable {front segments : List (List Char)} {segment : List Char}

theorem settled_nil : Settled [] := by decide

/-- What escapes are made of neither divides a path nor is escaped in one. -/
theorem escapeMarks : ∀ c ∈ '%' :: (List.range 16).map upperHex,
    Manner.web.isSlash c = false ∧ EscapeSet.path.escapes c = false := by
  have hall : ('%' :: (List.range 16).map upperHex).all
      (fun c => !Manner.web.isSlash c && !EscapeSet.path.escapes c) = true := by decide
  intro c hc
  simpa using List.all_eq_true.1 hall c hc

/-- What is escaped as in a path at least is settled, or a place. -/
theorem settled_escapeWith_of_subset (hset : EscapeSet.path.chars ⊆ set.chars)
    (hwhole : ∀ c ∈ segment, set.escapes c = false → Manner.web.isSlash c = false)
    (hplaced : ¬ (isUp (escapeWith set segment) ∨ isHere (escapeWith set segment))) :
    Settled (escapeWith set segment) := by
  refine ⟨fun c hc => ?_, escapeWith_eq_self fun c hc => ?_, hplaced⟩
  · rcases mem_escapeWith hc with ⟨hc, hescapes⟩ | hc
    · exact hwhole c hc hescapes
    · exact (escapeMarks c hc).1
  · rcases mem_escapeWith hc with ⟨-, hc⟩ | hc
    · exact not_escapes_mono hset hc
    · exact (escapeMarks c hc).2

/-- What is escaped and undivided is settled, or a place. -/
theorem settled_escapeWith (hwhole : ∀ c ∈ segment, Manner.web.isSlash c = false)
    (hplaced : ¬ (isUp (escapeWith .path segment) ∨ isHere (escapeWith .path segment))) :
    Settled (escapeWith .path segment) :=
  settled_escapeWith_of_subset (List.Subset.refl _) (fun c hc _ => hwhole c hc) hplaced

/-- A drive stays, and otherwise one segment less is left. -/
theorem mem_of_mem_shorten (h : segment ∈ shorten front) : segment ∈ front := by
  unfold shorten at h
  split at h
  · exact h
  · exact List.dropLast_subset _ h

/-- One step of reading a path keeps all segments settled. -/
theorem settled_addSegment (hfront : ∀ s ∈ front, Settled s)
    (hwhole : ∀ c ∈ segment, Manner.web.isSlash c = false) :
    ∀ s ∈ addSegment .web front (escapeWith .path segment), Settled s := by
  intro s hs
  unfold addSegment at hs
  split at hs
  · exact hfront s (mem_of_mem_shorten hs)
  rename_i hup
  split at hs
  · exact hfront s hs
  rename_i hhere
  have hno : ¬ (Manner.web = .file ∧ front.isEmpty ∧ isDrive (escapeWith .path segment)) :=
    fun h => nomatch h.1
  rw [normalDrive, if_neg hno, List.mem_append, List.mem_singleton] at hs
  rcases hs with hs | rfl
  · exact hfront s hs
  · exact settled_escapeWith hwhole (not_or.2 ⟨hup, hhere⟩)

/-- The last segment is settled too, and there is always one. -/
theorem settled_addLast (hfront : ∀ s ∈ front, Settled s)
    (hwhole : ∀ c ∈ segment, Manner.web.isSlash c = false) :
    addLast .web front (escapeWith .path segment) ≠ [] ∧
      ∀ s ∈ addLast .web front (escapeWith .path segment), Settled s := by
  by_cases hplaced : isUp (escapeWith .path segment) ∨ isHere (escapeWith .path segment)
  · rw [addLast, if_pos hplaced]
    refine ⟨List.concat_ne_nil _ _, fun s hs => ?_⟩
    rw [List.mem_append, List.mem_singleton] at hs
    rcases hs with hs | rfl
    · exact settled_addSegment hfront hwhole s hs
    · exact settled_nil
  · rw [addLast_web hplaced]
    refine ⟨List.concat_ne_nil _ _, fun s hs => ?_⟩
    rw [List.mem_append, List.mem_singleton] at hs
    rcases hs with hs | rfl
    · exact hfront s hs
    · exact settled_escapeWith hwhole hplaced

theorem settled_addAll (hfront : ∀ s ∈ front, Settled s) (hne : segments ≠ [])
    (hwhole : ∀ s ∈ segments, ∀ c ∈ s, Manner.web.isSlash c = false) :
    addAll .web front (segments.map (escapeWith .path)) ≠ [] ∧
      ∀ s ∈ addAll .web front (segments.map (escapeWith .path)), Settled s := by
  induction segments generalizing front with
  | nil => exact absurd rfl hne
  | cons segment segments ih =>
    rw [List.forall_mem_cons] at hwhole
    cases segments with
    | nil => exact settled_addLast hfront hwhole.1
    | cons next segments =>
      exact ih (settled_addSegment hfront hwhole.1) (List.cons_ne_nil _ _) hwhole.2

/-- **A path of the web** has only settled segments, and at least one. -/
theorem exists_settled_of_read (text : List Char) :
    ∃ segments, Path.read .web text = .rooted segments ∧ segments ≠ [] ∧
      ∀ s ∈ segments, Settled s := by
  refine ⟨_, rfl, settled_addAll (fun s hs => absurd hs List.not_mem_nil)
    (List.splitOnP_ne_nil _ _) fun s hs c hc => (Text.of_mem_splitOnP hs c hc).1⟩

/-- A segment behind others. -/
theorem segmentsText_concat (front : List (List Char)) (segment : List Char) :
    segmentsText (front ++ [segment]) = segmentsText front ++ '/' :: segment := by
  simp [segmentsText]

/-- Settled segments are told apart by the slashes between them. -/
theorem splitOnP_segmentsText (h : ∀ s ∈ segment :: segments, Settled s) :
    (segment ++ segmentsText segments).splitOnP Manner.web.isSlash = segment :: segments := by
  induction segments generalizing segment with
  | nil =>
    rw [show segmentsText [] = [] from rfl, List.append_nil]
    exact List.splitOnP_eq_singleton (h segment List.mem_cons_self).whole
  | cons next segments ih =>
    rw [List.forall_mem_cons] at h
    rw [show segmentsText (next :: segments) = '/' :: (next ++ segmentsText segments) from rfl,
      List.splitOnP_append_cons_of_forall_mem h.1.whole '/' rfl, ih h.2]

/-- Settled segments are added one by one. -/
theorem addAll_settled (h : ∀ s ∈ segments, Settled s) (front : List (List Char)) :
    addAll .web front segments = front ++ segments := by
  induction segments generalizing front with
  | nil => rw [addAll, List.append_nil]
  | cons segment segments ih =>
    rw [List.forall_mem_cons] at h
    cases segments with
    | nil => exact addLast_web h.1.placed
    | cons next segments =>
      have hadd : addSegment .web front segment = front ++ [segment] := by
        rw [← addLast_web h.1.placed, addLast, if_neg h.1.placed]
      rw [addAll, hadd, ih h.2, List.append_assoc, List.singleton_append]
      exact List.cons_ne_nil _ _

/-- **A path of settled segments** is read back from its text. -/
theorem read_segmentsText (hne : segments ≠ []) (h : ∀ s ∈ segments, Settled s) :
    Path.read .web (segmentsText segments) = .rooted segments := by
  obtain ⟨segment, segments, rfl⟩ := List.exists_cons_of_ne_nil hne
  have hsame : (segment :: segments).map (escapeWith .path) = segment :: segments := by
    conv_rhs => rw [← List.map_id (segment :: segments)]
    exact List.map_congr_left fun s hs => (h s hs).escaped
  show Path.rooted (addAll .web [] (((segment ++ segmentsText segments).splitOnP
    Manner.web.isSlash).map (escapeWith .path))) = _
  rw [splitOnP_segmentsText h, hsame, addAll_settled h, List.nil_append]

/-- **Without the slashes at its end**, a path still has settled segments. -/
theorem exists_settled_rdropWhile (h : ∀ s ∈ segments, Settled s) :
    ∃ front, (segmentsText segments).rdropWhile (· == '/') = segmentsText front ∧
      ∀ s ∈ front, Settled s := by
  induction segments using List.reverseRecOn with
  | nil => exact ⟨[], rfl, h⟩
  | append_singleton segments segment ih =>
    rw [List.forall_mem_append] at h
    rw [segmentsText_concat]
    rcases List.eq_nil_or_concat segment with rfl | ⟨init, c, rfl⟩
    · rw [List.rdropWhile_concat_pos _ _ _ rfl]
      exact ih h.1
    · have hc : ¬ (c == '/') = true := by
        have hwhole := (h.2 _ (List.mem_singleton.2 rfl)).whole c (by simp)
        rintro hslash
        rw [beq_iff_eq.1 hslash] at hwhole
        cases hwhole
      refine ⟨segments ++ [init ++ [c]], ?_, ?_⟩
      · rw [segmentsText_concat, List.concat_eq_append, ← List.cons_append, ← List.append_assoc,
          List.rdropWhile_concat_neg (· == '/') _ c hc]
      · rw [List.forall_mem_append, ← List.concat_eq_append]
        exact h

/-! ## Segments that are places -/

/-- What a letter is the lower case of. -/
theorem eq_of_toLower {a c : Char} (h : a.toLower = c) :
    a = c ∨ (0x61 ≤ c.toNat ∧ a = Char.ofNat (c.toNat - 0x20)) := by
  unfold Char.toLower at h
  split at h
  · rename_i hupper
    right
    have hlow : 0x41 ≤ a.toNat := UInt32.le_iff_toNat_le.1 hupper.1
    have hhigh : a.toNat ≤ 0x5A := UInt32.le_iff_toNat_le.1 hupper.2
    have hc : c.toNat = a.toNat + 0x20 := by
      rw [← h]
      show (a.val + ('a'.val - 'A'.val)).toNat = _
      rw [UInt32.toNat_add, Nat.mod_eq_of_lt]
      · rfl
      · exact Nat.lt_of_le_of_lt (Nat.add_le_add_right hhigh _) (by decide)
    rw [hc, Nat.add_sub_cancel, Char.ofNat_toNat]
    exact ⟨Nat.add_le_add_right hlow 0x20, rfl⟩
  · exact Or.inl h

/-- A segment that means this place is a dot, or the escape of one. -/
theorem unescape_here (h : isHere segment = true) (cs : List Char) :
    unescape (segment ++ cs) = 0x2E :: unescape cs := by
  have hsame {a c : Char} (ha : a.toLower = c) (hc : c.toNat < 0x61) : a = c :=
    (eq_of_toLower ha).resolve_right fun h => Nat.not_le.2 hc h.1
  have h : segment.map Char.toLower ∈ [['.'], ['%', '2', 'e']] := of_decide_eq_true h
  rw [List.mem_pair] at h
  rcases h with h | h
  · obtain ⟨dot, rfl, hdot⟩ := List.map_eq_singleton_iff.1 h
    cases hsame hdot (by decide)
    rw [List.singleton_append, unescape_cons fun h => absurd h (by decide)]
    rfl
  · obtain ⟨percent, _, rfl, hpercent, h⟩ := List.map_eq_cons_iff.1 h
    obtain ⟨two, _, rfl, htwo, h⟩ := List.map_eq_cons_iff.1 h
    obtain ⟨letter, rfl, hletter⟩ := List.map_eq_singleton_iff.1 h
    cases hsame hpercent (by decide)
    cases hsame htwo (by decide)
    rcases eq_of_toLower hletter with rfl | ⟨-, rfl⟩
    all_goals rfl

/-- A segment that means the place above is two of those. -/
theorem exists_here_of_isUp (h : isUp segment = true) :
    ∃ a b, segment = a ++ b ∧ isHere a = true ∧ isHere b = true := by
  have hparts : ∀ dots ∈ ["..".toList, ".%2e".toList, "%2e.".toList, "%2e%2e".toList],
      ∃ a ∈ [".".toList, "%2e".toList], ∃ b ∈ [".".toList, "%2e".toList], dots = a ++ b := by decide
  obtain ⟨a, ha, b, hb, hdots⟩ := hparts _ (of_decide_eq_true h)
  obtain ⟨a', b', rfl, rfl, rfl⟩ := List.map_eq_append_iff.1 hdots
  exact ⟨a', b', rfl, decide_eq_true ha, decide_eq_true hb⟩

/-- Only a dot has the escapes of one, where dots are not escaped. -/
theorem isHere_escapeWith_iff (hset : set.escapes '%' = true) (hdot : set.escapes '.' = false) :
    isHere (escapeWith set cs) = true ↔ cs = ['.'] := by
  constructor
  · intro h
    have hoctets := unescape_here h []
    rw [List.append_nil, unescape_escapeWith hset] at hoctets
    exact Text.Utf8.encode_injective hoctets
  · rintro rfl
    rw [escapeWith_eq_self (by simpa using hdot)]
    rfl

/-- Only two dots have the escapes of two. -/
theorem isUp_escapeWith_iff (hset : set.escapes '%' = true) (hdot : set.escapes '.' = false) :
    isUp (escapeWith set cs) = true ↔ cs = ['.', '.'] := by
  constructor
  · intro h
    obtain ⟨a, b, hab, ha, hb⟩ := exists_here_of_isUp h
    have hoctets := congrArg unescape hab
    rw [unescape_escapeWith hset, unescape_here ha, ← List.append_nil b,
      unescape_here hb] at hoctets
    exact Text.Utf8.encode_injective hoctets
  · rintro rfl
    rw [escapeWith_eq_self (by simpa using hdot)]
    rfl

/-- **What an escaped segment adds**: itself, unless it is dots. -/
theorem addLast_escapeWith (hset : set.escapes '%' = true) (hdot : set.escapes '.' = false)
    (front : List (List Char)) (cs : List Char) :
    addLast .web front (escapeWith set cs) =
      if cs = ['.', '.'] then shorten front ++ [[]]
      else if cs = ['.'] then front ++ [[]]
      else front ++ [escapeWith set cs] := by
  have hup : isUp (escapeWith set cs) = true ↔ cs = ['.', '.'] := isUp_escapeWith_iff hset hdot
  have hhere : isHere (escapeWith set cs) = true ↔ cs = ['.'] := isHere_escapeWith_iff hset hdot
  split
  · rename_i hcs
    rw [addLast, if_pos (Or.inl (hup.2 hcs)), addSegment, if_pos (hup.2 hcs)]
  rename_i hnotup
  split
  · rename_i hcs
    rw [addLast, if_pos (Or.inr (hhere.2 hcs)), addSegment, if_neg (mt hup.1 hnotup),
      if_pos (hhere.2 hcs)]
  · rename_i hnothere
    exact addLast_web (not_or.2 ⟨mt hup.1 hnotup, mt hhere.1 hnothere⟩)

/-- **An escaped segment is settled**, unless it is dots. -/
theorem settled_escapeWith_pathSegment (h : ¬ (segment = ['.'] ∨ segment = ['.', '.'])) :
    Settled (escapeWith (.pathSegment true) segment) := by
  have hset : (EscapeSet.pathSegment true).escapes '%' = true ∧
      (EscapeSet.pathSegment true).escapes '.' = false := by decide
  have hslashes : (EscapeSet.pathSegment true).escapes '/' = true ∧
      (EscapeSet.pathSegment true).escapes '\\' = true := by decide
  refine settled_escapeWith_of_subset (by decide) (fun c _ hc => ?_) ?_
  · rw [← Bool.not_eq_true]
    intro hslash
    have hor : c = '/' ∨ c = '\\' := by
      simpa [Manner.isSlash, Manner.special] using hslash
    rcases hor with rfl | rfl
    · exact absurd hc (by rw [hslashes.1]; exact Bool.noConfusion)
    · exact absurd hc (by rw [hslashes.2]; exact Bool.noConfusion)
  · rw [isUp_escapeWith_iff hset.1 hset.2, isHere_escapeWith_iff hset.1 hset.2]
    exact mt Or.symm h

end Teller.Url
