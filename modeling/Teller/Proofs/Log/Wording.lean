import Mathlib.Tactic.IntervalCases
import Teller.Event
import Teller.Json.Fault
import Teller.Proofs.Text.Infix

/-!
# The wording of log lines

What log lines say by themselves, and what they repeat.

* `Event.wording`: the texts that lines, messages and URLs are put together from; `Worded`: made of
  their characters.
* `Holds`: a line in which a text stands between marks, with nothing but wording around it.
* `Holds.mem_iff`, `Holds.infix_iff`: which characters and texts such a line has.
* `Event.holds_responded`, `Event.holds_failed`, `Event.worded_line`: the lines of events.
-/

namespace Teller

/-- The causes that are faults of syntax. -/
def Json.Cause.syntaxFaults : List Json.Cause :=
  [.endInValue, .endInArray, .endInObject, .endInText, .valueExpected, .wordExpected,
    .colonExpected, .arrayCommaOrEnd, .objectCommaOrEnd, .nameNotText, .trailingComma,
    .trailingCharacters, .badNumber, .numberTooLarge, .badEscape, .escapeCutShort, .loneSurrogate,
    .controlCharacter, .tooDeep]

/-- The texts that log lines are put together from, the fixed parts of URLs and all digits
included. -/
def Event.wording : List String :=
  ["INFO Banking client initialized base_url=", " confirmation_path=",
    "DEBUG Sending request endpoint=", "DEBUG Backend responded url=", " status=",
    "WARN Banking request failed endpoint=", " error=", "DEBUG Session created session_id=",
    "DEBUG Session removed session_id=", "WARN Session limit reached max_sessions=",
    "Transport error: error sending request for url (", "Transport error: builder error for url (",
    "Transport error: error following redirect for url (", ")",
    "Transport error: error decoding response body", "Backend returned status ", ": ",
    "Failed to decode ", " response: ", " at line ", " column ",
    "/payment/confirmation", "/view/payment/confirmation", "/consent", "/payments",
    "decision=ACCEPTED", "decision=REJECTED", "%:/.?#", "0123456789abcdefABCDEF", "-"] ++
  Call.all.map Call.label ++ Json.Cause.syntaxFaults.map Json.Cause.message

/-- A text of the characters of the wording. -/
def Worded (cs : List Char) : Prop := ∀ c ∈ cs, ∃ t ∈ Event.wording, c ∈ t.toList

theorem worded_append {as bs : List Char} : Worded (as ++ bs) ↔ Worded as ∧ Worded bs :=
  List.forall_mem_append

theorem Worded.subset {as bs : List Char} (h : Worded bs) (hs : as ⊆ bs) : Worded as :=
  fun c hc => h c (hs hc)

theorem worded_of_mem {t : String} (h : t ∈ Event.wording) : Worded t.toList :=
  fun _ hc => ⟨t, h, hc⟩

theorem worded_intercalate {sep : List Char} (hs : Worded sep) {ls : List (List Char)}
    (h : ∀ l ∈ ls, Worded l) : Worded (sep.intercalate ls) :=
  Text.forall_mem_intercalate hs h

theorem worded_label (call : Call) : Worded call.label.toList := by
  refine worded_of_mem ?_
  cases call <;> simp [Event.wording, Call.all]

/-- Digits, decimal and hexadecimal. -/
theorem worded_digits : Worded "0123456789abcdefABCDEF".toList :=
  worded_of_mem (by simp [Event.wording])

theorem worded_toDigits (n : Nat) : Worded (Nat.toDigits 10 n) := by
  refine worded_digits.subset fun c hc => ?_
  have hd := Nat.isDigit_of_mem_toDigits (by decide) (by decide) hc
  simp only [Char.isDigit, Bool.and_eq_true, decide_eq_true_eq, ge_iff_le,
    UInt32.le_iff_toNat_le] at hd
  have hlow : 48 ≤ c.toNat := hd.1
  have hhigh : c.toNat ≤ 57 := hd.2
  rw [← Char.ofNat_toNat c]
  generalize c.toNat = k at hlow hhigh ⊢
  interval_cases k <;> decide

theorem SessionId.subset_of_mem_cut {α : Type} {ns : List Nat} {xs l : List α}
    (h : l ∈ cut ns xs) : l ⊆ xs := by
  induction ns generalizing xs with
  | nil => cases h
  | cons n ns ih =>
    rcases List.mem_cons.1 h with rfl | h
    · exact List.take_subset n xs
    · exact List.Subset.trans (ih h) (List.drop_subset n xs)

theorem worded_id (id : SessionId) : Worded id.text.toList := by
  have hdigit : ∀ d : Fin 16, Text.lowerHex d ∈ "0123456789abcdefABCDEF".toList := by decide
  rw [SessionId.text, String.toList_ofList, SessionId.chars]
  refine worded_intercalate (worded_of_mem (t := "-") (by simp [Event.wording])) fun l hl => ?_
  refine worded_digits.subset fun c hc => ?_
  obtain ⟨d, -, rfl⟩ := List.mem_map.1 (SessionId.subset_of_mem_cut hl hc)
  exact hdigit d

/-! ## What lines repeat -/

/-- A text stands in a line between marks, with nothing but wording around it. -/
def Holds (line x : List Char) : Prop :=
  ∃ front back, line = front ++ x ++ back ∧ Worded front ∧ Worded back ∧
    (∃ d ∈ "= (".toList, front.getLast? = some d) ∧ ∀ d ∈ back.head?, d ∈ " )".toList

/-- A character that the wording does not have. -/
def Unworded (c : Char) : Prop := ∀ t ∈ Event.wording, c ∉ t.toList

instance (c : Char) : Decidable (Unworded c) :=
  inferInstanceAs (Decidable (∀ t ∈ Event.wording, c ∉ t.toList))

variable {c : Char} {line x t : List Char}

theorem Unworded.not_mem (hc : Unworded c) (hw : Worded x) : c ∉ x := by
  intro hx
  obtain ⟨t, ht, hct⟩ := hw c hx
  exact hc t ht hct

/-- What stands in a text stands in the lines that the text stands in. -/
theorem Holds.trans {y : List Char} (h : Holds line y) (h' : Holds y x) : Holds line x := by
  obtain ⟨front, back, rfl, hfront, hback, -, hhead⟩ := h
  obtain ⟨front', back', rfl, hfront', hback', ⟨d, hd, hlast⟩, hhead'⟩ := h'
  refine ⟨front ++ front', back' ++ back, by simp only [List.append_assoc],
    worded_append.2 ⟨hfront, hfront'⟩, worded_append.2 ⟨hback', hback⟩, ⟨d, hd, ?_⟩, ?_⟩
  · rw [List.getLast?_append, hlast, Option.some_or]
  · intro d hd
    rw [List.head?_append] at hd
    cases hb : back'.head? with
    | none =>
      rw [hb, Option.none_or] at hd
      exact hhead d hd
    | some d' =>
      rw [hb, Option.some_or, Option.mem_def, Option.some.injEq] at hd
      exact hd ▸ hhead' d' hb

/-- Such a line has a character beyond the wording exactly if the text has it. -/
theorem Holds.mem_iff (h : Holds line x) (hc : Unworded c) : c ∈ line ↔ c ∈ x := by
  obtain ⟨front, back, rfl, hfront, hback, -⟩ := h
  rw [List.mem_append, List.mem_append]
  constructor
  · rintro ((hf | hx) | hb)
    · exact absurd hf (hc.not_mem hfront)
    · exact hx
    · exact absurd hb (hc.not_mem hback)
  · exact fun hx => Or.inl (Or.inr hx)

theorem Holds.infix (h : Holds line x) (ht : t <:+: x) : t <:+: line := by
  obtain ⟨front, back, rfl, -⟩ := h
  exact ht.trans (List.infix_append front x back)

/-- A text that starts in front of a mark ends there, or does not get into what follows. -/
theorem infix_of_infix_append {front rest : List Char} {d : Char} (ht : c ∈ t) (hc : c ∉ front)
    (hlast : front.getLast? = some d) (hd : d ∉ t) (h : t <:+: front ++ rest) : t <:+: rest := by
  obtain ⟨front, rfl⟩ := List.getLast?_eq_some_iff.1 hlast
  rw [List.append_assoc, List.singleton_append, Text.infix_append_cons_iff hd] at h
  exact h.resolve_left fun h => hc (List.mem_append_left _ (h.subset ht))

/-- **Such a line has a text beyond the wording exactly if it is part of what it repeats**, unless
the text has one of the marks. -/
theorem Holds.infix_iff (h : Holds line x) (hc : Unworded c) (ht : c ∈ t)
    (hd : ∀ d ∈ "= ()".toList, d ∉ t) : t <:+: line ↔ t <:+: x := by
  refine ⟨fun hi => ?_, h.infix⟩
  obtain ⟨front, back, rfl, hfront, hback, ⟨d, hmark, hlast⟩, hhead⟩ := h
  rw [List.append_assoc] at hi
  have hi := infix_of_infix_append ht (hc.not_mem hfront) hlast
    (hd d ((by decide : "= (".toList ⊆ "= ()".toList) hmark)) hi
  cases hb : back.head? with
  | none => rwa [List.head?_eq_none_iff.1 hb, List.append_nil] at hi
  | some d =>
    -- What follows is what comes first in the reversed line.
    rw [← List.reverse_infix, List.reverse_append] at hi
    rw [← List.reverse_infix]
    refine infix_of_infix_append (List.mem_reverse.2 ht) (c := c) (d := d) ?_ ?_ ?_ hi
    · rw [List.mem_reverse]
      exact hc.not_mem hback
    · rw [List.getLast?_reverse, hb]
    · rw [List.mem_reverse]
      exact hd d ((by decide : " )".toList ⊆ "= ()".toList) (hhead d hb))

namespace Event

theorem toList_ready (base : String) (p : ConfirmationPath) :
    (clientReady base p).line.toList =
      "INFO Banking client initialized base_url=".toList ++ base.toList ++
        (" confirmation_path=".toList ++ p.text.toList) := by
  simp [line, body, fields, level, message, Level.name, writeBare, String.toList_append]

theorem toList_sending (call : Call) :
    (sending call).line.toList =
      "DEBUG Sending request endpoint=".toList ++ call.label.toList := by
  simp [line, body, fields, level, message, Level.name, writeBare, String.toList_append]

theorem toList_responded (url : String) (status : Nat) :
    (responded url status).line.toList =
      "DEBUG Backend responded url=".toList ++ url.toList ++
        (" status=".toList ++ Nat.toDigits 10 status) := by
  simp [line, body, fields, level, message, Level.name, writeBare, String.toList_append]

theorem toList_failed (call : Call) (reason : String) :
    (failed call reason).line.toList =
      "WARN Banking request failed endpoint=".toList ++ call.label.toList ++ " error=".toList ++
        reason.toList := by
  simp [line, body, fields, level, message, Level.name, writeBare, String.toList_append]

/-- The line of an answer repeats the URL that it came from. -/
theorem holds_responded (url : String) (status : Nat) :
    Holds (responded url status).line.toList url.toList := by
  refine ⟨_, _, toList_responded url status, ?_, ?_, ⟨'=', by decide, by decide⟩, ?_⟩
  · exact worded_of_mem (by simp [wording])
  · rw [worded_append]
    exact ⟨worded_of_mem (by simp [wording]), worded_toDigits status⟩
  · intro d hd
    cases hd
    decide

/-- The line of a failure repeats its reason. -/
theorem holds_failed (call : Call) (reason : String) :
    Holds (failed call reason).line.toList reason.toList := by
  refine ⟨_, [], (toList_failed call reason).trans (List.append_nil _).symm, ?_, ?_, ?_, ?_⟩
  · rw [worded_append, worded_append]
    exact ⟨⟨worded_of_mem (by simp [wording]), worded_label call⟩,
      worded_of_mem (by simp [wording])⟩
  · exact fun c hc => nomatch hc
  · refine ⟨'=', by decide, ?_⟩
    rw [List.getLast?_append]
    rfl
  · exact fun d hd => nomatch hd

/-- The line of a register says nothing but its wording, ids and numbers. -/
theorem worded_line {e : Event} (h : e.source = .sessions) : Worded e.line.toList := by
  cases e with
  | sessionCreated id =>
    have hline : (sessionCreated id).line.toList =
        "DEBUG Session created session_id=".toList ++ id.text.toList := by
      simp [line, body, fields, level, message, Level.name, writeBare, String.toList_append]
    rw [hline, worded_append]
    exact ⟨worded_of_mem (by simp [wording]), worded_id id⟩
  | sessionRemoved id =>
    have hline : (sessionRemoved id).line.toList =
        "DEBUG Session removed session_id=".toList ++ id.text.toList := by
      simp [line, body, fields, level, message, Level.name, writeBare, String.toList_append]
    rw [hline, worded_append]
    exact ⟨worded_of_mem (by simp [wording]), worded_id id⟩
  | limitReached max =>
    have hline : (limitReached max).line.toList =
        "WARN Session limit reached max_sessions=".toList ++ Nat.toDigits 10 max := by
      simp [line, body, fields, level, message, Level.name, writeBare, String.toList_append]
    rw [hline, worded_append]
    exact ⟨worded_of_mem (by simp [wording]), worded_toDigits max⟩
  | _ => cases h

theorem worded_sending (call : Call) : Worded (sending call).line.toList := by
  rw [toList_sending, worded_append]
  exact ⟨worded_of_mem (by simp [wording]), worded_label call⟩

end Event

end Teller
