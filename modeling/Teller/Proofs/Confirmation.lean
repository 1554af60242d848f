import Teller.Proofs.Ending
import Teller.Proofs.Endpoints
import Teller.Proofs.Text.Infix

/-!
# Confirmations and their headers

The header of an answer names a kind of content, and behind a semicolon it may have parameters. A
confirmation is parsed as JSON if the word stands anywhere in that header, in small letters and with
nothing but visible ASCII around it. So kinds of JSON in other letters are not seen, and pages are
parsed that have the word in a parameter.

* `Http.kindOf`, `Http.Answer.NamesJson`: the kind that a header names, and those of JSON.
* `Http.Answer.mentionsJson_iff`: where the word stands that decides.
* `Http.Answer.HidesJson`, `Http.Answer.FeignsJson`: headers that name JSON without the word, and
  that have the word without naming JSON; `Http.Answer.mentions_iff_names_iff`: in all others both
  are one.
* `Reading.parses_iff`, `Reading.unparsed_iff`: when a text is parsed, and when in vain.
* `Confirmation.Checked`: what a text is taken for; `Order.confirmed_of_answer`: that comes of every
  success.
-/

namespace Teller

namespace Http

/-! ## Headers -/

/-- The characters of a header, one for each octet. -/
def headerChars (header : List UInt8) : List Char := header.map fun b => Char.ofNat b.toNat

/-- What may stand around a header. -/
def isGap (c : Char) : Bool := c == ' ' || c == '\t'

/-- What may stand in a header that is read. -/
def isVisible (c : Char) : Bool := (0x20 ≤ c.toNat && c.toNat < 0x7F) || c == '\t'

/-- The text in front of the first semicolon. -/
def kindText (header : List UInt8) : List Char := (headerChars header).takeWhile (· != ';')

/-- The text from there on. -/
def parametersText (header : List UInt8) : List Char := (headerChars header).dropWhile (· != ';')

/-- **The kind of content** that a header names, in small letters. -/
def kindOf (header : List UInt8) : List Char :=
  (Text.trimWhere isGap (kindText header)).map Char.toLower

/-- The kinds of JSON: its own, and those that are made of it. -/
def IsJsonKind (kind : List Char) : Prop :=
  kind = "application/json".toList ∨ "+json".toList <:+ kind

instance (kind : List Char) : Decidable (IsJsonKind kind) :=
  inferInstanceAs (Decidable (kind = "application/json".toList ∨ "+json".toList <:+ kind))

/-- The word that decides. -/
def jsonWord : List Char := "json".toList

theorem occursIn_iff {word cs : List Char} : occursIn word cs = true ↔ word <:+: cs := by
  induction cs with
  | nil => simp [occursIn]
  | cons c cs ih =>
    rw [occursIn, List.infix_cons_iff, Bool.or_eq_true, ih, List.isPrefixOf_iff_prefix]

/-- What is asked of octets may be asked of their characters. -/
theorem eq_comp_of_octets {p : UInt8 → Bool} {q : Char → Bool}
    (h : ∀ n < 256, p (UInt8.ofNat n) = q (Char.ofNat n)) :
    p = q ∘ fun b => Char.ofNat b.toNat := by
  funext b
  have hb := h b.toNat b.toNat_lt
  rwa [UInt8.ofNat_toNat] at hb

/-- A header is trimmed as its characters are. -/
theorem headerChars_trimHeader (header : List UInt8) :
    headerChars (trimHeader header) = Text.trimWhere isGap (headerChars header) := by
  have hgap : (fun b : UInt8 => b == 0x20 || b == 0x09) = isGap ∘ fun b => Char.ofNat b.toNat :=
    eq_comp_of_octets (by decide +kernel)
  unfold trimHeader Text.trimWhere headerChars
  rw [hgap]
  simp only [List.dropWhile_map, ← List.map_reverse]

/-- **What a header is read as**: its text without the gaps around it, if all of it is visible. -/
theorem headerText?_eq (header : List UInt8) : headerText? header =
    if (headerChars header).all isVisible then some (Text.trimWhere isGap (headerChars header))
    else none := by
  have hvisible : (fun b : UInt8 => (0x20 ≤ b && b < 0x7F) || b == 0x09) =
      isVisible ∘ fun b => Char.ofNat b.toNat := eq_comp_of_octets (by decide +kernel)
  obtain ⟨before, after, hchars, hbefore, hafter⟩ :=
    Text.exists_append_trimWhere isGap (headerChars header)
  have hgap {ends : List Char} (h : ∀ c ∈ ends, isGap c = true) : ends.all isVisible = true := by
    refine List.all_eq_true.2 fun c hc => ?_
    have hc : c = ' ' ∨ c = '\t' := by simpa [isGap] using h c hc
    rcases hc with rfl | rfl <;> rfl
  -- Gaps are visible, so it does not matter that they are taken away first.
  have hall : (headerChars header).all isVisible =
      (Text.trimWhere isGap (headerChars header)).all isVisible := by
    conv_lhs => rw [hchars]
    rw [List.all_append, List.all_append, hgap hbefore, hgap hafter, Bool.true_and, Bool.and_true]
  rw [hall, ← headerChars_trimHeader, headerChars, List.all_map, ← hvisible]
  rfl

namespace Answer

variable {a : Answer}

/-- **The word stands in the header**, which has visible ASCII only. -/
theorem mentionsJson_iff : a.mentionsJson ↔ ∃ header, a.contentType = some header ∧
    (∀ c ∈ headerChars header, isVisible c = true) ∧ jsonWord <:+: headerChars header := by
  have hgap : jsonWord.all (!isGap ·) = true := by decide
  have hword {cs : List Char} : jsonWord <:+: Text.trimWhere isGap cs ↔ jsonWord <:+: cs :=
    Text.infix_trimWhere_iff (by decide) (by simpa using hgap)
  unfold mentionsJson contentText?
  cases a.contentType with
  | none => simp
  | some header =>
    rw [Option.bind_some, headerText?_eq]
    split
    · rename_i hall
      rw [Option.any_some, show "json".toList = jsonWord from rfl, occursIn_iff, hword]
      rw [List.all_eq_true] at hall
      constructor
      · exact fun h => ⟨header, rfl, hall, h⟩
      · rintro ⟨_, ⟨⟩, -, h⟩
        exact h
    · rename_i hall
      rw [List.all_eq_true] at hall
      constructor
      · exact fun h => nomatch h
      · rintro ⟨_, ⟨⟩, h, -⟩
        exact absurd h hall

/-- The header names JSON. -/
def NamesJson (a : Answer) : Prop :=
  ∃ header, a.contentType = some header ∧ IsJsonKind (kindOf header)

/-- The header names JSON, but it is not read, or has the word in other letters alone. -/
def HidesJson (a : Answer) : Prop :=
  ∃ header, a.contentType = some header ∧ IsJsonKind (kindOf header) ∧
    ((∃ c ∈ headerChars header, isVisible c = false) ∨ ¬ jsonWord <:+: headerChars header)

/-- The header is read and names something else, but has the word in the name of that or in a
parameter. -/
def FeignsJson (a : Answer) : Prop :=
  ∃ header, a.contentType = some header ∧ ¬ IsJsonKind (kindOf header) ∧
    (∀ c ∈ headerChars header, isVisible c = true) ∧
    (jsonWord <:+: kindText header ∨ jsonWord <:+: parametersText header)

theorem hidesJson_iff : a.HidesJson ↔ a.NamesJson ∧ ¬ a.mentionsJson := by
  rw [mentionsJson_iff]
  unfold HidesJson NamesJson
  cases a.contentType with
  | none => simp
  | some header =>
    simp only [Option.some.injEq, exists_eq_left', not_and_or, not_forall, exists_prop,
      Bool.not_eq_true]

theorem feignsJson_iff : a.FeignsJson ↔ ¬ a.NamesJson ∧ a.mentionsJson := by
  have hword {header : List UInt8} : jsonWord <:+: kindText header ∨
      jsonWord <:+: parametersText header ↔ jsonWord <:+: headerChars header :=
    (Text.infix_iff_of_mark (by decide)).symm
  rw [mentionsJson_iff]
  unfold FeignsJson NamesJson
  cases a.contentType with
  | none => simp
  | some header => simp only [Option.some.injEq, exists_eq_left', hword]

/-- **Where the header neither hides JSON nor feigns it**, and only there, the word decides as the
kind does. -/
theorem mentions_iff_names_iff :
    (a.mentionsJson ↔ a.NamesJson) ↔ ¬ a.HidesJson ∧ ¬ a.FeignsJson := by
  rw [hidesJson_iff, feignsJson_iff]
  tauto

end Answer

end Http

/-! ## Answers -/

/-- The body of a confirmation was parsed as JSON, whatever came of that. -/
def Call.Parses (call : Call) (result : Except CallError CallResult) : Prop :=
  (∃ status v, result = .ok (.confirmation ⟨status, .json v⟩)) ∨
    ∃ err, result = .error (.decode call err)

/-- **What comes of a text** that the bank sends for a confirmation, and says something. -/
structure Confirmation.Checked (a : Http.Answer) (text : String) (call : Call)
    (result : Except CallError CallResult) : Prop where
  /-- It is parsed exactly if the word stands in the header. -/
  parsed : call.Parses result ↔ a.mentionsJson
  /-- Where it is, the document is kept, … -/
  json : ∀ v, result = .ok (.confirmation ⟨a.status, .json v⟩) ↔
    a.mentionsJson ∧ Json.readValue text = .ok v
  /-- … or it is none. -/
  decode : (∃ err, result = .error (.decode call err)) ↔
    a.mentionsJson ∧ ∀ v, Json.readValue text ≠ .ok v
  /-- Where it is not, the text is kept as it is. -/
  text : ∀ s, result = .ok (.confirmation ⟨a.status, .text s⟩) ↔ ¬ a.mentionsJson ∧ s = text
  /-- So it is parsed exactly if the header names JSON, unless the header hides that or feigns
  it. -/
  named : (call.Parses result ↔ a.NamesJson) ↔ ¬ a.HidesJson ∧ ¬ a.FeignsJson

namespace Reading

variable {call : Call} {a : Http.Answer} {result : Except CallError CallResult} {text : String}

/-- What a confirmation shows of a text. -/
theorem shows_iff (h : Reading a call result) (hc : call ≠ .singlePayments) (hs : a.Succeeds)
    (ht : a.text? = some text) (body : ConfirmationBody) :
    result = .ok (.confirmation ⟨a.status, body⟩) ↔ body.Shows a text := by
  rw [h.confirmation_iff]
  constructor
  · rintro ⟨-, -, -, text', ht', hbody⟩
    rw [ht] at ht'
    cases ht'
    exact hbody
  · exact fun hbody => ⟨hc, hs, rfl, text, ht, hbody⟩

/-- Where the word stands in the header, a text that is no JSON is an error. -/
theorem unparsed_iff (h : Reading a call result) (hc : call ≠ .singlePayments) (hs : a.Succeeds)
    (ht : a.text? = some text) (hb : ¬ Text.allBlank text) :
    (∃ err, result = .error (.decode call err)) ↔
      a.mentionsJson ∧ ∀ v, Json.readValue text ≠ .ok v := by
  have haccepts : ¬ call.Accepts a text ↔ a.mentionsJson ∧ ∀ v, Json.readValue text ≠ .ok v := by
    rw [← not_exists, ← Classical.not_imp]
    cases call with
    | singlePayments => exact absurd rfl hc
    | tanConfirmation | consent => rfl
  rw [h.decode_iff, ← haccepts]
  constructor
  · rintro ⟨-, -, text', ht', -, hno⟩
    rw [ht] at ht'
    cases ht'
    exact hno
  · exact fun hno => ⟨hs, fun hcall => absurd hcall hc, text, ht, hb, hno⟩

/-- **A text is parsed** exactly if the word stands in the header. -/
theorem parses_iff (h : Reading a call result) (hc : call ≠ .singlePayments) (hs : a.Succeeds)
    (ht : a.text? = some text) (hb : ¬ Text.allBlank text) :
    call.Parses result ↔ a.mentionsJson := by
  have hunparsed := h.unparsed_iff hc hs ht hb
  constructor
  · rintro (⟨status, v, hv⟩ | herr)
    · obtain ⟨-, -, -, _, -, -, hword, -⟩ := (h.confirmation_iff ⟨status, .json v⟩).1 hv
      exact hword
    · exact (hunparsed.1 herr).1
  · -- A text is JSON or it is not, and with the word in the header both are seen.
    intro hword
    by_cases hv : ∃ v, Json.readValue text = .ok v
    · obtain ⟨v, hv⟩ := hv
      exact .inl ⟨a.status, v, (h.shows_iff hc hs ht _).2 ⟨hb, hword, hv⟩⟩
    · exact .inr (hunparsed.2 ⟨hword, not_exists.1 hv⟩)

end Reading

namespace Order

open Http (Answer Backend Request)

variable {b : Backend} {received : List Request} {e : Endpoints} {o : Order} {url : Url}
  {a : Answer} {text : String}

/-- **Confirmations are parsed if a word stands in the header.** Where the bank answers a
confirmation with a text that is not blank, that alone decides whether the text is JSON, and what it
says as JSON or as it is comes of the call. -/
theorem confirmed_of_answer (h : o.Answered b received e url a) (hc : o.call ≠ .singlePayments)
    (hs : a.Succeeds) (ht : a.text? = some text) (hb : ¬ Text.allBlank text) :
    Confirmation.Checked a text o.call (o.perform b received e).result := by
  have hread := reading_of_answered h
  have hparses := hread.parses_iff hc hs ht hb
  refine ⟨hparses, fun v => ?_, hread.unparsed_iff hc hs ht hb, fun s => ?_, ?_⟩
  · rw [hread.shows_iff hc hs ht]
    exact and_iff_right hb
  · rw [hread.shows_iff hc hs ht]
    exact and_iff_right hb
  · rw [hparses]
    exact Http.Answer.mentions_iff_names_iff

/-- The confirmation of a TAN. -/
def confirmed : Order := .tanConfirmation { tan := some "X71" }

/-- An answer with a header and a text. -/
def announcing (header text : String) : Answer where
  status := 200
  contentType := some (Text.Utf8.encode header.toList)
  body := Text.Utf8.encode text.toList

/-- A bank that gives one answer. -/
def bankAnswering (a : Answer) : Backend := .ofList [.answer a]

/-- A document of JSON, with a header that names it and has a parameter. -/
def document : Answer := announcing "application/json; charset=utf-8" "[]"

theorem confirmed_document :
    confirmed.Answered (bankAnswering document) [] .small (confirmed.url .small) document ∧
      confirmed.call ≠ .singlePayments ∧ document.Succeeds ∧ document.text? = some "[]" ∧
      ¬ Text.allBlank "[]" ∧
      Confirmation.Checked document "[]" confirmed.call
        (confirmed.perform (bankAnswering document) [] .small).result := by
  have h : confirmed.Answered (bankAnswering document) [] .small (confirmed.url .small) document :=
    answered_iff.2 (by with_unfolding_all rfl)
  have hc : confirmed.call ≠ .singlePayments := by decide
  have hs : document.Succeeds := by simp [Answer.Succeeds, document, announcing]
  have ht : document.text? = some "[]" := by decide +kernel
  have hb : ¬ Text.allBlank "[]" := by decide +kernel
  exact ⟨h, hc, hs, ht, hb, confirmed_of_answer h hc hs ht hb⟩

/-- A page, with a header that has the word in a parameter. -/
def page : Answer := announcing "text/html; profile=json" "<p>"

/-- A document of JSON, with a header that names it in other letters. -/
def shouted : Answer := announcing "Application/JSON" "[]"

/-- **The page is parsed**, and the document is not. -/
theorem page_parsed :
    (¬ page.NamesJson ∧ ∃ err, (confirmed.perform (bankAnswering page) [] .small).result =
        .error (.decode .tanConfirmation err)) ∧
      shouted.NamesJson ∧ (confirmed.perform (bankAnswering shouted) [] .small).result =
        .ok (.confirmation ⟨200, .text "[]"⟩) := by
  refine ⟨⟨?_, ?_⟩, ⟨_, rfl, by decide +kernel⟩, ?_⟩
  · rintro ⟨_, ⟨⟩, h⟩
    revert h
    decide +kernel
  · exact ⟨_, by with_unfolding_all rfl⟩
  · with_unfolding_all rfl

end Order

end Teller
