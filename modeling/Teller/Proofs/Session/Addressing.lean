import Teller.Proofs.Endpoints
import Teller.Proofs.Session.Heap
import Teller.Proofs.Session.Id

/-!
# Sessions by the spellings of their ids

A session is asked for by a text that spells its id. Whatever spelling is taken, and whether it
comes as a text or as a string in a JSON text, it is the id with the one written form, and two
spellings lead to one session exactly if the ids that they spell have the same written form.

* `SessionId.ReadAlike`: how an id is read and written.
* `World.Distinguishes`: where two spellings lead in a world: to one session exactly if their ids
  are written alike.
* `spellings_address`: the main result.
-/

namespace Teller

open Http (Backend)

/-! ## Reading and writing -/

/-- **How an id is read and written.** -/
structure SessionId.ReadAlike (id : SessionId) : Prop where
  /-- A text is read as the id exactly if it spells it. -/
  text : ∀ t, ofText t = .ok id ↔ Spelling id t.toList
  /-- A JSON text is, exactly if it is a string that is read as the id. -/
  json : ∀ text, ofJson text = .ok id ↔ ∃ t, Json.IsText (.text (some t)) text ∧ ofText t = .ok id
  /-- In particular, texts are read alike in both ways. -/
  alike : ∀ t text, Json.IsText (.text (some t)) text → (ofJson text = .ok id ↔ ofText t = .ok id)
  /-- The written form is read as the id. -/
  written : ofText id.text = .ok id
  /-- So is every JSON text of the written form. -/
  quoted : ∀ text, Json.IsText (.text (some id.text)) text → ofJson text = .ok id
  /-- The JSON text of the id is one of them. -/
  serialized : Json.IsText (.text (some id.text)) id.toJson.compact ∧
    ofJson id.toJson.compact = .ok id

theorem SessionId.readAlike (id : SessionId) : ReadAlike id := by
  have hwritten : ofText id.text = .ok id := ofText_eq_ok_iff.2 id.spelling_text
  have htext : Json.IsText (.text (some id.text)) id.toJson.compact :=
    Json.isText_compact_text id.text
  exact
    { text := fun t => ofText_eq_ok_iff
      json := fun text => ofJson_eq_ok_iff
      alike := fun t text h => ofJson_of_isText h
      written := hwritten
      quoted := fun text h => (ofJson_of_isText h).2 hwritten
      serialized := ⟨htext, (ofJson_of_isText htext).2 hwritten⟩ }

namespace World

variable {h : History} {w : World} {id id' : SessionId} {cell cell' : Cell}

/-! ## Two spellings in a world -/

/-- The session that a text leads to, if it spells the id of one. -/
def spelled? (w : World) (t : String) : Option Cell :=
  (SessionId.ofText t).toOption.bind w.manager.find?

theorem spelled?_of_ok {t : String} (ht : SessionId.ofText t = .ok id) :
    w.spelled? t = w.manager.find? id := by
  rw [spelled?, ht]
  rfl

/-- **Where spellings of two ids lead.** They lead to one session exactly if the ids have one
written form: whether it is found by them, what was saved by the one is loaded by the other, or
removing it by the one leaves nothing under the other. -/
structure Distinguishes (w : World) (t t' : String) (id id' : SessionId) : Prop where
  found : ∀ cell, w.spelled? t = some cell → (w.spelled? t' = some cell ↔ id.text = id'.text)
  saved : ∀ cell cell', w.spelled? t = some cell → w.spelled? t' = some cell' →
    ((∀ b b' record, ∃ k, ((w.step b (.save (.managed id) record)).1.step b'
      (.load (.managed id'))).2.answer = .loaded k record) ↔ id.text = id'.text)
  removed : ∀ b cell cell', w.spelled? t = some cell → w.spelled? t' = some cell' →
    ((w.step b (.remove id)).1.spelled? t' = none ↔ id.text = id'.text)

/-- A session that is in the register is found by one id only. -/
theorem Stored.find?_inj (hs : Stored h w) (hid : w.manager.find? id = some cell)
    (hid' : w.manager.find? id' = some cell) : id = id' := by
  rw [hs.owner] at hid hid'
  exact History.owner?_inj hid hid'

/-- What is loaded of a session after a record was saved to one. -/
theorem Stored.load_save (hs : Stored h w) (b b' : Backend) (record : Record)
    (hid : w.manager.find? id = some cell) (hid' : w.manager.find? id' = some cell') :
    ((w.step b (.save (.managed id) record)).1.step b' (.load (.managed id'))).2.answer =
      .loaded w.snapshots.length (if cell = cell' then record else w.recordAt cell') := by
  have hres : w.resolve (.managed id) = .ok cell := by
    simp only [World.resolve, hid]
  have hsave : w.step b (.save (.managed id) record) =
      ({ w with cells := w.cells.set cell record }, ⟨.saved, [], []⟩) := withCell_of_ok hres _
  have hres' : ({ w with cells := w.cells.set cell record } : World).resolve (.managed id') =
      .ok cell' := by
    simp only [World.resolve, hid']
  have hlt : cell < w.cells.length := by
    rw [hs.made]
    exact History.owner?_lt ((hs.owner id).symm.trans hid)
  rw [hsave]
  simp only [step]
  rw [withCell_of_ok hres']
  simp only [World.recordAt, List.getD_eq_getElem?_getD]
  by_cases hcell : cell = cell'
  · subst hcell
    rw [if_pos rfl, List.getElem?_set_self hlt, Option.getD_some]
  · rw [if_neg hcell, List.getElem?_set_ne hcell]

/-- Whatever is removed is not found, and everything else as before. -/
theorem find?_remove (b : Backend) (hid : w.manager.find? id = some cell) :
    (w.step b (.remove id)).1.manager.find? id' =
      if id = id' then none else w.manager.find? id' := by
  have hclose : ∃ m, w.manager.close? id = some (cell, m) := by
    rw [Manager.close?, hid]
    exact ⟨_, rfl⟩
  obtain ⟨m, hm⟩ := hclose
  simp only [step, hm]
  exact (Manager.find?_of_close? hm).2 id'

/-- **Spellings lead to one session exactly if their ids are written alike.** -/
theorem Stored.distinguishes (hs : Stored h w) {t t' : String} (ht : SessionId.ofText t = .ok id)
    (ht' : SessionId.ofText t' = .ok id') : w.Distinguishes t t' id id' := by
  refine ⟨fun cell hid => ?_, fun cell cell' hid hid' => ?_, fun b cell cell' hid hid' => ?_⟩ <;>
    rw [SessionId.text_inj] <;> rw [spelled?_of_ok ht] at hid
  · rw [spelled?_of_ok ht']
    constructor
    · exact hs.find?_inj hid
    · rintro rfl
      exact hid
  · rw [spelled?_of_ok ht'] at hid'
    constructor
    · intro hload
      by_contra hne
      have hcell : cell ≠ cell' := by
        rintro rfl
        exact hne (hs.find?_inj hid hid')
      -- of two records that differ, one at least is not what the other session holds
      have hall : ∀ record, record = w.recordAt cell' := by
        intro record
        obtain ⟨k, hk⟩ := hload .unreachable .unreachable record
        rw [hs.load_save _ _ record hid hid', if_neg hcell] at hk
        cases hk
        rfl
      have hsame : ({} : Record) = { tan := some "" } := (hall _).trans (hall _).symm
      cases hsame
    · rintro rfl b b' record
      obtain rfl : cell = cell' := Option.some.inj (hid.symm.trans hid')
      refine ⟨w.snapshots.length, (hs.load_save b b' record hid hid').trans ?_⟩
      rw [if_pos rfl]
  · rw [spelled?_of_ok ht'] at hid' ⊢
    rw [find?_remove b hid]
    by_cases heq : id = id'
    · simp [heq]
    · simp [heq, hid']

end World

/-- **Spellings of one id address one session.** Texts and strings in JSON texts are read alike, as
the ids that they spell, and every id is read back from its written form. After every run, two
spellings lead to one session exactly if the ids that they spell have the same written form. -/
theorem spellings_address :
    (∀ id : SessionId, id.ReadAlike) ∧
      ∀ (e : Endpoints) (max : Nat) (es : List (Backend × Step)) (t t' : String)
        (id id' : SessionId), SessionId.ofText t = .ok id → SessionId.ofText t' = .ok id' →
        ((World.start e max).run es).1.Distinguishes t t' id id' :=
  ⟨SessionId.readAlike, fun e max es _ _ _ _ ht ht' =>
    (World.run_stored e max es).distinguishes ht ht'⟩

/-- Two sessions, and three spellings: of the two of one id the one in braces and capitals leads to
the session of the other. -/
theorem spellings_address_braced :
    SessionId.ofText "\x7bAAAAAAAA-AAAA-AAAA-AAAA-AAAAAAAAAAAA\x7d" = .ok (.repeated 10) ∧
      SessionId.ofText "aaaaaaaaaaaaaaaaaaaaaaaaaaaaaaaa" = .ok (.repeated 10) ∧
      ((World.start .small 2).run [(.unreachable, .create (.repeated 11) {}),
        (.unreachable, .create (.repeated 10) {})]).1.spelled?
          "urn:uuid:aaaaaaaa-aaaa-aaaa-aaaa-aaaaaaaaaaaa" = some 1 ∧
      ((World.start .small 2).run [(.unreachable, .create (.repeated 11) {}),
        (.unreachable, .create (.repeated 10) {})]).1.Distinguishes
          "\x7bAAAAAAAA-AAAA-AAAA-AAAA-AAAAAAAAAAAA\x7d" "aaaaaaaaaaaaaaaaaaaaaaaaaaaaaaaa"
          (.repeated 10) (.repeated 10) :=
  ⟨by decide +kernel, by decide +kernel, by decide +kernel,
    spellings_address.2 _ _ _ _ _ _ _ (by decide +kernel) (by decide +kernel)⟩

end Teller
