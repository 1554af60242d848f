import Teller.Proofs.Json.Rearranged
import Teller.Proofs.PaymentDocument
import Teller.Record

/-!
# What reading overlooks

The bank may send the members of a payment in any order, may add members of its own, and may write
an account id in two ways. Nothing of that changes the payment that is read; nor does it change a
record.

* `AccountReference.rearranged_id`: the two names of an account id.
* `readsThrough_documents`: payments and records are read through all rearrangements.
-/

namespace Teller

open Json (Doc IsText ReadsThrough leads_nil leads_comma)
open Json.Doc (Rearranged)

/-- An account id has two names, and each may stand for the other. -/
theorem AccountReference.rearranged_id {name name' : String} {d : Doc}
    (hname : name = "accountId" ∨ name = "id") (hname' : name' = "accountId" ∨ name' = "id")
    (ms : List (Option String × Doc)) :
    Rearranged shape (.object ((some name, d) :: ms)) (.object ((some name', d) :: ms)) := by
  have hnames {k : String} (hk : k = "accountId" ∨ k = "id") :
      k ∈ Schema.Field.names ⟨"accountId", ["id"], false⟩ := by
    simpa [Schema.Field.names] using hk
  exact .known (.inl ⟨rfl, rfl⟩) (hnames hname) (hnames hname') (.refl _ d)

theorem Record.isPlain_shape : Record.shape.isPlain = true := by decide

theorem Record.levels_shape : Record.shape.levels < Json.depthLimit := by decide

/-- **Payments and records are read through all rearrangements** of their documents: the order of
members, members that are not known and the name of an account id do not matter. -/
theorem readsThrough_documents :
    ReadsThrough Payment.shape Payment.ofJson ∧ ReadsThrough Record.shape Record.ofJson :=
  ⟨Json.readsThrough_decode Payment.isPlain_shape Payment.levels_shape Payment.ofMembers,
    Json.readsThrough_decode Record.isPlain_shape Record.levels_shape Record.ofMembers⟩

namespace Payment

/-- A value of which nothing is known. -/
def nested : Doc := .array [.array []]

theorem writes_nested : Json.Writes nested "[[]]".toList :=
  .array (.item leads_nil (.array (.close Json.space_nil)) (.close Json.space_nil))

/-- The document of `sparse` in another order, with such a value and with the other name of the
account id. -/
def turned : Doc := .object [(some "x", nested), (some "instructedAmount", .null),
  (some "debtorAccount", .object [(some "iban", .null), (some "accountId", .text (some "A1"))])]

/-- Its text. -/
def turnedText : String :=
  "\x7b\"x\":[[]],\"instructedAmount\":null,\"debtorAccount\":\x7b\"iban\":null," ++
    "\"accountId\":\"A1\"\x7d\x7d"

theorem isText_turned : IsText turned turnedText := by
  have haccount := Json.WritesMembers.plain "iban" leads_nil (by decide) .null
    (.plain "accountId" leads_comma (by decide) (Json.Writes.plain "A1" (by decide))
      (.close Json.space_nil))
  have hmembers := Json.WritesMembers.plain "x" leads_nil (by decide) writes_nested
    (.plain "instructedAmount" leads_comma (by decide) .null
      (.plain "debtorAccount" leads_comma (by decide) (.object haccount) (.close Json.space_nil)))
  exact ⟨[], _, [], Json.space_nil, .object hmembers, Json.space_nil, by rfl⟩

theorem rearranged_turned : Rearranged shape sparse turned := by
  have haccount : Rearranged AccountReference.shape
      (.object [(some "id", .text (some "A1")), (some "iban", .null)])
      (.object [(some "iban", .null), (some "accountId", .text (some "A1"))]) :=
    (AccountReference.rearranged_id (.inr rfl) (.inl rfl) _).trans (.ordered (.swap _ _ _))
  have hnames : "debtorAccount" ∈ Schema.Field.names ⟨"debtorAccount", [], false⟩ := by decide
  have hx : "x" ∉ fields.names := by decide
  exact .trans (.known (.inr (.inl ⟨rfl, rfl⟩)) hnames hnames (.optional haccount))
    (.trans (.ordered (.swap _ _ _)) (.unknown hx ⟨_, writes_nested⟩))

theorem read_turned :
    ofJson sparseText = .ok sparsePayment ∧ IsText sparse sparseText ∧
      Rearranged shape sparse turned ∧ IsText turned turnedText ∧
      ofJson turnedText = .ok sparsePayment := by
  have hread : ofJson sparseText = .ok sparsePayment := Json.ok_of_toOption (by decide +kernel)
  have hthrough := (readsThrough_documents.1 sparseText sparsePayment hread).2 sparse turned
    isText_sparse rearranged_turned
  exact ⟨hread, isText_sparse, rearranged_turned, isText_turned, hthrough.2 _ isText_turned⟩

end Payment

end Teller
