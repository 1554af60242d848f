import Teller.ConfirmationPath
import Teller.Decision
import Teller.Text.Blank
import Teller.Url.Read

/-!
# Where requests go

All requests go to URLs below one base URL, whose path they keep.

* `Endpoints`: the base and the pages that confirm; `Endpoints.ofText`: from the text of a base.
* `Endpoints.tanConfirmation`, `Endpoints.consent`, `Endpoints.singlePayment`: the URLs of the
  three calls.
-/

namespace Teller

/-- The base of all requests and the pages that confirm. The base has segments, to which more can
be added, and neither query nor fragment. -/
structure Endpoints where
  base : Url
  confirmation : ConfirmationPath
  base_rooted : base.isFlat = false
  base_bare : base.bare = base

/-- Why a text is no base. -/
inductive EndpointError where
  /-- It is no URL. -/
  | url (cause : UrlError)
  /-- Its path has no segments. -/
  | flat (text : String)
deriving DecidableEq, Repr

/-- The wording of a refusal. -/
def EndpointError.message : EndpointError → String
  | .url cause => "Invalid URL: " ++ cause.message
  | .flat text => "Invalid argument: base URL '" ++ text ++ "' cannot carry request paths"

namespace Endpoints

/-- The endpoints below the URL of a text. Blanks around it do not matter, and query and fragment
are dropped. -/
def ofText (text : String) (confirmation : ConfirmationPath) : Except EndpointError Endpoints :=
  match Url.ofText (Text.trim text) with
  | .error cause => .error (.url cause)
  | .ok url =>
    if h : url.isFlat = false then .ok ⟨url.bare, confirmation, h, rfl⟩
    else .error (.flat text)

/-- The path of the base without the slashes at its end. -/
def stem (e : Endpoints) : List Char :=
  (e.base.path.text.reverse.dropWhile (· == '/')).reverse

/-- The URL with the given path behind the base's. -/
def below (e : Endpoints) (path : List Char) : Url := e.base.withPath (e.stem ++ path)

/-- Where a TAN is confirmed. -/
def tanConfirmation (e : Endpoints) : Url := e.below (e.confirmation.text ++ "/").toList

/-- Where a consent is decided. -/
def consent (e : Endpoints) (d : Decision) : Url :=
  { e.below (e.confirmation.text ++ "/consent").toList with
    query := some ("decision=" ++ d.word).toList }

/-- Where a payment is shown. Its id is one segment. -/
def singlePayment (e : Endpoints) (paymentId : String) : Url :=
  (e.below "/payments".toList).push paymentId.toList

end Endpoints

end Teller
