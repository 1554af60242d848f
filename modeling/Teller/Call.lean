/-!
# Calls

The three things that a bank is asked for, and how such a call can end.

* `Call`: the calls; `Call.label`: the name of a call in messages, log lines and metrics.
* `Outcome`: the ends of a call that metrics tell apart.
-/

namespace Teller

/-- What a bank is asked for. -/
inductive Call where
  | tanConfirmation
  | consent
  | singlePayments
deriving DecidableEq, Repr

/-- The name of a call. -/
def Call.label : Call → String
  | .tanConfirmation => "tan_confirmation"
  | .consent => "consent"
  | .singlePayments => "single_payments"

/-- All calls. -/
def Call.all : List Call := [.tanConfirmation, .consent, .singlePayments]

/-- How a call ended. -/
inductive Outcome where
  | success
  | status
  | decode
  | transport
deriving DecidableEq, Repr

/-- The name of an end. -/
def Outcome.label : Outcome → String
  | .success => "success"
  | .status => "status"
  | .decode => "decode"
  | .transport => "transport"

/-- All ends. -/
def Outcome.all : List Outcome := [.success, .status, .decode, .transport]

end Teller
