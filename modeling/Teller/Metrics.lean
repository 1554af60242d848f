import Teller.Call

/-!
# Metrics

* `Metrics`: how often calls ended in which way, how many durations were taken of each call, and how
  many sessions there are.
* `Metrics.record`: one call more; `Metrics.setActive`: another number of sessions.
* `Metrics.entries`: everything that was counted, with its name and labels.
-/

namespace Teller

/-- What is counted. The number of sessions is unset until there was one. -/
structure Metrics where
  requests : Call → Outcome → Nat := fun _ _ => 0
  durations : Call → Nat := fun _ => 0
  active : Option Nat := none

namespace Metrics

/-- Counts a call and takes its duration. -/
def record (m : Metrics) (call : Call) (outcome : Outcome) : Metrics :=
  { m with
    requests := fun c o =>
      if c = call ∧ o = outcome then m.requests c o + 1 else m.requests c o
    durations := fun c => if c = call then m.durations c + 1 else m.durations c }

/-- Sets the number of sessions. -/
def setActive (m : Metrics) (n : Nat) : Metrics := { m with active := some n }

/-- The name of a metric with its labels. -/
def key (name : String) (labels : List (String × String)) : String :=
  name ++ "\x7b" ++ ",".intercalate (labels.map fun (k, v) => k ++ "=" ++ v) ++ "\x7d"

/-- Everything that was counted. -/
def entries (m : Metrics) : List (String × Nat) :=
  let requests := Call.all.flatMap fun c => Outcome.all.map fun o =>
    (key "banking_requests_total" [("endpoint", c.label), ("outcome", o.label)], m.requests c o)
  let durations := Call.all.map fun c =>
    (key "banking_request_duration_seconds" [("endpoint", c.label)], m.durations c)
  (requests ++ durations).filter (·.2 != 0) ++
    (m.active.map fun n => (key "banking_sessions_active" [], n)).toList

end Metrics

end Teller
