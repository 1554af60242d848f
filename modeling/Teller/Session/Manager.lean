import Teller.Session.Id

/-!
# The register of sessions

* `Manager`: the sessions by their ids, the slots that are taken, and how many there may be.
* `SessionError`: why there is no session.
* `Manager.find?`: the session of an id.
* `Manager.open?`: one session more, if there is a slot.
* `Manager.close?`: a session less, if there is one of that id.
-/

namespace Teller

/-- A place that holds a record. -/
abbrev Cell := Nat

/-- The sessions by their ids. A slot is taken before a session is entered and given back after it
is gone, so `reserved` counts the slots on its own. -/
structure Manager where
  sessions : List (SessionId × Cell) := []
  reserved : Nat := 0
  max : Nat
deriving DecidableEq, Repr

/-- Why there is no session. -/
inductive SessionError where
  | notFound (id : SessionId)
  /-- So many sessions can be held, and are. -/
  | limit (max : Nat)
deriving DecidableEq, Repr

/-- The wording of an error. -/
def SessionError.message : SessionError → String
  | .notFound id => "Session " ++ id.text ++ " not found"
  | .limit max => "Session limit of " ++ toString max ++ " reached"

namespace Manager

/-- The session of an id. -/
def find? (m : Manager) (id : SessionId) : Option Cell := m.sessions.lookup id

/-- The number of sessions. -/
def length (m : Manager) : Nat := m.sessions.length

/-- Enters a session, in place of one with the same id. -/
def enter (m : Manager) (id : SessionId) (cell : Cell) : Manager :=
  { m with sessions := (id, cell) :: m.sessions.filter (·.1 != id) }

/-- One session more, unless all slots are taken. -/
def open? (m : Manager) (id : SessionId) (cell : Cell) : Option Manager :=
  if m.reserved < m.max then some ({ m with reserved := m.reserved + 1 }.enter id cell) else none

/-- The counter of slots with one given back. It is a word of 64 bits, and would wrap if no slot
were taken. -/
def giveBack (reserved : Nat) : Nat := if reserved = 0 then UInt64.size - 1 else reserved - 1

/-- The session of an id, and the register without it. -/
def close? (m : Manager) (id : SessionId) : Option (Cell × Manager) :=
  (m.find? id).map fun cell =>
    (cell, { m with sessions := m.sessions.filter (·.1 != id), reserved := giveBack m.reserved })

end Manager

end Teller
