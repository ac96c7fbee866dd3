import Dashboard.Fetch.Cycle

/-!
# Backends

A backend replies to every request that is made of it, and what it replies
may depend on the instant and on all the requests that came before. Its
state is whatever it has to remember of them.

Requests of a batch are made together, so each of them gets the reply of the
state before the batch.
-/

namespace Dashboard.Fetch

/-- What can be asked. -/
class Backend (β : Type) where
  /-- The reply to a request that is made at an instant. -/
  reply (backend : β) (now : Nat) (request : Endpoint) : Reply
  /-- The backend after requests that were made together. -/
  after (backend : β) (now : Nat) (requests : List Endpoint) : β

/-- What the next request of each kind comes back with under a deadline. -/
def Backend.answers {β : Type} [Backend β] (backend : β) (now limit : Nat) : Answers := fun e =>
  (reply backend now e).within limit e.path

end Dashboard.Fetch
