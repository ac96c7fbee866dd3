import Dashboard.Poller.Clock

/-!
# The start of a poller

Before a poller is started the backend is asked for its settings. What comes
back settles what all cycles share, and the poller finds the backend as that
one request has left it. A reply that takes the session down leaves it without
a poller.
-/

namespace Dashboard.Poller

open Fetch

/-- What a session knows before its poller is started. -/
structure Session (β : Type) where
  /-- What has been requested so far. -/
  requests : List Endpoint
  /-- What came back of it. -/
  answer : Answer
  /-- What its cycles share, if it gets to them. -/
  ctx : Option Context
  backend : β

/-- Asks a backend for its settings. -/
def Session.opened {β : Type} [Backend β] (config : Config) (backend : β) : Session β :=
  let answer := Backend.answers backend 0 config.backend.requestTimeout.toNat .settings
  { requests := [.settings]
    answer
    ctx := answer.outcome.result?.map fun settings => .ofSettings config settings.toOption
    backend := Backend.after backend 0 [.settings] }

end Dashboard.Poller
