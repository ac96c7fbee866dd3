import Dashboard.Config.Basic
import Dashboard.Fetch.Endpoint
import Dashboard.Fetch.Reply
import Dashboard.Text.Blank

/-!
# The start of a session

Before the first cycle the backend is asked, once, for its settings, which
may announce where the metrics store is. The announced address counts when
something other than blank characters is in it; otherwise, and whenever the
request fails, the configured one stands in. Either way the address ends
without a slash.

What is settled here is the context of every cycle that follows.
-/

namespace Dashboard.Fetch

/-- The address that the backend's settings announce. -/
def announcedUrl? (settings : Json) : Option String :=
  (((settings.get? "prometheusURL").bind Json.string?).map Text.trim).filter (· != "")

/-- The address to use, given the settings if they could be had. -/
def storeUrl (settings : Option Json) (fallback : String) : String :=
  Text.dropTrailingSlashes ((settings.bind announcedUrl?).getD fallback)

/-- What all cycles of a session share. -/
structure Context where
  /-- Where the metrics store is. -/
  storeUrl : String
  grafanaUrl : String
  /-- How long a request may take, in milliseconds. -/
  timeout : Nat
  /-- The time from one cycle to the next, in milliseconds. -/
  interval : Nat
  overlap : OverlapPolicy
  primaryBatch : BatchPolicy
deriving DecidableEq, Repr

/-- The context of a session, given the backend's settings if they could be
had. -/
def Context.ofSettings (config : Config) (settings : Option Json) : Context where
  storeUrl := Fetch.storeUrl settings config.links.storeFallback
  grafanaUrl := Text.dropTrailingSlashes config.links.grafanaUrl
  timeout := config.backend.requestTimeout.toNat
  interval := config.refresh.interval.toNat
  overlap := config.refresh.overlap
  primaryBatch := config.refresh.primaryBatch

end Dashboard.Fetch
