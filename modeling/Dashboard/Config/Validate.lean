import Dashboard.Config.Basic

/-!
# Usable settings

Settings can be used when all addresses are addresses of the web, a request
may take some time, and there is time enough between two cycles. The first
of these that does not hold is reported.
-/

namespace Dashboard.Config

/-- Whether a text begins like an address of the web. -/
def isWebUrl (url : String) : Bool :=
  "http://".toList.isPrefixOf url.toList || "https://".toList.isPrefixOf url.toList

/-- Refuses an address that is none of the web. -/
def requireWebUrl (key url : String) : Except ConfigError Unit :=
  if isWebUrl url then .ok () else .error (.notWebUrl key url)

/-- Refuses settings that cannot be used. -/
def validate (c : Config) : Except ConfigError Unit := do
  requireWebUrl "backend.base_url" c.backend.baseUrl
  requireWebUrl "links.prometheus_fallback" c.links.storeFallback
  requireWebUrl "links.grafana_url" c.links.grafanaUrl
  if c.backend.requestTimeout = 0 then throw .noTimeout
  if c.refresh.interval < leastInterval then throw .shortInterval

end Dashboard.Config
