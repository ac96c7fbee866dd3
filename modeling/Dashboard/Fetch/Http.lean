import Dashboard.Fetch.Cycle
import Dashboard.Text.Blank
import Dashboard.Url.Basic

/-!
# The backend on the web

A request to the backend is a request for the address that begins with the
backend's and ends with the path. What the network makes of it is an
exchange: a head with a status, then a body, each at some time or never, and
the connection may break at any time. The deadline of a request covers the
whole exchange.

What the status says counts as soon as the head is there, so the body of an
answer that is no success is never waited for. A body that does not come in
time is a body that was lost, since the answer itself has come.
-/

namespace Dashboard.Fetch

/-- Why there is no answer. -/
inductive Break where
  /-- The connection was refused, or it was lost before a head had come. -/
  | sending
  /-- One address led to the next too often. -/
  | redirecting
deriving DecidableEq, Repr

/-- What becomes of a body, with the time since the request. -/
inductive Body where
  | missing
  | broken (at_ : Nat)
  | complete (at_ : Nat) (bytes : List UInt8)
deriving DecidableEq, Repr

/-- What the network makes of a request, with the time since the request. -/
inductive Exchange where
  | silent
  | broken (at_ : Nat) (cause : Break)
  | answered (at_ : Nat) (code : Nat) (body : Body)
deriving DecidableEq, Repr

/-- The address that a request was led to in the end, and the exchange there. -/
structure Visit where
  url : Url
  exchange : Exchange
deriving DecidableEq, Repr

/-! ## Outcomes -/

/-- The text of an address. -/
def urlText (url : Url) : String := String.ofList url.text

/-- The wording of a cause. -/
def Break.words : Break → String
  | sending => "error sending request"
  | redirecting => "error following redirect"

/-- Whether a status means success. -/
def isSuccess (code : Nat) : Bool := 200 ≤ code && code ≤ 299

/-- The outcome of a request that took too long. -/
def late (path : String) (limit : Nat) : Outcome :=
  .failed (.timeout path (Duration.ofMillis limit))

/-- The outcome of a request whose answer lost its body. -/
def bodyLost (path : String) : Outcome :=
  .failed (.transport path "failed to read body: error decoding response body")

/-- The reply whose answer is a success, its head after `headAt`. -/
def Body.reply (path : String) (limit headAt : Nat) : Body → Reply
  | missing => ⟨some limit, bodyLost path⟩
  | broken at_ => ⟨some (min limit (max headAt at_)), bodyLost path⟩
  | complete at_ bytes =>
    if max headAt at_ ≤ limit then ⟨some (max headAt at_), .ofPayload path bytes⟩
    else ⟨some limit, bodyLost path⟩

/-- The reply that a visit amounts to under a deadline. -/
def Visit.reply (v : Visit) (path : String) (limit : Nat) : Reply :=
  match v.exchange with
  | .silent => ⟨some limit, late path limit⟩
  | .broken at_ cause =>
    if at_ ≤ limit then
      ⟨some at_, .failed (.transport path (cause.words ++ " for url (" ++ urlText v.url ++ ")"))⟩
    else ⟨some limit, late path limit⟩
  | .answered at_ code body =>
    if limit < at_ then ⟨some limit, late path limit⟩
    else if isSuccess code then body.reply path limit at_
    else ⟨some at_, .failed (.status path code)⟩

/-- An exchange of which nothing more will come after some time. -/
def Exchange.lost (e : Exchange) (at_ : Nat) : Exchange :=
  match e with
  | silent => broken at_ .sending
  | answered headAt code .missing => answered headAt code (.broken at_)
  | e => e

/-! ## The backend -/

/-- A backend on the web. -/
structure HttpBackend where
  /-- Its address, without a slash at the end. -/
  baseUrl : String
  /-- How long a request may take, in milliseconds. -/
  timeout : Nat
deriving DecidableEq, Repr

/-- Why there is no request for a path. -/
inductive TargetError where
  /-- The address cannot be read. -/
  | unreadable
  /-- Nothing can be asked there. -/
  | unusable (url : Url)
deriving DecidableEq, Repr

/-- The wording of an error. -/
def TargetError.message : TargetError → String
  | unreadable => "builder error"
  | unusable url => "builder error for url (" ++ urlText url ++ ")"

/-- Whether a host can be asked; quotes and braces are no part of the name of
one that can. -/
def isReachable (host : List Char) : Bool :=
  host != [] && ! host.any fun c => "\"\x60\x7b\x7d".contains c

/-- The greatest length of an address that can be asked for. -/
def longestAddress : Nat := 65534

/-- Whether an address can be asked for. -/
def isUsable (url : Url) : Bool :=
  (url.scheme == "http".toList || url.scheme == "https".toList) &&
    (url.authority.map fun a => isReachable a.host.text).getD false &&
    url.text.length ≤ longestAddress

namespace HttpBackend

/-- The backend at an address. -/
def ofUrl (url : String) (timeout : Nat) : HttpBackend :=
  ⟨Text.dropTrailingSlashes url, timeout⟩

/-- The address to ask for a path. Who asks is no part of where to ask. -/
def target (b : HttpBackend) (path : String) : Except TargetError Url :=
  match Url.read? (b.baseUrl.toList ++ path.toList) with
  | none => .error .unreadable
  | some url =>
    if isUsable url.anonymous then .ok url.anonymous else .error (.unusable url.anonymous)

/-- The reply to a request for a path, given what visits lead to. -/
def reply (b : HttpBackend) (visit : Url → Visit) (path : String) : Reply :=
  match b.target path with
  | .ok url => (visit url).reply path b.timeout
  | .error e => ⟨some 0, .failed (.transport path e.message)⟩

/-- The addresses to visit for some requests. -/
def targets (b : HttpBackend) (requests : List Endpoint) : List Url :=
  requests.filterMap fun e => (b.target e.path).toOption

/-- What requests come back with, given what visits lead to. -/
def answers (b : HttpBackend) (visit : Url → Visit) : Answers := fun e =>
  (b.reply visit e.path).within b.timeout e.path

end HttpBackend

/-! ## Redirects -/

/-- How often an address may lead to another one. -/
def mostRedirects : Nat := 10

/-- The address that an answer leads to. -/
def redirect? (url : Url) (code : Nat) (location : Option String) : Option Url := do
  let next ← url.resolve? (← location).toList
  if [301, 302, 303, 307, 308].contains code && isUsable next then some next else none

end Dashboard.Fetch
