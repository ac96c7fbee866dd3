import Dashboard.Fetch.Message
import Std.Async.DNS
import Std.Async.TCP

/-!
# Visits over the network

The outer layer that carries requests to hosts and brings responses back.
What it learns of a visit is kept up to date while the visit lasts, so that
whatever has been learned by the deadline is what counts. It does not speak
in ciphers: an address that asks for them cannot be reached.
-/

namespace Dashboard.Network

open Fetch Std.Async

/-- A visit that is under way. -/
structure Trip where
  /-- When it began, in milliseconds. -/
  start : Nat
  /-- What has been learned of it. -/
  learned : IO.Ref Visit

/-- The time since a trip began. -/
def Trip.elapsed (t : Trip) : BaseIO Nat := return (← IO.monoMsNow) - t.start

/-- Notes what has become of the exchange. -/
def Trip.note (t : Trip) (e : Exchange) : BaseIO Unit :=
  t.learned.modify fun v => { v with exchange := e }

/-- The name of a host as the resolver takes it, without brackets. -/
def hostName (h : Url.Host) : String :=
  String.ofList (h.text.filter fun c => c != '[' && c != ']')

/-- The address of a socket. -/
def socketAddress (service : UInt16) : Std.Net.IPAddr → Std.Net.SocketAddress
  | .v4 addr => .v4 ⟨addr, service⟩
  | .v6 addr => .v6 ⟨addr, service⟩

/-- Connects to the host of an address. -/
def connect (url : Url) : Async TCP.Socket.Client := do
  match url.authority, Url.Kind.ofScheme url.scheme with
  | some a, .web usual =>
    if url.scheme != "http".toList then throw (.userError "no ciphers")
    let found ← DNS.getAddrInfo (hostName a.host) ""
    let some addr := found[0]? | throw (.userError "no such host")
    let client ← TCP.Socket.Client.mk
    client.connect (socketAddress (UInt16.ofNat (a.service.getD usual)) addr)
    return client
  | _, _ => throw (.userError "no host")

/-- Receives a response and notes how far it has come. Returns the head when
nothing more is needed. -/
partial def receive (t : Trip) (client : TCP.Socket.Client) (headAt : Option Nat)
    (bytes : List UInt8) : Async (Option Message.Head) := do
  let more ← client.recv? 65536
  let now ← t.elapsed
  let bytes := bytes ++ (more.map fun b => b.toList).getD []
  let at_ := headAt.getD now
  match Message.progress bytes more.isNone with
  | .waiting => receive t client none bytes
  | .headed h => do
    t.note (.answered at_ h.code .missing)
    receive t client (some at_) bytes
  | .whole h body => do
    t.note (.answered at_ h.code (.complete now body))
    return some h
  | .cutOff h => do
    t.note (.answered at_ h.code (.broken now))
    return some h
  | .broken => throw (.userError "no response")

/-- Visits an address and those it leads to, at most `hops` of them. -/
def travel (t : Trip) : Nat → Url → Async Unit
  | 0, url => do t.learned.set ⟨url, .broken (← t.elapsed) .redirecting⟩
  | hops + 1, url => do
    t.learned.set ⟨url, .silent⟩
    let client ← connect url
    client.send (Message.request url).toUTF8
    let head ← receive t client none []
    match head.bind fun h => redirect? url h.code (h.headers.lookup "location") with
    | some next => travel t hops next
    | none => return

/-- Begins a visit. -/
def depart (url : Url) : IO (Trip × AsyncTask Unit) := do
  let t : Trip := ⟨← IO.monoMsNow, ← IO.mkRef ⟨url, .silent⟩⟩
  let task ← Async.toIO do
    try travel t (mostRedirects + 1) url
    catch _ =>
      let now ← t.elapsed
      t.learned.modify fun v => { v with exchange := v.exchange.lost now }
  return (t, task)

/-- Waits until all visits have ended or the time is over. -/
partial def await (limit start : Nat) (trips : List (Trip × AsyncTask Unit)) : IO Unit := do
  let unfinished ← trips.filterM fun (_, task) => return ! (← IO.hasFinished task)
  if unfinished.isEmpty then return
  if limit < (← IO.monoMsNow) - start then return
  IO.sleep 1
  await limit start unfinished

/-- Visits addresses side by side, each for at most `limit` milliseconds. -/
def visit (limit : Nat) (urls : List Url) : IO (Url → Visit) := do
  let start ← IO.monoMsNow
  let trips ← urls.mapM depart
  await limit start trips
  let visits ← trips.mapM fun (t, _) => t.learned.get
  let known := urls.zip visits
  return fun url => (known.lookup url).getD ⟨url, .silent⟩

end Dashboard.Network
