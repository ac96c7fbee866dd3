import Dashboard.Fetch.Backend

/-!
# Scripted backends

A scripted backend has a queue of replies for each path. A request takes the
first reply of its path when it is started; the last one stays and is given
again and again. A path without replies is not found.
-/

namespace Dashboard.Fetch

/-- A queue of replies for each path. -/
structure Script where
  queues : List (String × List Reply)

namespace Script

/-- The reply of a path that has none. -/
def notFound (path : String) : Reply := ⟨some 0, .failed (.status path 404)⟩

/-- The reply that the next request for a path gets. -/
def next (s : Script) (path : String) : Reply :=
  match s.queues.lookup path with
  | some (r :: _) => r
  | _ => notFound path

/-- A queue after a request; its last reply stays. -/
def advance : List Reply → List Reply
  | [] => []
  | [r] => [r]
  | _ :: rest => rest

/-- The script after a request for a path. -/
def take (s : Script) (path : String) : Script :=
  ⟨s.queues.map fun (p, q) => if p = path then (p, advance q) else (p, q)⟩

/-- The script after some requests. -/
def takeAll (s : Script) (requests : List Endpoint) : Script :=
  requests.foldl (fun s e => s.take e.path) s

/-- What the next request of each kind comes back with under a deadline. -/
def answers (s : Script) (limit : Nat) (e : Endpoint) : Answer :=
  (s.next e.path).within limit e.path

end Script

/-- A scripted backend does not look at the time. -/
instance : Backend Script where
  reply s _ e := s.next e.path
  after s _ requests := s.takeAll requests

end Dashboard.Fetch
