/-!
# Failures

What can go wrong outside of the logic: a request that does not come back
with a value, settings that are no settings, a terminal or a file that
cannot be used. A failed request always names the path it was for.
-/

namespace Dashboard

/-- A length of time in microseconds. -/
structure Duration where
  micros : Nat
deriving DecidableEq, Repr

namespace Duration

/-- A number of milliseconds. -/
def ofMillis (ms : Nat) : Duration := ⟨ms * 1000⟩

/-- The whole milliseconds of a length of time. -/
def millis (d : Duration) : Nat := d.micros / 1000

@[simp] theorem millis_ofMillis (ms : Nat) : (ofMillis ms).millis = ms := by
  simp [ofMillis, millis]

end Duration

/-- Why something failed. -/
inductive Failure where
  /-- The network failed before there was an answer. -/
  | transport (path message : String)
  /-- The answer has a status that is no success. -/
  | status (path : String) (code : Nat)
  /-- The answer holds no value. -/
  | decode (path message : String)
  /-- There was no answer in time. -/
  | timeout (path : String) (after : Duration)
  /-- The settings cannot be read, changed or used. -/
  | config (message : String)
  /-- The terminal cannot be used. -/
  | terminal (message : String)
  /-- The operating system refused something. -/
  | system (message : String)
deriving DecidableEq, Repr

namespace Failure

/-- The wording of a failure. -/
def message : Failure → String
  | transport path m => path ++ " -> " ++ m
  | status path code => path ++ " -> " ++ toString code
  | decode path m => path ++ " -> invalid JSON: " ++ m
  | timeout path after => path ++ " -> timed out after " ++ toString after.millis ++ "ms"
  | config m => "Configuration error: " ++ m
  | terminal m => "Terminal error: " ++ m
  | system m => "I/O error: " ++ m

/-- Whether a request failed, rather than something local. -/
def isFetch : Failure → Bool
  | transport .. | status .. | decode .. | timeout .. => true
  | config _ | terminal _ | system _ => false

end Failure

end Dashboard
