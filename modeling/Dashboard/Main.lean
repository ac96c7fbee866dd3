import Dashboard.CommandLine.Program
import Dashboard.Network
import Std.Time

/-!
# The command line

The outer layer of the program: it hands the program what it needs of the
system, prints what the program ends with and exits with its code.
-/

namespace Dashboard.Main

open CommandLine

/-- The number of a system error, whatever its sign is. -/
def magnitude (code : UInt32) : Nat := min code.toNat (UInt32.size - code.toNat)

/-- The number and the words of a system error. -/
def describe : IO.Error → Option (Nat × String)
  | .noFileOrDirectory _ code words | .inappropriateType _ code words
  | .permissionDenied _ code words | .invalidArgument _ code words
  | .resourceExhausted _ code words | .noSuchThing _ code words
  | .alreadyExists _ code words | .otherError code words | .resourceBusy code words
  | .hardwareFault code words | .unsupportedOperation code words => some (magnitude code, words)
  | _ => none

/-- The cause of a system error. -/
def cause (e : IO.Error) : SystemError :=
  match describe e with
  | some (2, _) => .notFound
  | some (6, _) => .noDevice
  | some (20, _) => .notDirectory
  | some (21, _) => .isDirectory
  | some (36, _) => .nameTooLong
  | some (code, words) => .other (words ++ " (os error " ++ toString code ++ ")")
  | none => .other (toString e)

/-- Reads a file; a path that leads nowhere is that of no file. -/
def readFile (path : String) : IO FileState := do
  if (refusal? path).isSome then return .absent
  try return .ofBytes (← IO.FS.readBinFile path).toList
  catch e =>
    match cause e with
    | .notFound | .notDirectory => return .absent
    | reason => return .unreadable reason

/-- Opens a file to append to it, which creates it where it is missing. -/
def canAppend (path : String) : IO (Except SystemError Unit) := do
  if let some e := refusal? path then return .error e
  try
    let _ ← IO.FS.Handle.mk path .append
    return .ok ()
  catch e => return .error (cause e)

/-- The surroundings of a running program. -/
def surroundings : Surroundings IO where
  read := readFile
  canAppend := canAppend
  visit := Network.visit
  now := return (← Std.Time.Timestamp.now).toSecondsSinceUnixEpoch.val

/-- The variables of the environment that the program asks for. -/
def environment : IO (List (String × String)) := do
  let names := filterVariable :: Flag.all.filterMap Flag.envName?
  names.filterMapM fun name => return (← IO.getEnv name).map (name, ·)

/-- Writes a log. -/
def writeLog (log : Log) : IO Unit := do
  let text := String.join (log.entries.map fun e => e.line log.format)
  match log.file with
  | some path => (← IO.FS.Handle.mk path .append).putStr text
  | none => IO.eprint text

end Dashboard.Main

/-- Runs the program. -/
def main (arguments : List String) : IO UInt32 := do
  let known ← Dashboard.Main.environment
  let ending ←
    Dashboard.CommandLine.run Dashboard.Main.surroundings arguments fun name => known.lookup name
  ending.log.forM Dashboard.Main.writeLog
  IO.print ending.output
  IO.eprint ending.errors
  return ending.code.toUInt32
