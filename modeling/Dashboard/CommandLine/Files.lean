import Dashboard.Text.Utf8

/-!
# Files

The program reads one file with settings and appends to one file for its
log. Both are named by paths, and what the system says when it refuses is
shown. Some paths are refused before they are followed.
-/

namespace Dashboard.CommandLine

/-- Why the system refuses a file. -/
inductive SystemError where
  | notFound
  | notDirectory
  | isDirectory
  | noDevice
  | nameTooLong
  /-- A path holds the character NUL. -/
  | nulInPath
  /-- The bytes are no text. -/
  | notText
  | other (words : String)
deriving DecidableEq, Repr

/-- The wording of an error. -/
def SystemError.message : SystemError → String
  | notFound => "No such file or directory (os error 2)"
  | notDirectory => "Not a directory (os error 20)"
  | isDirectory => "Is a directory (os error 21)"
  | noDevice => "No such device or address (os error 6)"
  | nameTooLong => "File name too long (os error 36)"
  | nulInPath => "file name contained an unexpected NUL byte"
  | notText => "stream did not contain valid UTF-8"
  | other words => words

/-- What reading a path leads to. -/
inductive FileState where
  | absent
  | unreadable (e : SystemError)
  | text (contents : String)
deriving DecidableEq, Repr

/-- The state of a file that holds some bytes. -/
def FileState.ofBytes (bytes : List UInt8) : FileState :=
  match Text.Utf8.decode? bytes with
  | some s => text (String.ofList s)
  | none => unreadable .notText

/-! ## Paths -/

/-- The length in bytes of a path that the system does not follow any more. -/
def longPath : Nat := 4096

/-- Why a path is refused whatever is there. -/
def refusal? (path : String) : Option SystemError :=
  if path.toList.contains '\x00' then some .nulInPath
  else if path = "" then some .notFound
  else if longPath ≤ path.utf8ByteSize then some .nameTooLong
  else none

end Dashboard.CommandLine
