import TransitionNetwork.CommandLine

/-!
# The program

Runs the command line on the files and streams of the system.
-/

set_option autoImplicit false

namespace TransitionNetwork

def Fault.ofNumber (number : Nat) (text : String) : Fault :=
  match number with
  | 2 => .notFound
  | 17 => .alreadyExists
  | 20 => .notDirectory
  | 21 => .isDirectory
  | 36 => .nameTooLong
  | _ => .system text number

def Fault.ofSystem : IO.Error → Fault
  | .alreadyExists _ number text | .interrupted _ number text
  | .noFileOrDirectory _ number text | .invalidArgument _ number text
  | .permissionDenied _ number text | .resourceExhausted _ number text
  | .inappropriateType _ number text | .noSuchThing _ number text
  | .otherError number text | .resourceBusy number text | .resourceVanished number text
  | .unsupportedOperation number text | .hardwareFault number text
  | .unsatisfiedConstraints number text | .illegalOperation number text
  | .protocolError number text | .timeExpired number text => ofNumber number.toNat text
  | .unexpectedEof => .system "unexpected end of file" 0
  | .userError text => .system text 0

def onSystem {α : Type} (action : IO α) : ExceptT Fault IO α := do
  match ← action.toBaseIO with
  | .ok value => pure value
  | .error error => throw (.ofSystem error)

/-- As the system has it; a path with a NUL is refused before the system sees it. -/
def onPath {α : Type} (path : String) (action : IO α) : ExceptT Fault IO α :=
  if '\x00' ∈ path.toList then throw .containsNul else onSystem action

def systemFiles : FileSystem IO where
  makeDirectory path := onPath path (IO.FS.createDir path)
  isDirectory path := return ← ((← IO.currentDir) / path).isDir
  writeFile path bytes := onPath path (IO.FS.writeBinFile path bytes)
  readFile path := onPath path (IO.FS.withFile path .read (·.readBinToEnd))

partial def readAll (stream : IO.FS.Stream) (bytes : ByteArray) : IO ByteArray := do
  let more ← stream.read 65536
  if more.isEmpty then return bytes else readAll stream (bytes ++ more)

def systemHost : CommandLine.Host IO where
  files := systemFiles
  standardInput := onSystem do readAll (← IO.getStdin) .empty

end TransitionNetwork

open TransitionNetwork in
def main (words : List String) : IO UInt32 := do
  let outcome ← CommandLine.run systemHost words
  IO.print outcome.output
  IO.eprint outcome.errors
  return outcome.exitCode
