import TransitionNetwork.Files.Fault
import TransitionNetwork.Files.Path

/-!
# File systems

What documents need of a file system in a world `m`, and what can be built from it: making a
directory together with those above it, and reading text.
-/

set_option autoImplicit false

namespace TransitionNetwork

/-- Paths are given as they are written. A file that is written is made if need be and holds
nothing but the bytes given. -/
structure FileSystem (m : Type → Type) where
  makeDirectory : String → ExceptT Fault m Unit
  isDirectory : String → m Bool
  writeFile : String → ByteArray → ExceptT Fault m Unit
  readFile : String → ExceptT Fault m ByteArray

namespace FileSystem

variable {m : Type → Type} [Monad m] (files : FileSystem m)

/-- Makes one directory; one that is already there will do. -/
def ensureDirectory (path : String) : ExceptT Fault m Unit :=
  tryCatch (files.makeDirectory path) fun fault => do
    if fault = .alreadyExists then
      if ← files.isDirectory path then pure () else throw fault
    else throw fault

/-- Makes the first directory of a list. If the directory that it lies in is missing, the rest of
the list is made before it. -/
def ensureNested : List String → ExceptT Fault m Unit
  | [] => pure ()
  | path :: above =>
    tryCatch (files.ensureDirectory path) fun fault =>
      if fault = .notFound then do
        ensureNested above
        files.ensureDirectory path
      else throw fault

def ensureDirectories (path : String) : ExceptT Fault m Unit :=
  files.ensureNested (Path.ancestors path)

def textOfBytes (bytes : ByteArray) : Except Fault String :=
  match String.fromUTF8? bytes with
  | some text => .ok text
  | none => .error .notUnicode

end FileSystem

end TransitionNetwork
