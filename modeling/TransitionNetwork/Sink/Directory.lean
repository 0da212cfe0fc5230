import TransitionNetwork.Files
import TransitionNetwork.Sink

/-!
# Documents in a directory
-/

set_option autoImplicit false

namespace TransitionNetwork.Sink

/-- Writes every document to the file of its name below the root. The root and the directories
above it are made for every document, if they are missing. -/
def directory {m : Type → Type} [Monad m] (files : FileSystem m) (root : String) : Sink m Fault :=
  fun document => do
    files.ensureDirectories root
    files.writeFile (Path.join root document.name) document.content.toUTF8

end TransitionNetwork.Sink
