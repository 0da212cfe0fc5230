import TransitionNetwork.Automaton.Load
import TransitionNetwork.CommandLine.Arguments
import TransitionNetwork.Files.Tree
import TransitionNetwork.Sink.Directory

/-!
# The command line

One run: arguments, then input, then the automaton, then its documents. Each stage is reached only
if those before it went well, and only the last one writes.
-/

set_option autoImplicit false

namespace TransitionNetwork.CommandLine

/-- What a run needs of the world. -/
structure Host (m : Type → Type) where
  files : FileSystem m
  standardInput : ExceptT Fault m ByteArray

/-- Why a run does not succeed. -/
inductive Failure where
  | usage
  | input (fault : Fault)
  | snapshot (error : LoadError)
  | writing (failures : WriteFailures Fault)

namespace Failure

def exitCode : Failure → UInt32
  | usage => 2
  | input _ => 1
  | snapshot _ => 1
  | writing _ => 4

def message : Failure → String
  | usage => CommandLine.usage
  | input fault => "I/O error: " ++ fault.message
  | snapshot error => "invalid ATN snapshot: " ++ error.message
  | writing failures => failures.message Fault.message

end Failure

/-- What a run leaves behind, apart from files. -/
structure Outcome where
  exitCode : UInt32
  output : String
  errors : String
  deriving DecidableEq

def Outcome.of : Except Failure String → Outcome
  | .ok output => { exitCode := 0, output, errors := "" }
  | .error failure => { exitCode := failure.exitCode, output := "", errors := failure.message ++ "\n" }

section

variable {m : Type → Type} [Monad m] (host : Host m)

/-- Without an input, or with a single dash for it, the standard input is read. -/
def readInput (input : Option String) : ExceptT Fault m String := do
  let bytes ← match input with
    | none => host.standardInput
    | some path => if path = "-" then host.standardInput else host.files.readFile path
  FileSystem.textOfBytes bytes

/-- Each name on a line of its own. -/
def listing (documents : List Document) : String :=
  String.join (documents.map fun document => document.name ++ "\n")

def perform (arguments : Arguments) (automaton : Automaton) : ExceptT Failure m String := do
  let documents := automaton.documents arguments.options
  match arguments.command with
  | .names => return listing documents
  | .render =>
    let sink := Sink.directory host.files (arguments.directory.getD ".")
    let report ← sink.writeAll documents
    match report.result with
    | .ok _ => return ""
    | .error failures => throw (.writing failures)

/-- The run on the words after the program's name; its value is what it prints. -/
def execute (words : List String) : ExceptT Failure m String := do
  match Arguments.parse words with
  | none => throw .usage
  | some arguments =>
    match ← (readInput host arguments.input).run with
    | .error fault => throw (.input fault)
    | .ok text =>
      match Automaton.ofText text with
      | .error error => throw (.snapshot error)
      | .ok automaton => perform host arguments automaton

def run (words : List String) : m Outcome :=
  Outcome.of <$> (execute host words).run

end

/-- The host that works on a file tree and has this standard input. -/
def Host.onTree (input : ByteArray) : Host (StateM FileTree) where
  files := FileTree.fileSystem
  standardInput := pure input

end TransitionNetwork.CommandLine
