import TransitionNetwork.Document

/-!
# Sinks

A sink takes documents one at a time, and may refuse any of them. Writing a list of documents
tries each of them in order, whatever became of those before it, and reports every attempt.
-/

set_option autoImplicit false

namespace TransitionNetwork

/-- What becomes of a document in a world `m`, where refusals are given as `ε`. -/
abbrev Sink (m : Type → Type) (ε : Type) :=
  Document → ExceptT ε m Unit

/-- What became of the document of this name. -/
structure Attempt (ε : Type) where
  name : String
  refusal : Option ε := none
  deriving DecidableEq

structure WriteFailure (ε : Type) where
  name : String
  refusal : ε
  deriving DecidableEq

/-- Every attempt of one run, in order. -/
structure Report (ε : Type) where
  attempts : List (Attempt ε)
  deriving DecidableEq

/-- Of a number of documents, those that could not be written. -/
structure WriteFailures (ε : Type) where
  attempted : Nat
  failures : List (WriteFailure ε)
  deriving DecidableEq

def WriteFailure.message {ε : Type} (describe : ε → String) (failure : WriteFailure ε) : String :=
  failure.name ++ ": " ++ describe failure.refusal

def WriteFailures.message {ε : Type} (describe : ε → String) (all : WriteFailures ε) : String :=
  "failed to write " ++ toString all.failures.length ++ " of " ++ toString all.attempted ++
    " documents: " ++ "; ".intercalate (all.failures.map (·.message describe))

namespace Report

variable {ε : Type} (report : Report ε)

/-- The names of the documents that were written, in order. -/
def written : List String :=
  report.attempts.filterMap fun attempt =>
    match attempt.refusal with
    | none => some attempt.name
    | some _ => none

/-- The documents that were refused, in order. -/
def failures : List (WriteFailure ε) :=
  report.attempts.filterMap fun attempt => attempt.refusal.map fun refusal => ⟨attempt.name, refusal⟩

def attempted : Nat :=
  report.written.length + report.failures.length

def isSuccess : Bool :=
  report.failures.isEmpty

/-- The names written, if nothing was refused. -/
def result : Except (WriteFailures ε) (List String) :=
  if report.isSuccess then .ok report.written else .error ⟨report.attempted, report.failures⟩

end Report

def Sink.attempt {m : Type → Type} [Monad m] {ε : Type} (sink : Sink m ε) (document : Document) :
    m (Attempt ε) := do
  match ← (sink document).run with
  | .ok () => return { name := document.name }
  | .error refusal => return { name := document.name, refusal := some refusal }

def Sink.writeAll {m : Type → Type} [Monad m] {ε : Type} (sink : Sink m ε)
    (documents : List Document) : m (Report ε) :=
  Report.mk <$> documents.mapM sink.attempt

end TransitionNetwork
