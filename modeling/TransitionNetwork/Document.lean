import TransitionNetwork.Drawing

/-!
# Documents

A document is a named text that shows one view of an automaton: focused on a rule, full, or flat
for one rule. Its name is the name of the file that it is written to.
-/

set_option autoImplicit false

namespace TransitionNetwork

/-- The view that a document shows; rules are given by number. -/
inductive View where
  | focused (rule : Nat)
  | full
  | flat (rule : Nat)
  deriving DecidableEq

structure Document where
  name : String
  view : View
  content : String
  deriving DecidableEq

namespace Document

def focusedName (ruleName : String) : String :=
  "clusters_for_" ++ ruleName ++ ".dot"

def fullName : String :=
  "atn.dot"

def flatName (rule : Nat) : String :=
  "atn_" ++ toString rule ++ ".dot"

def defaultTitle : String :=
  "ATN for the language"

end Document

/-- Which families of documents are wanted, and the caption of the full one. -/
structure Options where
  focused : Bool := true
  full : Bool := true
  flat : Bool := true
  title : String := Document.defaultTitle
  deriving DecidableEq

namespace Automaton

variable (automaton : Automaton)

def focused (rule : Fin automaton.ruleCount) : Document where
  name := Document.focusedName (automaton.ruleName rule)
  view := .focused rule
  content := Dot.render (automaton.focusedGraph rule)

def focused? (rule : Nat) : Option Document :=
  (automaton.rule? rule).map automaton.focused

def full (title : String) : Document where
  name := Document.fullName
  view := .full
  content := Dot.render (automaton.fullGraph title)

def flat (rule : Fin automaton.ruleCount) : Document where
  name := Document.flatName rule
  view := .flat rule
  content := Dot.render (automaton.flatGraph rule)

def flat? (rule : Nat) : Option Document :=
  (automaton.rule? rule).map automaton.flat

/-- The wanted documents: the focused ones, the full one, the flat ones, each family in the order
of the rules. -/
def documents (options : Options) : List Document :=
  (if options.focused then automaton.rules.map automaton.focused else []) ++
    (if options.full then [automaton.full options.title] else []) ++
    (if options.flat then automaton.rules.map automaton.flat else [])

end Automaton

end TransitionNetwork
