/-!
# Kinds of states
-/

set_option autoImplicit false

namespace TransitionNetwork

/-- The part that a state plays in the network of its rule. -/
inductive StateKind where
  | basic
  | ruleStart
  | ruleStop
  | basicBlockStart
  | plusBlockStart
  | starBlockStart
  | tokensStart
  | blockEnd
  | starLoopEntry
  | starLoopback
  | plusLoopback
  | loopEnd
  deriving DecidableEq

namespace StateKind

def tag : StateKind → String
  | basic => "Basic"
  | ruleStart => "RuleStart"
  | ruleStop => "RuleStop"
  | basicBlockStart => "BasicBlockStart"
  | plusBlockStart => "PlusBlockStart"
  | starBlockStart => "StarBlockStart"
  | tokensStart => "TokensStart"
  | blockEnd => "BlockEnd"
  | starLoopEntry => "StarLoopEntry"
  | starLoopback => "StarLoopback"
  | plusLoopback => "PlusLoopback"
  | loopEnd => "LoopEnd"

def all : List StateKind :=
  [basic, ruleStart, ruleStop, basicBlockStart, plusBlockStart, starBlockStart, tokensStart,
    blockEnd, starLoopEntry, starLoopback, plusLoopback, loopEnd]

def ofTag? (tag : String) : Option StateKind :=
  all.find? (·.tag == tag)

theorem ofTag?_tag (kind : StateKind) : ofTag? kind.tag = some kind := by
  cases kind <;> rfl

end StateKind

end TransitionNetwork
