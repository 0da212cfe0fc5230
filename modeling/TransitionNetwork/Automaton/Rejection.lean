/-!
# Reasons to refuse a snapshot
-/

set_option autoImplicit false

namespace TransitionNetwork

inductive Rejection where
  | unusableRuleName (name : String)
  | repeatedRuleName (name : String)
  | repeatedStateId (id : UInt32)
  | ruleIndexOutOfRange (state : UInt32) (ruleIndex : Int32) (ruleCount : Nat)
  | unknownTarget (state target : UInt32)
  deriving DecidableEq

def Rejection.message : Rejection → String
  | unusableRuleName name => "rule name `" ++ name ++ "` cannot be used in a document file name"
  | repeatedRuleName name => "rule name `" ++ name ++ "` is declared more than once"
  | repeatedStateId id => "duplicate state id " ++ toString id.toNat
  | ruleIndexOutOfRange state ruleIndex ruleCount =>
    "state " ++ toString state.toNat ++ " has rule index " ++ toString ruleIndex.toInt ++
      ", but only " ++ toString ruleCount ++ " rules are declared"
  | unknownTarget state target =>
    "state " ++ toString state.toNat ++ " has a transition to unknown state " ++
      toString target.toNat

end TransitionNetwork
