/-!
# Faults of a file system
-/

set_option autoImplicit false

namespace TransitionNetwork

inductive Fault where
  | notFound
  | alreadyExists
  | notDirectory
  | isDirectory
  | nameTooLong
  | containsNul
  | notUnicode
  /-- Any other fault, by the text and number that the system gives it. -/
  | system (text : String) (number : Nat)
  deriving DecidableEq

namespace Fault

def systemMessage (text : String) (number : Nat) : String :=
  text ++ " (os error " ++ toString number ++ ")"

def message : Fault → String
  | notFound => systemMessage "No such file or directory" 2
  | alreadyExists => systemMessage "File exists" 17
  | notDirectory => systemMessage "Not a directory" 20
  | isDirectory => systemMessage "Is a directory" 21
  | nameTooLong => systemMessage "File name too long" 36
  | containsNul => "file name contained an unexpected NUL byte"
  | notUnicode => "stream did not contain valid UTF-8"
  | system text number => systemMessage text number

end Fault

end TransitionNetwork
