import TransitionNetwork.Text.Unseen
import TransitionNetwork.Text.Extender

/-!
# Text made visible

How a message shows a text: between double quotes, with everything spelled out that a reader could
not see or could mistake for the end of the text.
-/

set_option autoImplicit false

namespace TransitionNetwork.Text

/-- The number of a character in braces, in lowercase hexadecimal digits. -/
def codePoint (c : Char) : List Char :=
  ['\\', 'u', '\x7b'] ++ Nat.toDigits 16 c.toNat ++ ['\x7d']

def visibleChar (c : Char) : List Char :=
  match c with
  | '\x00' => ['\\', '0']
  | '\t' => ['\\', 't']
  | '\n' => ['\\', 'n']
  | '\r' => ['\\', 'r']
  | '"' => ['\\', '"']
  | '\\' => ['\\', '\\']
  | _ => if isExtender c || isUnseen c then codePoint c else [c]

def visible (text : String) : String :=
  String.ofList ('"' :: text.toList.flatMap visibleChar ++ ['"'])

end TransitionNetwork.Text
