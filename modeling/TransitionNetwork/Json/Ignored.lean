import TransitionNetwork.Json.Numeral
import TransitionNetwork.Json.Text

/-!
# Ignored values

A value that nobody asks for is passed over. Its form is checked and nothing else: numbers may be
of any size and escapes may stand for half a surrogate pair. The brackets that are open are kept
on a list, so values may be nested to any depth.
-/

set_option autoImplicit false

namespace TransitionNetwork.Json

/-- A bracket that is open. -/
inductive Frame where
  | array
  | object
  deriving DecidableEq

namespace Frame

def closing : Frame → UInt8
  | array => Byte.closeBracket
  | object => Byte.closeBrace

def unfinished : Frame → Unfinished
  | array => .array
  | object => .object

def noComma : Frame → Cause
  | array => .noCommaInArray
  | object => .noCommaInObject

end Frame

namespace Reader

def ignoredEscape : Reader Unit := do
  match ← textByte with
  | Byte.quote | Byte.backslash | Byte.slash | Byte.lowerB | Byte.lowerF | Byte.lowerN
  | Byte.lowerR | Byte.lowerT => pure ()
  | Byte.lowerU => discard hexUnit
  | _ => fail .invalidEscape .behind

def passText (input : Bytes) : Except Failure (Unit × Bytes) :=
  match input with
  | [] => .error ⟨.endOf .text, 0, .behind⟩
  | byte :: rest =>
    if byte = Byte.quote then .ok ((), rest)
    else if byte = Byte.backslash then
      match h : ignoredEscape.run rest with
      | .error failure => .error failure
      | .ok (_, after) =>
        have := ignoredEscape.length_le h
        passText after
    else if Byte.isControl byte then .error ⟨.controlCharacter, input.length, .ended⟩
    else passText rest
termination_by input.length

theorem length_passText_le {input rest : Bytes} {value : Unit}
    (h : passText input = .ok (value, rest)) : rest.length ≤ input.length := by
  fun_induction passText input with
  | case1 => cases h
  | case2 =>
    cases h
    simp
  | case3 => cases h
  | case4 _ _ _ _ _ _ ih =>
    have := ih h
    simp only [List.length_cons]
    omega
  | case5 => cases h
  | case6 _ _ _ _ _ ih =>
    have := ih h
    simp only [List.length_cons]
    omega

/-- A string whose opening quote is behind. -/
def ignoredText : Reader Unit :=
  ⟨passText, length_passText_le⟩

/-- A value whose first byte is behind, or an opening bracket: the bracket is given back. -/
def scalarOrBracket (first : UInt8) : Reader (Option Frame) := do
  match first with
  | Byte.lowerN => restOfNull; pure none
  | Byte.lowerT => restOfTrue; pure none
  | Byte.lowerF => restOfFalse; pure none
  | Byte.quote => ignoredText; pure none
  | Byte.openBracket => pure (some .array)
  | Byte.openBrace => pure (some .object)
  | _ =>
    let _ ← numeral .invalidNumber first
    pure none

def startsValue (byte : UInt8) : Bool :=
  byte = Byte.lowerN || byte = Byte.lowerT || byte = Byte.lowerF || byte = Byte.quote ||
    byte = Byte.openBracket || byte = Byte.openBrace || Byte.startsNumber byte

/-- The key in front of a value, if the value belongs to an object. -/
def ignoredKey : Frame → Reader Unit
  | .array => pure ()
  | .object => do
    match ← token with
    | none => fail (.endOf .object) .ahead
    | some Byte.quote =>
      skip
      ignoredText
      colon
    | some _ => fail .keyNotText .ahead

/-- Closes the brackets that end here and goes on to the next value, if one is due: after a comma,
or at once after an opening bracket. Gives back the brackets that are still open there. -/
def toNextValue (justOpened : Bool) : List Frame → Reader (List Frame)
  | [] => pure []
  | frame :: outer => do
    match ← token with
    | none => fail (.endOf frame.unfinished) .ahead
    | some byte =>
      if byte = frame.closing then
        skip
        toNextValue false outer
      else if justOpened then
        ignoredKey frame
        pure (frame :: outer)
      else if byte = Byte.comma then
        skip
        ignoredKey frame
        pure (frame :: outer)
      else fail frame.noComma .ahead

/-- Passes over one scalar or opening bracket and on to the next value. -/
def ignoredTurn (frames : List Frame) : Reader (Turn (List Frame) Unit) := do
  match ← token with
  | none => fail (.endOf .value) .ahead
  | some byte =>
    if startsValue byte then
      skip
      let opened ← scalarOrBracket byte
      match ← toNextValue opened.isSome (opened.toList ++ frames) with
      | [] => pure (.done ())
      | frames => pure (.again frames)
    else fail .noValue .ahead

theorem shrinks_ignoredTurn : Shrinks ignoredTurn := by
  intro frames input next rest h
  obtain ⟨first, afterBlanks, found, h⟩ := run_bind_eq_ok h
  cases first with
  | none => cases h
  | some byte =>
    dsimp only at h
    split at h
    · obtain ⟨_, _, taken, h⟩ := run_bind_eq_ok h
      have := length_lt_of_token_skip found taken
      have := (scalarOrBracket byte >>= fun opened => _).length_le h
      omega
    · cases h

def ignoredValue : Reader Unit :=
  loop ignoredTurn shrinks_ignoredTurn []

end Reader

end TransitionNetwork.Json
