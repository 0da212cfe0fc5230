import TransitionNetwork.Json.Number
import TransitionNetwork.Json.Text

/-!
# Values of an expected type

A reader that meets another kind of value than it expects says what it has found. A scalar is read
to its end first; of an array or object only the bracket is looked at.
-/

set_option autoImplicit false

namespace TransitionNetwork.Json.Reader

variable {α : Type}

/-- Fails about the value in front, which is not of the expected type. -/
def mismatch (expected : String) : Reader α := do
  match ← token with
  | none => fail (.endOf .value) .ahead
  | some Byte.lowerN =>
    skip
    restOfNull
    fail (.wrongType .null expected) .behind
  | some Byte.lowerT =>
    skip
    restOfTrue
    fail (.wrongType (.boolean true) expected) .behind
  | some Byte.lowerF =>
    skip
    restOfFalse
    fail (.wrongType (.boolean false) expected) .behind
  | some Byte.quote =>
    skip
    let found ← text
    fail (.wrongType (.text found) expected) .behind
  | some Byte.openBracket => fail (.wrongType .array expected) .ended
  | some Byte.openBrace => fail (.wrongType .object expected) .ended
  | some byte =>
    if Byte.startsNumber byte then
      skip
      let found ← number byte
      fail (.wrongType found.found expected) .ended
    else fail .noValue .ahead

def null (expected : String) : Reader Unit := do
  match ← token with
  | some Byte.lowerN =>
    skip
    restOfNull
  | _ => mismatch expected

def boolean : Reader Bool := do
  match ← token with
  | some Byte.lowerT =>
    skip
    restOfTrue
    pure true
  | some Byte.lowerF =>
    skip
    restOfFalse
    pure false
  | _ => mismatch "a boolean"

def string : Reader String := do
  match ← token with
  | some Byte.quote =>
    skip
    text
  | _ => mismatch "a string"

/-- A value that may also be `null`. -/
def optional (reader : Reader α) : Reader (Option α) := do
  match ← token with
  | some Byte.lowerN =>
    skip
    restOfNull
    pure none
  | _ => some <$> reader

/-- A whole number from `least` to `greatest`. -/
def integer (least greatest : Int) (expected : String) : Reader Int := do
  match ← token with
  | none => mismatch expected
  | some byte =>
    if Byte.startsNumber byte then
      skip
      match ← number byte with
      | .integer value =>
        if least ≤ value ∧ value ≤ greatest then pure value
        else fail (.wrongValue (.integer value) expected) .ended
      | .float value => fail (.wrongType (.float value) expected) .ended
    else mismatch expected

def unsigned32 : Reader UInt32 :=
  (·.toNat.toUInt32) <$> integer 0 0xFFFFFFFF "u32"

def signed32 : Reader Int32 :=
  Int32.ofInt <$> integer (-0x80000000) 0x7FFFFFFF "i32"

/-! ## Arrays -/

/-- Goes in front of the next element of an array and says whether there is one; the closing
bracket is taken. -/
def nextElement (first : Bool) : Reader Bool := do
  match ← token with
  | none => fail (.endOf .array) .ahead
  | some byte =>
    if byte = Byte.closeBracket then
      skip
      pure false
    else if first then pure true
    else if byte = Byte.comma then
      skip
      match ← token with
      | none => fail (.endOf .value) .ahead
      | some Byte.closeBracket => fail .trailingComma .ahead
      | some _ => pure true
    else fail .noCommaInArray .ahead

/-- Takes the closing bracket of an array that must not have further elements. -/
def endOfArray : Reader Unit := do
  match ← token with
  | none => fail (.endOf .array) .ahead
  | some Byte.closeBracket => skip
  | some Byte.comma =>
    skip
    match ← token with
    | some Byte.closeBracket => fail .trailingComma .ahead
    | _ => fail .trailingCharacters .ahead
  | some _ => fail .trailingCharacters .ahead

/-- Reads an element after those that are taken, the latest of which is first. -/
def elementTurn (element : Reader α) (taken : List α) : Reader (Turn (List α) (List α)) := do
  if ← nextElement false then return .again ((← element) :: taken)
  else return .done taken.reverse

theorem shrinks_nextElement {input rest : Bytes}
    (h : (nextElement false).run input = .ok (true, rest)) : rest.length < input.length := by
  obtain ⟨first, afterBlanks, found, h⟩ := run_bind_eq_ok h
  cases first with
  | none => cases h
  | some byte =>
    dsimp only at h
    split at h
    · obtain ⟨_, _, _, h⟩ := run_bind_eq_ok h
      cases h
    · rw [if_neg Bool.false_ne_true] at h
      split at h
      · obtain ⟨_, _, taken, h⟩ := run_bind_eq_ok h
        have := length_lt_of_token_skip found taken
        have := Reader.length_le _ h
        omega
      · cases h

theorem shrinks_elementTurn (element : Reader α) : Shrinks (elementTurn element) := by
  intro taken input next rest h
  obtain ⟨more, afterComma, found, h⟩ := run_bind_eq_ok h
  cases more with
  | false => cases h
  | true =>
    have := shrinks_nextElement found
    have := Reader.length_le _ h
    omega

def array (element : Reader α) : Reader (List α) := do
  match ← token with
  | some Byte.openBracket =>
    skip
    if ← nextElement true then
      loop (elementTurn element) (shrinks_elementTurn element) [← element]
    else pure []
  | _ => mismatch "a sequence"

end TransitionNetwork.Json.Reader
