import TransitionNetwork.Json.Ignored
import TransitionNetwork.Json.Value

/-!
# Records

A record is read from an object, in any order of its fields, or from an array of its fields in
their declared order. What is read is collected in a draft, which is finished at the end: there a
field without a value takes its default, if it has one. Unknown fields are ignored.
-/

set_option autoImplicit false

namespace TransitionNetwork.Json

structure Field (δ : Type) where
  name : String
  isSet : δ → Bool
  set : δ → Reader δ

/-- A field whose value is kept in the draft by `put` and found there by `get`. -/
def Field.of {δ α : Type} (name : String) (reader : Reader α) (get : δ → Option α)
    (put : δ → α → δ) : Field δ where
  name := name
  isSet draft := (get draft).isSome
  set draft := put draft <$> reader

/-- A draft that cannot be finished gives the name of the first field that it lacks. -/
structure Record (δ α : Type) where
  name : String
  fields : List (Field δ)
  empty : δ
  finish : δ → Except String α

namespace Record

open Reader

variable {δ α : Type} (record : Record δ α)

def expected : String :=
  "struct " ++ record.name

def expectedElements : String :=
  record.expected ++ " with " ++ toString record.fields.length ++ " elements"

/-! ## From an array -/

/-- Reads the fields in order; also says whether the array has ended. -/
def setInOrder (first : Bool) : List (Field δ) → δ → Reader (δ × Bool)
  | [], draft => pure (draft, false)
  | field :: others, draft => do
    if ← nextElement first then setInOrder false others (← field.set draft)
    else pure (draft, true)

def ofArray : Reader α := do
  let (draft, ended) ← setInOrder true record.fields record.empty
  if !ended then endOfArray
  match record.finish draft with
  | .ok value => pure value
  | .error missing =>
    fail (.wrongLength (record.fields.findIdx (·.name == missing)) record.expectedElements) .behind

/-! ## From an object -/

/-- Goes behind the opening quote of the next key of an object and says whether there is one; the
closing brace is taken. -/
def nextKey (first : Bool) : Reader Bool := do
  match ← token with
  | none => fail (.endOf .object) .ahead
  | some byte =>
    if byte = Byte.closeBrace then
      skip
      pure false
    else if first then
      if byte = Byte.quote then
        skip
        pure true
      else fail .keyNotText .ahead
    else if byte = Byte.comma then
      skip
      match ← token with
      | none => fail (.endOf .value) .ahead
      | some Byte.quote =>
        skip
        pure true
      | some Byte.closeBrace => fail .trailingComma .ahead
      | some _ => fail .keyNotText .ahead
    else fail .noCommaInObject .ahead

/-- Fails about a key for the second time, after a look at how the object goes on. -/
def duplicate (name : String) : Reader α := do
  match ← token with
  | none => fail (.duplicateField name) .behind
  | some Byte.closeBrace =>
    skip
    fail (.duplicateField name) .behind
  | some _ => fail (.duplicateField name) .ended

/-- Reads a value into the field that the key names. -/
def setField (key : String) (draft : δ) : Reader δ := do
  match record.fields.find? (·.name == key) with
  | some field =>
    if field.isSet draft then duplicate key
    else
      colon
      field.set draft
  | none =>
    colon
    ignoredValue
    pure draft

def memberTurn (state : Bool × δ) : Reader (Turn (Bool × δ) δ) := do
  if ← nextKey state.1 then
    let key ← text
    return .again (false, ← record.setField key state.2)
  else return .done state.2

theorem shrinks_nextKey {first : Bool} {input rest : Bytes}
    (h : (nextKey first).run input = .ok (true, rest)) : rest.length < input.length := by
  obtain ⟨byte, afterBlanks, found, h⟩ := run_bind_eq_ok h
  cases byte with
  | none => cases h
  | some byte =>
    dsimp only at h
    split at h
    · obtain ⟨_, _, _, h⟩ := run_bind_eq_ok h
      cases h
    split at h
    · split at h
      · obtain ⟨_, _, taken, h⟩ := run_bind_eq_ok h
        cases h
        exact length_lt_of_token_skip found taken
      · cases h
    · split at h
      · obtain ⟨_, _, taken, h⟩ := run_bind_eq_ok h
        have := length_lt_of_token_skip found taken
        have := Reader.length_le _ h
        omega
      · cases h

theorem shrinks_memberTurn : Shrinks record.memberTurn := by
  intro state input next rest h
  obtain ⟨more, afterKey, found, h⟩ := run_bind_eq_ok h
  cases more with
  | false => cases h
  | true =>
    have := shrinks_nextKey found
    have := Reader.length_le _ h
    omega

def ofObject : Reader α := do
  let draft ← loop record.memberTurn record.shrinks_memberTurn (true, record.empty)
  match record.finish draft with
  | .ok value => pure value
  | .error missing => fail (.missingField missing) .behind

def reader : Reader α := do
  match ← token with
  | some Byte.openBracket =>
    skip
    record.ofArray
  | some Byte.openBrace =>
    skip
    record.ofObject
  | _ => mismatch record.expected

end Record

end TransitionNetwork.Json
