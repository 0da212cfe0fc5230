import TransitionNetwork.Json.Reader

/-!
# Strings

A string is read as bytes, escapes replaced by what they stand for, and the bytes are decoded as
UTF-8 at its end. Escapes of surrogates are allowed only as pairs.
-/

set_option autoImplicit false

namespace TransitionNetwork.Json

/-- The bytes from `start` on that are UTF-8 as far as they go: where they end. -/
def validEnd (bytes : ByteArray) (start : Nat) : Nat :=
  match _h : bytes.utf8DecodeChar? start with
  | none => start
  | some c => validEnd bytes (start + c.utf8Size)
termination_by bytes.size - start
decreasing_by
  have := ByteArray.lt_size_of_isSome_utf8DecodeChar? (by rw [_h]; rfl)
  have := c.utf8Size_pos
  omega

namespace Reader

/-- Four hexadecimal digits. Four bytes are taken whatever they are. -/
def hexUnit : Reader Nat where
  run
    | a :: b :: c :: d :: rest =>
      match Byte.hexValue? a, Byte.hexValue? b, Byte.hexValue? c, Byte.hexValue? d with
      | some a, some b, some c, some d => .ok (((a * 16 + b) * 16 + c) * 16 + d, rest)
      | _, _, _, _ => .error ⟨.invalidEscape, rest.length, .behind⟩
    | _ => .error ⟨.endOf .text, 0, .behind⟩
  length_le h := by
    split at h
    · split at h
      · cases h
        grind
      · cases h
    · cases h

/-- The next byte of a string. -/
def textByte : Reader UInt8 := do
  match ← next with
  | some byte => pure byte
  | none => fail (.endOf .text) .behind

/-- Takes a byte that the second half of a surrogate pair needs. -/
def surrogateByte (expected : UInt8) : Reader Unit := do
  if (← textByte) = expected then pure ()
  else fail .missingSurrogate .behind

def isLowSurrogate (unit : Nat) : Bool :=
  0xDC00 ≤ unit && unit ≤ 0xDFFF

def isHighSurrogate (unit : Nat) : Bool :=
  0xD800 ≤ unit && unit ≤ 0xDBFF

/-- The character that a `\u` escape stands for, together with the escape of a low surrogate if it
needs one. -/
def escapedCharacter : Reader Char := do
  let high ← hexUnit
  if isLowSurrogate high then fail .loneSurrogate .behind
  else if isHighSurrogate high then
    surrogateByte Byte.backslash
    surrogateByte Byte.lowerU
    let low ← hexUnit
    if isLowSurrogate low then
      pure (Char.ofNat (0x10000 + (high - 0xD800) * 0x400 + (low - 0xDC00)))
    else fail .loneSurrogate .behind
  else pure (Char.ofNat high)

/-- What an escape stands for whose backslash is behind. -/
def escape : Reader Bytes := do
  match ← textByte with
  | Byte.quote => pure [Byte.quote]
  | Byte.backslash => pure [Byte.backslash]
  | Byte.slash => pure [Byte.slash]
  | Byte.lowerB => pure [0x08]
  | Byte.lowerF => pure [0x0C]
  | Byte.lowerN => pure [0x0A]
  | Byte.lowerR => pure [0x0D]
  | Byte.lowerT => pure [0x09]
  | Byte.lowerU => String.utf8EncodeChar <$> escapedCharacter
  | _ => fail .invalidEscape .behind

/-- The bytes of a string up to its closing quote, after those in `taken`, latest first. -/
def bytesOfText (taken : Bytes) (input : Bytes) : Except Failure (Bytes × Bytes) :=
  match input with
  | [] => .error ⟨.endOf .text, 0, .behind⟩
  | byte :: rest =>
    if byte = Byte.quote then .ok (taken.reverse, rest)
    else if byte = Byte.backslash then
      match h : escape.run rest with
      | .error failure => .error failure
      | .ok (bytes, after) =>
        have := escape.length_le h
        bytesOfText (bytes.reverseAux taken) after
    else if Byte.isControl byte then .error ⟨.controlCharacter, rest.length, .behind⟩
    else bytesOfText (byte :: taken) rest
termination_by input.length

theorem length_bytesOfText_le {taken input bytes rest : Bytes}
    (h : bytesOfText taken input = .ok (bytes, rest)) : rest.length ≤ input.length := by
  fun_induction bytesOfText taken input with
  | case1 => cases h
  | case2 =>
    cases h
    simp
  | case3 => cases h
  | case4 _ _ _ _ _ _ shorter ih =>
    have := ih h
    simp only [List.length_cons]
    omega
  | case5 => cases h
  | case6 _ _ _ _ _ _ ih =>
    have := ih h
    simp only [List.length_cons]
    omega

/-- A string whose opening quote is behind. -/
def text : Reader String := do
  let bytes ← (⟨bytesOfText [], length_bytesOfText_le⟩ : Reader Bytes)
  let bytes : ByteArray := ⟨bytes.toArray⟩
  match String.fromUTF8? bytes with
  | some text => pure text
  | none => failBefore (bytes.size - validEnd bytes 0) .invalidEncoding .behind

end Reader

end TransitionNetwork.Json
