import TransitionNetwork.Json.Reader

/-!
# Numerals

A numeral is the written form of a number: whole digits without a leading zero, then perhaps a
fraction and an exponent. Digits are kept as values from 0 to 9.
-/

set_option autoImplicit false

namespace TransitionNetwork.Json

structure Exponent where
  negative : Bool
  digits : List Nat

structure Numeral where
  whole : List Nat
  fraction : List Nat := []
  exponent : Option Exponent := none

namespace Reader

/-- The digits at the front; there may be none. -/
def digits : Reader (List Nat) :=
  ofSplit
    (fun input => ((input.takeWhile Byte.isDigit).map Byte.digitValue, input.dropWhile Byte.isDigit))
    (length_dropWhile_le _)

/-- The digits of a number from its first byte on, which is behind. -/
def wholeDigits (first : UInt8) : Reader (List Nat) := do
  if first = Byte.zero then
    match (← peek).map Byte.isDigit with
    | some true => fail .invalidNumber .ahead
    | _ => pure [0]
  else if Byte.isDigit first then
    return Byte.digitValue first :: (← digits)
  else fail .invalidNumber .behind

/-- The digits after a decimal point that is behind. What it means that the text is cut off is up
to the caller, here and below. -/
def fractionDigits (cutOff : Cause) : Reader (List Nat) := do
  match ← digits with
  | [] =>
    match ← peek with
    | none => fail cutOff .ahead
    | some _ => fail .invalidNumber .ahead
  | taken => pure taken

/-- The sign and digits of an exponent whose letter is behind. -/
def exponent (cutOff : Cause) : Reader Exponent := do
  let negative ← match ← peek with
    | some Byte.plus => do skip; pure false
    | some Byte.minus => do skip; pure true
    | _ => pure false
  match ← next with
  | none => fail cutOff .behind
  | some byte =>
    if Byte.isDigit byte then
      return ⟨negative, Byte.digitValue byte :: (← digits)⟩
    else fail .invalidNumber .behind

def exponent? (cutOff : Cause) : Reader (Option Exponent) := do
  match ← peek with
  | some Byte.lowerE | some Byte.upperE => do
    skip
    some <$> exponent cutOff
  | _ => pure none

/-- A numeral without its sign, whose first byte is behind. -/
def unsignedNumeral (cutOff : Cause) (first : UInt8) : Reader Numeral := do
  let whole ← wholeDigits first
  match ← peek with
  | some Byte.point =>
    skip
    let fraction ← fractionDigits cutOff
    return { whole, fraction, exponent := ← exponent? cutOff }
  | _ => return { whole, exponent := ← exponent? cutOff }

/-- A numeral whose first byte is behind, and whether that is a minus sign. -/
def numeral (cutOff : Cause) (first : UInt8) : Reader (Bool × Numeral) := do
  if first = Byte.minus then
    match ← next with
    | none => fail cutOff .behind
    | some byte => (true, ·) <$> unsignedNumeral cutOff byte
  else (false, ·) <$> unsignedNumeral cutOff first

end Reader

end TransitionNetwork.Json
