import TransitionNetwork.Json.Numeral

/-!
# Numbers

The value of a numeral. Whole numbers that fit in 64 bits are exact. All others are floating point
numbers: a significand of at most 64 bits, scaled by a power of ten. Once a digit does not fit into
the significand, the digits of that part of the numeral only count as places.
-/

set_option autoImplicit false

namespace TransitionNetwork.Json

inductive Number where
  | integer (value : Int)
  | float (value : Float)

def Number.found : Number → Found
  | integer value => .integer value
  | float value => .float value

/-- Appends digits to a number until one would carry it past the limit; the digits from there on
are given back. -/
def gatherDigits (limit value : Nat) : List Nat → Nat × List Nat
  | [] => (value, [])
  | digit :: rest =>
    if value * 10 + digit ≤ limit then gatherDigits limit (value * 10 + digit) rest
    else (value, digit :: rest)

def significandLimit : Nat :=
  0xFFFFFFFFFFFFFFFF

def exponentLimit : Nat :=
  0x7FFFFFFF

/-- The greatest power of ten that is a finite floating point number has this exponent. -/
def greatestPower : Nat :=
  308

def powerOfTen (exponent : Nat) : Float :=
  Float.ofScientific 1 false exponent

/-- Multiplies by a power of ten, if the product is finite. -/
def scaleUp? (value : Float) (exponent : Nat) : Option Float :=
  if exponent ≤ greatestPower then
    let product := value * powerOfTen exponent
    if product.isInf then none else some product
  else if value == 0 then some value
  else none

/-- Divides by a power of ten, in steps that are finite numbers. -/
def scaleDown (value : Float) (exponent : Nat) : Float :=
  if exponent ≤ greatestPower then value / powerOfTen exponent
  else if value == 0 then value
  else scaleDown (value / powerOfTen greatestPower) (exponent - greatestPower)
termination_by exponent
decreasing_by
  simp only [greatestPower] at *
  omega

def scale? (significand : Nat) (exponent : Int) : Option Float :=
  let value := significand.toUInt64.toFloat
  match exponent with
  | .ofNat power => scaleUp? value power
  | .negSucc power => some (scaleDown value (power + 1))

/-- Where a numeral runs out of range: after a number of bytes that are still to come in it. -/
structure OutOfRange where
  bytesToCome : Nat
  mark : Mark

/-- A whole number of 64 bits; zero with a sign and numbers below the least one are no integers. -/
def wholeNumber (negative : Bool) (significand : Nat) : Number :=
  if !negative then .integer significand
  else if 0 < significand ∧ significand ≤ 0x8000000000000000 then .integer (-(significand : Int))
  else .float (-significand.toUInt64.toFloat)

def floatNumber (negative : Bool) (significand : Nat) (exponent : Int) :
    Except OutOfRange Number :=
  match scale? significand exponent with
  | none => .error ⟨0, .ended⟩
  | some value => .ok (.float (if negative then -value else value))

/-- An exponent past its limit leaves nothing of the number, or too much of it. -/
def Numeral.value (negative : Bool) (numeral : Numeral) : Except OutOfRange Number :=
  let (whole, uncounted) := gatherDigits significandLimit 0 numeral.whole
  let (significand, dropped) := gatherDigits significandLimit whole numeral.fraction
  let shift : Int := uncounted.length - (numeral.fraction.length - dropped.length : Nat)
  match numeral.exponent with
  | some exponent =>
    match gatherDigits exponentLimit 0 exponent.digits with
    | (value, []) =>
      floatNumber negative significand (if exponent.negative then shift - value else shift + value)
    | (_, _ :: toCome) =>
      if significand ≠ 0 ∧ !exponent.negative then .error ⟨toCome.length, .behind⟩
      else .ok (.float (if negative then -0.0 else 0.0))
  | none =>
    if numeral.fraction.isEmpty && uncounted.isEmpty then .ok (wholeNumber negative significand)
    else floatNumber negative significand shift

namespace Reader

/-- A number whose first byte is behind. -/
def number (first : UInt8) : Reader Number := do
  let (negative, numeral) ← numeral (.endOf .value) first
  match numeral.value negative with
  | .ok value => pure value
  | .error outOfRange => failBefore outOfRange.bytesToCome .numberOutOfRange outOfRange.mark

end Reader

end TransitionNetwork.Json
