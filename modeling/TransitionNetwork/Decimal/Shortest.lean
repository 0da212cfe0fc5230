/-!
# Shortest decimal text of a floating point number

A finite number is written with the fewest significant digits that read back as the same number,
and among those as near to it as possible; of two equally near the even one. Its value is
`mantissa * 2 ^ power`, and the decimals that read back as it form an interval around that value,
so everything is decided in exact arithmetic on natural numbers.
-/

set_option autoImplicit false

namespace TransitionNetwork.Decimal

/-- The magnitude of a floating point number as `mantissa * 2 ^ power`. -/
structure Binary where
  mantissa : Nat
  power : Int
  /-- The next smaller magnitude is only half as far away as the next greater one. -/
  closeBelow : Bool

/-- One more than the greatest fraction, which takes the lowest 52 bits. -/
def fractionSize : Nat :=
  0x10000000000000

/-- One more than the greatest exponent, which takes the 11 bits above the fraction. -/
def exponentSize : Nat :=
  0x800

def Binary.ofFloat (value : Float) : Binary :=
  let bits := value.toBits.toNat
  let fraction := bits % fractionSize
  let exponent := bits / fractionSize % exponentSize
  if exponent = 0 then ⟨fraction, -1074, false⟩
  else ⟨fraction + fractionSize, (exponent : Int) - 1075, fraction = 0 && exponent != 1⟩

/-- A fraction that scales quarters of the unit of `binary`. -/
def Binary.scale (binary : Binary) : Nat × Nat :=
  let power := binary.power - 2
  (Nat.pow 2 power.toNat, Nat.pow 2 (-power).toNat)

def digitCount (n : Nat) : Nat :=
  (Nat.toDigits 10 n).length

/-- The exponent of the power of ten at or below a positive fraction. -/
def decimalExponent (numerator denominator : Nat) : Int :=
  if denominator ≤ numerator then (digitCount (numerator / denominator) : Int) - 1
  else -(digitCount ((denominator - 1) / numerator) : Int)

/-- Significant digits, without zeros at the end, and the power of ten of the first one. -/
structure Digits where
  digits : List Char
  exponent : Int

/-- On the grid of decimals `point * 10 ^ unit`, the one nearest to the number of those next to it
that read back as it. -/
def Binary.onGrid? (binary : Binary) (unit : Int) : Option Nat :=
  let (up, down) := binary.scale
  let weight := down * Nat.pow 10 unit.toNat
  let quarters (count : Nat) : Nat := count * up * Nat.pow 10 (-unit).toNat
  let value := quarters (4 * binary.mantissa)
  let lowest := quarters (4 * binary.mantissa - if binary.closeBelow then 1 else 2)
  let highest := quarters (4 * binary.mantissa + 2)
  let readsBack (point : Nat) : Bool :=
    if binary.mantissa % 2 = 0 then lowest ≤ point * weight && point * weight ≤ highest
    else lowest < point * weight && point * weight < highest
  let below := value / weight
  let above := below + 1
  match readsBack below, readsBack above with
  | false, false => none
  | true, false => some below
  | false, true => some above
  | true, true =>
    let distanceBelow := value - below * weight
    let distanceAbove := above * weight - value
    if distanceBelow < distanceAbove then some below
    else if distanceAbove < distanceBelow then some above
    else if below % 2 = 0 then some below
    else some above

/-- Seventeen digits always suffice. -/
def Binary.digits (binary : Binary) : Digits :=
  let (up, down) := binary.scale
  let exponent := decimalExponent (4 * binary.mantissa * up) down
  let units := (List.range 17).map fun (count : Nat) => exponent - count
  match units.findSome? fun unit => (binary.onGrid? unit).map fun point => (point, unit) with
  | none => ⟨['0'], 0⟩
  | some (point, unit) =>
    let written := Nat.toDigits 10 point
    ⟨(written.reverse.dropWhile (· == '0')).reverse, unit + written.length - 1⟩

/-- Exponents from -5 to 15 are written positionally, with a digit after the point; the others
with a signed exponent. -/
def Digits.layOut (number : Digits) : List Char :=
  let count : Int := number.digits.length
  if number.exponent < -5 || 15 < number.exponent then
    let fraction := match number.digits.drop 1 with
      | [] => []
      | others => '.' :: others
    let sign := if number.exponent < 0 then '-' else '+'
    number.digits.take 1 ++ fraction ++ 'e' :: sign :: Nat.toDigits 10 number.exponent.natAbs
  else if number.exponent < 0 then
    '0' :: '.' :: List.replicate (-number.exponent - 1).toNat '0' ++ number.digits
  else if count ≤ number.exponent + 1 then
    number.digits ++ List.replicate (number.exponent + 1 - count).toNat '0' ++ ['.', '0']
  else
    let whole := (number.exponent + 1).toNat
    number.digits.take whole ++ '.' :: number.digits.drop whole

/-- The text of a finite number. -/
def shortest (value : Float) : String :=
  let binary := Binary.ofFloat value
  let magnitude := if binary.mantissa = 0 then ⟨['0'], 0⟩ else binary.digits
  let sign := if value.toBits >>> 63 = 0 then [] else ['-']
  String.ofList (sign ++ magnitude.layOut)

end TransitionNetwork.Decimal
