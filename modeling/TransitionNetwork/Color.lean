/-!
# Colours of rules

Every rule has a base colour that depends on its position alone. Each channel is an odd multiple
of the position modulo 128, lifted into the upper half of the channel range, so neighbouring rules
lie far apart and every base colour is light enough for black text.
-/

set_option autoImplicit false

namespace TransitionNetwork

structure Color where
  red : UInt8
  green : UInt8
  blue : UInt8
  deriving DecidableEq

namespace Color

/-- Fill of the states that no rule owns. -/
def unowned : Color := ⟨121, 97, 75⟩

/-- The position is reduced before it is multiplied, so no product leaves the word. -/
def channel (multiplier position : UInt64) : UInt8 :=
  (position % 128 * multiplier % 128 + 128).toUInt8

def ofPosition (position : UInt64) : Color where
  red := channel 7 position
  green := channel 31 position
  blue := channel 53 position

def ofRule (rule : Nat) : Color :=
  ofPosition rule.toUInt64

/-- Base colour of an owner: that of the rule, or the fill of unowned states. -/
def ofOwner (owner : Option Nat) : Color :=
  owner.elim unowned ofRule

def map (f : UInt8 → UInt8) (color : Color) : Color :=
  ⟨f color.red, f color.green, f color.blue⟩

/-- Half as bright; the variant of strokes. -/
def dark : Color → Color :=
  map (· / 2)

/-- A quarter of the distance to white is left; the variant of backgrounds. -/
def light : Color → Color :=
  map fun level => 255 - (255 - level) / 4

/-- Two lowercase hexadecimal digits. -/
def hexByte (byte : UInt8) : List Char :=
  [Nat.digitChar (byte.toNat / 16), Nat.digitChar (byte.toNat % 16)]

/-- The form `#rrggbb`. -/
def hex (color : Color) : String :=
  String.ofList ('#' :: (hexByte color.red ++ hexByte color.green ++ hexByte color.blue))

end Color

end TransitionNetwork
