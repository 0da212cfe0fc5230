import TransitionNetwork.Color

/-!
# Colours with checked steps

The levels of a colour once more, in steps each of which gives up if its result does not fit.
-/

set_option autoImplicit false

namespace TransitionNetwork

/-! ## Words that must not overflow -/

namespace Word

/-- The sum, if it stays in the word. -/
def add? (first second : UInt64) : Option UInt64 :=
  if first.toNat + second.toNat < UInt64.size then some (first + second) else none

/-- The product, if it stays in the word. -/
def mul? (first second : UInt64) : Option UInt64 :=
  if first.toNat * second.toNat < UInt64.size then some (first * second) else none

/-- The byte of the same value, if there is one. -/
def toByte? (word : UInt64) : Option UInt8 :=
  if word.toNat < UInt8.size then some word.toUInt8 else none

end Word

namespace Color

/-- The level of a channel, given up at the first step that leaves its word. -/
def channel? (multiplier position : UInt64) : Option UInt8 := do
  let product ← Word.mul? (position % 128) multiplier
  let level ← Word.add? (product % 128) 128
  Word.toByte? level

def ofPosition? (position : UInt64) : Option Color := do
  let red ← channel? 7 position
  let green ← channel? 31 position
  let blue ← channel? 53 position
  return { red, green, blue }

end Color

end TransitionNetwork
