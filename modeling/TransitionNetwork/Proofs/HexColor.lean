import TransitionNetwork.Color
import TransitionNetwork.Proofs.QuotedText

/-!
# Hexadecimal texts of colours

The text of a colour determines the colour and needs no escape.
-/

set_option autoImplicit false

namespace TransitionNetwork.Color

theorem digitChar_injective : ∀ first < 16, ∀ second < 16,
    Nat.digitChar first = Nat.digitChar second → first = second := by
  decide

theorem isPlainChar_digitChar : ∀ digit < 16, Dot.IsPlainChar (Nat.digitChar digit) := by
  decide

theorem hexByte_injective {first second : UInt8} (same : hexByte first = hexByte second) :
    first = second := by
  have small := first.toNat_lt
  have small' := second.toNat_lt
  simp only [hexByte, List.cons.injEq, and_true] at same
  have high := digitChar_injective _ (by omega) _ (by omega) same.1
  have low := digitChar_injective _ (by omega) _ (by omega) same.2
  apply UInt8.toNat_inj.mp
  omega

theorem toList_hex (color : Color) :
    color.hex.toList =
      '#' :: (hexByte color.red ++ hexByte color.green ++ hexByte color.blue) :=
  String.toList_ofList

theorem hex_inj {first second : Color} : first.hex = second.hex ↔ first = second := by
  constructor
  · intro same
    have digits := congrArg String.toList same
    simp only [toList_hex, List.cons.injEq, true_and] at digits
    have split := List.append_inj digits rfl
    have channels := List.append_inj split.1 rfl
    cases first
    cases second
    exact (Color.mk.injEq ..).mpr ⟨hexByte_injective channels.1, hexByte_injective channels.2,
      hexByte_injective split.2⟩
  · exact congrArg hex

theorem isPlainChar_of_mem_hexByte {byte : UInt8} {c : Char} (member : c ∈ hexByte byte) :
    Dot.IsPlainChar c := by
  have small := byte.toNat_lt
  simp only [hexByte, List.mem_cons, List.not_mem_nil, or_false] at member
  rcases member with rfl | rfl
  · exact isPlainChar_digitChar _ (by omega)
  · exact isPlainChar_digitChar _ (by omega)

theorem isPlainChar_of_mem_hex {color : Color} {c : Char} (member : c ∈ color.hex.toList) :
    Dot.IsPlainChar c := by
  rw [toList_hex, List.mem_cons, List.mem_append, List.mem_append] at member
  rcases member with rfl | (red | green) | blue
  · decide
  · exact isPlainChar_of_mem_hexByte red
  · exact isPlainChar_of_mem_hexByte green
  · exact isPlainChar_of_mem_hexByte blue

end TransitionNetwork.Color
