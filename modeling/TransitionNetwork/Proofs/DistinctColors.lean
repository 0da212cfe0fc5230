import TransitionNetwork.Color.Checked
import TransitionNetwork.Proofs.HexColor

/-!
# How far colours tell rules apart

The levels of a colour are computed in a word and come out as exact arithmetic has them. The colours
of two positions are the same just when the positions are a multiple of 128 apart, and a darker or
lighter variant tells apart as many: it runs together levels that are less than four apart, and no
two positions have all of their levels that near. Documents give the number of a rule for its
position, and so it is with the colours that they show.
-/

set_option autoImplicit false

namespace TransitionNetwork

namespace Color

/-! ## Levels are exact -/

section Channel

variable {multiplier : UInt64}

/-- A position is reduced before it is multiplied, so only the multiplier can be too large. -/
theorem product_lt (fits : 128 * multiplier.toNat < UInt64.size) (position : UInt64) :
    (position % 128).toNat * multiplier.toNat < UInt64.size := by
  have reduced : (position % 128).toNat ≤ 128 := by
    rw [UInt64.toNat_mod]
    exact Nat.le_of_lt (Nat.mod_lt _ (by decide))
  exact Nat.lt_of_le_of_lt (Nat.mul_le_mul_right multiplier.toNat reduced) fits

theorem toNat_product (fits : 128 * multiplier.toNat < UInt64.size) (position : UInt64) :
    (position % 128 * multiplier).toNat = position.toNat % 128 * multiplier.toNat := by
  rw [UInt64.toNat_mul, Nat.mod_eq_of_lt (product_lt fits position), UInt64.toNat_mod]
  rfl

/-- What is reduced and lifted fits into a byte, and all the more into a word. -/
theorem lifted_lt (product : UInt64) : (product % 128).toNat + 128 < UInt8.size := by
  rw [UInt64.toNat_mod]
  exact Nat.add_lt_add_right (Nat.mod_lt _ (by decide)) 128

theorem toNat_lifted (product : UInt64) :
    (product % 128 + 128).toNat = product.toNat % 128 + 128 := by
  rw [UInt64.toNat_add]
  exact Nat.mod_eq_of_lt (Nat.lt_trans (lifted_lt product) (by decide))

/-- The level is that of the product over the unbounded integers. -/
theorem toNat_channel (fits : 128 * multiplier.toNat < UInt64.size) (position : UInt64) :
    (channel multiplier position).toNat = multiplier.toNat * position.toNat % 128 + 128 := by
  calc
    (channel multiplier position).toNat = (position % 128 * multiplier % 128 + 128).toNat := by
      apply Nat.mod_eq_of_lt
      rw [toNat_lifted]
      exact lifted_lt _
    _ = position.toNat % 128 * multiplier.toNat % 128 + 128 := by
      rw [toNat_lifted, toNat_product fits]
    _ = multiplier.toNat * position.toNat % 128 + 128 := by
      rw [Nat.mod_mul_mod, Nat.mul_comm]

/-- No step on the way to the level leaves its word. -/
theorem channel?_eq_some (fits : 128 * multiplier.toNat < UInt64.size) (position : UInt64) :
    channel? multiplier position = some (channel multiplier position) := by
  have product : Word.mul? (position % 128) multiplier = some (position % 128 * multiplier) :=
    if_pos (product_lt fits position)
  have level : Word.add? (position % 128 * multiplier % 128) 128 =
      some (position % 128 * multiplier % 128 + 128) :=
    if_pos (Nat.lt_trans (lifted_lt _) (by decide))
  have byte : Word.toByte? (position % 128 * multiplier % 128 + 128) =
      some (channel multiplier position) := by
    apply if_pos
    rw [toNat_lifted]
    exact lifted_lt _
  simp only [channel?, product, level, byte, Option.bind_eq_bind, Option.bind_some]

end Channel

theorem ofPosition?_eq_some (position : UInt64) :
    ofPosition? position = some (ofPosition position) := by
  rw [ofPosition?, channel?_eq_some (by decide), channel?_eq_some (by decide),
    channel?_eq_some (by decide)]
  rfl

theorem toNat_red (position : UInt64) :
    (ofPosition position).red.toNat = 7 * position.toNat % 128 + 128 :=
  toNat_channel (by decide) position

theorem toNat_green (position : UInt64) :
    (ofPosition position).green.toNat = 31 * position.toNat % 128 + 128 :=
  toNat_channel (by decide) position

theorem toNat_blue (position : UInt64) :
    (ofPosition position).blue.toNat = 53 * position.toNat % 128 + 128 :=
  toNat_channel (by decide) position

/-! ## Equal colours -/

/-- Two levels that a variant may run together. -/
def Near (first second : Nat) : Prop :=
  first < second + 4 ∧ second < first + 4

theorem near_add_right {first second lift : Nat} :
    Near (first + lift) (second + lift) ↔ Near first second := by
  unfold Near
  omega

/-- The variant of a level runs together only levels that are near. -/
def KeepsApart (variant : UInt8 → UInt8) : Prop :=
  ∀ first second, variant first = variant second → Near first.toNat second.toNat

theorem keepsApart_id : KeepsApart id := by
  rintro first second rfl
  exact ⟨by simp, by simp⟩

theorem keepsApart_half : KeepsApart (· / 2) := by
  intro first second same
  have halves : first.toNat / 2 = second.toNat / 2 := by
    simpa using congrArg UInt8.toNat same
  unfold Near
  omega

theorem keepsApart_quarter : KeepsApart fun level => 255 - (255 - level) / 4 := by
  intro first second same
  have levels := congrArg UInt8.toNat same
  have small := first.toNat_lt
  have small' := second.toNat_lt
  simp only [UInt8.toNat_sub, UInt8.toNat_div, UInt8.reduceToNat] at levels
  unfold Near
  omega

/-- Red and green are enough to tell positions apart. -/
theorem mod_eq_of_near {first second : Nat} (red : Near (7 * first % 128) (7 * second % 128))
    (green : Near (31 * first % 128) (31 * second % 128)) : first % 128 = second % 128 := by
  unfold Near at red green
  obtain ⟨e, isRed⟩ : ∃ e : Int, e = (7 * first % 128 : Nat) - (7 * second % 128 : Nat) := ⟨_, rfl⟩
  obtain ⟨f, isGreen⟩ : ∃ f : Int, f = (31 * first % 128 : Nat) - (31 * second % 128 : Nat) :=
    ⟨_, rfl⟩
  -- The positions cancel out of this difference, which is too small for another multiple than zero.
  have multiple : (31 * e - 7 * f) % 128 = 0 := by omega
  have cancelled : 31 * e = 7 * f := by omega
  -- So 7 divides the difference of the reds, which is smaller than 7.
  have sameRed : e = 0 := by omega
  omega

theorem ofPosition_eq_of_mod_eq {first second : UInt64}
    (congruent : first.toNat % 128 = second.toNat % 128) :
    ofPosition first = ofPosition second := by
  have reduced : first % 128 = second % 128 := by
    apply UInt64.toNat_inj.mp
    simpa using congruent
  simp only [ofPosition, channel, reduced]

theorem hex_map_ofPosition_iff {variant : UInt8 → UInt8} (apart : KeepsApart variant)
    (first second : UInt64) :
    (map variant (ofPosition first)).hex = (map variant (ofPosition second)).hex ↔
      first.toNat % 128 = second.toNat % 128 := by
  rw [hex_inj]
  constructor
  · intro same
    have red := apart _ _ (congrArg Color.red same)
    have green := apart _ _ (congrArg Color.green same)
    rw [toNat_red, toNat_red, near_add_right] at red
    rw [toNat_green, toNat_green, near_add_right] at green
    exact mod_eq_of_near red green
  · intro congruent
    rw [ofPosition_eq_of_mod_eq congruent]

/-- The green levels of rules are far above that of unowned states. -/
theorem hex_map_ofPosition_ne_unowned {variant : UInt8 → UInt8} (apart : KeepsApart variant)
    (position : UInt64) : (map variant (ofPosition position)).hex ≠ (map variant unowned).hex := by
  intro same
  have green := apart _ _ (congrArg Color.green (hex_inj.mp same))
  have low : unowned.green.toNat = 97 := by decide
  rw [toNat_green, low] at green
  have close := green.1
  omega

/-- The levels of a rule's colour are exact. Two rules have the same colour, stroke or background
just when their positions are a multiple of 128 apart, and no rule has the colour or the stroke of
the states that no rule owns. -/
theorem colors_exact_and_apart_modulo_128 (first second : UInt64) :
    ofPosition? first = some (ofPosition first) ∧
    (ofPosition first).red.toNat = 7 * first.toNat % 128 + 128 ∧
    (ofPosition first).green.toNat = 31 * first.toNat % 128 + 128 ∧
    (ofPosition first).blue.toNat = 53 * first.toNat % 128 + 128 ∧
    ((ofPosition first).hex = (ofPosition second).hex ↔
      first.toNat % 128 = second.toNat % 128) ∧
    ((ofPosition first).dark.hex = (ofPosition second).dark.hex ↔
      first.toNat % 128 = second.toNat % 128) ∧
    ((ofPosition first).light.hex = (ofPosition second).light.hex ↔
      first.toNat % 128 = second.toNat % 128) ∧
    (ofPosition first).hex ≠ unowned.hex ∧
    (ofPosition first).dark.hex ≠ unowned.dark.hex := by
  refine ⟨ofPosition?_eq_some first, toNat_red first, toNat_green first, toNat_blue first,
    hex_map_ofPosition_iff keepsApart_id first second,
    hex_map_ofPosition_iff keepsApart_half first second,
    hex_map_ofPosition_iff keepsApart_quarter first second,
    hex_map_ofPosition_ne_unowned keepsApart_id first,
    hex_map_ofPosition_ne_unowned keepsApart_half first⟩

/-! ## Colours of owners -/

/-- A number is cut to a word, which only takes multiples of 128 away. -/
theorem toNat_toUInt64_mod (rule : Nat) : rule.toUInt64.toNat % 128 = rule % 128 := by
  rw [Nat.toUInt64, UInt64.toNat_ofNat', Nat.mod_mod_of_dvd _ (by decide)]

/-- The levels of the colour of a rule are exact in the number of the rule. -/
theorem toNat_levels_ofRule (rule : Nat) :
    (ofRule rule).red.toNat = 7 * rule % 128 + 128 ∧
    (ofRule rule).green.toNat = 31 * rule % 128 + 128 ∧
    (ofRule rule).blue.toNat = 53 * rule % 128 + 128 := by
  have reduced := toNat_toUInt64_mod rule
  rw [ofRule, toNat_red, toNat_green, toNat_blue]
  omega

theorem hex_map_ofOwner_iff {variant : UInt8 → UInt8} (apart : KeepsApart variant)
    (first second : Option Nat) :
    (map variant (ofOwner first)).hex = (map variant (ofOwner second)).hex ↔
      first.map (· % 128) = second.map (· % 128) := by
  cases first with
  | none =>
      cases second with
      | none => exact iff_of_true rfl rfl
      | some other =>
          exact iff_of_false (hex_map_ofPosition_ne_unowned apart other.toUInt64).symm nofun
  | some rule =>
      cases second with
      | none => exact iff_of_false (hex_map_ofPosition_ne_unowned apart rule.toUInt64) nofun
      | some other =>
          rw [Option.map_some, Option.map_some, Option.some.injEq, ← toNat_toUInt64_mod rule,
            ← toNat_toUInt64_mod other]
          exact hex_map_ofPosition_iff apart rule.toUInt64 other.toUInt64

/-- The colours of a document tell owners apart as far as their numbers differ modulo 128, by fill,
stroke or background alike. What no rule owns has a colour that no rule has. -/
theorem owners_apart_modulo_128 (first second : Option Nat) :
    ((ofOwner first).hex = (ofOwner second).hex ↔
      first.map (· % 128) = second.map (· % 128)) ∧
    ((ofOwner first).dark.hex = (ofOwner second).dark.hex ↔
      first.map (· % 128) = second.map (· % 128)) ∧
    ((ofOwner first).light.hex = (ofOwner second).light.hex ↔
      first.map (· % 128) = second.map (· % 128)) :=
  ⟨hex_map_ofOwner_iff keepsApart_id first second, hex_map_ofOwner_iff keepsApart_half first second,
    hex_map_ofOwner_iff keepsApart_quarter first second⟩

end Color

end TransitionNetwork
