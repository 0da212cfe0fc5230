import TransitionNetwork.Proofs.JsonText

/-!
# Cutting UTF-8 text

The bytes of a text may be cut at every byte below `0x80`: such a byte is a character of its own,
because the bytes of all other characters have their highest bit set. So what stands before it and
what stands behind it are texts as well.
-/

set_option autoImplicit false

namespace TransitionNetwork.Json

/-! ## Bytes below `0x80` -/

def Byte.IsAscii (byte : UInt8) : Prop :=
  byte.toNat < 0x80

instance : DecidablePred Byte.IsAscii :=
  fun byte => inferInstanceAs (Decidable (byte.toNat < 0x80))

def AreAscii (bytes : Bytes) : Prop :=
  ∀ byte ∈ bytes, Byte.IsAscii byte

instance : DecidablePred AreAscii :=
  fun bytes => List.decidableBAll Byte.IsAscii bytes

theorem isAscii_of_le {byte : UInt8} {greatest : UInt8} (le : byte ≤ greatest)
    (ascii : Byte.IsAscii greatest) : Byte.IsAscii byte := by
  have le_toNat := UInt8.le_iff_toNat_le.mp le
  unfold Byte.IsAscii at *
  omega

theorem isAscii_of_isBlank {byte : UInt8} (blank : Byte.isBlank byte = true) :
    Byte.IsAscii byte := by
  simp only [Byte.isBlank, Bool.or_eq_true, beq_iff_eq] at blank
  rcases blank with ((rfl | rfl) | rfl) | rfl <;> decide

theorem isAscii_of_isDigit {byte : UInt8} (digit : Byte.isDigit byte = true) :
    Byte.IsAscii byte := by
  simp only [Byte.isDigit, Bool.and_eq_true, decide_eq_true_eq] at digit
  exact isAscii_of_le digit.2 (by decide)

theorem isAscii_of_startsNumber {byte : UInt8} (starts : Byte.startsNumber byte = true) :
    Byte.IsAscii byte := by
  simp only [Byte.startsNumber, Bool.or_eq_true, beq_iff_eq] at starts
  rcases starts with rfl | digit
  · decide
  · exact isAscii_of_isDigit digit

theorem isAscii_of_startsValue {byte : UInt8} (starts : Reader.startsValue byte = true) :
    Byte.IsAscii byte := by
  simp only [Reader.startsValue, Bool.or_eq_true, decide_eq_true_eq] at starts
  rcases starts with (((((rfl | rfl) | rfl) | rfl) | rfl) | rfl) | number
  case inr => exact isAscii_of_startsNumber number
  all_goals decide

theorem isAscii_of_hexValue? {byte : UInt8} {value : Nat}
    (isHex : Byte.hexValue? byte = some value) : Byte.IsAscii byte := by
  unfold Byte.hexValue? at isHex
  split at isHex
  · rename_i digit
    exact isAscii_of_isDigit digit
  split at isHex
  · rename_i letter
    rw [Bool.and_eq_true, decide_eq_true_eq, decide_eq_true_eq] at letter
    exact isAscii_of_le letter.2 (by decide)
  split at isHex
  · rename_i letter
    rw [Bool.and_eq_true, decide_eq_true_eq, decide_eq_true_eq] at letter
    exact isAscii_of_le letter.2 (by decide)
  · cases isHex

/-! ## Texts -/

def IsText (bytes : Bytes) : Prop :=
  ∃ text : String, bytesOf text = bytes

theorem isText_iff_exists_chars {bytes : Bytes} :
    IsText bytes ↔ ∃ chars : List Char, chars.flatMap String.utf8EncodeChar = bytes := by
  constructor
  · intro ⟨text, text_eq⟩
    exact ⟨text.toList, by rw [← bytesOf_eq_flatMap, text_eq]⟩
  · intro ⟨chars, chars_eq⟩
    exact ⟨String.ofList chars, by rw [bytesOf_ofList, chars_eq]⟩

theorem isText_nil : IsText [] :=
  isText_iff_exists_chars.mpr ⟨[], rfl⟩

theorem isText_utf8EncodeChar (c : Char) : IsText (String.utf8EncodeChar c) :=
  isText_iff_exists_chars.mpr ⟨[c], List.flatMap_singleton ..⟩

theorem isText_singleton {byte : UInt8} (ascii : Byte.IsAscii byte) : IsText [byte] := by
  unfold Byte.IsAscii at ascii
  have value : (Char.ofNat byte.toNat).toNat = byte.toNat := by
    rw [Char.ofNat, dif_pos (Or.inl (by omega))]
    rfl
  have single : String.utf8EncodeChar (Char.ofNat byte.toNat) =
      [UInt8.ofNat (Char.ofNat byte.toNat).toNat] := by
    apply if_pos
    show (Char.ofNat byte.toNat).toNat ≤ 0x7F
    omega
  have isText := isText_utf8EncodeChar (Char.ofNat byte.toNat)
  rw [single, value, UInt8.ofNat_toNat] at isText
  exact isText

theorem IsText.append {first second : Bytes} (isFirst : IsText first) (isSecond : IsText second) :
    IsText (first ++ second) := by
  obtain ⟨one, rfl⟩ := isFirst
  obtain ⟨other, rfl⟩ := isSecond
  exact ⟨one ++ other, bytesOf_append one other⟩

theorem utf8EncodeChar_eq_of_mem {c : Char} {byte : UInt8} (ascii : Byte.IsAscii byte)
    (inside : byte ∈ String.utf8EncodeChar c) : String.utf8EncodeChar c = [byte] := by
  by_cases single : c.toNat ≤ 0x7F
  · have encoded : String.utf8EncodeChar c = [UInt8.ofNat c.toNat] := if_pos single
    rw [encoded, List.mem_singleton] at inside
    rw [encoded, inside]
  · have beyond := Reader.le_of_mem_utf8EncodeChar (by omega) inside
    unfold Byte.IsAscii at ascii
    omega

/-- Induction on the characters: the byte is the first of them or stands behind it. -/
theorem isText_of_flatMap_eq {chars : List Char} {before after : Bytes} {byte : UInt8}
    (chars_eq : chars.flatMap String.utf8EncodeChar = before ++ byte :: after)
    (ascii : Byte.IsAscii byte) : IsText before ∧ IsText after := by
  induction chars generalizing before with
  | nil => simp at chars_eq
  | cons c chars ih =>
      rw [List.flatMap_cons] at chars_eq
      rcases List.append_eq_append_iff.mp chars_eq with
        ⟨between, before_eq, rest_eq⟩ | ⟨between, char_eq, rest_eq⟩
      · obtain ⟨isBetween, isAfter⟩ := ih rest_eq
        rw [before_eq]
        exact ⟨(isText_utf8EncodeChar c).append isBetween, isAfter⟩
      · cases between with
        | nil =>
            have behind : chars.flatMap String.utf8EncodeChar = [] ++ byte :: after := rest_eq.symm
            rw [List.append_nil] at char_eq
            rw [← char_eq]
            exact ⟨isText_utf8EncodeChar c, (ih behind).2⟩
        | cons first others =>
            obtain ⟨rfl, after_eq⟩ := List.cons.inj rest_eq
            have single := utf8EncodeChar_eq_of_mem (c := c) ascii (by rw [char_eq]; simp)
            rw [single] at char_eq
            obtain ⟨rfl, rfl⟩ : before = [] ∧ others = [] := by
              cases before with
              | nil => simpa using char_eq
              | cons => simp at char_eq
            rw [after_eq]
            exact ⟨isText_nil, isText_iff_exists_chars.mpr ⟨chars, rfl⟩⟩

theorem IsText.split {before after : Bytes} {byte : UInt8}
    (isText : IsText (before ++ byte :: after)) (ascii : Byte.IsAscii byte) :
    IsText before ∧ IsText after := by
  obtain ⟨chars, chars_eq⟩ := isText_iff_exists_chars.mp isText
  exact isText_of_flatMap_eq chars_eq ascii

theorem IsText.tail {byte : UInt8} {rest : Bytes} (isText : IsText (byte :: rest))
    (ascii : Byte.IsAscii byte) : IsText rest := by
  have whole : IsText ([] ++ byte :: rest) := isText
  exact (whole.split ascii).2

theorem IsText.dropWhile {p : UInt8 → Bool} (ascii : ∀ byte, p byte = true → Byte.IsAscii byte)
    {bytes : Bytes} (isText : IsText bytes) : IsText (bytes.dropWhile p) := by
  induction bytes with
  | nil => exact isText
  | cons byte rest ih =>
      by_cases passed : p byte = true
      · rw [List.dropWhile_cons_of_pos passed]
        exact ih (isText.tail (ascii byte passed))
      · rw [List.dropWhile_cons_of_neg passed]
        exact isText

/-- Bytes that are a text are decoded. -/
theorem IsText.exists_fromUTF8? {bytes : Bytes} (isText : IsText bytes) :
    ∃ text, String.fromUTF8? ⟨bytes.toArray⟩ = some text := by
  obtain ⟨text, rfl⟩ := isText
  exact ⟨text, Reader.fromUTF8?_bytesOf text⟩

end TransitionNetwork.Json
