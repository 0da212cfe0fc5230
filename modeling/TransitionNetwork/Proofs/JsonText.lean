import Mathlib.Tactic.IntervalCases
import TransitionNetwork.Proofs.JsonForms

/-!
# Strings are read as they are spelled

Each character of a string is spelled so that the reader appends the UTF-8 form of that character
to what it has taken: as it stands, behind a backslash, or by its number. A written string is one
of the spellings.
-/

set_option autoImplicit false

namespace TransitionNetwork.Json

/-- What stands between the quotes of a written string. -/
def escapedBytes (text : String) : Bytes :=
  (text.toList.flatMap escapeChar).flatMap String.utf8EncodeChar

namespace Reader

/-! ## Steps of the reader -/

theorem bytesOfText_quote (taken rest : Bytes) :
    bytesOfText taken (Byte.quote :: rest) = .ok (taken.reverse, rest) := by
  rw [bytesOfText, if_pos rfl]

theorem bytesOfText_escape {taken rest bytes after : Bytes}
    (success : escape.run rest = .ok (bytes, after)) :
    bytesOfText taken (Byte.backslash :: rest) = bytesOfText (bytes.reverse ++ taken) after := by
  rw [bytesOfText, if_neg (by decide), if_pos rfl]
  split
  · rename_i failure failed
    rw [success] at failed
    cases failed
  · rename_i found rest' found_eq
    rw [success] at found_eq
    cases found_eq
    rw [List.reverseAux_eq]

theorem bytesOfText_plain {bytes : Bytes} (plain : ∀ byte ∈ bytes, IsPlain byte)
    (taken rest : Bytes) :
    bytesOfText taken (bytes ++ rest) = bytesOfText (bytes.reverse ++ taken) rest := by
  induction bytes generalizing taken with
  | nil => rfl
  | cons byte others ih =>
      have first := plain byte List.mem_cons_self
      rw [List.cons_append, bytesOfText, if_neg first.notQuote, if_neg first.notBackslash,
        if_neg (by simp [first.notControl]), List.reverse_cons, List.append_assoc]
      exact ih (fun byte inside => plain byte (List.mem_cons_of_mem _ inside)) (byte :: taken)

/-! ## Characters that are written as they stand -/

theorem isControl_eq_false {byte : UInt8} (printable : 0x20 ≤ byte.toNat) :
    Byte.isControl byte = false := by
  have above : ¬ byte < 0x20 := by
    rw [UInt8.lt_iff_toNat_lt]
    exact Nat.not_lt.mpr printable
  simpa [Byte.isControl] using above

theorem isPlain_of_le {byte : UInt8} (beyond : 0x80 ≤ byte.toNat) : IsPlain byte where
  notQuote same := by
    rw [same] at beyond
    exact absurd beyond (by decide)
  notBackslash same := by
    rw [same] at beyond
    exact absurd beyond (by decide)
  notControl := isControl_eq_false (by omega)

theorem isPlain_ofNat {value : Nat} (printable : 0x20 ≤ value) (ascii : value ≤ 0x7F)
    (notQuote : value ≠ 0x22) (notBackslash : value ≠ 0x5C) : IsPlain (UInt8.ofNat value) := by
  have value_eq : (UInt8.ofNat value).toNat = value := by
    rw [UInt8.toNat_ofNat']
    omega
  constructor
  · intro same
    rw [same] at value_eq
    exact notQuote value_eq.symm
  · intro same
    rw [same] at value_eq
    exact notBackslash value_eq.symm
  · apply isControl_eq_false
    omega

/-- Every byte of a form of two to four bytes has its highest bit set. -/
theorem le_of_mem_utf8EncodeChar {c : Char} (wide : 0x7F < c.toNat) {byte : UInt8}
    (inside : byte ∈ String.utf8EncodeChar c) : 0x80 ≤ byte.toNat := by
  have beyond {value : Nat} (least : 0x80 ≤ value) (greatest : value < 0x100) :
      0x80 ≤ (UInt8.ofNat value).toNat := by
    rw [UInt8.toNat_ofNat']
    omega
  have notSingle : ¬ c.val.toNat ≤ 0x7F := Nat.not_le.mpr wide
  simp only [String.utf8EncodeChar, notSingle, ↓reduceIte] at inside
  by_cases two : c.val.toNat ≤ 0x7FF
  · simp only [two, ↓reduceIte, List.mem_cons, List.not_mem_nil, or_false] at inside
    rcases inside with rfl | rfl <;> apply beyond <;> omega
  · by_cases three : c.val.toNat ≤ 0xFFFF
    · simp only [two, three, ↓reduceIte, List.mem_cons, List.not_mem_nil, or_false] at inside
      rcases inside with rfl | rfl | rfl <;> apply beyond <;> omega
    · simp only [two, three, ↓reduceIte, List.mem_cons, List.not_mem_nil, or_false] at inside
      rcases inside with rfl | rfl | rfl | rfl <;> apply beyond <;> omega

theorem isPlain_of_mem_utf8EncodeChar {c : Char} (printable : 0x20 ≤ c.toNat) (notQuote : c ≠ '"')
    (notBackslash : c ≠ '\\') {byte : UInt8} (inside : byte ∈ String.utf8EncodeChar c) :
    IsPlain byte := by
  by_cases ascii : c.toNat ≤ 0x7F
  · have single : String.utf8EncodeChar c = [UInt8.ofNat c.toNat] := if_pos ascii
    rw [single, List.mem_singleton] at inside
    subst inside
    apply isPlain_ofNat printable ascii
    · exact fun same => notQuote (Char.toNat_inj.mp same)
    · exact fun same => notBackslash (Char.toNat_inj.mp same)
  · exact isPlain_of_le (le_of_mem_utf8EncodeChar (by omega) inside)

/-! ## Escapes -/

theorem run_hexUnit {digits : Bytes} {unit : Nat} (isUnit : IsHexUnit digits unit) (rest : Bytes) :
    hexUnit.run (digits ++ rest) = .ok (unit, rest) := by
  cases isUnit with
  | digits first second third fourth =>
      simp only [hexUnit, List.cons_append, first, second, third, fourth]
      rfl

theorem run_escape_letter {letter : UInt8} {c : Char} (isLetter : (letter, c) ∈ letterEscapes)
    (rest : Bytes) : escape.run (letter :: rest) = .ok (String.utf8EncodeChar c, rest) := by
  simp only [letterEscapes, List.mem_cons, List.not_mem_nil, or_false, Prod.mk.injEq] at isLetter
  rcases isLetter with h | h | h | h | h | h | h | h <;> rw [h.1, h.2] <;> rfl

theorem run_escape_unit {digits : Bytes} {unit : Nat} (isUnit : IsHexUnit digits unit)
    (noSurrogate : unit < 0xD800 ∨ 0xDFFF < unit) (rest : Bytes) :
    escape.run (Byte.lowerU :: (digits ++ rest)) =
      .ok (String.utf8EncodeChar (Char.ofNat unit), rest) := by
  have notLow : isLowSurrogate unit = false := by
    simp only [isLowSurrogate, Bool.and_eq_false_iff, decide_eq_false_iff_not]
    omega
  have notHigh : isHighSurrogate unit = false := by
    simp only [isHighSurrogate, Bool.and_eq_false_iff, decide_eq_false_iff_not]
    omega
  have character : escapedCharacter.run (digits ++ rest) = .ok (Char.ofNat unit, rest) := by
    rw [escapedCharacter, run_bind_of_run_eq_ok (run_hexUnit isUnit rest), notLow, notHigh]
    rfl
  exact run_map character String.utf8EncodeChar

theorem run_escape_pair {highDigits lowDigits : Bytes} {high low : Nat}
    (isHigh : IsHexUnit highDigits high) (leastHigh : 0xD800 ≤ high) (greatestHigh : high ≤ 0xDBFF)
    (isLow : IsHexUnit lowDigits low) (leastLow : 0xDC00 ≤ low) (greatestLow : low ≤ 0xDFFF)
    (rest : Bytes) :
    escape.run (Byte.lowerU ::
        (highDigits ++ Byte.backslash :: Byte.lowerU :: (lowDigits ++ rest))) =
      .ok (String.utf8EncodeChar
        (Char.ofNat (0x10000 + (high - 0xD800) * 0x400 + (low - 0xDC00))), rest) := by
  have highFirst : isLowSurrogate high = false ∧ isHighSurrogate high = true := by
    simp only [isLowSurrogate, isHighSurrogate, Bool.and_eq_false_iff, Bool.and_eq_true,
      decide_eq_false_iff_not, decide_eq_true_eq]
    omega
  have lowSecond : isLowSurrogate low = true := by
    simp only [isLowSurrogate, Bool.and_eq_true, decide_eq_true_eq]
    omega
  have character : escapedCharacter.run
      (highDigits ++ Byte.backslash :: Byte.lowerU :: (lowDigits ++ rest)) =
      .ok (Char.ofNat (0x10000 + (high - 0xD800) * 0x400 + (low - 0xDC00)), rest) := by
    rw [escapedCharacter, run_bind_of_run_eq_ok (run_hexUnit isHigh _), highFirst.1, highFirst.2]
    change (hexUnit >>= fun low => if isLowSurrogate low = true then
      pure (Char.ofNat (0x10000 + (high - 0xD800) * 0x400 + (low - 0xDC00)))
      else fail .loneSurrogate .behind).run (lowDigits ++ rest) = _
    rw [run_bind_of_run_eq_ok (run_hexUnit isLow rest), if_pos lowSecond]
    rfl
  exact run_map character String.utf8EncodeChar

/-! ## Whole strings -/

/-- Each character that is spelled adds its UTF-8 form to the bytes that are taken. -/
theorem bytesOfText_spelled {body : Bytes} {chars : List Char} (spells : Spells body chars)
    (taken rest : Bytes) :
    bytesOfText taken (body ++ Byte.quote :: rest) =
      .ok (taken.reverse ++ chars.flatMap String.utf8EncodeChar, rest) := by
  induction spells generalizing taken with
  | nil => rw [List.nil_append, bytesOfText_quote, List.flatMap_nil, List.append_nil]
  | @plain c others chars printable notQuote notBackslash _ ih =>
      have plain : ∀ byte ∈ String.utf8EncodeChar c, IsPlain byte :=
        fun byte inside => isPlain_of_mem_utf8EncodeChar printable notQuote notBackslash inside
      rw [List.append_assoc, bytesOfText_plain plain, ih]
      simp
  | letter isLetter _ ih =>
      rw [List.cons_append, List.cons_append, bytesOfText_escape (run_escape_letter isLetter _), ih]
      simp
  | unit isUnit noSurrogate _ ih =>
      simp only [List.cons_append, List.append_assoc]
      rw [bytesOfText_escape (run_escape_unit isUnit noSurrogate _), ih]
      simp
  | pair isHigh leastHigh greatestHigh isLow leastLow greatestLow _ ih =>
      have escaped := run_escape_pair isHigh leastHigh greatestHigh isLow leastLow greatestLow
      simp only [List.cons_append, List.append_assoc]
      rw [bytesOfText_escape (escaped _), ih]
      simp

theorem fromUTF8?_bytesOf (value : String) :
    String.fromUTF8? ⟨(bytesOf value).toArray⟩ = some value := by
  have same : (⟨(bytesOf value).toArray⟩ : ByteArray) = value.toByteArray := by
    simp [bytesOf, String.toUTF8]
  rw [same, String.fromUTF8?, dif_pos value.isValidUTF8]
  rfl

theorem run_text {body : Bytes} {value : String} (spells : Spells body value.toList)
    (rest : Bytes) : text.run (body ++ Byte.quote :: rest) = .ok (value, rest) := by
  have bytes := bytesOfText_spelled spells [] rest
  rw [List.reverse_nil, List.nil_append, ← bytesOf_eq_flatMap] at bytes
  unfold text
  rw [run_bind_of_run_eq_ok bytes]
  simp only [fromUTF8?_bytesOf]
  rfl

theorem reads_stringForm {value : String} {text : Bytes} (form : StringForm value text) :
    Reads string text value := by
  cases form with
  | quoted spells =>
      apply Reads.of_token rfl
      intro rest ends
      rw [List.append_assoc]
      exact run_text spells rest

end Reader

/-! ## Written strings -/

theorem hexValue?_digitChar {digit : Nat} (isHex : digit < 16) :
    ∃ byte, String.utf8EncodeChar (Nat.digitChar digit) = [byte] ∧
      Byte.hexValue? byte = some digit := by
  interval_cases digit <;> exact ⟨_, rfl, rfl⟩

theorem isHexUnit_control {c : Char} (control : c.toNat < 0x20) :
    IsHexUnit (['0', '0', Nat.digitChar (c.toNat / 16), Nat.digitChar (c.toNat % 16)].flatMap
      String.utf8EncodeChar) c.toNat := by
  obtain ⟨high, high_eq, highValue⟩ := hexValue?_digitChar (show c.toNat / 16 < 16 by omega)
  obtain ⟨low, low_eq, lowValue⟩ := hexValue?_digitChar (show c.toNat % 16 < 16 by omega)
  have zero : Byte.hexValue? 0x30 = some 0 := rfl
  have digits := IsHexUnit.digits zero zero highValue lowValue
  rw [show ((0 * 16 + 0) * 16 + c.toNat / 16) * 16 + c.toNat % 16 = c.toNat by omega] at digits
  simp only [List.flatMap_cons, List.flatMap_nil, high_eq, low_eq]
  exact digits

theorem spells_escapeChar (c : Char) {rest : Bytes} {chars : List Char}
    (spells : Spells rest chars) :
    Spells ((escapeChar c).flatMap String.utf8EncodeChar ++ rest) (c :: chars) := by
  unfold escapeChar
  split
  case h_8 notQuote notBackslash _ _ _ _ _ =>
    split
    · rename_i control
      have unit := Spells.unit (isHexUnit_control control) (.inl (by omega)) spells
      rw [Char.ofNat_toNat] at unit
      exact unit
    · rename_i printable
      rw [List.flatMap_singleton]
      exact Spells.plain (by omega) notQuote notBackslash spells
  all_goals exact Spells.letter (by decide) spells

theorem spells_escapedBytes (value : String) : Spells (escapedBytes value) value.toList := by
  have spelled (chars : List Char) :
      Spells ((chars.flatMap escapeChar).flatMap String.utf8EncodeChar) chars := by
    induction chars with
    | nil => exact Spells.nil
    | cons c chars ih =>
        rw [List.flatMap_cons, List.flatMap_append]
        exact spells_escapeChar c ih
  exact spelled value.toList

theorem bytesOf_writeString (value : String) :
    bytesOf (writeString value) = Byte.quote :: (escapedBytes value ++ [Byte.quote]) := by
  have quote : bytesOf "\"" = [Byte.quote] := bytesOf_eq_flatMap "\""
  rw [writeString, bytesOf_append, bytesOf_append, quote, bytesOf_ofList]
  rfl

theorem stringForm_writeString (value : String) :
    StringForm value (bytesOf (writeString value)) := by
  rw [bytesOf_writeString]
  exact StringForm.quoted (spells_escapedBytes value)

end TransitionNetwork.Json
