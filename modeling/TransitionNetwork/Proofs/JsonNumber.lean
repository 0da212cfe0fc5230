import TransitionNetwork.Proofs.JsonReads

/-!
# Written integers are read back

An integer is written in decimal digits without a leading zero, so its first digit and those behind
it are one numeral, which ends where the value ends. As long as it fits in 64 bits, no digit of it
is left uncounted.
-/

set_option autoImplicit false

namespace TransitionNetwork.Json

/-! ## Decimal digits -/

def digitsValue (digits : List Nat) (before : Nat) : Nat :=
  digits.foldl (fun value digit => value * 10 + digit) before

theorem le_digitsValue (digits : List Nat) (before : Nat) : before ≤ digitsValue digits before := by
  induction digits generalizing before with
  | nil => exact Nat.le_refl _
  | cons digit others ih =>
      have := ih (before * 10 + digit)
      simp only [digitsValue, List.foldl_cons] at this ⊢
      omega

theorem gatherDigits_eq {limit : Nat} (digits : List Nat) (before : Nat)
    (fits : digitsValue digits before ≤ limit) :
    gatherDigits limit before digits = (digitsValue digits before, []) := by
  induction digits generalizing before with
  | nil => rfl
  | cons digit others ih =>
      have := le_digitsValue others (before * 10 + digit)
      have first : before * 10 + digit ≤ limit := Nat.le_trans this fits
      rw [gatherDigits, if_pos first]
      exact ih (before * 10 + digit) fits

/-- A first byte and those behind it are the decimal digits of a number. -/
structure IsDecimal (first : UInt8) (others : Bytes) (value : Nat) : Prop where
  isDigit : ∀ byte ∈ first :: others, Byte.isDigit byte = true
  noLeadingZero : first = Byte.zero → others = []
  value_eq : digitsValue ((first :: others).map Byte.digitValue) 0 = value

def digitByte (c : Char) : UInt8 :=
  UInt8.ofNat c.toNat

section Digit

variable {c : Char}

theorem toNat_digitByte (digit : c.isDigit = true) : (digitByte c).toNat = c.toNat := by
  have bounds := Char.isDigit_iff_toNat.mp digit
  have greatest : c.toNat ≤ 0x39 := bounds.2
  rw [digitByte, UInt8.toNat_ofNat']
  omega

theorem isDigit_digitByte (digit : c.isDigit = true) : Byte.isDigit (digitByte c) = true := by
  have bounds := Char.isDigit_iff_toNat.mp digit
  rw [← toNat_digitByte digit] at bounds
  simp only [Byte.isDigit, Bool.and_eq_true, decide_eq_true_eq, UInt8.le_iff_toNat_le]
  exact bounds

theorem digitValue_digitByte (digit : c.isDigit = true) :
    Byte.digitValue (digitByte c) = c.toNat - '0'.toNat := by
  have bounds := Char.isDigit_iff_toNat.mp digit
  rw [← toNat_digitByte digit] at bounds
  have least : (0x30 : UInt8) ≤ digitByte c := UInt8.le_iff_toNat_le.mpr bounds.1
  rw [Byte.digitValue, UInt8.toNat_sub_of_le _ _ least, toNat_digitByte digit]
  rfl

theorem utf8EncodeChar_digit (digit : c.isDigit = true) :
    String.utf8EncodeChar c = [digitByte c] := by
  have bounds := Char.isDigit_iff_toNat.mp digit
  have greatest : c.toNat ≤ 0x39 := bounds.2
  have ascii : c.val.toNat ≤ 0x7F := Nat.le_trans greatest (by decide)
  exact if_pos ascii

theorem eq_zero_of_digitByte (digit : c.isDigit = true) (zero : digitByte c = Byte.zero) :
    c = '0' := by
  apply Char.toNat_inj.mp
  rw [← toNat_digitByte digit, zero]
  rfl

end Digit

theorem flatMap_utf8EncodeChar_digits {chars : List Char}
    (digits : ∀ c ∈ chars, c.isDigit = true) :
    chars.flatMap String.utf8EncodeChar = chars.map digitByte := by
  induction chars with
  | nil => rfl
  | cons c chars ih =>
      rw [List.flatMap_cons, utf8EncodeChar_digit (digits c List.mem_cons_self),
        ih fun c inside => digits c (List.mem_cons_of_mem _ inside)]
      rfl

theorem digitsValue_digitBytes {chars : List Char} (digits : ∀ c ∈ chars, c.isDigit = true)
    (before : Nat) :
    digitsValue ((chars.map digitByte).map Byte.digitValue) before =
      Nat.ofDigitChars 10 chars before := by
  induction chars generalizing before with
  | nil => rfl
  | cons c chars ih =>
      have step := ih (fun c inside => digits c (List.mem_cons_of_mem _ inside))
        (before * 10 + (c.toNat - '0'.toNat))
      rw [Nat.ofDigitChars_cons, Nat.mul_comm 10 before, ← step]
      simp only [digitsValue, List.map_cons, List.foldl_cons,
        digitValue_digitByte (digits c List.mem_cons_self)]

theorem eq_zero_of_digitChar : ∀ digit < 10, Nat.digitChar digit = '0' → digit = 0 := by
  decide

/-- Only the number zero starts with that digit. -/
theorem eq_zero_of_toDigits {value : Nat} {others : List Char}
    (starts : Nat.toDigits 10 value = '0' :: others) : value = 0 := by
  induction value using Nat.strongRecOn generalizing others with
  | ind value ih =>
      by_cases single : value < 10
      · rw [Nat.toDigits_of_lt_base single] at starts
        exact eq_zero_of_digitChar value single (List.cons.inj starts).1
      · rw [Nat.toDigits_of_base_le (by decide) (by omega)] at starts
        cases front : Nat.toDigits 10 (value / 10) with
        | nil => exact absurd front Nat.toDigits_ne_nil
        | cons c chars =>
            rw [front] at starts
            rw [(List.cons.inj starts).1] at front
            have := ih (value / 10) (by omega) front
            omega

theorem isDecimal_toString (value : Nat) :
    ∃ first others, bytesOf (toString value) = first :: others ∧ IsDecimal first others value := by
  have digits : ∀ c ∈ Nat.toDigits 10 value, c.isDigit = true :=
    fun c inside => Nat.isDigit_of_mem_toDigits (by decide) (by decide) inside
  cases chars : Nat.toDigits 10 value with
  | nil => exact absurd chars Nat.toDigits_ne_nil
  | cons c others =>
      rw [chars] at digits
      refine ⟨digitByte c, others.map digitByte, ?_, ?_, ?_, ?_⟩
      · rw [bytesOf_eq_flatMap, Nat.toString_eq_repr, Nat.toList_repr, chars,
          flatMap_utf8EncodeChar_digits digits]
        rfl
      · intro byte inside
        rw [← List.map_cons, List.mem_map] at inside
        obtain ⟨d, inside, rfl⟩ := inside
        exact isDigit_digitByte (digits d inside)
      · intro zero
        rw [eq_zero_of_digitByte (digits c List.mem_cons_self) zero] at chars
        have value_eq := eq_zero_of_toDigits chars
        rw [value_eq, Nat.toDigits_zero] at chars
        rw [← (List.cons.inj chars).2]
        rfl
      · rw [← List.map_cons, digitsValue_digitBytes digits, ← chars]
        exact Nat.ofDigitChars_toDigits (by decide) (by decide)

/-! ## Numerals -/

namespace Reader

theorem run_peek (rest : Bytes) : peek.run rest = .ok (rest.head?, rest) :=
  rfl

/-- What follows a run of digits: no further digit. -/
def EndsDigits (rest : Bytes) : Prop :=
  ∀ byte ∈ rest.head?, Byte.isDigit byte = false

theorem EndsDigits.of_endsValue {rest : Bytes} (ends : EndsValue rest) : EndsDigits rest := by
  intro byte isFirst
  have other := ends byte isFirst
  simp only [Byte.continuesNumber, Bool.or_eq_false_iff] at other
  exact other.1.1.1

theorem run_digits {taken rest : Bytes} (isDigit : ∀ byte ∈ taken, Byte.isDigit byte = true)
    (ends : EndsDigits rest) :
    digits.run (taken ++ rest) = .ok (taken.map Byte.digitValue, rest) := by
  have stops : rest.takeWhile Byte.isDigit = [] ∧ rest.dropWhile Byte.isDigit = rest := by
    cases rest with
    | nil => exact ⟨rfl, rfl⟩
    | cons byte rest =>
        have notDigit : ¬ Byte.isDigit byte = true := by simp [ends byte rfl]
        exact ⟨List.takeWhile_cons_of_neg notDigit, List.dropWhile_cons_of_neg notDigit⟩
  show Except.ok (((taken ++ rest).takeWhile Byte.isDigit).map Byte.digitValue,
    (taken ++ rest).dropWhile Byte.isDigit) = _
  rw [List.takeWhile_append_of_pos isDigit, List.dropWhile_append_of_pos isDigit, stops.1,
    stops.2, List.append_nil]

theorem run_wholeDigits {first : UInt8} {others rest : Bytes} {value : Nat}
    (decimal : IsDecimal first others value) (ends : EndsDigits rest) :
    (wholeDigits first).run (others ++ rest) =
      .ok ((first :: others).map Byte.digitValue, rest) := by
  unfold wholeDigits
  split
  · rename_i zero
    rw [decimal.noLeadingZero zero, List.nil_append, run_bind_of_run_eq_ok (run_peek rest), zero]
    cases rest with
    | nil => rfl
    | cons byte rest =>
        simp only [List.head?_cons, Option.map_some, ends byte rfl]
        rfl
  · have others_run := run_digits
      (fun byte inside => decimal.isDigit byte (List.mem_cons_of_mem _ inside)) ends
    rw [if_pos (decimal.isDigit first List.mem_cons_self), run_bind_of_run_eq_ok others_run]
    rfl

theorem run_exponent?_none {rest : Bytes} (cutOff : Cause) (ends : EndsValue rest) :
    (exponent? cutOff).run rest = .ok (none, rest) := by
  rw [exponent?, run_bind_of_run_eq_ok (run_peek rest)]
  cases rest with
  | nil => rfl
  | cons byte rest =>
      obtain ⟨_, _, notLower, notUpper⟩ := ends.head
      split
      · rename_i isLower
        exact absurd (Option.some.inj isLower) notLower
      · rename_i isUpper
        exact absurd (Option.some.inj isUpper) notUpper
      · rfl

theorem run_unsignedNumeral {first : UInt8} {others rest : Bytes} {value : Nat} (cutOff : Cause)
    (decimal : IsDecimal first others value) (ends : EndsValue rest) :
    (unsignedNumeral cutOff first).run (others ++ rest) =
      .ok ({ whole := (first :: others).map Byte.digitValue }, rest) := by
  rw [unsignedNumeral, run_bind_of_run_eq_ok (run_wholeDigits decimal (.of_endsValue ends)),
    run_bind_of_run_eq_ok (run_peek rest)]
  split
  · rename_i isPoint
    have other := ends _ isPoint
    cases other
  · rw [run_bind_of_run_eq_ok (run_exponent?_none cutOff ends)]
    rfl

theorem value_of_isDecimal {first : UInt8} {others : Bytes} {value : Nat}
    (decimal : IsDecimal first others value) (negative : Bool) (fits : value ≤ significandLimit) :
    ({ whole := (first :: others).map Byte.digitValue } : Numeral).value negative =
      .ok (wholeNumber negative value) := by
  have gathered := gatherDigits_eq ((first :: others).map Byte.digitValue) 0
    (Nat.le_trans (Nat.le_of_eq decimal.value_eq) fits)
  rw [decimal.value_eq] at gathered
  simp only [Numeral.value, gathered, gatherDigits]
  rfl

theorem ne_minus_of_isDigit {byte : UInt8} (digit : Byte.isDigit byte = true) :
    byte ≠ Byte.minus := by
  intro same
  rw [same] at digit
  cases digit

theorem run_number_natural {first : UInt8} {others rest : Bytes} {value : Nat}
    (decimal : IsDecimal first others value) (fits : value ≤ significandLimit)
    (ends : EndsValue rest) :
    (number first).run (others ++ rest) = .ok (.integer value, rest) := by
  have unsigned : (numeral (.endOf .value) first).run (others ++ rest) =
      .ok ((false, { whole := (first :: others).map Byte.digitValue }), rest) := by
    rw [numeral, if_neg (ne_minus_of_isDigit (decimal.isDigit first List.mem_cons_self))]
    exact run_map (run_unsignedNumeral _ decimal ends) _
  rw [number, run_bind_of_run_eq_ok unsigned]
  simp only [value_of_isDecimal decimal false fits]
  rfl

theorem run_number_negative {first : UInt8} {others rest : Bytes} {value : Nat}
    (decimal : IsDecimal first others value) (positive : 0 < value)
    (fits : value ≤ 0x8000000000000000) (ends : EndsValue rest) :
    (number Byte.minus).run (first :: (others ++ rest)) = .ok (.integer (-value), rest) := by
  have signed : (numeral (.endOf .value) Byte.minus).run (first :: (others ++ rest)) =
      .ok ((true, { whole := (first :: others).map Byte.digitValue }), rest) := by
    rw [numeral, if_pos rfl]
    show ((true, ·) <$> unsignedNumeral _ first).run (others ++ rest) = _
    exact run_map (run_unsignedNumeral _ decimal ends) _
  have limit : value ≤ significandLimit := Nat.le_trans fits (by decide)
  rw [number, run_bind_of_run_eq_ok signed]
  simp only [value_of_isDecimal decimal true limit]
  simp only [wholeNumber, Bool.not_true, Bool.false_eq_true, ↓reduceIte, positive, fits, and_self]
  rfl

/-! ## Integers -/

/-- How a number of 64 bits is written, and that it is read so. -/
theorem run_number_writeInteger {value : Int} (least : -0x8000000000000000 ≤ value)
    (greatest : value ≤ significandLimit) :
    ∃ first others, bytesOf (writeInteger value) = first :: others ∧
      Byte.startsNumber first = true ∧ ∀ {rest}, EndsValue rest →
        (number first).run (others ++ rest) = .ok (.integer value, rest) := by
  cases value with
  | ofNat value =>
      obtain ⟨first, others, text, decimal⟩ := isDecimal_toString value
      refine ⟨first, others, text, ?_, fun ends => ?_⟩
      · rw [Byte.startsNumber, decimal.isDigit first List.mem_cons_self, Bool.or_true]
      · exact run_number_natural decimal (Int.ofNat_le.mp greatest) ends
  | negSucc value =>
      obtain ⟨first, others, text, decimal⟩ := isDecimal_toString (value + 1)
      refine ⟨Byte.minus, first :: others, ?_, rfl, fun ends => ?_⟩
      · have sign : bytesOf "-" = [Byte.minus] := bytesOf_eq_flatMap "-"
        show bytesOf ("-" ++ toString (value + 1)) = _
        rw [bytesOf_append, sign, text]
        rfl
      · exact run_number_negative decimal (Nat.succ_pos value) (by omega) ends

theorem reads_integer (least greatest : Int) (expected : String) {value : Int}
    (atLeast : least ≤ value) (atMost : value ≤ greatest)
    (least_ge : -0x8000000000000000 ≤ least) (greatest_le : greatest ≤ significandLimit) :
    Reads (integer least greatest expected) (bytesOf (writeInteger value)) value := by
  obtain ⟨first, others, text, starts, success⟩ := run_number_writeInteger
    (Int.le_trans least_ge atLeast) (Int.le_trans atMost greatest_le)
  rw [text]
  refine Reads.of_token (by simp [startsValue, starts]) fun {rest} ends => ?_
  simp only [starts, ↓reduceIte, run_skip_bind]
  rw [run_bind_of_run_eq_ok (success ends)]
  simp only [atLeast, atMost, and_self, ↓reduceIte]
  rfl

theorem reads_unsigned32 (value : UInt32) :
    Reads unsigned32 (bytesOf (writeInteger value.toNat)) value := by
  have atMost : (value.toNat : Int) ≤ 0xFFFFFFFF := by
    have := value.toNat_lt
    omega
  have reads := (reads_integer 0 0xFFFFFFFF "u32" (Int.natCast_nonneg value.toNat) atMost
    (by decide) (by decide)).map (·.toNat.toUInt32)
  have exact_back : (value.toNat : Int).toNat.toUInt32 = value := UInt32.ofNat_toNat
  rw [exact_back] at reads
  exact reads

theorem reads_signed32 (value : Int32) :
    Reads signed32 (bytesOf (writeInteger value.toInt)) value := by
  have atMost : value.toInt ≤ 0x7FFFFFFF := Int.le_of_lt_add_one value.toInt_lt
  have reads := (reads_integer (-0x80000000) 0x7FFFFFFF "i32" value.le_toInt atMost
    (by decide) (by decide)).map Int32.ofInt
  rw [Int32.ofInt_toInt] at reads
  exact reads

end Reader

end TransitionNetwork.Json
