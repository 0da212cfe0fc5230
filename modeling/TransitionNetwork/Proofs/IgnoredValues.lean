import TransitionNetwork.Proofs.JsonNumber
import TransitionNetwork.Proofs.JsonText

/-!
# Well-formed values are passed over

A value that is ignored is taken to its last byte and no further, whatever its kind and however
deeply it is nested. Scalars are taken as a whole. Of an array or object the reader only remembers
the bracket; so what is shown is how it goes on when the brackets that are open are known.
-/

set_option autoImplicit false

namespace TransitionNetwork.Json.Reader

/-! ## Strings -/

theorem passText_quote (rest : Bytes) : passText (Byte.quote :: rest) = .ok ((), rest) := by
  rw [passText, if_pos rfl]

theorem passText_escape {rest after : Bytes} (success : ignoredEscape.run rest = .ok ((), after)) :
    passText (Byte.backslash :: rest) = passText after := by
  rw [passText, if_neg (by decide), if_pos rfl]
  split
  · rename_i failure failed
    rw [success] at failed
    cases failed
  · rename_i found found_eq
    rw [success] at found_eq
    cases found_eq
    rfl

theorem passText_plain {byte : UInt8} (plain : IsPlain byte) (rest : Bytes) :
    passText (byte :: rest) = passText rest := by
  rw [passText, if_neg plain.notQuote, if_neg plain.notBackslash,
    if_neg (by simp [plain.notControl])]

theorem run_ignoredEscape_letter {letter : UInt8} {c : Char}
    (isLetter : (letter, c) ∈ letterEscapes) (rest : Bytes) :
    ignoredEscape.run (letter :: rest) = .ok ((), rest) := by
  simp only [letterEscapes, List.mem_cons, List.not_mem_nil, or_false, Prod.mk.injEq] at isLetter
  rcases isLetter with h | h | h | h | h | h | h | h <;> rw [h.1] <;> rfl

theorem run_ignoredEscape_unit {digits : Bytes} {unit : Nat} (isUnit : IsHexUnit digits unit)
    (rest : Bytes) : ignoredEscape.run (Byte.lowerU :: (digits ++ rest)) = .ok ((), rest) :=
  run_map (run_hexUnit isUnit rest) _

theorem run_ignoredText {body : Bytes} (isBody : IsTextBody body) (rest : Bytes) :
    ignoredText.run (body ++ Byte.quote :: rest) = .ok ((), rest) := by
  show passText (body ++ Byte.quote :: rest) = .ok ((), rest)
  induction isBody with
  | nil => exact passText_quote rest
  | plain isPlain _ ih => rw [List.cons_append, passText_plain isPlain, ih]
  | letter isLetter _ ih =>
      rw [List.cons_append, List.cons_append,
        passText_escape (run_ignoredEscape_letter isLetter _), ih]
  | unit isUnit _ ih =>
      simp only [List.cons_append, List.append_assoc]
      rw [passText_escape (run_ignoredEscape_unit isUnit _), ih]

end Reader

/-! ## Numbers -/

theorem AreDigits.eq_cons {digits : Bytes} (areDigits : AreDigits digits) :
    ∃ first others, digits = first :: others ∧ Byte.isDigit first = true ∧
      ∀ byte ∈ others, Byte.isDigit byte = true := by
  cases digits with
  | nil => exact absurd rfl areDigits.1
  | cons first others =>
      have each := areDigits.2
      exact ⟨first, others, rfl, each first List.mem_cons_self,
        fun byte inside => each byte (List.mem_cons_of_mem _ inside)⟩

/-- Neither a digit nor a decimal point follows where an exponent may stand. -/
theorem ExponentForm.head {text rest : Bytes} (form : ExponentForm text) (ends : EndsValue rest)
    {byte : UInt8} (isFirst : byte ∈ (text ++ rest).head?) :
    Byte.isDigit byte = false ∧ byte ≠ Byte.point := by
  cases form with
  | absent =>
      cases rest with
      | nil => cases isFirst
      | cons first others =>
          cases isFirst
          exact ⟨ends.head.1, ends.head.2.1⟩
  | digits isLetter =>
      cases isFirst
      rcases isLetter with rfl | rfl <;> decide

namespace Reader

section Numbers

variable (cutOff : Cause) {rest : Bytes}

theorem run_exponent {sign digits : Bytes}
    (isSign : sign = [] ∨ sign = [Byte.plus] ∨ sign = [Byte.minus]) (areDigits : AreDigits digits)
    (ends : EndsValue rest) :
    ∃ value, (exponent cutOff).run (sign ++ (digits ++ rest)) = .ok (value, rest) := by
  obtain ⟨first, others, rfl, isDigit, othersDigits⟩ := areDigits.eq_cons
  have digits_eq := run_digits othersDigits (.of_endsValue ends)
  have signed (negative : Bool) : ∃ value, (if Byte.isDigit first = true then
      Reader.digits >>= fun others => pure ⟨negative, Byte.digitValue first :: others⟩
      else fail .invalidNumber .behind : Reader Exponent).run (others ++ rest) =
        .ok (value, rest) := by
    rw [if_pos isDigit, run_bind_of_run_eq_ok digits_eq]
    exact ⟨_, rfl⟩
  rcases isSign with rfl | rfl | rfl
  · have notPlus : first ≠ Byte.plus := by
      intro same
      rw [same] at isDigit
      cases isDigit
    rw [exponent, List.nil_append, run_bind_of_run_eq_ok (run_peek _)]
    split
    · rename_i isPlus
      exact absurd (Option.some.inj isPlus) notPlus
    · rename_i isMinus
      exact absurd (Option.some.inj isMinus) (ne_minus_of_isDigit isDigit)
    · exact signed false
  · exact signed false
  · exact signed true

theorem run_exponent? {text : Bytes} (form : ExponentForm text) (ends : EndsValue rest) :
    ∃ value, (exponent? cutOff).run (text ++ rest) = .ok (value, rest) := by
  cases form with
  | absent => exact ⟨none, run_exponent?_none cutOff ends⟩
  | @digits letter sign digits isLetter isSign areDigits =>
      obtain ⟨value, success⟩ := run_exponent cutOff isSign areDigits ends
      rw [List.cons_append, List.append_assoc]
      rcases isLetter with rfl | rfl
      · exact ⟨some value, run_map success some⟩
      · exact ⟨some value, run_map success some⟩

theorem run_fractionDigits {digits : Bytes} (areDigits : AreDigits digits)
    (ends : EndsDigits rest) :
    ∃ value, (fractionDigits cutOff).run (digits ++ rest) = .ok (value, rest) := by
  obtain ⟨first, others, rfl, _⟩ := areDigits.eq_cons
  rw [fractionDigits, run_bind_of_run_eq_ok (run_digits areDigits.2 ends)]
  exact ⟨_, rfl⟩

theorem run_unsignedNumeral_parts {first : UInt8} {others fraction exponent : Bytes} {value : Nat}
    (decimal : IsDecimal first others value) (isFraction : FractionForm fraction)
    (isExponent : ExponentForm exponent) (ends : EndsValue rest) :
    ∃ numeral, (unsignedNumeral cutOff first).run (others ++ (fraction ++ (exponent ++ rest))) =
      .ok (numeral, rest) := by
  have endsDigits : EndsDigits (exponent ++ rest) := fun _ isFirst =>
    (isExponent.head ends isFirst).1
  obtain ⟨power, power_eq⟩ := run_exponent? cutOff isExponent ends
  cases isFraction with
  | absent =>
      have whole_eq := run_wholeDigits decimal endsDigits
      rw [List.nil_append, unsignedNumeral, run_bind_of_run_eq_ok whole_eq,
        run_bind_of_run_eq_ok (run_peek _)]
      split
      · rename_i isPoint
        exact absurd rfl (isExponent.head ends isPoint).2
      · rw [run_bind_of_run_eq_ok power_eq]
        exact ⟨_, rfl⟩
  | @digits digits areDigits =>
      have endsWhole : EndsDigits (Byte.point :: (digits ++ (exponent ++ rest))) := by
        intro byte isFirst
        cases isFirst
        rfl
      have whole_eq := run_wholeDigits decimal endsWhole
      obtain ⟨places, places_eq⟩ := run_fractionDigits cutOff areDigits endsDigits
      rw [List.cons_append, unsignedNumeral, run_bind_of_run_eq_ok whole_eq]
      change ∃ numeral, (fractionDigits cutOff >>= fun fraction => exponent? cutOff >>= fun power =>
        pure (⟨_, fraction, power⟩ : Numeral)).run (digits ++ (exponent ++ rest)) = _
      rw [run_bind_of_run_eq_ok places_eq, run_bind_of_run_eq_ok power_eq]
      exact ⟨_, rfl⟩

theorem run_numeral {text : Bytes} (form : NumberForm text) :
    ∃ first others, text = first :: others ∧ Byte.startsNumber first = true ∧
      ∀ {rest}, EndsValue rest →
        ∃ value, (numeral cutOff first).run (others ++ rest) = .ok (value, rest) := by
  cases form with
  | @parts sign whole fraction exponent isSign areDigits leadingZero isFraction isExponent =>
      obtain ⟨first, others, rfl, isDigit, _⟩ := areDigits.eq_cons
      have decimal : IsDecimal first others _ := {
        isDigit := areDigits.2
        noLeadingZero := fun zero => (List.cons.inj (leadingZero (congrArg some zero))).2
        value_eq := rfl }
      have unsigned {rest : Bytes} (ends : EndsValue rest) :=
        run_unsignedNumeral_parts cutOff decimal isFraction isExponent ends
      rcases isSign with rfl | rfl
      · refine ⟨first, others ++ (fraction ++ exponent), rfl, ?_, fun ends => ?_⟩
        · rw [Byte.startsNumber, isDigit, Bool.or_true]
        · obtain ⟨value, value_eq⟩ := unsigned ends
          rw [numeral, if_neg (ne_minus_of_isDigit isDigit), List.append_assoc, List.append_assoc]
          exact ⟨_, run_map value_eq _⟩
      · refine ⟨Byte.minus, first :: (others ++ (fraction ++ exponent)), rfl, rfl, fun ends => ?_⟩
        obtain ⟨value, value_eq⟩ := unsigned ends
        rw [numeral, if_pos rfl, List.cons_append, List.append_assoc, List.append_assoc]
        exact ⟨_, run_map value_eq (true, ·)⟩

end Numbers

end Reader

/-! ## Values -/

theorem ValueForm.starts {value : Bytes} (form : ValueForm value) :
    ∃ first others, value = first :: others ∧ Reader.startsValue first = true := by
  cases form with
  | number form =>
      obtain ⟨first, others, rfl, starts, _⟩ := Reader.run_numeral .invalidNumber form
      exact ⟨first, others, rfl, by simp [Reader.startsValue, starts]⟩
  | empty frame => exact ⟨_, _, rfl, by cases frame <;> rfl⟩
  | filled frame => exact ⟨_, _, rfl, by cases frame <;> rfl⟩
  | _ => exact ⟨_, _, rfl, rfl⟩

namespace Reader

section Values

variable {frames : List Frame} {rest : Bytes}

/-- How the reader goes on behind a value or, if one was just opened, behind a bracket. -/
def afterValue (justOpened : Bool) (frames : List Frame) : Reader Unit := do
  match ← toNextValue justOpened frames with
  | [] => pure ()
  | frames => loop ignoredTurn shrinks_ignoredTurn frames

/-- A value or bracket in front decides by its first byte how the reader goes on. -/
theorem run_ignoredTurn {first : UInt8} {blanks : Bytes} (blank : AllBlank blanks)
    (starts : startsValue first = true) :
    (loop ignoredTurn shrinks_ignoredTurn frames).run (blanks ++ first :: rest) =
      (scalarOrBracket first >>= fun opened =>
        afterValue opened.isSome (opened.toList ++ frames)).run rest := by
  have skipped : skip.run (first :: rest) = .ok ((), rest) := rfl
  refine (run_loop @shrinks_ignoredTurn).trans ?_
  rw [run_bind, ignoredTurn, run_token_bind blank (isBlank_of_startsValue starts)]
  simp only [starts, if_true, run_bind, afterValue, skipped]
  cases (scalarOrBracket first).run rest with
  | error failure => rfl
  | ok taken =>
      obtain ⟨opened, behind⟩ := taken
      simp only
      cases (toNextValue opened.isSome (opened.toList ++ frames)).run behind with
      | error failure => rfl
      | ok found =>
          obtain ⟨left, front⟩ := found
          cases left <;> rfl

theorem run_scalar {first : UInt8} {others blanks : Bytes} (blank : AllBlank blanks)
    (starts : startsValue first = true)
    (scalar : (scalarOrBracket first).run (others ++ rest) = .ok (none, rest)) :
    (loop ignoredTurn shrinks_ignoredTurn frames).run (blanks ++ (first :: others ++ rest)) =
      (afterValue false frames).run rest := by
  rw [List.cons_append, run_ignoredTurn blank starts, run_bind_of_run_eq_ok scalar]
  rfl

theorem run_bracket (frame : Frame) {blanks : Bytes} (blank : AllBlank blanks) :
    (loop ignoredTurn shrinks_ignoredTurn frames).run (blanks ++ frame.opening :: rest) =
      (afterValue true (frame :: frames)).run rest := by
  cases frame with
  | array => exact run_ignoredTurn blank rfl
  | object => exact run_ignoredTurn blank rfl

theorem run_afterValue_closed (justOpened : Bool) (frame : Frame) {blanks : Bytes}
    (blank : AllBlank blanks) :
    (afterValue justOpened (frame :: frames)).run (blanks ++ frame.closing :: rest) =
      (afterValue false frames).run rest := by
  have solid : Byte.isBlank frame.closing = false := by cases frame <;> rfl
  rw [afterValue, toNextValue, run_bind, run_token_bind blank solid]
  simp only [if_true]
  rfl

theorem run_ignoredKey_object {blanks body blanksColon : Bytes} (blank : AllBlank blanks)
    (isBody : IsTextBody body) (blankColon : AllBlank blanksColon) (rest : Bytes) :
    (ignoredKey .object).run (blanks ++
        Byte.quote :: (body ++ Byte.quote :: (blanksColon ++ Byte.colon :: rest))) =
      .ok ((), rest) := by
  rw [ignoredKey, run_token_bind blank rfl]
  refine (run_bind_of_run_eq_ok (run_ignoredText isBody _) fun _ => colon).trans ?_
  exact run_colon blankColon

/-- Behind a key only blanks are left in front of the value. -/
theorem run_ignoredKey {frame : Frame} {key blanks : Bytes} (isKey : KeyForm frame key)
    (blank : AllBlank blanks) (rest : Bytes) :
    ∃ left, AllBlank left ∧
      (ignoredKey frame).run (blanks ++ (key ++ rest)) = .ok ((), left ++ rest) := by
  cases isKey with
  | array => exact ⟨blanks, blank, rfl⟩
  | object isBody blankColon =>
      simp only [List.cons_append, List.append_assoc]
      exact ⟨[], allBlank_nil, run_ignoredKey_object blank isBody blankColon rest⟩

theorem run_afterValue_comma {frame : Frame} {before blanks key : Bytes}
    (blankBefore : AllBlank before) (isKey : KeyForm frame key) (blank : AllBlank blanks)
    (frames : List Frame) (rest : Bytes) :
    ∃ left, AllBlank left ∧
      (afterValue false (frame :: frames)).run
          (before ++ Byte.comma :: (blanks ++ (key ++ rest))) =
        (loop ignoredTurn shrinks_ignoredTurn (frame :: frames)).run (left ++ rest) := by
  have notClosing : Byte.comma ≠ frame.closing := by cases frame <;> decide
  obtain ⟨left, blankLeft, key_eq⟩ := run_ignoredKey isKey blank rest
  refine ⟨left, blankLeft, ?_⟩
  rw [afterValue, toNextValue, run_bind, run_token_bind blankBefore rfl]
  simp only [notClosing, if_false, Bool.false_eq_true, if_true, run_skip_bind]
  rw [run_bind_of_run_eq_ok key_eq]
  rfl

/-- Behind a bracket the first byte to be seen is that of the key in an object, and that of the
value in an array. -/
theorem run_afterValue_opened {frame : Frame} {before blanks key value : Bytes}
    (blankBefore : AllBlank before) (isKey : KeyForm frame key) (blank : AllBlank blanks)
    (form : ValueForm value) (frames : List Frame) (rest : Bytes) :
    ∃ left, AllBlank left ∧
      (afterValue true (frame :: frames)).run (before ++ (key ++ (blanks ++ (value ++ rest)))) =
        (loop ignoredTurn shrinks_ignoredTurn (frame :: frames)).run (left ++ (value ++ rest)) := by
  have front : ∃ byte behind left, AllBlank left ∧ byte ≠ frame.closing ∧
      token.run (before ++ (key ++ (blanks ++ (value ++ rest)))) = .ok (some byte, behind) ∧
      (ignoredKey frame).run behind = .ok ((), left ++ (value ++ rest)) := by
    cases isKey with
    | array =>
        obtain ⟨first, others, rfl, starts⟩ := form.starts
        have notClosing : first ≠ Byte.closeBracket := by
          intro closes
          rw [closes] at starts
          cases starts
        have token_eq : token.run ((before ++ blanks) ++ first :: (others ++ rest)) = _ :=
          run_token (allBlank_append blankBefore blank) (isBlank_of_startsValue starts)
        rw [List.append_assoc] at token_eq
        exact ⟨first, first :: (others ++ rest), [], allBlank_nil, notClosing, token_eq, rfl⟩
    | object isBody blankColon =>
        have key_eq := run_ignoredKey_object allBlank_nil isBody blankColon
          (blanks ++ (value ++ rest))
        simp only [List.cons_append, List.append_assoc]
        exact ⟨Byte.quote, _, blanks, blank, by decide, run_token blankBefore rfl, key_eq⟩
  obtain ⟨byte, behind, left, blankLeft, notClosing, token_eq, key_eq⟩ := front
  refine ⟨left, blankLeft, ?_⟩
  rw [afterValue, toNextValue, run_bind, run_bind_of_run_eq_ok token_eq]
  simp only [notClosing, if_false, if_true]
  rw [run_bind_of_run_eq_ok key_eq]
  rfl

theorem run_scalarOrBracket_number {first : UInt8} {others : Bytes} {value : Bool × Numeral}
    (starts : Byte.startsNumber first = true)
    (success : (numeral .invalidNumber first).run others = .ok (value, rest)) :
    (scalarOrBracket first).run others = .ok (none, rest) := by
  unfold scalarOrBracket
  split
  case h_7 => exact run_bind_of_run_eq_ok success _
  all_goals cases starts

-- The induction is on the form of the value and of what stands behind it between its brackets. The
-- brackets around them are arbitrary, since each bracket that is opened adds one for its content.
mutual

/-- A value is passed over, and what is left to do is to close the brackets around it. -/
theorem run_value : ∀ {value : Bytes}, ValueForm value → ∀ (frames : List Frame)
    {blanks rest : Bytes}, AllBlank blanks → EndsValue rest →
    (loop ignoredTurn shrinks_ignoredTurn frames).run (blanks ++ (value ++ rest)) =
      (afterValue false frames).run rest
  | _, .nullLiteral, _, _, _, blank, _ => run_scalar blank rfl rfl
  | _, .trueLiteral, _, _, _, blank, _ => run_scalar blank rfl rfl
  | _, .falseLiteral, _, _, _, blank, _ => run_scalar blank rfl rfl
  | _, .number form, frames, _, rest, blank, ends => by
      obtain ⟨first, others, rfl, starts, success⟩ := run_numeral .invalidNumber form
      obtain ⟨value, numeral_eq⟩ := success ends
      have scalar := run_scalarOrBracket_number starts numeral_eq
      exact run_scalar blank (by simp [startsValue, starts]) scalar
  | _, .string isBody, frames, _, rest, blank, ends => by
      have scalar := run_bind_of_run_eq_ok (run_ignoredText isBody rest) fun _ =>
        pure (none : Option Frame)
      refine run_scalar blank rfl ?_
      rw [List.append_assoc]
      exact scalar
  | _, .empty frame inner, frames, _, rest, blank, ends => by
      rw [List.cons_append, run_bracket frame blank, List.append_assoc]
      exact run_afterValue_closed true frame inner
  | _, .filled frame blankBefore isKey blankBehind value others, frames, _, rest, blank, _ => by
      obtain ⟨left, blankLeft, opened⟩ :=
        run_afterValue_opened blankBefore isKey blankBehind value frames (_ ++ rest)
      rw [List.cons_append, run_bracket frame blank]
      simp only [List.append_assoc]
      rw [opened, run_value value (frame :: frames) blankLeft (others.endsValue rest)]
      exact run_otherValues others frames rest

/-- The values that are left between two brackets are passed over together with the closing one. -/
theorem run_otherValues : ∀ {frame : Frame} {text : Bytes}, OtherValues frame text →
    ∀ (frames : List Frame) (rest : Bytes),
    (afterValue false (frame :: frames)).run (text ++ rest) = (afterValue false frames).run rest
  | _, _, .closed frame blank, frames, rest => by
      rw [List.append_assoc]
      exact run_afterValue_closed false frame blank
  | _, _, .value frame blankBefore blankBetween isKey blankBehind value others, frames, rest => by
      obtain ⟨left, blankLeft, parted⟩ :=
        run_afterValue_comma blankBefore isKey blankBetween frames (_ ++ (_ ++ (_ ++ rest)))
      simp only [List.append_assoc, List.cons_append]
      rw [parted, ← List.append_assoc left, run_value value (frame :: frames)
        (allBlank_append blankLeft blankBehind) (others.endsValue rest)]
      exact run_otherValues others frames rest

end

theorem reads_ignoredValue {value : Bytes} (form : ValueForm value) :
    Reads ignoredValue value () where
  starts := form.starts
  run blank ends := run_value form [] blank ends

end Values

end Reader

end TransitionNetwork.Json
