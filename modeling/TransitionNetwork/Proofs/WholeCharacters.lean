import TransitionNetwork.Proofs.Utf8

/-!
# Readers of text never meet bytes that are none

A reader that is given a text leaves a text, and if it fails, then about something else than the
encoding. This is shown for a step at a time: what a step is given and what it leaves are said by
conditions on the bytes. A byte that is taken may be the first of a longer character, but then the
reader fails or is inside a string.
-/

set_option autoImplicit false

namespace TransitionNetwork.Json.Reader

variable {α β : Type}

/-! ## Conditions on what a reader is given and leaves -/

/-- Success leaves what is promised, and no failure is about the encoding. -/
def Outcome (promised : α → Bytes → Prop) : Except Failure (α × Bytes) → Prop
  | .ok (value, rest) => promised value rest
  | .error failure => failure.cause ≠ .invalidEncoding

def Ensures (given : Bytes → Prop) (reader : Reader α) (promised : α → Bytes → Prop) : Prop :=
  ∀ input, given input → Outcome promised (reader.run input)

def KeepsText (reader : Reader α) : Prop :=
  Ensures IsText reader fun _ => IsText

/-- A text whose first byte is known. -/
def Before (first : Option UInt8) (input : Bytes) : Prop :=
  IsText input ∧ input.head? = first

/-- What is left of a text when a byte was taken: a text, if that byte was a whole character. -/
def Behind (taken : Option UInt8) (rest : Bytes) : Prop :=
  ∀ byte ∈ taken, Byte.IsAscii byte → IsText rest

section Rules

variable {given : Bytes → Prop} {promised : α → Bytes → Prop} {result : β → Bytes → Prop}

theorem ensures_bind {reader : Reader α} {next : α → Reader β}
    (first : Ensures given reader promised)
    (second : ∀ value, Ensures (promised value) (next value) result) :
    Ensures given (reader >>= next) result := by
  intro input isGiven
  have outcome := first input isGiven
  rw [run_bind]
  cases success : reader.run input with
  | error failure =>
      rw [success] at outcome
      exact outcome
  | ok taken =>
      rw [success] at outcome
      exact second taken.1 taken.2 outcome

theorem ensures_pure {value : α} (holds : ∀ input, given input → promised value input) :
    Ensures given (pure value) promised :=
  holds

theorem ensures_map {reader : Reader α} {f : α → β}
    (first : Ensures given reader fun value => result (f value)) :
    Ensures given (f <$> reader) result :=
  ensures_bind first fun _ => ensures_pure fun _ holds => holds

theorem ensures_fail {cause : Cause} {mark : Mark} (other : cause ≠ .invalidEncoding) :
    Ensures given (fail cause mark) promised :=
  fun _ _ => other

theorem ensures_failBefore {bytes : Nat} {cause : Cause} {mark : Mark}
    (other : cause ≠ .invalidEncoding) :
    Ensures given (failBefore bytes cause mark) promised :=
  fun _ _ => other

theorem Ensures.weaken {stronger : Bytes → Prop} {reader : Reader α}
    (ensures : Ensures given reader promised) (implies : ∀ input, stronger input → given input) :
    Ensures stronger reader promised :=
  fun input isStronger => ensures input (implies input isStronger)

end Rules

theorem KeepsText.pure (value : α) : KeepsText (pure value) :=
  fun _ isText => isText

theorem KeepsText.bind {reader : Reader α} {next : α → Reader β} (first : KeepsText reader)
    (second : ∀ value, KeepsText (next value)) : KeepsText (reader >>= next) :=
  ensures_bind first second

theorem KeepsText.map {reader : Reader α} (keeps : KeepsText reader) (f : α → β) :
    KeepsText (f <$> reader) :=
  ensures_map keeps

/-! ## Single bytes -/

theorem ensures_peek : Ensures IsText peek Before :=
  fun _ isText => ⟨isText, rfl⟩

theorem keepsText_blanks : KeepsText blanks :=
  fun _ isText => isText.dropWhile fun _ => isAscii_of_isBlank

theorem ensures_token : Ensures IsText token Before :=
  ensures_bind keepsText_blanks fun _ => ensures_peek

theorem ensures_next : Ensures IsText next Behind := by
  intro input isText byte isFirst ascii
  cases input with
  | nil => cases isFirst
  | cons first rest =>
      cases isFirst
      exact isText.tail ascii

section Looking

variable {first : Option UInt8} {promised : α → Bytes → Prop}

/-- A reader that looks at the first byte behind blanks and decides by it how to go on. -/
theorem ensures_token_bind {next : Option UInt8 → Reader α}
    (each : ∀ first, Ensures (Before first) (next first) promised) :
    Ensures IsText (token >>= next) promised :=
  ensures_bind ensures_token each

theorem ensures_before {reader : Reader α} (ensures : Ensures IsText reader promised) :
    Ensures (Before first) reader promised :=
  ensures.weaken fun _ before => before.1

theorem ensures_skip {byte : UInt8} (ascii : Byte.IsAscii byte) :
    Ensures (Before (some byte)) skip fun _ => IsText := by
  intro input ⟨isText, isFirst⟩
  cases input with
  | nil => cases isFirst
  | cons first rest =>
      cases isFirst
      exact isText.tail ascii

theorem ensures_skip_bind {byte : UInt8} (ascii : Byte.IsAscii byte) {next : Unit → Reader α}
    (behind : Ensures IsText (next ()) promised) :
    Ensures (Before (some byte)) (skip >>= next) promised :=
  ensures_bind (ensures_skip ascii) fun _ => behind

theorem ensures_behind {byte : UInt8} (ascii : Byte.IsAscii byte) {reader : Reader α}
    (ensures : Ensures IsText reader promised) :
    Ensures (Behind (some byte)) reader promised :=
  ensures.weaken fun _ behind => behind byte rfl ascii

theorem ensures_of_behind {taken : Option UInt8} {reader : Reader α}
    (ensures : Ensures (Behind taken) reader promised) : Ensures IsText reader promised :=
  ensures.weaken fun _ isText _ _ _ => isText

end Looking

/-! ## Literals and numbers -/

theorem keepsText_literal {expected : Bytes} (ascii : AreAscii expected) :
    KeepsText (literal expected) := by
  induction expected with
  | nil => exact KeepsText.pure ()
  | cons first others ih =>
      rw [literal]
      apply ensures_bind ensures_next
      intro taken
      split
      · exact ensures_fail nofun
      · split
        · rename_i same
          apply ensures_behind
          · rw [same]
            exact ascii first List.mem_cons_self
          · exact ih fun byte inside => ascii byte (List.mem_cons_of_mem first inside)
        · exact ensures_fail nofun

theorem keepsText_restOfNull : KeepsText restOfNull :=
  keepsText_literal (by decide)

theorem keepsText_restOfTrue : KeepsText restOfTrue :=
  keepsText_literal (by decide)

theorem keepsText_restOfFalse : KeepsText restOfFalse :=
  keepsText_literal (by decide)

theorem keepsText_colon : KeepsText colon := by
  apply ensures_token_bind
  intro first
  split
  · exact ensures_skip (by decide)
  · exact ensures_fail nofun
  · exact ensures_fail nofun

theorem keepsText_digits : KeepsText digits :=
  fun _ isText => isText.dropWhile fun _ => isAscii_of_isDigit

section Numbers

variable {cutOff : Cause} (other : cutOff ≠ .invalidEncoding) (first : UInt8)

theorem ensures_wholeDigits :
    Ensures (Behind (some first)) (wholeDigits first) fun _ => IsText := by
  unfold wholeDigits
  split
  · rename_i isZero
    apply ensures_behind (by rw [isZero]; decide)
    apply ensures_bind ensures_peek
    intro next
    split
    · exact ensures_fail nofun
    · exact ensures_before (KeepsText.pure _)
  · split
    · rename_i isDigit
      apply ensures_behind (isAscii_of_isDigit isDigit)
      exact keepsText_digits.map _
    · exact ensures_fail nofun

include other

theorem keepsText_fractionDigits : KeepsText (fractionDigits cutOff) := by
  apply keepsText_digits.bind
  intro taken
  split
  · apply ensures_bind ensures_peek
    intro next
    split
    · exact ensures_fail other
    · exact ensures_fail nofun
  · exact KeepsText.pure _

theorem keepsText_exponentDigits (negative : Bool) : KeepsText (next >>= fun taken =>
    match taken with
    | none => fail cutOff .behind
    | some byte =>
      if Byte.isDigit byte then do
        return (⟨negative, Byte.digitValue byte :: (← digits)⟩ : Exponent)
      else fail .invalidNumber .behind) := by
  apply ensures_bind ensures_next
  intro taken
  split
  · exact ensures_fail other
  · split
    · rename_i isDigit
      apply ensures_behind (isAscii_of_isDigit isDigit)
      exact keepsText_digits.map _
    · exact ensures_fail nofun

theorem keepsText_exponent : KeepsText (exponent cutOff) := by
  apply ensures_bind ensures_peek
  intro sign
  split
  · exact ensures_skip_bind (by decide) (keepsText_exponentDigits other false)
  · exact ensures_skip_bind (by decide) (keepsText_exponentDigits other true)
  · exact ensures_before (keepsText_exponentDigits other false)

theorem keepsText_exponent? : KeepsText (exponent? cutOff) := by
  apply ensures_bind ensures_peek
  intro letter
  split
  · exact ensures_skip_bind (by decide) ((keepsText_exponent other).map some)
  · exact ensures_skip_bind (by decide) ((keepsText_exponent other).map some)
  · exact ensures_before (KeepsText.pure none)

theorem ensures_unsignedNumeral :
    Ensures (Behind (some first)) (unsignedNumeral cutOff first) fun _ => IsText := by
  apply ensures_bind (ensures_wholeDigits first)
  intro whole
  apply ensures_bind ensures_peek
  intro point
  split
  · apply ensures_skip_bind (by decide)
    apply (keepsText_fractionDigits other).bind
    intro fraction
    exact (keepsText_exponent? other).map _
  · exact ensures_before ((keepsText_exponent? other).map _)

theorem ensures_numeral :
    Ensures (Behind (some first)) (numeral cutOff first) fun _ => IsText := by
  unfold numeral
  split
  · rename_i isMinus
    apply ensures_behind (by rw [isMinus]; decide)
    apply ensures_bind ensures_next
    intro taken
    split
    · exact ensures_fail other
    · exact ensures_map (ensures_unsignedNumeral other _)
  · exact ensures_map (ensures_unsignedNumeral other first)

end Numbers

theorem keepsText_numeral {cutOff : Cause} (other : cutOff ≠ .invalidEncoding) (first : UInt8) :
    KeepsText (numeral cutOff first) :=
  ensures_of_behind (ensures_numeral other first)

theorem keepsText_number (first : UInt8) : KeepsText (number first) := by
  have other : Cause.endOf .value ≠ .invalidEncoding := nofun
  apply (keepsText_numeral other first).bind
  intro taken
  dsimp only
  split
  · exact KeepsText.pure _
  · exact ensures_failBefore nofun

/-! ## Strings -/

theorem keepsText_hexUnit : KeepsText hexUnit := by
  intro input isText
  unfold hexUnit
  dsimp only
  split
  · split
    · rename_i first second third fourth
      have behind := (isText.tail (isAscii_of_hexValue? first)).tail (isAscii_of_hexValue? second)
      exact (behind.tail (isAscii_of_hexValue? third)).tail (isAscii_of_hexValue? fourth)
    · exact Cause.noConfusion
  · exact Cause.noConfusion

theorem ensures_textByte : Ensures IsText textByte fun byte => Behind (some byte) := by
  apply ensures_bind ensures_next
  intro taken
  split
  · exact ensures_pure fun _ behind => behind
  · exact ensures_fail nofun

theorem keepsText_surrogateByte {expected : UInt8} (ascii : Byte.IsAscii expected) :
    KeepsText (surrogateByte expected) := by
  apply ensures_bind ensures_textByte
  intro byte
  split
  · rename_i same
    exact ensures_pure fun _ behind => behind byte rfl (same ▸ ascii)
  · exact ensures_fail nofun

theorem keepsText_escapedCharacter : KeepsText escapedCharacter := by
  apply keepsText_hexUnit.bind
  intro high
  split
  · exact ensures_fail nofun
  · split
    · apply (keepsText_surrogateByte (by decide)).bind
      intro backslash
      apply (keepsText_surrogateByte (by decide)).bind
      intro letter
      apply keepsText_hexUnit.bind
      intro low
      split
      · exact KeepsText.pure _
      · exact ensures_fail nofun
    · exact KeepsText.pure _

/-- What an escape stands for is a text, too. -/
theorem ensures_escape :
    Ensures IsText escape fun bytes rest => IsText bytes ∧ IsText rest := by
  apply ensures_bind ensures_textByte
  intro letter
  have single {letter byte : UInt8} (isLetter : Byte.IsAscii letter) (isByte : Byte.IsAscii byte) :
      Ensures (Behind (some letter)) (pure [byte]) fun bytes rest => IsText bytes ∧ IsText rest :=
    ensures_pure fun _ behind => ⟨isText_singleton isByte, behind letter rfl isLetter⟩
  split
  case h_9 =>
    apply ensures_behind (by decide)
    exact ensures_bind keepsText_escapedCharacter fun c => ensures_pure fun _ isText =>
      ⟨isText_utf8EncodeChar c, isText⟩
  case h_10 => exact ensures_fail nofun
  all_goals exact single (by decide) (by decide)

/-- The bytes that are taken and those that are still to come are one text at every step, so they
are two texts at the closing quote. -/
theorem outcome_bytesOfText {taken input : Bytes} (isText : IsText (taken.reverse ++ input)) :
    Outcome (fun bytes rest => IsText bytes ∧ IsText rest) (bytesOfText taken input) := by
  fun_induction bytesOfText taken input with
  | case1 => exact Cause.noConfusion
  | case2 taken rest => exact isText.split (by decide)
  | case3 taken rest failure failed =>
      have outcome := ensures_escape rest (isText.split (by decide)).2
      rw [failed] at outcome
      exact outcome
  | case4 taken rest bytes after success _ _ ih =>
      obtain ⟨isTaken, isRest⟩ := isText.split (by decide)
      have outcome := ensures_escape rest isRest
      rw [success] at outcome
      apply ih
      rw [List.reverseAux_eq, List.reverse_append, List.reverse_reverse]
      exact (isTaken.append outcome.1).append outcome.2
  | case5 => exact Cause.noConfusion
  | case6 taken byte rest _ _ _ ih =>
      apply ih
      rw [List.reverse_cons, List.append_assoc]
      exact isText

theorem keepsText_text : KeepsText text := by
  have bytes : Ensures IsText ⟨bytesOfText [], length_bytesOfText_le⟩
      fun bytes rest => IsText bytes ∧ IsText rest := fun _ isText => outcome_bytesOfText isText
  apply ensures_bind bytes
  intro bytes
  by_cases isText : IsText bytes
  · obtain ⟨value, decoded⟩ := isText.exists_fromUTF8?
    simp only [decoded]
    exact ensures_pure fun _ both => both.2
  · exact fun _ both => absurd both.1 isText

/-! ## Ignored values -/

theorem keepsText_ignoredEscape : KeepsText ignoredEscape := by
  apply ensures_bind ensures_textByte
  intro letter
  split
  case h_9 =>
    apply ensures_behind (by decide)
    exact keepsText_hexUnit.map _
  case h_10 => exact ensures_fail nofun
  all_goals exact ensures_behind (by decide) (KeepsText.pure ())

/-- The bytes that are passed over need not be whole characters before the closing quote. -/
theorem outcome_passText {before input : Bytes} (isText : IsText (before ++ input)) :
    Outcome (fun _ => IsText) (passText input) := by
  fun_induction passText input generalizing before with
  | case1 => exact Cause.noConfusion
  | case2 rest => exact (isText.split (by decide)).2
  | case3 rest failure failed =>
      have outcome := keepsText_ignoredEscape rest (isText.split (by decide)).2
      rw [failed] at outcome
      exact outcome
  | case4 rest _ after success _ _ ih =>
      have outcome := keepsText_ignoredEscape rest (isText.split (by decide)).2
      rw [success] at outcome
      have whole : IsText ([] ++ after) := outcome
      exact ih whole
  | case5 => exact Cause.noConfusion
  | case6 byte rest _ _ _ ih =>
      have shifted : IsText ((before ++ [byte]) ++ rest) := by
        rw [List.append_assoc]
        exact isText
      exact ih shifted

theorem keepsText_ignoredText : KeepsText ignoredText := by
  intro input isText
  have whole : IsText ([] ++ input) := isText
  exact outcome_passText whole

theorem keepsText_scalarOrBracket (first : UInt8) : KeepsText (scalarOrBracket first) := by
  unfold scalarOrBracket
  split
  · exact keepsText_restOfNull.bind fun _ => KeepsText.pure none
  · exact keepsText_restOfTrue.bind fun _ => KeepsText.pure none
  · exact keepsText_restOfFalse.bind fun _ => KeepsText.pure none
  · exact keepsText_ignoredText.bind fun _ => KeepsText.pure none
  · exact KeepsText.pure _
  · exact KeepsText.pure _
  · have other : Cause.invalidNumber ≠ .invalidEncoding := nofun
    exact (keepsText_numeral other first).bind fun _ => KeepsText.pure none

theorem keepsText_ignoredKey (frame : Frame) : KeepsText (ignoredKey frame) := by
  cases frame with
  | array => exact KeepsText.pure ()
  | object =>
      apply ensures_token_bind
      intro first
      split
      · exact ensures_fail nofun
      · exact ensures_skip_bind (by decide) (keepsText_ignoredText.bind fun _ => keepsText_colon)
      · exact ensures_fail nofun

theorem keepsText_toNextValue (justOpened : Bool) (frames : List Frame) :
    KeepsText (toNextValue justOpened frames) := by
  induction frames generalizing justOpened with
  | nil => exact KeepsText.pure []
  | cons frame outer ih =>
      apply ensures_token_bind
      intro first
      split
      · exact ensures_fail (by cases frame <;> nofun)
      · rename_i byte
        split
        · rename_i closes
          have ascii : Byte.IsAscii byte := by
            rw [closes]
            cases frame <;> decide
          exact ensures_skip_bind ascii (ih false)
        · split
          · exact ensures_before ((keepsText_ignoredKey frame).bind fun _ => KeepsText.pure _)
          · split
            · rename_i isComma
              apply ensures_skip_bind (by rw [isComma]; decide)
              exact (keepsText_ignoredKey frame).bind fun _ => KeepsText.pure _
            · exact ensures_fail (by cases frame <;> nofun)

theorem keepsText_ignoredTurn (frames : List Frame) : KeepsText (ignoredTurn frames) := by
  apply ensures_token_bind
  intro first
  split
  · exact ensures_fail nofun
  · rename_i byte
    split
    · rename_i starts
      apply ensures_skip_bind (isAscii_of_startsValue starts)
      apply (keepsText_scalarOrBracket byte).bind
      intro opened
      apply (keepsText_toNextValue opened.isSome (opened.toList ++ frames)).bind
      intro left
      split
      · exact KeepsText.pure _
      · exact KeepsText.pure _
    · exact ensures_fail nofun

/-- Each turn keeps to text, so induction on the turns gives it for the whole loop. -/
theorem keepsText_loop {σ : Type} {turn : σ → Reader (Turn σ β)} (shrinks : Shrinks turn)
    (keeps : ∀ state, KeepsText (turn state)) (state : σ) :
    KeepsText (loop turn @shrinks state) := by
  intro input isText
  show Outcome _ (runLoop turn @shrinks state input)
  fun_induction runLoop turn @shrinks state input with
  | case1 state input failure failed =>
      have outcome := keeps state input isText
      rw [failed] at outcome
      exact outcome
  | case2 state input value rest success =>
      have outcome := keeps state input isText
      rw [success] at outcome
      exact outcome
  | case3 state input next rest success _ ih =>
      have outcome := keeps state input isText
      rw [success] at outcome
      exact ih outcome

theorem keepsText_ignoredValue : KeepsText ignoredValue :=
  keepsText_loop shrinks_ignoredTurn keepsText_ignoredTurn []

end TransitionNetwork.Json.Reader
