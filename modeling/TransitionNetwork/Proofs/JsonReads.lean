import TransitionNetwork.Json.Ignored
import TransitionNetwork.Json.Value
import TransitionNetwork.Json.Writer

/-!
# What it is to read a text

A reader reads a text as a value if it takes exactly that text from the front of an input, whatever
blanks stand before it and whatever comes behind it. Only a number has to be told where it ends:
the byte behind it must be none that a number could go on with.
-/

set_option autoImplicit false

namespace TransitionNetwork.Json

/-! ## Texts as bytes -/

def bytesOf (text : String) : Bytes :=
  text.toUTF8.data.toList

theorem bytesOf_append (first second : String) :
    bytesOf (first ++ second) = bytesOf first ++ bytesOf second := by
  unfold bytesOf String.toUTF8
  rw [String.toByteArray_append, ByteArray.toList_data_append]

theorem bytesOf_ofList (chars : List Char) :
    bytesOf (String.ofList chars) = chars.flatMap String.utf8EncodeChar := by
  unfold bytesOf String.toUTF8
  rw [String.toByteArray_ofList, List.utf8Encode, List.data_toByteArray, List.toList_toArray]

theorem bytesOf_eq_flatMap (text : String) :
    bytesOf text = text.toList.flatMap String.utf8EncodeChar := by
  rw [← bytesOf_ofList, String.ofList_toList]

/-! ## Where a value starts and ends -/

def AllBlank (bytes : Bytes) : Prop :=
  ∀ byte ∈ bytes, Byte.isBlank byte = true

instance : DecidablePred AllBlank :=
  fun bytes => List.decidableBAll (Byte.isBlank · = true) bytes

@[simp] theorem allBlank_nil : AllBlank [] := by
  intro byte inside
  cases inside

theorem allBlank_append {first second : Bytes} (blankFirst : AllBlank first)
    (blankSecond : AllBlank second) : AllBlank (first ++ second) := by
  intro byte inside
  rcases List.mem_append.mp inside with inside | inside
  · exact blankFirst byte inside
  · exact blankSecond byte inside

def Byte.continuesNumber (byte : UInt8) : Bool :=
  isDigit byte || byte == point || byte == lowerE || byte == upperE

/-- What follows a value: nothing that would be taken for a part of it, were it a number. -/
def EndsValue (rest : Bytes) : Prop :=
  ∀ byte ∈ rest.head?, Byte.continuesNumber byte = false

@[simp] theorem endsValue_nil : EndsValue [] := by
  intro byte inside
  cases inside

theorem endsValue_cons {byte : UInt8} (rest : Bytes) (other : Byte.continuesNumber byte = false) :
    EndsValue (byte :: rest) := by
  intro first isFirst
  cases isFirst
  exact other

theorem EndsValue.head {byte : UInt8} {rest : Bytes} (ends : EndsValue (byte :: rest)) :
    Byte.isDigit byte = false ∧ byte ≠ Byte.point ∧ byte ≠ Byte.lowerE ∧ byte ≠ Byte.upperE := by
  have other := ends byte rfl
  simp only [Byte.continuesNumber, Bool.or_eq_false_iff, beq_eq_false_iff_ne] at other
  obtain ⟨⟨⟨digit, point⟩, lower⟩, upper⟩ := other
  exact ⟨digit, point, lower, upper⟩

theorem continuesNumber_of_isBlank {byte : UInt8} (blank : Byte.isBlank byte = true) :
    Byte.continuesNumber byte = false := by
  simp only [Byte.isBlank, Bool.or_eq_true, beq_iff_eq] at blank
  rcases blank with ((rfl | rfl) | rfl) | rfl <;> rfl

theorem endsValue_append {blanks rest : Bytes} (blank : AllBlank blanks) (ends : EndsValue rest) :
    EndsValue (blanks ++ rest) := by
  cases blanks with
  | nil => exact ends
  | cons byte others =>
      apply endsValue_cons
      exact continuesNumber_of_isBlank (blank byte List.mem_cons_self)

/-- A comma or a closing bracket ends a value, also behind blanks. -/
theorem endsValue_blanks_append {blanks : Bytes} (blank : AllBlank blanks) {byte : UInt8}
    (other : Byte.continuesNumber byte = false) (others rest : Bytes) :
    EndsValue (blanks ++ byte :: others ++ rest) := by
  rw [List.append_assoc]
  exact endsValue_append blank (endsValue_cons _ other)

theorem isBlank_of_startsValue {byte : UInt8} (starts : Reader.startsValue byte = true) :
    Byte.isBlank byte = false := by
  cases blank : Byte.isBlank byte with
  | false => rfl
  | true =>
      simp only [Byte.isBlank, Bool.or_eq_true, beq_iff_eq] at blank
      rcases blank with ((rfl | rfl) | rfl) | rfl <;> cases starts

namespace Reader

variable {α β : Type}

/-! ## Steps of a reader -/

theorem run_token {blanks rest : Bytes} {byte : UInt8} (blank : AllBlank blanks)
    (solid : Byte.isBlank byte = false) :
    token.run (blanks ++ byte :: rest) = .ok (some byte, byte :: rest) := by
  have passed : (blanks ++ byte :: rest).dropWhile Byte.isBlank = byte :: rest := by
    rw [List.dropWhile_append_of_pos blank, List.dropWhile_cons_of_neg (by simp [solid])]
  show Except.ok (((blanks ++ byte :: rest).dropWhile Byte.isBlank).head?,
    (blanks ++ byte :: rest).dropWhile Byte.isBlank) = _
  rw [passed]
  rfl

theorem run_bind_of_run_eq_ok {reader : Reader α} {input rest : Bytes} {value : α}
    (success : reader.run input = .ok (value, rest)) (next : α → Reader β) :
    (reader >>= next).run input = (next value).run rest := by
  rw [run_bind, success]

theorem run_token_bind {blanks rest : Bytes} {byte : UInt8} (blank : AllBlank blanks)
    (solid : Byte.isBlank byte = false) (next : Option UInt8 → Reader β) :
    (token >>= next).run (blanks ++ byte :: rest) = (next (some byte)).run (byte :: rest) :=
  run_bind_of_run_eq_ok (run_token blank solid) next

theorem run_skip_bind (byte : UInt8) (rest : Bytes) (next : Unit → Reader β) :
    (skip >>= next).run (byte :: rest) = (next ()).run rest :=
  rfl

theorem run_map {reader : Reader α} {input rest : Bytes} {value : α}
    (success : reader.run input = .ok (value, rest)) (f : α → β) :
    (f <$> reader).run input = .ok (f value, rest) :=
  run_bind_of_run_eq_ok success _

theorem run_colon {blanks rest : Bytes} (blank : AllBlank blanks) :
    colon.run (blanks ++ Byte.colon :: rest) = .ok ((), rest) :=
  run_token_bind blank rfl _

section Loop

variable {σ : Type} {turn : σ → Reader (Turn σ β)} (shrinks : Shrinks turn) {state : σ}
  {input rest : Bytes}

theorem run_loop_again {next : σ} (success : (turn state).run input = .ok (.again next, rest)) :
    (loop turn @shrinks state).run input = (loop turn @shrinks next).run rest := by
  show runLoop turn @shrinks state input = runLoop turn @shrinks next rest
  rw [runLoop]
  split <;> rename_i found
  · rw [success] at found
    cases found
  · rw [success] at found
    cases found
  · rw [success] at found
    cases found
    rfl

theorem run_loop_done {value : β} (success : (turn state).run input = .ok (.done value, rest)) :
    (loop turn @shrinks state).run input = .ok (value, rest) := by
  show runLoop turn @shrinks state input = _
  rw [runLoop]
  split <;> rename_i found
  · rw [success] at found
    cases found
  · rw [success] at found
    cases found
    rfl
  · rw [success] at found
    cases found

/-- A loop is one turn and then, if need be, the loop again. -/
theorem run_loop : (loop turn @shrinks state).run input =
    (turn state >>= fun
      | .again next => loop turn @shrinks next
      | .done value => pure value).run input := by
  rw [run_bind]
  cases success : (turn state).run input with
  | error failure =>
      show runLoop turn @shrinks state input = _
      rw [runLoop]
      split <;> rename_i found <;> rw [success] at found <;> cases found
      rfl
  | ok result =>
      obtain ⟨outcome, rest⟩ := result
      cases outcome with
      | again next => exact run_loop_again @shrinks success
      | done value => exact run_loop_done @shrinks success

end Loop

/-! ## Readers of a text -/

/-- The reader takes the text for the value wherever the text is followed by the end of a value. -/
structure Reads (reader : Reader α) (text : Bytes) (value : α) : Prop where
  starts : ∃ first others, text = first :: others ∧ startsValue first = true
  run : ∀ {blanks rest : Bytes}, AllBlank blanks → EndsValue rest →
    reader.run (blanks ++ (text ++ rest)) = .ok (value, rest)

theorem Reads.run_here {reader : Reader α} {text rest : Bytes} {value : α}
    (reads : Reads reader text value) (ends : EndsValue rest) :
    reader.run (text ++ rest) = .ok (value, rest) :=
  reads.run allBlank_nil ends

theorem Reads.map {reader : Reader α} {text : Bytes} {value : α} (reads : Reads reader text value)
    (f : α → β) : Reads (f <$> reader) text (f value) where
  starts := reads.starts
  run blank ends := run_map (reads.run blank ends) f

/-- A reader that looks at the first byte of a value and decides by it how to go on. -/
theorem Reads.of_token {next : Option UInt8 → Reader α} {first : UInt8} {others : Bytes} {value : α}
    (starts : startsValue first = true)
    (success : ∀ {rest}, EndsValue rest →
      (next (some first)).run (first :: (others ++ rest)) = .ok (value, rest)) :
    Reads (token >>= next) (first :: others) value where
  starts := ⟨first, others, rfl, starts⟩
  run blank ends := by
    rw [List.cons_append, run_token_bind blank (isBlank_of_startsValue starts)]
    exact success ends

theorem run_endOfText {blanks : Bytes} (blank : AllBlank blanks) :
    endOfText.run blanks = .ok ((), []) := by
  have passed : blanks.dropWhile Byte.isBlank = [] := by
    rw [← List.append_nil blanks, List.dropWhile_append_of_pos blank]
    rfl
  have nothing : token.run blanks = .ok (none, []) := by
    show Except.ok ((blanks.dropWhile Byte.isBlank).head?, blanks.dropWhile Byte.isBlank) = _
    rw [passed]
    rfl
  exact run_bind_of_run_eq_ok nothing _

/-- A whole text may have blanks around its value. -/
theorem Reads.parse_eq {reader : Reader α} {text : Bytes} {value : α}
    (reads : Reads reader text value) (source : Source) {before after : Bytes}
    (blankBefore : AllBlank before) (blankAfter : AllBlank after) :
    reader.parse source (before ++ (text ++ after)) = .ok value := by
  have ends := endsValue_append blankAfter endsValue_nil
  rw [List.append_nil] at ends
  have whole : (reader <* endOfText).run (before ++ (text ++ after)) = .ok (value, []) := by
    refine (run_bind_of_run_eq_ok (reads.run blankBefore ends) _).trans ?_
    exact run_bind_of_run_eq_ok (run_endOfText blankAfter) _
  rw [parse, whole]

/-! ## Literals -/

theorem reads_writeBoolean (value : Bool) :
    Reads boolean (bytesOf (writeBoolean value)) value := by
  cases value with
  | false =>
      have text : bytesOf (writeBoolean false) = [Byte.lowerF, 0x61, 0x6C, 0x73, 0x65] :=
        bytesOf_eq_flatMap "false"
      rw [text]
      apply Reads.of_token rfl
      intro rest ends
      rfl
  | true =>
      have text : bytesOf (writeBoolean true) = [Byte.lowerT, 0x72, 0x75, 0x65] :=
        bytesOf_eq_flatMap "true"
      rw [text]
      apply Reads.of_token rfl
      intro rest ends
      rfl

/-- The first byte tells a value that is there from one that is not. -/
theorem Reads.optional {reader : Reader α} {text : Bytes} {value : α}
    (reads : Reads reader text value) (notNull : text.head? ≠ some Byte.lowerN) :
    Reads (Reader.optional reader) text (some value) := by
  obtain ⟨first, others, rfl, starts⟩ := reads.starts
  apply Reads.of_token starts
  intro rest ends
  have success : (some <$> reader).run (first :: (others ++ rest)) = .ok (some value, rest) :=
    run_map (reads.run_here ends) some
  split
  · rename_i isNull
    exact absurd isNull notNull
  · exact success

end Reader

end TransitionNetwork.Json
