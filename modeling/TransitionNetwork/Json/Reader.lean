import TransitionNetwork.Json.Failure

/-!
# Readers

A reader takes a value from the front of a text and leaves the rest. It never gives back more than
it was given, which is what the loops over elements and members end by.
-/

set_option autoImplicit false

namespace TransitionNetwork.Json

abbrev Bytes := List UInt8

structure Reader (α : Type) where
  run : Bytes → Except Failure (α × Bytes)
  length_le : ∀ {input value rest}, run input = .ok (value, rest) → rest.length ≤ input.length

namespace Reader

variable {α β : Type}

protected def pure (value : α) : Reader α where
  run input := .ok (value, input)
  length_le h := by
    cases h
    exact Nat.le_refl _

protected def bind (reader : Reader α) (next : α → Reader β) : Reader β where
  run input :=
    match reader.run input with
    | .error failure => .error failure
    | .ok (value, rest) => (next value).run rest
  length_le {input _ _} h := by
    split at h
    · cases h
    · next success => exact Nat.le_trans ((next _).length_le h) (reader.length_le success)

instance : Monad Reader where
  pure := Reader.pure
  bind := Reader.bind

@[simp] theorem run_pure (value : α) (input : Bytes) :
    (pure value : Reader α).run input = .ok (value, input) :=
  rfl

theorem run_bind (reader : Reader α) (next : α → Reader β) (input : Bytes) :
    (reader >>= next).run input =
      match reader.run input with
      | .error failure => .error failure
      | .ok (value, rest) => (next value).run rest :=
  rfl

theorem run_bind_eq_ok {reader : Reader α} {next : α → Reader β} {input rest : Bytes} {result : β}
    (h : (reader >>= next).run input = .ok (result, rest)) :
    ∃ value middle, reader.run input = .ok (value, middle) ∧
      (next value).run middle = .ok (result, rest) := by
  rw [run_bind] at h
  split at h
  · cases h
  · next value middle success => exact ⟨value, middle, success, h⟩

/-- Fails about something that ends a number of bytes before those that are left. -/
def failBefore (bytes : Nat) (cause : Cause) (mark : Mark) : Reader α where
  run input := .error ⟨cause, input.length + bytes, mark⟩
  length_le h := by cases h

/-- Fails in front of the bytes that are left. -/
def fail (cause : Cause) (mark : Mark) : Reader α :=
  failBefore 0 cause mark

/-- Reads with a function that gives back the bytes it leaves alone. -/
def ofSplit (split : Bytes → α × Bytes) (h : ∀ input, (split input).2.length ≤ input.length) :
    Reader α where
  run input := .ok (split input)
  length_le {input _ _} success := by
    have split_eq := Except.ok.inj success
    simpa [split_eq] using h input

theorem length_dropWhile_le (p : UInt8 → Bool) (input : Bytes) :
    (input.dropWhile p).length ≤ input.length :=
  (List.dropWhile_sublist p).length_le

/-- The next byte, left where it is. -/
def peek : Reader (Option UInt8) :=
  ofSplit (fun input => (input.head?, input)) fun _ => Nat.le_refl _

/-- Passes over blanks. -/
def blanks : Reader Unit :=
  ofSplit (fun input => ((), input.dropWhile Byte.isBlank)) (length_dropWhile_le _)

/-- The first byte after blanks, left where it is. -/
def token : Reader (Option UInt8) := do
  blanks
  peek

/-- Takes the next byte, if there is one. -/
def next : Reader (Option UInt8) :=
  ofSplit (fun input => (input.head?, input.tail)) fun input => by simp

/-- Takes the next byte. -/
def skip : Reader Unit := do
  let _ ← next

theorem length_lt_of_token_skip {input middle rest : Bytes} {byte : UInt8} {taken : Unit}
    (found : token.run input = .ok (some byte, middle)) (h : skip.run middle = .ok (taken, rest)) :
    rest.length < input.length := by
  cases h
  cases remaining : input.dropWhile Byte.isBlank with
  | nil =>
    have : (none, []) = (some byte, middle) := by
      rw [← Except.ok.inj found, remaining]
      rfl
    cases this
  | cons first others =>
    have same : input.dropWhile Byte.isBlank = middle := congrArg Prod.snd (Except.ok.inj found)
    have := length_dropWhile_le Byte.isBlank input
    rw [← same, remaining]
    rw [remaining] at this
    exact this

/-- The rest of a literal, byte by byte. -/
def literal : Bytes → Reader Unit
  | [] => pure ()
  | expected :: others => do
    match ← next with
    | none => fail (.endOf .value) .behind
    | some byte => if byte = expected then literal others else fail .misspelledLiteral .behind

/-- The rest of `null`, whose first letter is behind. -/
def restOfNull : Reader Unit :=
  literal [0x75, 0x6C, 0x6C]

/-- The rest of `true`, whose first letter is behind. -/
def restOfTrue : Reader Unit :=
  literal [0x72, 0x75, 0x65]

/-- The rest of `false`, whose first letter is behind. -/
def restOfFalse : Reader Unit :=
  literal [0x61, 0x6C, 0x73, 0x65]

/-- The colon between a key and its value. -/
def colon : Reader Unit := do
  match ← token with
  | some Byte.colon => skip
  | some _ => fail .noColon .ahead
  | none => fail (.endOf .object) .ahead

/-! ## Loops -/

/-- What a turn of a loop comes to: the state for another turn, or the value of the loop. -/
inductive Turn (σ β : Type) where
  | again (state : σ)
  | done (value : β)

/-- Every turn that is followed by another takes at least a byte. -/
def Shrinks {σ : Type} (turn : σ → Reader (Turn σ β)) : Prop :=
  ∀ {state input next rest}, (turn state).run input = .ok (.again next, rest) →
    rest.length < input.length

def runLoop {σ : Type} (turn : σ → Reader (Turn σ β)) (shrinks : Shrinks turn) (state : σ)
    (input : Bytes) : Except Failure (β × Bytes) :=
  match h : (turn state).run input with
  | .error failure => .error failure
  | .ok (.done value, rest) => .ok (value, rest)
  | .ok (.again next, rest) =>
    have := shrinks h
    runLoop turn shrinks next rest
termination_by input.length

theorem length_runLoop_le {σ : Type} {turn : σ → Reader (Turn σ β)} {shrinks : Shrinks turn}
    {state : σ} {input : Bytes} {value : β} {rest : Bytes}
    (h : runLoop turn shrinks state input = .ok (value, rest)) : rest.length ≤ input.length := by
  fun_induction runLoop turn shrinks state input with
  | case1 => cases h
  | case2 _ _ _ _ success =>
    cases h
    exact (turn _).length_le success
  | case3 _ _ _ _ _ shorter ih =>
    have := ih h
    omega

/-- Takes turns until one is the last. -/
def loop {σ : Type} (turn : σ → Reader (Turn σ β)) (shrinks : Shrinks turn) (state : σ) :
    Reader β where
  run := runLoop turn shrinks state
  length_le := length_runLoop_le

/-- Nothing but blanks is left. -/
def endOfText : Reader Unit := do
  match ← token with
  | none => pure ()
  | some _ => fail .trailingCharacters .ahead

/-- Reads a whole text as one value. -/
def parse (reader : Reader α) (source : Source) (input : Bytes) : Except Error α :=
  match (reader <* endOfText).run input with
  | .error failure => .error (failure.locate source input)
  | .ok (value, _) => .ok value

end Reader

end TransitionNetwork.Json
