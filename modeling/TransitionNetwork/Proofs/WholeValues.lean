import TransitionNetwork.Json.Record
import TransitionNetwork.Proofs.WholeCharacters

/-!
# Readers of values leave whole characters

What a reader of an expected type leaves of a text is a text again, whether it finds such a value
or complains about another, if the readers of its parts leave texts.
-/

set_option autoImplicit false

namespace TransitionNetwork.Json

namespace Reader

variable {α : Type}

/-! ## Scalars -/

theorem keepsText_mismatch (expected : String) : KeepsText (mismatch expected : Reader α) := by
  apply ensures_token_bind
  intro first
  split
  · exact ensures_fail nofun
  · exact ensures_skip_bind (by decide) (keepsText_restOfNull.bind fun _ => ensures_fail nofun)
  · exact ensures_skip_bind (by decide) (keepsText_restOfTrue.bind fun _ => ensures_fail nofun)
  · exact ensures_skip_bind (by decide) (keepsText_restOfFalse.bind fun _ => ensures_fail nofun)
  · exact ensures_skip_bind (by decide) (keepsText_text.bind fun _ => ensures_fail nofun)
  · exact ensures_fail nofun
  · exact ensures_fail nofun
  · split
    · rename_i starts
      apply ensures_skip_bind (isAscii_of_startsNumber starts)
      exact (keepsText_number _).bind fun _ => ensures_fail nofun
    · exact ensures_fail nofun

theorem keepsText_null (expected : String) : KeepsText (null expected) := by
  apply ensures_token_bind
  intro first
  split
  · exact ensures_skip_bind (by decide) keepsText_restOfNull
  · exact ensures_before (keepsText_mismatch expected)

theorem keepsText_boolean : KeepsText boolean := by
  apply ensures_token_bind
  intro first
  split
  · exact ensures_skip_bind (by decide) (keepsText_restOfTrue.bind fun _ => KeepsText.pure true)
  · exact ensures_skip_bind (by decide) (keepsText_restOfFalse.bind fun _ => KeepsText.pure false)
  · exact ensures_before (keepsText_mismatch "a boolean")

theorem keepsText_string : KeepsText string := by
  apply ensures_token_bind
  intro first
  split
  · exact ensures_skip_bind (by decide) keepsText_text
  · exact ensures_before (keepsText_mismatch "a string")

theorem keepsText_optional {reader : Reader α} (keeps : KeepsText reader) :
    KeepsText (optional reader) := by
  apply ensures_token_bind
  intro first
  split
  · exact ensures_skip_bind (by decide) (keepsText_restOfNull.bind fun _ => KeepsText.pure none)
  · exact ensures_before (keeps.map some)

theorem keepsText_integer (least greatest : Int) (expected : String) :
    KeepsText (integer least greatest expected) := by
  apply ensures_token_bind
  intro first
  split
  · exact ensures_before (keepsText_mismatch expected)
  · split
    · rename_i starts
      apply ensures_skip_bind (isAscii_of_startsNumber starts)
      apply (keepsText_number _).bind
      intro number
      split
      · split
        · exact KeepsText.pure _
        · exact ensures_fail nofun
      · exact ensures_fail nofun
    · exact ensures_before (keepsText_mismatch expected)

theorem keepsText_unsigned32 : KeepsText unsigned32 :=
  (keepsText_integer 0 0xFFFFFFFF "u32").map _

theorem keepsText_signed32 : KeepsText signed32 :=
  (keepsText_integer (-0x80000000) 0x7FFFFFFF "i32").map _

/-! ## Arrays -/

theorem keepsText_nextElement (first : Bool) : KeepsText (nextElement first) := by
  apply ensures_token_bind
  intro seen
  split
  · exact ensures_fail nofun
  · rename_i byte
    split
    · rename_i closes
      exact ensures_skip_bind (by rw [closes]; decide) (KeepsText.pure false)
    · split
      · exact ensures_before (KeepsText.pure true)
      · split
        · rename_i isComma
          apply ensures_skip_bind (by rw [isComma]; decide)
          apply ensures_token_bind
          intro seen
          split
          · exact ensures_fail nofun
          · exact ensures_fail nofun
          · exact ensures_before (KeepsText.pure true)
        · exact ensures_fail nofun

theorem keepsText_endOfArray : KeepsText endOfArray := by
  apply ensures_token_bind
  intro seen
  split
  · exact ensures_fail nofun
  · exact ensures_skip (by decide)
  · apply ensures_skip_bind (by decide)
    apply ensures_token_bind
    intro seen
    split
    · exact ensures_fail nofun
    · exact ensures_fail nofun
  · exact ensures_fail nofun

theorem keepsText_elementTurn {element : Reader α} (keeps : KeepsText element)
    (taken : List α) : KeepsText (elementTurn element taken) := by
  apply (keepsText_nextElement false).bind
  intro more
  split
  · exact keeps.bind fun _ => KeepsText.pure _
  · exact KeepsText.pure _

theorem keepsText_array {element : Reader α} (keeps : KeepsText element) :
    KeepsText (array element) := by
  apply ensures_token_bind
  intro first
  split
  · apply ensures_skip_bind (by decide)
    apply (keepsText_nextElement true).bind
    intro more
    split
    · apply keeps.bind
      intro value
      exact keepsText_loop (shrinks_elementTurn element) (keepsText_elementTurn keeps) [value]
    · exact KeepsText.pure []
  · exact ensures_before (keepsText_mismatch "a sequence")

theorem keepsText_endOfText : KeepsText endOfText := by
  apply ensures_token_bind
  intro first
  split
  · exact ensures_before (KeepsText.pure ())
  · exact ensures_fail nofun

end Reader

/-! ## Records -/

namespace Record

open Reader

variable {δ α : Type} {record : Record δ α}

def KeepsFields (fields : List (Field δ)) : Prop :=
  ∀ field ∈ fields, ∀ draft, KeepsText (field.set draft)

theorem keepsFields_nil : KeepsFields ([] : List (Field δ)) := by
  intro field inside
  cases inside

theorem keepsFields_cons {β : Type} {name : String} {reader : Reader β} {get : δ → Option β}
    {put : δ → β → δ} {others : List (Field δ)} (keeps : KeepsText reader)
    (rest : KeepsFields others) : KeepsFields (Field.of name reader get put :: others) := by
  intro field inside draft
  rcases List.mem_cons.mp inside with rfl | inside
  · exact keeps.map (put draft)
  · exact rest field inside draft

theorem keepsText_setInOrder {fields : List (Field δ)} (keeps : KeepsFields fields) (first : Bool)
    (draft : δ) : KeepsText (setInOrder first fields draft) := by
  induction fields generalizing first draft with
  | nil => exact KeepsText.pure _
  | cons field others ih =>
      apply (keepsText_nextElement first).bind
      intro more
      split
      · apply (keeps field List.mem_cons_self draft).bind
        intro next
        exact ih (fun field inside => keeps field (List.mem_cons_of_mem _ inside)) false next
      · exact KeepsText.pure _

theorem keepsText_nextKey (first : Bool) : KeepsText (nextKey first) := by
  apply ensures_token_bind
  intro seen
  split
  · exact ensures_fail nofun
  · rename_i byte
    split
    · rename_i closes
      exact ensures_skip_bind (by rw [closes]; decide) (KeepsText.pure false)
    · split
      · split
        · rename_i isQuote
          exact ensures_skip_bind (by rw [isQuote]; decide) (KeepsText.pure true)
        · exact ensures_fail nofun
      · split
        · rename_i isComma
          apply ensures_skip_bind (by rw [isComma]; decide)
          apply ensures_token_bind
          intro seen
          split
          · exact ensures_fail nofun
          · exact ensures_skip_bind (by decide) (KeepsText.pure true)
          · exact ensures_fail nofun
          · exact ensures_fail nofun
        · exact ensures_fail nofun

theorem keepsText_duplicate {β : Type} (name : String) : KeepsText (duplicate name : Reader β) := by
  apply ensures_token_bind
  intro seen
  split
  · exact ensures_fail nofun
  · exact ensures_skip_bind (by decide) (ensures_fail nofun)
  · exact ensures_fail nofun

section Keeps

variable (keeps : KeepsFields record.fields)
include keeps

theorem keepsText_setField (key : String) (draft : δ) : KeepsText (record.setField key draft) := by
  unfold setField
  split
  · rename_i field found
    split
    · exact keepsText_duplicate key
    · exact keepsText_colon.bind fun _ => keeps field (List.mem_of_find?_eq_some found) draft
  · exact keepsText_colon.bind fun _ => keepsText_ignoredValue.bind fun _ => KeepsText.pure draft

theorem keepsText_memberTurn (state : Bool × δ) : KeepsText (record.memberTurn state) := by
  apply (keepsText_nextKey state.1).bind
  intro more
  split
  · apply keepsText_text.bind
    intro key
    exact (keepsText_setField keeps key state.2).bind fun _ => KeepsText.pure _
  · exact KeepsText.pure _

omit keeps in
theorem keepsText_finish (draft : δ) : KeepsText (match record.finish draft with
    | .ok value => pure value
    | .error missing => fail (.wrongLength
        (record.fields.findIdx (·.name == missing)) record.expectedElements) .behind) := by
  split
  · exact KeepsText.pure _
  · exact ensures_fail nofun

theorem keepsText_ofArray : KeepsText record.ofArray := by
  apply (keepsText_setInOrder keeps true record.empty).bind
  intro taken
  dsimp only
  split
  · exact keepsText_endOfArray.bind fun _ => keepsText_finish taken.1
  · exact (KeepsText.pure ()).bind fun _ => keepsText_finish taken.1

theorem keepsText_ofObject : KeepsText record.ofObject := by
  apply (keepsText_loop record.shrinks_memberTurn (keepsText_memberTurn keeps) _).bind
  intro draft
  split
  · exact KeepsText.pure _
  · exact ensures_fail nofun

theorem keepsText_reader : KeepsText record.reader := by
  apply ensures_token_bind
  intro first
  split
  · exact ensures_skip_bind (by decide) (keepsText_ofArray keeps)
  · exact ensures_skip_bind (by decide) (keepsText_ofObject keeps)
  · exact ensures_before (keepsText_mismatch record.expected)

end Keeps

end Record

end TransitionNetwork.Json
