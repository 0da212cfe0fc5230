import TransitionNetwork.Automaton.Load
import TransitionNetwork.Proofs.WholeValues

/-!
# A text at hand and the same text in a stream

Only a stream can bring bytes that are no text, and only a stream has to be checked for them. On
the bytes of a text the check never fails, so a text is loaded in both ways with the same result:
the same automaton, the same reason to refuse the snapshot, or the same failure of reading, which
is only placed as it is usual for the source.
-/

set_option autoImplicit false

namespace TransitionNetwork

open Json Reader Record

/-! ## Readers of snapshots -/

theorem StateKind.keepsText_tagReader : KeepsText StateKind.tagReader := by
  apply keepsText_text.bind
  intro tag
  split
  · exact KeepsText.pure _
  · exact ensures_fail nofun

theorem StateKind.keepsText_objectReader : KeepsText StateKind.objectReader := by
  apply ensures_token_bind
  intro first
  split
  · exact ensures_fail nofun
  · exact ensures_fail nofun
  · apply ensures_skip_bind (by decide)
    apply StateKind.keepsText_tagReader.bind
    intro kind
    apply keepsText_colon.bind
    intro colon
    apply (keepsText_null "unit").bind
    intro null
    apply ensures_token_bind
    intro last
    split
    · exact ensures_fail nofun
    · exact ensures_skip_bind (by decide) (KeepsText.pure kind)
    · exact ensures_fail nofun
  · exact ensures_fail nofun

theorem StateKind.keepsText_reader : KeepsText StateKind.reader := by
  apply ensures_token_bind
  intro first
  split
  · exact ensures_fail nofun
  · exact ensures_skip_bind (by decide) StateKind.keepsText_tagReader
  · exact ensures_skip_bind (by decide) StateKind.keepsText_objectReader
  · exact ensures_fail nofun

theorem keepsText_namesReader : KeepsText namesReader :=
  (keepsText_array (keepsText_optional keepsText_string)).map List.toArray

theorem Vocabulary.keepsText_reader : KeepsText Vocabulary.record.reader := by
  apply Record.keepsText_reader
  apply keepsFields_cons keepsText_namesReader
  apply keepsFields_cons keepsText_namesReader
  exact keepsFields_cons keepsText_namesReader keepsFields_nil

namespace Snapshot

theorem Transition.keepsText_reader : KeepsText Transition.record.reader := by
  apply Record.keepsText_reader
  apply keepsFields_cons keepsText_unsigned32
  apply keepsFields_cons keepsText_boolean
  exact keepsFields_cons (keepsText_array keepsText_signed32) keepsFields_nil

theorem State.keepsText_reader : KeepsText State.record.reader := by
  apply Record.keepsText_reader
  apply keepsFields_cons keepsText_unsigned32
  apply keepsFields_cons keepsText_signed32
  apply keepsFields_cons StateKind.keepsText_reader
  exact keepsFields_cons (keepsText_array Transition.keepsText_reader) keepsFields_nil

theorem keepsText_reader : KeepsText record.reader := by
  apply Record.keepsText_reader
  apply keepsFields_cons (keepsText_array keepsText_string)
  apply keepsFields_cons Vocabulary.keepsText_reader
  exact keepsFields_cons (keepsText_array State.keepsText_reader) keepsFields_nil

/-- A text is read as one snapshot from both sources, or refused from both for one failure. -/
theorem ofJson_text (text : String) :
    (∃ snapshot, ∀ source, ofJson source (bytesOf text) = .ok snapshot) ∨
      ∃ failure : Failure, failure.cause ≠ .invalidEncoding ∧
        ∀ source, ofJson source (bytesOf text) = .error (failure.locate source (bytesOf text)) := by
  have keeps : KeepsText (record.reader <* endOfText) :=
    keepsText_reader.bind fun _ => keepsText_endOfText.bind fun _ => KeepsText.pure _
  have outcome := keeps (bytesOf text) ⟨text, rfl⟩
  cases result : (record.reader <* endOfText).run (bytesOf text) with
  | error failure =>
      rw [result] at outcome
      refine .inr ⟨failure, outcome, fun source => ?_⟩
      rw [ofJson, parse, result]
  | ok taken =>
      refine .inl ⟨taken.1, fun source => ?_⟩
      rw [ofJson, parse, result]

end Snapshot

/-! ## Both ways to load a text -/

/-- The end of a message that says where reading failed. -/
def Json.Error.place (error : Json.Error) : String :=
  " at line " ++ toString error.line ++ " column " ++ toString error.column

theorem LoadError.message_unreadable (error : Json.Error) :
    (LoadError.unreadable error).message =
      "ATN snapshot JSON error: " ++ error.cause.message ++ error.place := by
  have told : error.message = error.cause.message ++ error.place := by
    simp only [Json.Error.message, Json.Error.place, String.append_assoc]
  rw [String.append_assoc, ← told]
  rfl

namespace Automaton

/-- A text at hand and its bytes in a stream are loaded as the same automaton, or refused for the
same reason, or unreadable for the same failure, which is never about the encoding; the messages
then only differ in the line and the column. -/
theorem ofText_agrees_with_ofStream (text : String) :
    (∃ automaton, ofText text = .ok automaton ∧ ofStream text.toUTF8 = .ok automaton) ∨
    (∃ rejection, ofText text = .error (.rejected rejection) ∧
      ofStream text.toUTF8 = .error (.rejected rejection)) ∨
    ∃ (failure : Failure) (told : String), failure.cause ≠ .invalidEncoding ∧
      ofText text = .error (.unreadable (failure.locate .text (bytesOf text))) ∧
      ofStream text.toUTF8 = .error (.unreadable (failure.locate .stream (bytesOf text))) ∧
      ∀ source, (LoadError.unreadable (failure.locate source (bytesOf text))).message =
        told ++ (failure.locate source (bytesOf text)).place := by
  have atHand : ofText text = load .text (bytesOf text) := rfl
  have arriving : ofStream text.toUTF8 = load .stream (bytesOf text) := rfl
  rw [atHand, arriving]
  rcases Snapshot.ofJson_text text with ⟨snapshot, read⟩ | ⟨failure, other, failed⟩
  · cases built : ofSnapshot snapshot with
    | ok automaton =>
        refine .inl ⟨automaton, ?_, ?_⟩ <;> simp only [load, read, built]
    | error rejection =>
        refine .inr (.inl ⟨rejection, ?_, ?_⟩) <;> simp only [load, read, built]
  · refine .inr (.inr ⟨failure, "ATN snapshot JSON error: " ++ failure.cause.message, other, ?_⟩)
    refine ⟨?_, ?_, fun source => LoadError.message_unreadable _⟩ <;> simp only [load, failed]

end Automaton

end TransitionNetwork
