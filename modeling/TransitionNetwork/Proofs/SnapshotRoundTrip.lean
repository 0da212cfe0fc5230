import TransitionNetwork.Proofs.SnapshotForms

/-!
# Written snapshots are read back

The text that is written for a snapshot is one of its forms, so it is read as that snapshot. A text
that is written therefore stands for one snapshot only.
-/

set_option autoImplicit false

namespace TransitionNetwork

open Json

namespace Snapshot

theorem ofJson_toJson (source : Source) (snapshot : Snapshot) :
    ofJson source (bytesOf snapshot.toJson) = .ok snapshot :=
  ofJson_form snapshot.form_toJson source

theorem toJson_inj (first second : Snapshot) : first.toJson = second.toJson ↔ first = second := by
  constructor
  · intro same
    have read := ofJson_toJson .text first
    rw [same, ofJson_toJson] at read
    exact (Except.ok.inj read).symm
  · exact congrArg toJson

/-- Reading undoes writing. So a snapshot that was read, written out and read again is the one that
was read at first, and no two snapshots are written alike. -/
theorem ofJson_inverts_toJson (source : Source) (snapshot : Snapshot) :
    ofJson source (bytesOf snapshot.toJson) = .ok snapshot ∧
      (∀ input, (ofJson source input >>= fun parsed => ofJson source (bytesOf parsed.toJson)) =
        ofJson source input) ∧
      ∀ other : Snapshot, other.toJson = snapshot.toJson ↔ other = snapshot := by
  refine ⟨ofJson_toJson source snapshot, ?_, fun other => toJson_inj other snapshot⟩
  intro input
  cases read : ofJson source input with
  | error fault => rfl
  | ok parsed => exact ofJson_toJson source parsed

end Snapshot

end TransitionNetwork
