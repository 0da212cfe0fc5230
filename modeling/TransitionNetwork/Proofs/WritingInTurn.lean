import TransitionNetwork.Proofs.Actions

/-!
# Documents are tried in turn

Writing a list of documents tries every one of them in order. Each is tried from the state that the
one before it has left, and the report notes what became of it.
-/

set_option autoImplicit false

namespace TransitionNetwork

variable {σ ε : Type}

/-! ## Reports -/

namespace Report

variable (report : Report ε)

/-- Every attempt is either a success or a failure. -/
theorem attempted_eq_length : report.attempted = report.attempts.length := by
  rw [attempted, written, failures]
  induction report.attempts with
  | nil => rfl
  | cons attempt attempts ih =>
      cases refusal : attempt.refusal with
      | none => simp [refusal] at ih ⊢; omega
      | some _ => simp [refusal] at ih ⊢; omega

theorem isSuccess_iff :
    report.isSuccess = true ↔ ∀ attempt ∈ report.attempts, attempt.refusal = none := by
  simp [isSuccess, failures, List.filterMap_eq_nil_iff]

end Report

namespace Sink

/-- Each document is tried from the state that the attempt before it has left, and every attempt is
noted. -/
inductive WritesInTurn (sink : Sink (StateM σ) ε) :
    σ → List Document → List (Attempt ε) → σ → Prop
  | nil (state : σ) : WritesInTurn sink state [] [] state
  | written {state middle after : σ} {document : Document} {documents : List Document}
      {attempts : List (Attempt ε)}
      (success : perform (sink document) state = (.ok (), middle))
      (rest : WritesInTurn sink middle documents attempts after) :
      WritesInTurn sink state (document :: documents) ({ name := document.name } :: attempts) after
  | refused {state middle after : σ} {document : Document} {documents : List Document}
      {attempts : List (Attempt ε)} {refusal : ε}
      (failure : perform (sink document) state = (.error refusal, middle))
      (rest : WritesInTurn sink middle documents attempts after) :
      WritesInTurn sink state (document :: documents)
        ({ name := document.name, refusal := some refusal } :: attempts) after

variable {sink : Sink (StateM σ) ε} {state after : σ} {documents : List Document}
  {attempts : List (Attempt ε)}

theorem run_attempt (sink : Sink (StateM σ) ε) (document : Document) (state : σ) :
    (sink.attempt document).run state =
      match perform (sink document) state with
      | (.ok (), after) => ({ name := document.name }, after)
      | (.error refusal, after) =>
        ({ name := document.name, refusal := some refusal }, after) := by
  rcases tried : perform (sink document) state with ⟨result, after⟩
  have run : (sink document).run.run state = (result, after) := tried
  rw [attempt, StateT.run_bind, run]
  cases result with
  | ok _ => rfl
  | error refusal => rfl

theorem run_mapM_attempt_cons (sink : Sink (StateM σ) ε) (document : Document)
    (documents : List Document) (state : σ) :
    ((document :: documents).mapM sink.attempt).run state =
      let first := (sink.attempt document).run state
      let rest := (documents.mapM sink.attempt).run first.2
      (first.1 :: rest.1, rest.2) := by
  rw [List.mapM_cons]
  rfl

theorem WritesInTurn.run_mapM (turns : sink.WritesInTurn state documents attempts after) :
    (documents.mapM sink.attempt).run state = (attempts, after) := by
  induction turns with
  | nil state => rfl
  | written success _ ih =>
      rw [run_mapM_attempt_cons, run_attempt, success]
      dsimp only
      rw [ih]
  | refused failure _ ih =>
      rw [run_mapM_attempt_cons, run_attempt, failure]
      dsimp only
      rw [ih]

theorem WritesInTurn.unique (turns : sink.WritesInTurn state documents attempts after)
    {attempts' : List (Attempt ε)} {after' : σ}
    (turns' : sink.WritesInTurn state documents attempts' after') :
    attempts = attempts' ∧ after = after' := by
  rw [← Prod.mk.injEq, ← turns.run_mapM, turns'.run_mapM]

theorem writesInTurn_mapM (sink : Sink (StateM σ) ε) (documents : List Document) (state : σ) :
    sink.WritesInTurn state documents ((documents.mapM sink.attempt).run state).1
      ((documents.mapM sink.attempt).run state).2 := by
  induction documents generalizing state with
  | nil => exact .nil state
  | cons document documents ih =>
      rw [run_mapM_attempt_cons, run_attempt]
      rcases tried : perform (sink document) state with ⟨result, middle⟩
      cases result with
      | ok _ => exact .written tried (ih middle)
      | error refusal => exact .refused tried (ih middle)

/-- What a run reports and leaves is what trying the documents in turn notes and leaves. -/
theorem run_writeAll_eq_iff {report : Report ε} :
    (sink.writeAll documents).run state = (report, after) ↔
      sink.WritesInTurn state documents report.attempts after := by
  have whole : (sink.writeAll documents).run state =
      (⟨((documents.mapM sink.attempt).run state).1⟩,
        ((documents.mapM sink.attempt).run state).2) := rfl
  rw [whole]
  constructor
  · intro same
    have turns := writesInTurn_mapM sink documents state
    cases same
    exact turns
  · intro turns
    rw [turns.run_mapM]

theorem WritesInTurn.names_eq (turns : sink.WritesInTurn state documents attempts after) :
    attempts.map (·.name) = documents.map (·.name) := by
  induction turns with
  | nil state => rfl
  | written _ _ ih => exact congrArg (_ :: ·) ih
  | refused _ _ ih => exact congrArg (_ :: ·) ih

end Sink

end TransitionNetwork
