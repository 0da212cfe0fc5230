import TransitionNetwork.Sink

/-!
# Actions that may fail

An action works on a state and may fail on the way. A failure keeps what was done to the state
before it.
-/

set_option autoImplicit false

namespace TransitionNetwork

variable {σ ε α β : Type}

/-- What comes of an action that starts from a state, and the state that it leaves. -/
def perform (action : ExceptT ε (StateM σ) α) (state : σ) : Except ε α × σ :=
  action.run.run state

theorem perform_pure (value : α) (state : σ) :
    perform (ε := ε) (pure value) state = (.ok value, state) := rfl

theorem perform_throw (fault : ε) (state : σ) :
    perform (α := α) (throw fault) state = (.error fault, state) := rfl

/-- What follows a failure is left out, and the failure keeps the state. -/
theorem perform_bind (action : ExceptT ε (StateM σ) α) (next : α → ExceptT ε (StateM σ) β)
    (state : σ) :
    perform (action >>= next) state =
      match perform action state with
      | (.ok value, after) => perform (next value) after
      | (.error fault, after) => (.error fault, after) := by
  change (ExceptT.bindCont next (perform action state).1) (perform action state).2 = _
  rcases perform action state with ⟨result, after⟩
  cases result with
  | ok value => rfl
  | error fault => rfl

theorem perform_tryCatch (action : ExceptT ε (StateM σ) α)
    (handle : ε → ExceptT ε (StateM σ) α) (state : σ) :
    perform (tryCatch action handle) state =
      match perform action state with
      | (.ok value, after) => (.ok value, after)
      | (.error fault, after) => perform (handle fault) after := by
  change (match (perform action state).1 with
    | .ok value => (pure (.ok value) : StateM σ (Except ε α))
    | .error fault => handle fault) (perform action state).2 = _
  rcases perform action state with ⟨result, after⟩
  cases result with
  | ok value => rfl
  | error fault => rfl

theorem perform_lift (action : StateM σ α) (state : σ) :
    perform (ε := ε) (liftM action) state = (.ok (action.run state).1, (action.run state).2) := rfl

end TransitionNetwork
