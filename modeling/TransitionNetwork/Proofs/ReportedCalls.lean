import TransitionNetwork.Proofs.WritingInTurn

/-!
# What a report tells

A report is held against the calls that the sink has answered. Whatever state the calls leave and
however they end, each document is handed over once and in order, and the report sorts the calls by
how they ended without losing one or changing their order. Names may occur more than once, so the
calls are told apart by where they stand.
-/

set_option autoImplicit false

namespace TransitionNetwork

/-- The last list has the items of the first two, and those of each in their order. -/
inductive Interleaves {α : Type} : List α → List α → List α → Prop
  | nil : Interleaves [] [] []
  | left (item : α) {left right whole : List α} (rest : Interleaves left right whole) :
      Interleaves (item :: left) right (item :: whole)
  | right (item : α) {left right whole : List α} (rest : Interleaves left right whole) :
      Interleaves left (item :: right) (item :: whole)

variable {σ ε : Type}

/-! ## Calls of a sink -/

/-- A document that a sink is given, the state that the sink starts from, what comes of it and the
state that the sink leaves. -/
structure Call (σ ε : Type) where
  document : Document
  before : σ
  result : Except ε Unit
  after : σ

namespace Call

variable (call : Call σ ε)

def name : String :=
  call.document.name

def refusal? : Option ε :=
  match call.result with
  | .ok () => none
  | .error refusal => some refusal

def succeeded : Bool :=
  call.refusal?.isNone

/-- The failure that the call ends in, if it does. -/
def failure? : Option (WriteFailure ε) :=
  call.refusal?.map fun refusal => ⟨call.name, refusal⟩

/-- What a message says of the call if it fails. -/
def complaint? (describe : ε → String) : Option String :=
  call.refusal?.map fun refusal => call.name ++ ": " ++ describe refusal

def attempt : Attempt ε where
  name := call.name
  refusal := call.refusal?

end Call

/-- Each call starts from the state that the call before it has left, whether that one succeeded or
failed. -/
inductive CallsInTurn (sink : Sink (StateM σ) ε) : σ → List (Call σ ε) → σ → Prop
  | nil (state : σ) : CallsInTurn sink state [] state
  | cons {before middle after : σ} {document : Document} {result : Except ε Unit}
      {calls : List (Call σ ε)} (answered : perform (sink document) before = (result, middle))
      (rest : CallsInTurn sink middle calls after) :
      CallsInTurn sink before ({ document, before, result, after := middle } :: calls) after

theorem exists_callsInTurn (sink : Sink (StateM σ) ε) (state : σ) (documents : List Document) :
    ∃ calls after, CallsInTurn sink state calls after ∧ calls.map (·.document) = documents := by
  induction documents generalizing state with
  | nil => exact ⟨[], state, .nil state, rfl⟩
  | cons document documents ih =>
      rcases answered : perform (sink document) state with ⟨result, middle⟩
      obtain ⟨calls, after, rest, handed⟩ := ih middle
      exact ⟨_, after, .cons answered rest, congrArg (document :: ·) handed⟩

theorem CallsInTurn.writesInTurn {sink : Sink (StateM σ) ε} {state after : σ}
    {calls : List (Call σ ε)} (turns : CallsInTurn sink state calls after) :
    sink.WritesInTurn state (calls.map (·.document)) (calls.map (·.attempt)) after := by
  induction turns with
  | nil state => exact .nil state
  | @cons _ _ _ _ result _ answered _ ih =>
      cases result with
      | ok _ => exact .written answered ih
      | error refusal => exact .refused answered ih

/-! ## Reports of calls -/

namespace Report

variable (calls : List (Call σ ε))

/-- The report that notes what became of each call. -/
def ofCalls : Report ε where
  attempts := calls.map (·.attempt)

theorem written_ofCalls :
    (ofCalls calls).written = (calls.filter (·.succeeded)).map (·.name) := by
  induction calls with
  | nil => rfl
  | cons call calls ih =>
      obtain ⟨document, before, result, after⟩ := call
      cases result with
      | ok _ => exact congrArg (document.name :: ·) ih
      | error refusal => exact ih

theorem failures_ofCalls : (ofCalls calls).failures = calls.filterMap (·.failure?) := by
  rw [failures, ofCalls, List.filterMap_map]
  rfl

theorem attempted_ofCalls : (ofCalls calls).attempted = calls.length := by
  rw [attempted_eq_length, ofCalls, List.length_map]

theorem isSuccess_ofCalls : (ofCalls calls).isSuccess = calls.all (·.succeeded) := by
  rw [Bool.eq_iff_iff, isSuccess_iff, List.all_eq_true]
  simp [ofCalls, Call.attempt, Call.succeeded]

/-- The two lists of a report are what all names are made up of. -/
theorem interleaves (report : Report ε) :
    Interleaves report.written (report.failures.map (·.name)) (report.attempts.map (·.name)) := by
  obtain ⟨attempts⟩ := report
  induction attempts with
  | nil => exact .nil
  | cons attempt attempts ih =>
      obtain ⟨name, refusal⟩ := attempt
      cases refusal with
      | none => exact .left name ih
      | some refusal => exact .right name ih

theorem result_eq_ok_iff {report : Report ε} {names : List String} :
    report.result = .ok names ↔ names = report.written ∧ report.isSuccess = true := by
  rw [result]
  split
  · rename_i success
    rw [Except.ok.injEq, and_iff_left success]
    exact eq_comm
  · rename_i failure
    exact ⟨nofun, fun both => absurd both.2 failure⟩

theorem result_eq_error_iff {report : Report ε} {failed : WriteFailures ε} :
    report.result = .error failed ↔
      failed = ⟨report.attempted, report.failures⟩ ∧ report.isSuccess = false := by
  rw [result]
  split
  · rename_i success
    rw [success]
    exact ⟨nofun, nofun⟩
  · rename_i failure
    rw [Except.error.injEq, and_iff_left (Bool.eq_false_iff.mpr failure)]
    exact eq_comm

end Report

theorem WriteFailures.message_ofCalls (describe : ε → String) (calls : List (Call σ ε))
    (attempted : Nat) :
    WriteFailures.message describe ⟨attempted, (Report.ofCalls calls).failures⟩ =
      "failed to write " ++ toString (calls.countP (!·.succeeded)) ++ " of " ++
        toString attempted ++ " documents: " ++
        "; ".intercalate (calls.filterMap (·.complaint? describe)) := by
  have count : (calls.filterMap (·.failure?)).length = calls.countP (!·.succeeded) := by
    rw [List.length_filterMap_eq_countP]
    apply List.countP_congr
    intro call _
    simp [Call.failure?, Call.succeeded]
  have complaints : (calls.filterMap (·.failure?)).map (·.message describe) =
      calls.filterMap (·.complaint? describe) := by
    have said (call : Call σ ε) :
        call.failure?.map (·.message describe) = call.complaint? describe := by
      rw [Call.failure?, Option.map_map]
      rfl
    rw [List.map_filterMap]
    simp only [said]
  rw [Report.failures_ofCalls]
  unfold WriteFailures.message
  simp only [count, complaints]

/-- What a report tells of the calls that were made for the documents. -/
structure ReportsCalls (documents : List Document) (calls : List (Call σ ε)) (report : Report ε) :
    Prop where
  written_eq : report.written = (calls.filter (·.succeeded)).map (·.name)
  failures_eq : report.failures = calls.filterMap (·.failure?)
  attempted_eq : report.attempted = documents.length
  interleaves : Interleaves report.written (report.failures.map (·.name)) (documents.map (·.name))
  result_eq_ok_iff : ∀ names, report.result = .ok names ↔
    names = report.written ∧ ∀ call ∈ calls, call.succeeded = true
  result_eq_error_iff : ∀ failed, report.result = .error failed ↔
    failed = ⟨documents.length, report.failures⟩ ∧ ∃ call ∈ calls, call.succeeded = false
  message_eq : ∀ (describe : ε → String) (failed : WriteFailures ε),
    report.result = .error failed →
    failed.message describe =
      "failed to write " ++ toString (calls.countP (!·.succeeded)) ++ " of " ++
        toString documents.length ++ " documents: " ++
        "; ".intercalate (calls.filterMap (·.complaint? describe))

theorem reportsCalls_ofCalls {documents : List Document} {calls : List (Call σ ε)}
    (handed : calls.map (·.document) = documents) :
    ReportsCalls documents calls (Report.ofCalls calls) := by
  have length : calls.length = documents.length := by rw [← handed, List.length_map]
  have error (failed : WriteFailures ε) : (Report.ofCalls calls).result = .error failed ↔
      failed = ⟨documents.length, (Report.ofCalls calls).failures⟩ ∧
        ∃ call ∈ calls, call.succeeded = false := by
    rw [Report.result_eq_error_iff, Report.isSuccess_ofCalls, Report.attempted_ofCalls, length,
      List.all_eq_false]
    simp only [Bool.not_eq_true]
  constructor
  · exact Report.written_ofCalls calls
  · exact Report.failures_ofCalls calls
  · rw [Report.attempted_ofCalls, length]
  · have names : (Report.ofCalls calls).attempts.map (·.name) = documents.map (·.name) := by
      rw [← handed, Report.ofCalls, List.map_map, List.map_map]
      rfl
    rw [← names]
    exact (Report.ofCalls calls).interleaves
  · intro names
    rw [Report.result_eq_ok_iff, Report.isSuccess_ofCalls, List.all_eq_true]
  · exact error
  · intro describe failed refused
    rw [((error failed).mp refused).1, WriteFailures.message_ofCalls]

/-- Writing documents calls the sink once for each of them, in order and each time from the state
that the call before has left, and reports what became of all calls. -/
theorem Sink.writeAll_reports_calls (sink : Sink (StateM σ) ε) (state : σ)
    (documents : List Document) :
    ∃ calls report after,
      (sink.writeAll documents).run state = (report, after) ∧
      CallsInTurn sink state calls after ∧
      calls.map (·.document) = documents ∧
      ReportsCalls documents calls report := by
  obtain ⟨calls, after, turns, handed⟩ := exists_callsInTurn sink state documents
  refine ⟨calls, Report.ofCalls calls, after, ?_, turns, handed, reportsCalls_ofCalls handed⟩
  rw [Sink.run_writeAll_eq_iff, ← handed]
  exact turns.writesInTurn

end TransitionNetwork
