import RocketSurgeon.Lib.Runs
import RocketSurgeon.Worker.StepRun

/-!
# The clocks of a worker

A step reports the token clock and, within a token, the operator clock.  Every event moves the
operator clock, and the end of the pass the token clock.  But the next step drops a pass that is
complete and sets both clocks back to where they were before it: every pass reports the same token.
-/

namespace RocketSurgeon.Worker

open Lib Protocol List

variable {T : Type} {bridge : Bridge T} {st : WorkerState T} {req : HostStepRequest}
  {response : HostStepResponse} {operator : ℕ}

/-! ## One step -/

/-- The clocks a step reports, the token clock before the operator clock. -/
def clocksOf (response : HostStepResponse) : Option (ℕ ×ₗ ℕ) :=
  response.position.clock.map fun clock => toLex (clock.token, clock.operator)

/-- The clocks the next step starts from. -/
def startClocks (st : WorkerState T) : ℕ ×ₗ ℕ :=
  toLex ((dropCompletedPass st).tickState.token, (dropCompletedPass st).tickState.operator)

/-- The pass the next step finds is complete. -/
def PassComplete (st : WorkerState T) : Prop :=
  st.forwardPass.map ForwardPassState.forwardComplete = some true

/-- A step moves the operator clock, or it completes the pass and moves the token clock.  Then the
next step starts over. -/
lemma clocks_runStepLoop (hstart : startClocks st = toLex (token, operator))
    (hok : (runStepLoop bridge st handle req).1 = .ok response) :
    (¬ PassComplete (runStepLoop bridge st handle req).2 ∧ ∃ later, operator < later ∧
      clocksOf response = some (toLex (token, later)) ∧
      startClocks (runStepLoop bridge st handle req).2 = toLex (token, later)) ∨
    (PassComplete (runStepLoop bridge st handle req).2 ∧
      clocksOf response = some (toLex (token + 1, 0)) ∧
      startClocks (runStepLoop bridge st handle req).2 = toLex (0, 0)) := by
  obtain ⟨htoken, hoperator⟩ := Prod.mk.inj (toLex.injective hstart)
  rcases runStepLoop_start bridge st handle req with
    ⟨msg, st', -, -, -, hrun⟩ | ⟨st', pass, resuming, hstarted, hrun⟩
  · rw [hrun] at hok
    cases hok
  · rw [hrun] at hok ⊢
    obtain ⟨events, -, htick, -, hevents⟩ := @stepLoop_received T bridge st' handle req pass.pending
      (startCursor st' pass resuming)
    rw [tick_startCursor, hstarted.tickState] at htick
    generalize stepLoop bridge st' handle req pass.pending (startCursor st' pass resuming) =
      ended at hok htick hevents ⊢
    have htoken' : ended.cursor.progress.tick.token = token := by
      rw [htick, token_tickAfter, htoken]
    have hoperator' : ended.cursor.progress.tick.operator = operator + events.length := by
      rw [htick, operator_tickAfter, hoperator]
    rcases finishStep_cases st' pass ended with ⟨msg, -, hfinish⟩ | ⟨-, hfinish⟩ |
      ⟨hres, hfinish⟩
    · rw [hfinish] at hok
      cases hok
    · rw [hfinish] at hok ⊢
      cases hok
      refine .inr ⟨rfl, ?_, rfl⟩
      rw [← htoken']
      rfl
    · rw [hfinish] at hok ⊢
      cases hok
      have hmoved : 0 < events.length := length_pos_iff.mpr (hevents hres)
      refine .inl ⟨nofun, operator + events.length, by omega, ?_, ?_⟩
      · rw [← htoken', ← hoperator']
        rfl
      · rw [← htoken', ← hoperator']
        rfl

lemma clocks_handleHostStep (hstart : startClocks st = toLex (token, operator))
    (hok : (handleHostStep bridge st req).1 = .ok response) :
    (¬ PassComplete (handleHostStep bridge st req).2 ∧ ∃ later, operator < later ∧
      clocksOf response = some (toLex (token, later)) ∧
      startClocks (handleHostStep bridge st req).2 = toLex (token, later)) ∨
    (PassComplete (handleHostStep bridge st req).2 ∧
      clocksOf response = some (toLex (token + 1, 0)) ∧
      startClocks (handleHostStep bridge st req).2 = toLex (0, 0)) := by
  rcases handleHostStep_cases bridge st req with ⟨-, msg, hrejected⟩ | ⟨-, hstate, hran⟩
  · rw [hrejected] at hok
    cases hok
  · rw [hstate]
    exact clocks_runStepLoop hstart ((hran response).mp hok)

/-! ## Many steps -/

/-- The responses to steps that all succeed. -/
def stepAll : WorkerState T → List (Bridge T × HostStepRequest) →
    Except String (List HostStepResponse)
  | _, [] => .ok []
  | st, (bridge, req) :: rest => do
      let served := handleHostStep bridge st req
      let response ← served.1
      let responses ← stepAll served.2 rest
      return response :: responses

lemma stepAll_cons_eq_ok (hok : stepAll st ((bridge, req) :: rest) = .ok responses) :
    ∃ response later, responses = response :: later ∧
      (handleHostStep bridge st req).1 = .ok response ∧
      stepAll (handleHostStep bridge st req).2 rest = .ok later := by
  rw [stepAll] at hok
  rcases hserved : (handleHostStep bridge st req).1 with message | response
  · rw [hserved] at hok
    cases hok
  · rcases hrest : stepAll (handleHostStep bridge st req).2 rest with message | later
    · rw [hserved, hrest] at hok
      cases hok
    · rw [hserved, hrest] at hok
      cases hok
      exact ⟨response, later, rfl, rfl, rfl⟩

/-- The clocks have gone on from one response to another. -/
def Before (earlier later : HostStepResponse) : Prop :=
  ∃ clocks ∈ clocksOf earlier, ∃ clocks' ∈ clocksOf later, clocks < clocks'

/-- No step of the run finds a pass that is complete. -/
def OnePass : WorkerState T → List (Bridge T × HostStepRequest) → Prop :=
  Along (fun st request => (handleHostStep request.1 st request.2).2)
    fun st _ => ¬ PassComplete st

/-- Within a pass the clocks go on from where they were. -/
lemma OnePass.later (hstart : startClocks st = toLex (0, operator))
    (hok : stepAll st requests = .ok responses) (honePass : OnePass st requests) :
    ∀ response ∈ responses, ∃ clocks ∈ clocksOf response, toLex (0, operator) < clocks := by
  induction requests generalizing st responses operator with
  | nil =>
    cases hok
    exact forall_mem_nil _
  | cons request requests ih =>
    obtain ⟨response, later, rfl, hserved, hrest⟩ := stepAll_cons_eq_ok hok
    obtain ⟨-, honePass⟩ := honePass
    refine forall_mem_cons.mpr ?_
    rcases clocks_handleHostStep hstart hserved with
      ⟨-, next, hnext, hclocks, hstart'⟩ | ⟨hcomplete, hclocks, -⟩
    · have hmoved : toLex (0, operator) < toLex (0, next) :=
        Prod.Lex.toLex_lt_toLex.mpr (.inr ⟨rfl, hnext⟩)
      refine ⟨⟨_, hclocks, hmoved⟩, fun other hother => ?_⟩
      obtain ⟨clocks, hclocks', hlater⟩ := ih hstart' hrest honePass other hother
      exact ⟨clocks, hclocks', hmoved.trans hlater⟩
    · cases requests with
      | nil =>
        cases hrest
        exact ⟨⟨_, hclocks, Prod.Lex.toLex_lt_toLex.mpr (.inl Nat.zero_lt_one)⟩,
          forall_mem_nil _⟩
      | cons next requests => exact (honePass.1 hcomplete).elim

lemma pairwise_before_iff (hstart : startClocks st = toLex (0, operator))
    (hrunning : ¬ PassComplete st) (hok : stepAll st requests = .ok responses) :
    responses.Pairwise Before ↔ OnePass st requests := by
  induction requests generalizing st responses operator with
  | nil =>
    cases hok
    exact iff_of_true .nil trivial
  | cons request requests ih =>
    obtain ⟨response, later, rfl, hserved, hrest⟩ := stepAll_cons_eq_ok hok
    rw [pairwise_cons]
    refine Iff.trans ?_ (and_iff_right hrunning).symm
    rcases clocks_handleHostStep hstart hserved with
      ⟨hrunning', next, -, hclocks, hstart'⟩ | ⟨hcomplete, hclocks, hstart'⟩
    · rw [ih hstart' hrunning' hrest]
      refine and_iff_right_of_imp fun honePass other hother => ?_
      obtain ⟨clocks, hclocks', hlater⟩ := OnePass.later hstart' hrest honePass other hother
      exact ⟨_, hclocks, clocks, hclocks', hlater⟩
    · cases requests with
      | nil =>
        cases hrest
        exact iff_of_true ⟨forall_mem_nil _, .nil⟩ trivial
      | cons nextRequest requests =>
        -- the clocks have been set back, and a pass is as long as one token
        obtain ⟨nextResponse, later, rfl, hserved', -⟩ := stepAll_cons_eq_ok hrest
        refine iff_of_false (fun hall => ?_) fun honePass => honePass.1 hcomplete
        obtain ⟨clocks, hfirst, clocks', hsecond, hlt⟩ := hall.1 nextResponse mem_cons_self
        cases hclocks.symm.trans hfirst
        rcases clocks_handleHostStep hstart' hserved' with
          ⟨-, next, -, hclocks', -⟩ | ⟨-, hclocks', -⟩
        · cases hclocks'.symm.trans hsecond
          exact not_lt.mpr (Prod.Lex.toLex_le_toLex.mpr (.inl Nat.zero_lt_one)) hlt
        · cases hclocks'.symm.trans hsecond
          exact lt_irrefl _ hlt

/-- **The clocks go back.**  The clocks that steps on an attached worker report go on from each to the
next exactly if no step finds a pass that an earlier one has completed. -/
theorem clocks_increase_iff {model : AttachedModel} {requests : List (Bridge T × HostStepRequest)}
    {responses : List HostStepResponse}
    (hok : stepAll (attachModel st model) requests = .ok responses) :
    responses.Pairwise Before ↔ OnePass (attachModel st model) requests :=
  pairwise_before_iff rfl nofun hok

/-! ### A pass of two events -/

/-- Steps of the given counts through passes of two events. -/
def twoEventSteps (counts : List ℕ) : List (Bridge ℕ × HostStepRequest) :=
  counts.map fun count => (addOneBridge, { addOneStep with count, interventions := [] })

/-- The responses on the first event, on the second and at the end of a pass. -/
def onFirst : HostStepResponse :=
  ⟨⟨1, .forward, some 0, 0, "o_proj", .output, none, .prefill, some 0, some ⟨0, 1⟩⟩, [], false, false,
    []⟩
def onSecond : HostStepResponse :=
  ⟨⟨2, .forward, some 0, 1, "o_proj", .output, none, .prefill, some 0, some ⟨0, 2⟩⟩, [], false, false,
    []⟩
def atEnd : HostStepResponse :=
  ⟨⟨0, .forward, some 0, 1, "o_proj", .output, none, .decode, some 1, some ⟨1, 0⟩⟩, [], true, false,
    []⟩

/-- A step that completes a pass, and one into the next: the token clock goes back. -/
theorem not_before_twoPasses :
    stepAll (attachModel WorkerState.new twoLayerModel) (twoEventSteps [3, 1]) =
        .ok [atEnd, onFirst] ∧ ¬ [atEnd, onFirst].Pairwise Before := by
  refine ⟨by decide +kernel, fun hpairwise => ?_⟩
  obtain ⟨clocks, hfirst, clocks', hsecond, hlt⟩ := pairwise_pair.mp hpairwise
  cases hfirst
  cases hsecond
  exact not_lt.mpr (Prod.Lex.toLex_le_toLex.mpr (.inl Nat.zero_lt_one)) hlt

/-- Steps through one pass, of which the last completes it. -/
theorem before_onePass :
    stepAll (attachModel WorkerState.new twoLayerModel) (twoEventSteps [1, 1, 1]) =
        .ok [onFirst, onSecond, atEnd] ∧ [onFirst, onSecond, atEnd].Pairwise Before := by
  have hok : stepAll (attachModel WorkerState.new twoLayerModel) (twoEventSteps [1, 1, 1]) =
      .ok [onFirst, onSecond, atEnd] := by decide +kernel
  refine ⟨hok, (clocks_increase_iff hok).mpr ⟨nofun, ?_, ?_, trivial⟩⟩
  · unfold PassComplete
    decide +kernel
  · unfold PassComplete
    decide +kernel

end RocketSurgeon.Worker
