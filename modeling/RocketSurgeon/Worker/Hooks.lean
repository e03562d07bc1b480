import RocketSurgeon.Lib.Runs
import RocketSurgeon.Worker.ReplayRun

/-!
# Who owns the capture hooks

A capture hook stays on the model until it is removed through its handle, and the
handles are kept in the pass that registered them.  A hook no pass owns can never be
removed: it stops every later forward thread at its module and waits for an answer
nobody will give.

`hooks_served` says, request by request, when the hooks on the model remain the hooks
of the stored pass, and `hooksOwned_along_iff` says it for whole runs.
-/

namespace RocketSurgeon.Worker

open Lib Protocol List

variable {T : Type} {bridge : Bridge T} {st : WorkerState T}

/-- The hooks the stored pass owns. -/
def ownedHooks (st : WorkerState T) : List ℕ :=
  match st.forwardPass with
  | some pass => pass.captureHandles
  | none => []

/-- The hooks on the model are those of the stored pass. -/
def HooksOwned (st : WorkerState T) : Prop :=
  ∀ hook, hook ∈ st.registeredHooks ↔ hook ∈ ownedHooks st

/-- What is known of the hooks between requests: the stored pass owns them, and the next hook
will be a new one. -/
structure HookInvariant (st : WorkerState T) : Prop where
  owned : HooksOwned st
  fresh : ∀ hook ∈ st.registeredHooks, hook < st.nextHook

lemma ownedHooks_of_none (hpass : st.forwardPass = none) :
    ownedHooks st = [] := by
  rw [ownedHooks, hpass]

lemma ownedHooks_of_some {pass : ForwardPassState T} (hpass : st.forwardPass = some pass) :
    ownedHooks st = pass.captureHandles := by
  rw [ownedHooks, hpass]

/-- Where the stored pass owns the hooks, the model has none exactly when the pass has none. -/
lemma HooksOwned.registered_eq_nil_iff (howned : HooksOwned st) :
    st.registeredHooks = [] ↔ ownedHooks st = [] := by
  simp only [eq_nil_iff_forall_not_mem, howned _]

lemma hooksOwned_iff_of_none (hpass : st.forwardPass = none) :
    HooksOwned st ↔ st.registeredHooks = [] := by
  rw [HooksOwned, ownedHooks_of_none hpass, eq_nil_iff_forall_not_mem]
  simp only [not_mem_nil, iff_false]

lemma le_of_mem_captureHandlesFor (hmem : hook ∈ captureHandlesFor bridge st) :
    st.nextHook ≤ hook ∧ hook < st.nextHook + (captureHandlesFor bridge st).length := by
  simp only [captureHandlesFor, mem_range'_1, length_range'] at hmem ⊢
  exact hmem

/-! ## One request -/

lemma hookInvariant_dropCompletedPass (hinv : HookInvariant st) :
    HookInvariant (dropCompletedPass st) := by
  unfold dropCompletedPass
  split
  next pass hpass =>
    split
    · have hnone : ∀ hook ∈ st.registeredHooks, hook ∈ pass.captureHandles := fun hook hmem =>
        ownedHooks_of_some hpass ▸ (hinv.owned hook).mp hmem
      constructor
      · rw [hooksOwned_iff_of_none rfl]
        exact filter_eq_nil_iff.mpr fun hook hmem => by simp [hnone hook hmem]
      · intro hook hmem
        exact hinv.fresh hook (mem_of_mem_filter hmem)
    · exact hinv
  · exact hinv

lemma fresh_installCaptureHooks (hfresh : ∀ hook ∈ st.registeredHooks, hook < st.nextHook) :
    ∀ hook ∈ (installCaptureHooks bridge st).registeredHooks,
      hook < (installCaptureHooks bridge st).nextHook := by
  intro hook hmem
  rcases mem_append.mp hmem with hold | hnew
  · exact (hfresh hook hold).trans_le (Nat.le_add_right _ _)
  · exact (le_of_mem_captureHandlesFor hnew).2

lemma fresh_ensureForwardPass (hfresh : ∀ hook ∈ st.registeredHooks, hook < st.nextHook)
    (hensure : ensureForwardPass bridge st inputIds = (res, st')) :
    ∀ hook ∈ st'.registeredHooks, hook < st'.nextHook := by
  have houtcome := ensureForwardPass_outcome bridge st inputIds
  rw [hensure] at houtcome
  cases houtcome with
  | running _ | failedEarly _ _ _ => exact hfresh
  | failedLate _ _ _ | started _ _ => exact fresh_installCaptureHooks hfresh

/-- Starting a pass on a state without one.  The hooks are owned afterwards exactly when there
were none before and no failure has left new ones behind. -/
lemma hooksOwned_ensureForwardPass_iff {st' : WorkerState T} {inputIds : Option (List ℕ)}
    {res : Except String Unit} (hpass : st.forwardPass = none)
    (hfresh : ∀ hook ∈ st.registeredHooks, hook < st.nextHook)
    (hensure : ensureForwardPass bridge st inputIds = (res, st')) :
    HooksOwned st' ↔ st.registeredHooks = [] ∧
      (failsAfterHooks bridge st → captureHandlesFor bridge st = []) := by
  have houtcome := ensureForwardPass_outcome bridge st inputIds
  rw [hensure] at houtcome
  cases houtcome with
  | running hsome =>
    rw [hpass] at hsome
    cases hsome
  | failedEarly _ hlate _ =>
    exact (hooksOwned_iff_of_none (by exact hpass)).trans
      ⟨fun hnil => ⟨hnil, fun h => (hlate h).elim⟩, And.left⟩
  | failedLate _ hlate _ =>
    refine (hooksOwned_iff_of_none (by exact hpass)).trans (append_eq_nil_iff.trans ?_)
    exact ⟨fun h => ⟨h.1, fun _ => h.2⟩, fun h => ⟨h.1, h.2 hlate⟩⟩
  | started _ hlate =>
    constructor
    · intro howned
      refine ⟨eq_nil_iff_forall_not_mem.mpr fun hook hmem => ?_, fun h => (hlate h).elim⟩
      -- A hook from before is below every handle of the new pass.
      have hnew : hook ∈ captureHandlesFor bridge st :=
        (howned hook).mp (mem_append_left _ hmem)
      exact absurd (hfresh hook hmem) (le_of_mem_captureHandlesFor hnew).1.not_gt
    · rintro ⟨hnil, _⟩ hook
      rw [hnil]
      exact Iff.rfl

lemma hooksOwned_withProgress {pass : ForwardPassState T}
    (hpass : st.forwardPass = some pass) (prog : PassProgress T)
    (pending : List (MailItem T)) (complete : Bool) :
    HooksOwned (st.withProgress pass prog pending complete) ↔ HooksOwned st := by
  rw [HooksOwned, HooksOwned, ownedHooks_of_some hpass]
  exact Iff.rfl

/-- The condition under which a request leaves every hook with an owner, on the state before it.
A step must not fail between registering its hooks and storing its pass.  A replay must not either,
and it must not find a pass that owns hooks: it forgets that pass without removing them. -/
def KeepsOwnership (st : WorkerState T) (request : Bridge T × WorkerRequest) : Prop :=
  match request.2 with
  | .step req => StepAdmitted st req → (dropCompletedPass st).forwardPass = none →
      failsAfterHooks request.1 (dropCompletedPass st) →
      captureHandlesFor request.1 (dropCompletedPass st) = []
  | .replay req => (∃ arena, ReplayAdmitted request.1 st req arena) →
      ownedHooks st = [] ∧ (failsAfterHooks request.1 st → captureHandlesFor request.1 st = [])
  | _ => True

/-- If the request starts a pass, no hook of an earlier pass is on the model when it does. -/
def StartsClean (st : WorkerState T) (request : Bridge T × WorkerRequest) : Prop :=
  match request.2 with
  | .step req => StepAdmitted st req → (dropCompletedPass st).forwardPass = none →
      (dropCompletedPass st).registeredHooks = []
  | .replay req => (∃ arena, ReplayAdmitted request.1 st req arena) → st.registeredHooks = []
  | _ => True

/-- The state after a request. -/
def served (st : WorkerState T) (request : Bridge T × WorkerRequest) : WorkerState T :=
  (serve request.1 st request.2).2

section Step

variable {bridge : Bridge T} {st : WorkerState T} {handle : ℕ} {req : HostStepRequest}

lemma hookInvariant_runStepLoop (hinv : HookInvariant st) :
    (∀ hook ∈ (runStepLoop bridge st handle req).2.registeredHooks,
      hook < (runStepLoop bridge st handle req).2.nextHook) ∧
    (HooksOwned (runStepLoop bridge st handle req).2 ↔
      ((dropCompletedPass st).forwardPass = none → failsAfterHooks bridge (dropCompletedPass st) →
        captureHandlesFor bridge (dropCompletedPass st) = [])) := by
  have hdrop := hookInvariant_dropCompletedPass hinv
  -- Whatever starting the pass comes to, the loop itself only writes progress back.
  have hstart : ∀ {res st'}, ensureForwardPass bridge (dropCompletedPass st) req.inputIds =
      (res, st') → (HooksOwned st' ↔
        ((dropCompletedPass st).forwardPass = none → failsAfterHooks bridge (dropCompletedPass st) →
          captureHandlesFor bridge (dropCompletedPass st) = [])) := by
    intro res st' hensure
    cases hpass : (dropCompletedPass st).forwardPass with
    | some pass =>
      have houtcome := ensureForwardPass_outcome bridge (dropCompletedPass st) req.inputIds
      rw [hensure] at houtcome
      cases houtcome with
      | running _ => exact iff_of_true hdrop.owned nofun
      | failedEarly hnone _ _ | failedLate hnone _ _ | started hnone _ =>
        cases hpass.symm.trans hnone
    | none =>
      have hempty := (hooksOwned_iff_of_none hpass).mp hdrop.owned
      rw [hooksOwned_ensureForwardPass_iff hpass hdrop.fresh hensure]
      exact ⟨fun h _ => h.2, fun h => ⟨hempty, h rfl⟩⟩
  rcases runStepLoop_cases bridge st handle req with
    ⟨msg, st', hensure, hrun⟩ | ⟨st', pass, ended, hensure, hpass, hrun⟩
  · rw [hrun]
    exact ⟨fresh_ensureForwardPass hdrop.fresh hensure, hstart hensure⟩
  · obtain ⟨prog, pending, complete, hfinish⟩ := finishStep_snd st' pass ended
    have hfresh := fresh_ensureForwardPass hdrop.fresh hensure
    rw [hrun, hfinish, hooksOwned_withProgress hpass]
    exact ⟨hfresh, hstart hensure⟩

end Step

section Replay

variable {bridge : Bridge T} {st : WorkerState T} {handle : ℕ} {req : HostReplayRequest}

lemma hookInvariant_runReplayLoop (hinv : HookInvariant st) :
    (∀ hook ∈ (runReplayLoop bridge st handle req).2.registeredHooks,
      hook < (runReplayLoop bridge st handle req).2.nextHook) ∧
    (HooksOwned (runReplayLoop bridge st handle req).2 ↔
      ownedHooks st = [] ∧ (failsAfterHooks bridge st → captureHandlesFor bridge st = [])) := by
  rw [← hinv.owned.registered_eq_nil_iff]
  have hstart : ∀ {res st'},
      ensureForwardPass bridge { st with forwardPass := none } none = (res, st') →
      (∀ hook ∈ st'.registeredHooks, hook < st'.nextHook) ∧
        (HooksOwned st' ↔ st.registeredHooks = [] ∧
          (failsAfterHooks bridge st → captureHandlesFor bridge st = [])) :=
    fun {res st'} hensure => ⟨fresh_ensureForwardPass (by exact hinv.fresh) hensure,
      @hooksOwned_ensureForwardPass_iff T bridge { st with forwardPass := none } st' none res rfl
        hinv.fresh hensure⟩
  rcases runReplayLoop_cases bridge st handle req with
    ⟨msg, st', hensure, hrun⟩ | ⟨st', hensure, hpass, _, hrun⟩
  · rw [hrun]
    exact hstart hensure
  · obtain ⟨prog, pending, complete, hfinish⟩ := finishReplay_snd st' _ st.tickState.tickId
      (replayLoop bridge st' handle req st.tickState.tickId _
        ⟨st'.progress _, 0, []⟩)
    rw [hrun, hfinish, hooksOwned_withProgress hpass]
    exact hstart hensure

end Replay

/-- What a request does to the hooks, whatever it is and however it ends. -/
lemma hooks_served (hinv : HookInvariant st) (request : Bridge T × WorkerRequest) :
    (∀ hook ∈ (served st request).registeredHooks, hook < (served st request).nextHook) ∧
      (HooksOwned (served st request) ↔ KeepsOwnership st request) := by
  obtain ⟨bridge, request⟩ := request
  cases request with
  | step req =>
    rcases handleHostStep_cases bridge st req with
      ⟨hrejected, msg, hstep⟩ | ⟨hadmitted, hstate, _⟩
    · have hstate : served st (bridge, .step req) = st := congrArg Prod.snd hstep
      rw [hstate]
      exact ⟨hinv.fresh, iff_of_true hinv.owned fun h => (hrejected h).elim⟩
    · have hserved : served st (bridge, .step req) =
          (runStepLoop bridge st req.modelHandle req).2 := hstate
      rw [hserved]
      obtain ⟨hfresh, howned⟩ :=
        @hookInvariant_runStepLoop T bridge st req.modelHandle req hinv
      exact ⟨hfresh, howned.trans ⟨fun h _ => h, fun h => h hadmitted⟩⟩
  | replay req =>
    rcases handleHostReplay_cases bridge st req with
      ⟨hrejected, msg, hreplay⟩ | ⟨hadmitted, hstate, _⟩
    · have hstate : served st (bridge, .replay req) = st := congrArg Prod.snd hreplay
      rw [hstate]
      exact ⟨hinv.fresh, iff_of_true hinv.owned fun ⟨arena, h⟩ => (hrejected arena h).elim⟩
    · have hserved : served st (bridge, .replay req) =
          (runReplayLoop bridge st req.modelHandle req).2 := hstate
      rw [hserved]
      obtain ⟨hfresh, howned⟩ :=
        @hookInvariant_runReplayLoop T bridge st req.modelHandle req hinv
      exact ⟨hfresh, howned.trans ⟨fun h _ => h, fun h => h hadmitted⟩⟩
  | checkpoint req =>
    obtain ⟨arena, harena⟩ := handleHostCheckpoint_snd bridge st req
    have hserved : served st (bridge, .checkpoint req) = { st with checkpointArena := arena } :=
      harena
    rw [hserved]
    exact ⟨hinv.fresh, iff_of_true hinv.owned trivial⟩
  | updateProbes req | inspect => exact ⟨hinv.fresh, iff_of_true hinv.owned trivial⟩

/-- A pass that keeps ownership starts on a clean model. -/
lemma startsClean_of_keepsOwnership (hinv : HookInvariant st) (hkeeps : KeepsOwnership st request) :
    StartsClean st request := by
  obtain ⟨bridge, request⟩ := request
  cases request with
  | step req =>
    intro _ hnone
    exact (hooksOwned_iff_of_none hnone).mp (hookInvariant_dropCompletedPass hinv).owned
  | replay req =>
    intro hadmitted
    exact hinv.owned.registered_eq_nil_iff.mpr (hkeeps hadmitted).1
  | checkpoint req | updateProbes req | inspect => trivial

/-! ## Runs -/

lemma hookInvariant_attachModel (st : WorkerState T) (model : AttachedModel) :
    HookInvariant (attachModel st model) where
  owned := fun _ => Iff.rfl
  fresh := nofun

/-- **Hook ownership.**  In a run from an attach, every request leaves the hooks on the model with
the stored pass, and every pass starts on a model without hooks of earlier passes, exactly when
every request of the run meets `KeepsOwnership` in the state it is served in. -/
theorem hooksOwned_along_iff (st : WorkerState T) (model : AttachedModel)
    (requests : List (Bridge T × WorkerRequest)) :
    Along served (fun st request => HooksOwned (served st request) ∧ StartsClean st request)
        (attachModel st model) requests ↔
      Along served KeepsOwnership (attachModel st model) requests := by
  refine along_iff_of_invariant ?_ ?_ (hookInvariant_attachModel st model) requests
  · intro st request hinv
    exact ⟨fun h => (hooks_served hinv request).2.mp h.1, fun h =>
      ⟨(hooks_served hinv request).2.mpr h, startsClean_of_keepsOwnership hinv h⟩⟩
  · intro st request hinv howned
    exact ⟨howned.1, (hooks_served hinv request).1⟩

/-- A step, a checkpoint and its replay: the two hooks of the step's pass are still on the model
and the stored pass does not own them. -/
theorem not_hooksOwned_after_replay :
    ¬ HooksOwned ([(echoBridge, .step (echoStep [7])), (echoBridge, .checkpoint createC1),
      (echoBridge, .replay replayC1)].foldl served twoLayerWorker) := by
  intro howned
  have hregistered : 0 ∈ (echoReplayed [7]).2.registeredHooks := by decide +kernel
  have hlost : 0 ∉ ownedHooks (echoReplayed [7]).2 := by decide +kernel
  exact hlost ((howned 0).mp hregistered)

end RocketSurgeon.Worker
