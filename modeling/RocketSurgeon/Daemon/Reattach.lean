import RocketSurgeon.Daemon.SessionCalls
import RocketSurgeon.Worker.ReplayRun

/-!
# Attaching again

A model is detached and another one attached: what the requests leave of the daemon when they
succeed, and when an attach does.
-/

namespace RocketSurgeon.Daemon

open Lib Protocol Probes Worker

variable {T : Type} {env : Env T} {d : DaemonState T}

/-! ## Attaching -/

/-- The daemon once a model has been attached. -/
def attachedState (d : DaemonState T) (req : AttachRequest) (backend : Backend) (uuid : String) :
    DaemonState T :=
  let host := backend.response
  let committed := d.session.commitAttach req host.modelType host.numLayers host.numHeads
    host.hiddenDim uuid
  { d with
    session := { committed.2 with
      autoCheckpointLayers := checkpointLayers backend.model.numLayers }
    orchestrator := some (attachModel WorkerState.new backend.model)
    modelHandle := some backend.model.handle }

/-- Dimensions the daemon takes from a worker. -/
def ValidMetadata (host : HostAttachResponse) : Prop :=
  ¬ (host.numLayers = 0 ∨ host.numHeads = 0 ∨ host.hiddenDim = 0)

lemma handleAttachRequest_of_valid (hvalid : d.session.validateAttach req = .ok ())
    (hback : env.backend = .ok backend) (hmeta : ValidMetadata backend.response) :
    (handleAttachRequest env d (.valid req)).2 = attachedState d req backend env.uuid := by
  have hhandled : handleAttach d.session (.valid req) (.ok backend.response) env.uuid =
      (.ok (d.session.commitAttach req backend.modelType backend.model.numLayers
          backend.model.numHeads backend.hiddenDim env.uuid).1,
        (d.session.commitAttach req backend.modelType backend.model.numLayers
          backend.model.numHeads backend.hiddenDim env.uuid).2) := by
    unfold handleAttach withParams
    dsimp only [Params.parse]
    rw [if_neg hmeta, hvalid]
    rfl
  unfold handleAttachRequest
  dsimp only
  rw [hvalid, hback]
  dsimp only
  rw [hhandled]
  rfl

lemma valid_of_handleAttachRequest (hok : (handleAttachRequest env d params).1.isOk = true) :
    ∃ req backend, params = .valid req ∧ d.session.validateAttach req = .ok () ∧
      env.backend = .ok backend ∧ ValidMetadata backend.response := by
  have hfail : ∀ params msg,
      (d.conclude (handleAttach d.session params (.error msg) env.uuid)).1.isOk = false := by
    intro params msg
    obtain ⟨error, herror⟩ := handleAttach_error d.session params msg env.uuid
    rw [herror]
    rfl
  cases params with
  | absent | malformed msg => exact absurd (hfail _ _ ▸ hok) nofun
  | valid req =>
    unfold handleAttachRequest at hok
    dsimp only at hok
    cases hvalid : d.session.validateAttach req with
    | error data =>
      rw [hvalid] at hok
      cases hok
    | ok _ =>
      rw [hvalid] at hok
      cases hback : env.backend with
      | error msg =>
        rw [hback] at hok
        exact absurd (hfail _ _ ▸ hok) nofun
      | ok backend =>
        refine ⟨req, backend, rfl, hvalid, rfl, fun hzero => ?_⟩
        rw [hback] at hok
        unfold handleAttach withParams at hok
        dsimp only [Params.parse] at hok
        rw [if_pos hzero] at hok
        cases hok

lemma validateAttach_congr {sess sess' : Session} (req : AttachRequest)
    (hstatus : sess.state.status = sess'.state.status)
    (hmodel : sess.state.modelId = sess'.state.modelId) :
    sess.validateAttach req = sess'.validateAttach req := by
  unfold Session.validateAttach Session.invalidStateError
  rw [hstatus, hmodel]

/-! ## Detaching, then attaching -/

/-- The daemon once its model has been detached. -/
def detachedState (d : DaemonState T) : DaemonState T :=
  { d with session := d.session.afterDetach, orchestrator := none, modelHandle := none }

lemma handleDetachRequest_of_isOk (hok : (handleDetachRequest d).1.isOk = true) :
    (handleDetachRequest d).2 = detachedState d := by
  unfold handleDetachRequest handleDetach at hok ⊢
  cases hdetach : d.session.detach with
  | error data =>
    rw [hdetach] at hok
    cases hok
  | ok detached =>
    obtain ⟨body, sess⟩ := detached
    obtain ⟨-, rfl⟩ := detach_of_ok hdetach
    rfl

/-- A new daemon once it has been initialized. -/
def initializedState (uuid : String) : DaemonState T :=
  { DaemonState.new with session := Session.new.afterInitialize uuid }

lemma initialize_of_isOk
    (hok : (handleRequest env DaemonState.new (.initialize_ params)).1.isOk = true) :
    served DaemonState.new (env, .initialize_ params) = initializedState env.uuid := by
  unfold served
  unfold handleRequest handleInitialize withParams at hok ⊢
  dsimp only at hok ⊢
  cases hparse : params.parse (missingField "client_name") with
  | error msg =>
    rw [hparse] at hok
    cases hok
  | ok req =>
    rw [hparse] at hok
    dsimp only at hok ⊢
    cases hinit : DaemonState.new.session.initializeSession req env.uuid with
    | error data =>
      rw [hinit] at hok
      cases hok
    | ok initialized =>
      obtain ⟨body, sess⟩ := initialized
      obtain ⟨-, rfl⟩ := initializeSession_of_ok hinit
      rfl

end RocketSurgeon.Daemon
