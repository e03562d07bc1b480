import RocketSurgeon.Daemon.Ticks

/-!
# Stepping backward

A backward step replays a whole pass from the latest checkpoint before the current tick.
Neither its count nor the tick of the checkpoint enters into where the replay stops: the
worker's clock is not set back, and counts on by the events of the pass.
-/

namespace RocketSurgeon.Daemon

open Lib Protocol Worker

variable {T : Type}

section

variable {env : Env T} {d : DaemonState T} {worker : WorkerState T} {handle : ℕ}

lemma tickId_backwardStep (hattached : d.attached = some (worker, handle))
    (hok : (handleRequest env d (.step ⟨true, params⟩)).1 = .ok body) :
    (handleRequest env d (.step ⟨true, params⟩)).2.session.state.tickId =
      some (worker.tickState.tickId +
        (passEvents (env.forwarded.bridge.forward (inputTensor none))).length) := by
  cases htried : (tryBackwardStep env d).1 with
  | none =>
    have hrejected : (handleRequest env d (.step ⟨true, params⟩)).1.isOk = false := by
      simp only [handleRequest, handleStepRequest, htried]
      rfl
    rw [hok] at hrejected
    cases hrejected
  | some host =>
    rw [handleRequest_of_replayed env d htried] at hok ⊢
    rw [(ticks_finishStepRequest htried hok).1, (tryBackwardStep_of_some hattached htried).1]

/-- **How far a backward step goes.**  A backward step of `k` ticks that succeeds takes a session
`k` ticks back exactly when that is where the worker's clock, run on by the events of one pass on the
default input, arrives. -/
theorem tickId_backwardStep_iff (hattached : d.attached = some (worker, handle))
    {req : StepRequest} {body : SuccessBody}
    (hok : (handleRequest env d (.step ⟨true, .valid req⟩)).1 = .ok body) :
    (handleRequest env d (.step ⟨true, .valid req⟩)).2.session.state.tickId =
        d.session.state.tickId.map (· - req.count) ↔
      d.session.state.tickId.map (· - req.count) = some (worker.tickState.tickId +
        (passEvents (env.forwarded.bridge.forward (inputTensor none))).length) := by
  rw [tickId_backwardStep hattached hok]
  exact eq_comm

end

/-! ### Two ticks back from tick three

One step into a pass a checkpoint is taken, before any layer container has put out anything,
and the pass is stepped to its end.  The next step cannot start a pass; the daemon counts its
three ticks all the same.  A backward step then replays a pass of two events from tick 0.
-/

/-- A world in which the forwarded request cannot start a pass. -/
def stuckEnv : Env ℤ :=
  { Env.calm echoBridge "stuck" with
    forwarded := ⟨{ echoBridge with startFailure := some .mailboxes }, .delivered⟩ }

/-- The Python side once both layer containers have put out something. -/
def lateBridge : Bridge ℤ := { echoBridge with activationAvailable := fun _ => .ok true }

/-- A daemon at tick three with a checkpoint at tick one. -/
def atTickThree : DaemonState ℤ :=
  servedAll (opened echoBridge)
    [(Env.calm echoBridge "s1", stepRequest .forward 1),
      (Env.calm echoBridge "c1", createRequest),
      (Env.calm lateBridge "s2", stepRequest .forward 5), (stuckEnv, stepRequest .forward 3)]

def stepBack (count : ℕ) : Response × DaemonState ℤ :=
  handleRequest (Env.calm echoBridge "back") atTickThree (stepRequest .backward count)

theorem tickId_stepBack_two_ne :
    atTickThree.attached.isSome = true ∧ atTickThree.session.state.tickId = some 3 ∧
      (atTickThree.session.findCheckpoint "c1").map CheckpointRef.tickId = some 1 ∧
      (stepBack 2).1.isOk = true ∧ (stepBack 2).2.session.state.tickId ≠ some (3 - 2) := by
  decide +kernel

/-- One tick back is where the replay happens to arrive. -/
theorem tickId_stepBack_one : (stepBack 1).2.session.state.tickId = some (3 - 1) := by
  have hattached : atTickThree.attached.isSome = true := by decide +kernel
  obtain ⟨⟨worker, handle⟩, hworker⟩ := Option.isSome_iff_exists.mp hattached
  have hsuccess : (stepBack 1).1.isOk = true := by decide +kernel
  obtain ⟨body, hok⟩ := exists_ok_of_isOk hsuccess
  have htick : atTickThree.session.state.tickId = some 3 := by decide +kernel
  have hback : atTickThree.session.state.tickId.map (· - 1) = some (3 - 1) := by rw [htick]; rfl
  refine ((tickId_backwardStep_iff hworker hok).mpr (hback.trans ?_)).trans hback
  have hclock : atTickThree.workerTick = some 0 := by decide +kernel
  rw [DaemonState.workerTick, (attached_eq_some_iff.mp hworker).1] at hclock
  rw [show worker.tickState.tickId = 0 from Option.some.inj hclock]
  rfl

end RocketSurgeon.Daemon
