import RocketSurgeon.Worker.Interventions

/-!
# Stepping

`run_step_loop` receives hook events until the plan is exhausted or the pass is
complete.  Each event is stashed, ticks the clock, fires probes and is offered to
the interventions; then the plan decides.  If the loop stops on the event, the
hook is left waiting and the next request that resumes the pass answers it; if
not, the hook is answered with the modified output or with nothing.

`PassProgress` is what a pass moves along under any request; `StepCursor` adds the
local variables of the step loop.
-/

namespace RocketSurgeon.Worker

open Lib Protocol Probes

variable {T : Type}

/-! ## Progress of a pass -/

/-- The part of the state that receiving and answering events changes. -/
structure PassProgress (T : Type) where
  tick : TickState
  lastOutputs : Option (List ((String × ℕ) × T))
  seen : List (HookEvent T)
  resumePuts : List (Option T)

namespace PassProgress

/-- `stash_tensor_output`. -/
def stash (lastOutputs : Option (List ((String × ℕ) × T))) (event : HookEvent T) :
    Option (List ((String × ℕ) × T)) :=
  match lastOutputs, event.output with
  | some outputs, some output => some (FMap.insert outputs (event.path, event.callIndex) output)
  | outputs, _ => outputs

/-- Receive an event: stash its output and tick the clock. -/
def receive (st : WorkerState T) (progress : PassProgress T) (event : HookEvent T) :
    PassProgress T :=
  let component := st.lookupComponent event.path event.callIndex
  { progress with
    tick := progress.tick.advance component.1 component.2 event.callIndex
    lastOutputs := stash progress.lastOutputs event
    seen := progress.seen ++ [event] }

/-- Put a value into the resume mailbox. -/
def put (progress : PassProgress T) (value : Option T) : PassProgress T :=
  { progress with resumePuts := progress.resumePuts ++ [value] }

end PassProgress

/-- The progress of a state whose pass is `pass`. -/
def WorkerState.progress (st : WorkerState T) (pass : ForwardPassState T) : PassProgress T :=
  ⟨st.tickState, st.lastOutputs, pass.seen, pass.resumePuts⟩

/-- Write the progress of a pass back, with what its thread has still to put. -/
def WorkerState.withProgress (st : WorkerState T) (pass : ForwardPassState T)
    (progress : PassProgress T) (pending : List (MailItem T)) (forwardComplete : Bool) :
    WorkerState T :=
  { st with
    tickState := progress.tick
    lastOutputs := progress.lastOutputs
    forwardPass := some { pass with
      pending, forwardComplete
      seen := progress.seen
      resumePuts := progress.resumePuts } }

/-! ## Probes -/

def buildTickProbePoint (family : String) (rank layer : ℕ) (canonical : String)
    (callIndex : ℕ) : ProbePoint :=
  ⟨.name family, .num rank, .num layer, .path [.named canonical], .num callIndex, .name "output"⟩

/-- The loop of `evaluate_probes`: the events so far, and whether the budget cut them short. -/
def evaluateProbes (rank tickId : ℕ) (point : ProbePoint) (budget : ℕ) :
    List (ProbeDefinition × ProbePoint) → List ProbeFiredEvent → List ProbeFiredEvent × Bool
  | [], events => (events, false)
  | (probe, pattern) :: rest, events =>
      if pattern.isMatch point then
        if budget ≤ events.length then (events, true)
        else evaluateProbes rank tickId point budget rest
          (events ++ [⟨probe.id, point.display, tickId, probe.action, rank⟩])
      else evaluateProbes rank tickId point budget rest events

/-! ## The plan -/

structure StepPlan where
  ticksToDrain : ℕ
  granularity : TickGranularity
  deriving DecidableEq, Repr

def planStep (count : ℕ) (granularity : Option TickGranularity) : StepPlan :=
  ⟨count, granularity.getD .component⟩

inductive DrainState
  | counting
  | draining
  deriving DecidableEq, Repr

def isLayerBoundary : Option ℕ → ℕ → Bool
  | none, _ => false
  | some previous, layer => layer ≠ previous

/-! ## The loop -/

/-- The local variables of the step loop. -/
structure StepCursor (T : Type) where
  progress : PassProgress T
  ticksConsumed : ℕ
  trackingLayer : Option ℕ
  drainState : DrainState
  allEvents : List ProbeFiredEvent
  allEventsTruncated : Bool
  allFired : List String

namespace StepCursor

/-- Fire the active probes at a received event, within the budget of the request. -/
def probe (st : WorkerState T) (req : HostStepRequest) (cursor : StepCursor T)
    (canonical : String) (layer callIndex : ℕ) : StepCursor T :=
  if cursor.allEventsTruncated ∨ st.activeProbes = [] then cursor
  else
    let point := buildTickProbePoint st.family st.rank layer canonical callIndex
    let budget := req.maxEvents.getD 256 - cursor.allEvents.length
    let fired := evaluateProbes st.rank cursor.progress.tick.tickId point budget st.activeProbes []
    { cursor with
      allEvents := cursor.allEvents ++ fired.1
      allEventsTruncated := fired.2 }

/-- Receive an event and fire its probes. -/
def observe (st : WorkerState T) (req : HostStepRequest) (cursor : StepCursor T)
    (event : HookEvent T) : StepCursor T :=
  let component := st.lookupComponent event.path event.callIndex
  { cursor with progress := cursor.progress.receive st event }.probe st req component.1
    component.2 event.callIndex

/-- Count an event against the plan; `true` stops the loop on it. -/
def count (plan : StepPlan) (cursor : StepCursor T) (layer : ℕ) : Bool × StepCursor T :=
  if plan.granularity = .layer then
    if isLayerBoundary cursor.trackingLayer layer then
      if cursor.drainState = .draining then (true, cursor)
      else
        let ticksConsumed := cursor.ticksConsumed + 1
        (false, { cursor with
          ticksConsumed
          drainState := if plan.ticksToDrain ≤ ticksConsumed then .draining else .counting
          trackingLayer := some layer })
    else (false, { cursor with trackingLayer := some layer })
  else
    let ticksConsumed := cursor.ticksConsumed + 1
    (decide (plan.ticksToDrain ≤ ticksConsumed), { cursor with ticksConsumed })

/-- Answer the hook of an event, with the modified output if an intervention fired. -/
def answer (cursor : StepCursor T) : Option (T × List String) → StepCursor T
  | some (modified, fired) =>
      { cursor with
        progress := cursor.progress.put (some modified)
        allFired := cursor.allFired ++ fired }
  | none => { cursor with progress := cursor.progress.put none }

end StepCursor

/-- How a loop ended: with a failure, or with whether the pass is complete; where its cursor
stood; and what the forward thread has still to put. -/
structure StepEnd (T : Type) where
  result : Except String Bool
  cursor : StepCursor T
  pending : List (MailItem T)

/-- What the interventions of a request do to an event that has just been received. -/
def react (bridge : Bridge T) (st : WorkerState T) (handle : ℕ)
    (recipes : List InterventionRecipe) (tickId : ℕ) (event : HookEvent T) :
    Except String (Option (T × List String)) :=
  let component := st.lookupComponent event.path event.callIndex
  tryApplyInterventions bridge st tickId recipes event component.2 component.1 handle

/-- The loop of `run_step_loop`.  A mailbox nothing more is put into times out. -/
def stepLoop (bridge : Bridge T) (st : WorkerState T) (handle : ℕ) (req : HostStepRequest) :
    List (MailItem T) → StepCursor T → StepEnd T
  | [], cursor => ⟨.error "TimeoutError", cursor, []⟩
  | .forwardComplete :: rest, cursor => ⟨.ok true, cursor, rest⟩
  | .hook event :: rest, cursor =>
      let observed := cursor.observe st req event
      match react bridge st handle req.interventions observed.progress.tick.tickId event with
      | .error message => ⟨.error message, observed, rest⟩
      | .ok reaction =>
          let layer := (st.lookupComponent event.path event.callIndex).2
          let counted := observed.count (planStep req.count req.granularity) layer
          if counted.1 then ⟨.ok false, counted.2, rest⟩
          else stepLoop bridge st handle req rest (counted.2.answer reaction)

/-- The cursor a step starts with.  A resumed pass is first sent on with an empty answer. -/
def startCursor (st : WorkerState T) (pass : ForwardPassState T) (resuming : Bool) :
    StepCursor T where
  progress := if resuming then (st.progress pass).put none else st.progress pass
  ticksConsumed := 0
  trackingLayer := if resuming then some st.tickState.layer else none
  drainState := .counting
  allEvents := []
  allEventsTruncated := false
  allFired := []

/-- The state and the response after the loop has ended. -/
def finishStep (st : WorkerState T) (pass : ForwardPassState T) (ended : StepEnd T) :
    Except String HostStepResponse × WorkerState T :=
  match ended.result with
  | .error message =>
      (.error message, st.withProgress pass ended.cursor.progress ended.pending false)
  | .ok forwardComplete =>
      let progress := if forwardComplete then
          { ended.cursor.progress with tick := ended.cursor.progress.tick.advanceToken }
        else ended.cursor.progress
      (.ok {
        position := progress.tick.toTickPosition
        events := ended.cursor.allEvents
        forwardComplete
        eventsTruncated := ended.cursor.allEventsTruncated
        firedInterventions := ended.cursor.allFired },
      st.withProgress pass progress ended.pending forwardComplete)

/-- `run_step_loop`. -/
def runStepLoop (bridge : Bridge T) (st : WorkerState T) (handle : ℕ) (req : HostStepRequest) :
    Except String HostStepResponse × WorkerState T :=
  let st := dropCompletedPass st
  let resuming := st.forwardPass.isSome
  match ensureForwardPass bridge st req.inputIds with
  | (.error message, st) => (.error message, st)
  | (.ok (), st) =>
      match st.forwardPass with
      | none => (.error "forward pass not initialized", st)
      | some pass =>
          finishStep st pass
            (stepLoop bridge st handle req pass.pending (startCursor st pass resuming))

/-- `handle_host_step` behind the parsing of its parameters. -/
def handleHostStep (bridge : Bridge T) (st : WorkerState T) (req : HostStepRequest) :
    Except String HostStepResponse × WorkerState T :=
  match st.modelHandle with
  | none => (.error "No model loaded", st)
  | some handle =>
      if req.modelHandle ≠ handle then
        (.error s!"model handle mismatch: expected {handle}, got {req.modelHandle}", st)
      else if st.componentMap = none then (.error "No component map available", st)
      else
        let ran := runStepLoop bridge st handle req
        (ran.1.mapError fun message => s!"step failed: {message}", ran.2)

end RocketSurgeon.Worker
