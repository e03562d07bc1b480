import RocketSurgeon.Probes.Grammar
import RocketSurgeon.Protocol.Types
import RocketSurgeon.Worker.Arena

/-!
# The worker's state

A worker serves one model.  Its forward pass runs on a thread of its own, and a
capture hook on every component stops that thread at each module call: the hook
puts the call into the result mailbox and waits on the resume mailbox for the
worker's answer.  The worker's requests read a pass off its mailbox and answer
it.  `pending` is what the forward thread has still to put.

Three fields of a pass record what happened in it and are read by no function:
the `input` it was started on, the events `seen` by the worker and the
`resumePuts`, the values put into the resume mailbox.

What runs on the Python side (the model itself, tensor arithmetic, the capture
and restore of activations) is a `Bridge`, a parameter of every request.
-/

namespace RocketSurgeon.Worker

open Lib Protocol Probes

/-! ## Ticks -/

structure TickState where
  rank : ℕ
  layer : ℕ
  component : String
  callIndex : ℕ
  stepCount : ℕ
  phase : Phase
  token : ℕ
  operator : ℕ
  tokenPosition : Option ℕ
  deriving DecidableEq, Repr

namespace TickState

def new (rank : ℕ) : TickState where
  rank := rank
  layer := 0
  component := ""
  callIndex := 0
  stepCount := 0
  phase := .prefill
  token := 0
  operator := 0
  tokenPosition := none

/-- One traversal step within the current token. -/
def advance (tick : TickState) (component : String) (layer callIndex : ℕ) : TickState :=
  { tick with
    operator := tick.operator + 1
    layer, component, callIndex
    stepCount := tick.stepCount + 1
    tokenPosition := some tick.token }

/-- The next token: the operator clock starts over. -/
def advanceToken (tick : TickState) : TickState :=
  { tick with
    token := tick.token + 1
    operator := 0
    tokenPosition := some (tick.token + 1)
    phase := match tick.phase with
      | .prefill => .decode
      | phase => phase }

/-- `tick_id` is the operator clock. -/
def tickId (tick : TickState) : ℕ := tick.operator

def toTickPosition (tick : TickState) : TickPosition where
  tickId := tick.operator
  direction := .forward
  rank := some tick.rank
  layer := tick.layer
  component := tick.component
  event := .output
  replayOf := none
  phase := tick.phase
  tokenPosition := tick.tokenPosition
  clock := some ⟨tick.token, tick.operator⟩

@[simp] lemma tickId_advance (tick : TickState) (comp : String) (layer callIndex : ℕ) :
    (tick.advance comp layer callIndex).tickId = tick.tickId + 1 := rfl

end TickState

/-! ## The forward pass -/

variable {T : Type}

/-- What a capture hook puts: the module, how often it was called before, and its output. -/
structure HookEvent (T : Type) where
  path : String
  callIndex : ℕ
  output : Option T
  deriving DecidableEq, Repr

/-- A value in the result mailbox. -/
inductive MailItem (T : Type)
  | hook (event : HookEvent T)
  | forwardComplete
  deriving DecidableEq, Repr

structure ForwardPassState (T : Type) where
  captureHandles : List ℕ
  forwardComplete : Bool
  pending : List (MailItem T)
  input : List ℤ
  seen : List (HookEvent T)
  resumePuts : List (Option T)
  deriving DecidableEq, Repr

/-! ## Components -/

structure MappedComponent where
  modulePath : String
  canonical : String
  layerIndex : Option ℕ
  callIndex : ℕ
  probePoint : String
  deriving DecidableEq, Repr

structure ComponentMap where
  components : List MappedComponent
  modelFamily : String
  deriving DecidableEq, Repr

/-! ## The Python side -/

/-- The steps of starting a forward pass that can fail. -/
inductive StartStage
  | mailboxes
  | sentinelHooks
  | captureHooks
  | passiveHooks
  | runForward
  deriving DecidableEq, Repr

/-- The arguments of `apply_interventions_at_point`, apart from the tensor. -/
structure InterventionPoint where
  recipes : List InterventionRecipe
  family : String
  rank : ℕ
  layer : ℕ
  component : String
  event : String
  tickId : ℕ
  handle : ℕ
  deriving DecidableEq, Repr

/-- What the Python side does while one request is served.  A failing call carries its
message. -/
structure Bridge (T : Type) where
  /-- What the forward thread puts, in order, when it runs on the given token ids. -/
  forward : List ℤ → List (MailItem T)
  /-- The step at which starting a pass fails. -/
  startFailure : Option StartStage
  /-- Whether the model has a module of that path. -/
  hasModule : String → Bool
  applyInterventionsAtPoint : T → InterventionPoint → Except String (T × List String)
  /-- The last dimension of a tensor, `none` for a scalar. -/
  lastDim : T → Option ℕ
  getHeadSlice : T → ℕ → ℕ → Except String T
  setHeadSlice : T → ℕ → ℕ → T → Except String T
  activationAvailable : String → Except String Bool
  /-- Dtype, shape and bytes of the last output of a module. -/
  lastOutput : String → Except String (String × List ℤ × List UInt8)
  captureRngState : Except String (List UInt8)
  restoreRngState : List UInt8 → Except String Unit
  restoreActivation : String → List UInt8 → String → List ℤ → Except String Unit
  /-- Cosine similarity and relative error, when they are beyond the thresholds. -/
  compareActivations : List UInt8 → String → List ℤ → T → ℚ → ℚ → Except String (Option (ℚ × ℚ))
  useDeterministicAlgorithms : Bool → Except String Unit
  /-- Writing a spill file. -/
  writeSpill : Except String Unit

/-- A Python side on which every call succeeds and changes nothing, for a given network.  No
layer has put anything out yet. -/
def Bridge.quiet (forward : List ℤ → List (MailItem T)) : Bridge T where
  forward := forward
  startFailure := none
  hasModule := fun _ => true
  applyInterventionsAtPoint := fun tensor _ => .ok (tensor, [])
  lastDim := fun _ => none
  getHeadSlice := fun tensor _ _ => .ok tensor
  setHeadSlice := fun _ _ _ slice => .ok slice
  activationAvailable := fun _ => .ok false
  lastOutput := fun _ => .ok ("torch.float32", [1, 2, 8], List.replicate 64 0)
  captureRngState := .ok [0, 0, 0, 0]
  restoreRngState := fun _ => .ok ()
  restoreActivation := fun _ _ _ _ => .ok ()
  compareActivations := fun _ _ _ _ _ _ => .ok none
  useDeterministicAlgorithms := fun _ => .ok ()
  writeSpill := .ok ()

/-! ## The state -/

/-- The state of a worker.  The last two fields are the Python side's record of capture hooks:
those registered on the model, and the identity the next one will get. -/
structure WorkerState (T : Type) where
  componentMap : Option ComponentMap
  componentIndex : List ((String × ℕ) × ℕ)
  modulePaths : List String
  containerPaths : List String
  modelHandle : Option ℕ
  rank : ℕ
  numLayers : ℕ
  numHeads : ℕ
  tickState : TickState
  forwardPass : Option (ForwardPassState T)
  lastOutputs : Option (List ((String × ℕ) × T))
  activeProbes : List (ProbeDefinition × ProbePoint)
  checkpointArena : Option CheckpointArena
  registeredHooks : List ℕ
  nextHook : ℕ

namespace WorkerState

/-- `WorkerState::new`: a worker without a model. -/
def new : WorkerState T where
  componentMap := none
  componentIndex := []
  modulePaths := []
  containerPaths := []
  modelHandle := none
  rank := 0
  numLayers := 0
  numHeads := 0
  tickState := TickState.new 0
  forwardPass := none
  lastOutputs := none
  activeProbes := []
  checkpointArena := none
  registeredHooks := []
  nextHook := 0

/-- `build_component_index`: a later component replaces an earlier one of the same key. -/
def buildComponentIndex (map : ComponentMap) : List ((String × ℕ) × ℕ) :=
  map.components.zipIdx.foldl
    (fun index entry => FMap.insert index (entry.1.modulePath, entry.1.callIndex) entry.2) []

/-- Canonical name and layer of a module call; unknown calls are raw ones of layer 0. -/
def lookupComponent (st : WorkerState T) (path : String) (callIndex : ℕ) : String × ℕ :=
  let component := do
    let idx ← FMap.get st.componentIndex (path, callIndex)
    let map ← st.componentMap
    map.components[idx]?
  match component with
  | some component => (component.canonical, component.layerIndex.getD 0)
  | none => ("_raw." ++ path, 0)

def family (st : WorkerState T) : String :=
  match st.componentMap with
  | some map => map.modelFamily
  | none => "unknown"

end WorkerState

/-! ## Attaching -/

/-- What loading a model yields: its handle and dimensions, the resolved components, the paths
of the layer containers, and the geometry of the arena (slot size and number of slots). -/
structure AttachedModel where
  handle : ℕ
  rank : ℕ
  numLayers : ℕ
  numHeads : ℕ
  componentMap : ComponentMap
  containerPaths : List String
  slotSize : ℕ
  numSlots : ℕ

/-- What `handle_host_attach` stores once the model is loaded.  An arena that cannot be created
is only logged.  A model that has just been loaded has no hooks. -/
def attachModel (st : WorkerState T) (model : AttachedModel) : WorkerState T :=
  { st with
    componentMap := some model.componentMap
    componentIndex := WorkerState.buildComponentIndex model.componentMap
    modulePaths := model.componentMap.components.map MappedComponent.modulePath
    containerPaths := model.containerPaths
    modelHandle := some model.handle
    rank := model.rank
    numLayers := model.numLayers
    numHeads := model.numHeads
    tickState := TickState.new model.rank
    forwardPass := none
    checkpointArena :=
      match CheckpointArena.new model.slotSize model.numSlots with
      | .ok arena => some arena
      | .error _ => st.checkpointArena
    registeredHooks := [] }

/-- A model of two layers with one component each, and an arena of six slots. -/
def twoLayerModel : AttachedModel where
  handle := 1
  rank := 0
  numLayers := 2
  numHeads := 1
  componentMap := {
    components := [
      ⟨"layers.0.o_proj", "o_proj", some 0, 0, "llama:0:0:o_proj:0:output"⟩,
      ⟨"layers.1.o_proj", "o_proj", some 1, 0, "llama:0:1:o_proj:0:output"⟩]
    modelFamily := "llama" }
  containerPaths := ["layers.0", "layers.1"]
  slotSize := 128
  numSlots := 6

/-- A worker that has just attached that model. -/
def twoLayerWorker : WorkerState T := attachModel WorkerState.new twoLayerModel

/-! ## Starting and dropping a pass -/

/-- The input tensor of `run_forward`: the ids as signed words, or two zeros. -/
def inputTensor : Option (List ℕ) → List ℤ
  | some ids => ids.map fun id => Int.bmod id (2 ^ 64)
  | none => [0, 0]

/-- The handles `install_capture_hooks` returns: one for every component the model has. -/
def captureHandlesFor (bridge : Bridge T) (st : WorkerState T) : List ℕ :=
  List.range' st.nextHook (st.modulePaths.filter bridge.hasModule).length

/-- `install_capture_hooks`, as it changes the model. -/
def installCaptureHooks (bridge : Bridge T) (st : WorkerState T) : WorkerState T :=
  { st with
    registeredHooks := st.registeredHooks ++ captureHandlesFor bridge st
    nextHook := st.nextHook + (captureHandlesFor bridge st).length }

/-- What the forward thread puts when it runs on the model as it is.  On every module the new hooks
are called before those an earlier pass has left there, and these put into mailboxes of a pass that
is gone and wait for an answer that never comes.  So with such hooks the thread gets through the
new hooks of the first module that is called, and no further. -/
def forwardItems (bridge : Bridge T) (st : WorkerState T) (input : List ℤ) : List (MailItem T) :=
  if st.registeredHooks = [] then bridge.forward input
  else
    match bridge.forward input with
    | .hook event :: rest =>
        .hook event :: rest.take ((st.modulePaths.filter bridge.hasModule).count event.path - 1)
    | items => items

/-- A model without the hooks of earlier passes makes all its calls. -/
lemma forwardItems_of_unhooked {st : WorkerState T} (hunhooked : st.registeredHooks = [])
    (bridge : Bridge T) (input : List ℤ) : forwardItems bridge st input = bridge.forward input :=
  if_pos hunhooked

/-- What gets through is the beginning of what the model makes of the input. -/
lemma exists_forward_eq (bridge : Bridge T) (st : WorkerState T) (input : List ℤ) :
    ∃ rest, bridge.forward input = forwardItems bridge st input ++ rest := by
  unfold forwardItems
  split_ifs
  · exact ⟨[], (List.append_nil _).symm⟩
  · split
    next event rest hforward =>
      refine ⟨rest.drop ((st.modulePaths.filter bridge.hasModule).count event.path - 1), ?_⟩
      rw [hforward, List.cons_append, List.take_append_drop]
    · exact ⟨[], (List.append_nil _).symm⟩

/-- A pass whose forward thread has just been started. -/
def freshPass (bridge : Bridge T) (st : WorkerState T) (input : List ℤ) : ForwardPassState T where
  captureHandles := captureHandlesFor bridge st
  forwardComplete := false
  pending := forwardItems bridge st input
  input := input
  seen := []
  resumePuts := []

/-- `ensure_forward_pass`: start a pass unless there is one.  What was registered before a
failure stays registered. -/
def ensureForwardPass (bridge : Bridge T) (st : WorkerState T) (inputIds : Option (List ℕ)) :
    Except String Unit × WorkerState T :=
  if st.forwardPass.isSome then (.ok (), st)
  else
    let st := { st with lastOutputs := some [] }
    match bridge.startFailure with
    | some .mailboxes => (.error "create_mailbox failed", st)
    | some .sentinelHooks => (.error "install_sentinel_hooks failed", st)
    | some .captureHooks => (.error "install_capture_hooks failed", st)
    | failure =>
        let installed := installCaptureHooks bridge st
        if failure = some .passiveHooks ∧ st.containerPaths ≠ [] then
          (.error "install_passive_hooks failed", installed)
        else if failure = some .runForward then
          (.error "run_forward failed", installed)
        else
          (.ok (), { installed with
            forwardPass := some (freshPass bridge st (inputTensor inputIds)) })

/-- Whether starting a pass fails once its capture hooks are on the model. -/
def failsAfterHooks (bridge : Bridge T) (st : WorkerState T) : Prop :=
  bridge.startFailure = some .passiveHooks ∧ st.containerPaths ≠ [] ∨
    bridge.startFailure = some .runForward

/-- What `ensureForwardPass` can come to. -/
inductive StartOutcome (bridge : Bridge T) (st : WorkerState T) (inputIds : Option (List ℕ)) :
    Except String Unit × WorkerState T → Prop
  | running (hpass : st.forwardPass.isSome) : StartOutcome bridge st inputIds (.ok (), st)
  | failedEarly (hpass : st.forwardPass = none) (hlate : ¬ failsAfterHooks bridge st)
      (message : String) :
      StartOutcome bridge st inputIds (.error message, { st with lastOutputs := some [] })
  | failedLate (hpass : st.forwardPass = none) (hlate : failsAfterHooks bridge st)
      (message : String) :
      StartOutcome bridge st inputIds
        (.error message, installCaptureHooks bridge { st with lastOutputs := some [] })
  | started (hpass : st.forwardPass = none) (hlate : ¬ failsAfterHooks bridge st) :
      StartOutcome bridge st inputIds
        (.ok (), { installCaptureHooks bridge { st with lastOutputs := some [] } with
          forwardPass := some (freshPass bridge st (inputTensor inputIds)) })

lemma ensureForwardPass_outcome (bridge : Bridge T) (st : WorkerState T)
    (inputIds : Option (List ℕ)) :
    StartOutcome bridge st inputIds (ensureForwardPass bridge st inputIds) := by
  unfold ensureForwardPass
  split
  next hsome => exact .running hsome
  next hnone =>
    have hpass : st.forwardPass = none := by simpa using hnone
    split
    next hfailure => exact .failedEarly hpass (by simp [failsAfterHooks, hfailure]) _
    next hfailure => exact .failedEarly hpass (by simp [failsAfterHooks, hfailure]) _
    next hfailure => exact .failedEarly hpass (by simp [failsAfterHooks, hfailure]) _
    · dsimp only
      split
      next hpassive => exact .failedLate hpass (.inl hpassive) _
      next hpassive =>
        split
        next hforward => exact .failedLate hpass (.inr hforward) _
        next hforward =>
          exact .started hpass fun hlate => hlate.elim hpassive hforward

/-- The hooks of `handles` are removed from the model. -/
def removeHooks (st : WorkerState T) (handles : List ℕ) : WorkerState T :=
  { st with registeredHooks := st.registeredHooks.filter (· ∉ handles) }

/-- A step first drops a completed pass, with its hooks, and resets the clocks. -/
def dropCompletedPass (st : WorkerState T) : WorkerState T :=
  match st.forwardPass with
  | some pass =>
      if pass.forwardComplete then
        { removeHooks { st with forwardPass := none } pass.captureHandles with
          tickState := TickState.new st.rank }
      else st
  | none => st

/-! ## What starting a pass leaves alone -/

/-- Two states of a worker that serve the same model. -/
structure SameModel (st st' : WorkerState T) : Prop where
  componentMap : st'.componentMap = st.componentMap
  componentIndex : st'.componentIndex = st.componentIndex
  rank : st'.rank = st.rank
  numHeads : st'.numHeads = st.numHeads

/-- The arena, and what checkpoints need to know of the model, are the same too. -/
structure SameStore (st st' : WorkerState T) : Prop extends SameModel st st' where
  modelHandle : st'.modelHandle = st.modelHandle
  numLayers : st'.numLayers = st.numLayers
  containerPaths : st'.containerPaths = st.containerPaths
  checkpointArena : st'.checkpointArena = st.checkpointArena

/-- The two states differ at most in the pass: where it is, what it has put out, and the hooks that
capture it. -/
def OnlyPass (st st' : WorkerState T) : Prop :=
  ∃ tickState forwardPass lastOutputs registeredHooks nextHook,
    st' = { st with tickState, forwardPass, lastOutputs, registeredHooks, nextHook }

namespace OnlyPass

variable {st st' st'' : WorkerState T}

lemma refl (st : WorkerState T) : OnlyPass st st := ⟨_, _, _, _, _, rfl⟩

lemma trans (hfirst : OnlyPass st st') (hsecond : OnlyPass st' st'') : OnlyPass st st'' := by
  obtain ⟨_, _, _, _, _, rfl⟩ := hfirst
  obtain ⟨_, _, _, _, _, rfl⟩ := hsecond
  exact ⟨_, _, _, _, _, rfl⟩

lemma sameStore (honly : OnlyPass st st') : SameStore st st' := by
  obtain ⟨_, _, _, _, _, rfl⟩ := honly
  exact ⟨⟨rfl, rfl, rfl, rfl⟩, rfl, rfl, rfl, rfl⟩

lemma activeProbes (honly : OnlyPass st st') : st'.activeProbes = st.activeProbes := by
  obtain ⟨_, _, _, _, _, rfl⟩ := honly
  rfl

end OnlyPass

lemma SameStore.refl (st : WorkerState T) : SameStore st st := (OnlyPass.refl st).sameStore

lemma SameStore.trans {st st' st'' : WorkerState T} (hfirst : SameStore st st')
    (hsecond : SameStore st' st'') : SameStore st st'' where
  componentMap := hsecond.componentMap.trans hfirst.componentMap
  componentIndex := hsecond.componentIndex.trans hfirst.componentIndex
  rank := hsecond.rank.trans hfirst.rank
  numHeads := hsecond.numHeads.trans hfirst.numHeads
  modelHandle := hsecond.modelHandle.trans hfirst.modelHandle
  numLayers := hsecond.numLayers.trans hfirst.numLayers
  containerPaths := hsecond.containerPaths.trans hfirst.containerPaths
  checkpointArena := hsecond.checkpointArena.trans hfirst.checkpointArena

lemma onlyPass_dropCompletedPass (st : WorkerState T) : OnlyPass st (dropCompletedPass st) := by
  unfold dropCompletedPass removeHooks
  split
  · split
    · exact ⟨_, _, _, _, _, rfl⟩
    · exact OnlyPass.refl st
  · exact OnlyPass.refl st

lemma onlyPass_ensureForwardPass (bridge : Bridge T) (st : WorkerState T)
    (inputIds : Option (List ℕ)) : OnlyPass st (ensureForwardPass bridge st inputIds).2 := by
  have houtcome := ensureForwardPass_outcome bridge st inputIds
  generalize ensureForwardPass bridge st inputIds = started at houtcome ⊢
  cases houtcome with
  | running _ => exact OnlyPass.refl st
  | failedEarly _ _ _ | failedLate _ _ _ | started _ _ => exact ⟨_, _, _, _, _, rfl⟩

lemma tickState_ensureForwardPass (bridge : Bridge T) (st : WorkerState T)
    (inputIds : Option (List ℕ)) :
    (ensureForwardPass bridge st inputIds).2.tickState = st.tickState := by
  have houtcome := ensureForwardPass_outcome bridge st inputIds
  generalize ensureForwardPass bridge st inputIds = started at houtcome ⊢
  cases houtcome with
  | running _ | failedEarly _ _ _ | failedLate _ _ _ | started _ _ => rfl

end RocketSurgeon.Worker
