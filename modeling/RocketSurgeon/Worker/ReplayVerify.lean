import RocketSurgeon.Lib.Text
import RocketSurgeon.Worker.Adapter
import RocketSurgeon.Worker.StepRun

/-!
# What a verifying replay compares

A checkpoint stores, for every boundary layer, the output of the layer's container.  A replay that
verifies goes by the layer alone: `check_divergence_at_boundary` compares the output of every module
call that is counted for a boundary layer with the slot of that layer.

Comparing like with like would be to compare a slot with the container it was filled from and with
nothing else.  `LikeWithLike` says that of a replay.  But the worker receives events of components
only, and `resolve_with_containers` makes no component of a container.  So whatever is compared is
compared with something else, and a replay compares like with like only if it compares nothing.
-/

namespace RocketSurgeon.Worker

open Lib Protocol Probes List Option

variable {T : Type} {st : WorkerState T} {layer : ℕ}

/-! ## The comparison as a predicate -/

/-- The measures of a comparison that fails, from the stored bytes with their dtype and shape, the
replayed output and the two thresholds. -/
abbrev Comparison (T : Type) :=
  List UInt8 → String → List ℤ → T → ℚ → ℚ → Option (ℚ × ℚ)

/-- A comparison accepts what is the same tensor as the stored one. -/
def AcceptsEqual (Same : List UInt8 → String → List ℤ → T → Prop) (compare : Comparison T) : Prop :=
  ∀ data dtype shape output cosineThreshold mreThreshold, Same data dtype shape output →
    compare data dtype shape output cosineThreshold mreThreshold = none

/-- The comparison that never fails. -/
def acceptAll : Comparison T := fun _ _ _ _ _ _ => none

lemma acceptsEqual_acceptAll (Same : List UInt8 → String → List ℤ → T → Prop) :
    AcceptsEqual Same acceptAll := fun _ _ _ _ _ _ _ => rfl

/-- The Python side with `compare` for its `compare_activations_from_ptr`. -/
def Bridge.comparing (bridge : Bridge T) (compare : Comparison T) : Bridge T :=
  { bridge with
    compareActivations := fun data dtype shape output cosineThreshold mreThreshold =>
      .ok (compare data dtype shape output cosineThreshold mreThreshold) }

/-! ## Slots and containers -/

/-- What the checkpoint of the request holds for a boundary layer: the bytes, the dtype and the
shape. -/
def storedFor (st : WorkerState T) (req : HostReplayRequest) (layer : ℕ) :
    Option (List UInt8 × String × List ℤ) :=
  if layer ∈ checkpointLayers st.numLayers then
    st.checkpointArena.bind fun arena =>
      (arena.getSlot req.checkpointId layer).map fun slot =>
        (arena.dataAt slot.1 slot.2.byteLen, slot.2.dtype.toTorchStr,
          (slot.2.shape.take slot.2.ndim).map Int.ofNat)
  else none

/-- The measures of an output that fails the comparison with the slot of a layer. -/
def failure (compare : Comparison T) (st : WorkerState T) (req : HostReplayRequest) (layer : ℕ)
    (output : T) : Option (ℚ × ℚ) :=
  (storedFor st req layer).bind fun slot =>
    compare slot.1 slot.2.1 slot.2.2 output req.cosineThreshold req.mreThreshold

/-- The output of the event fails the comparison with the slot of a layer. -/
def Fails (compare : Comparison T) (st : WorkerState T) (req : HostReplayRequest) (layer : ℕ)
    (event : HookEvent T) : Prop :=
  ∃ output, event.output = some output ∧ failure compare st req layer output ≠ none

/-- The event is the call whose output a checkpoint stores for the layer: the first call of the
container `build_layer_container_map` gives the layer. -/
def IsContainerOf (st : WorkerState T) (layer : ℕ) (event : HookEvent T) : Prop :=
  FMap.get (buildLayerContainerMap st.containerPaths) layer = some event.path ∧ event.callIndex = 0

instance (st : WorkerState T) (layer : ℕ) (event : HookEvent T) :
    Decidable (IsContainerOf st layer event) :=
  inferInstanceAs (Decidable (_ ∧ _))

/-- The replay compares the event with the slot of the layer it is counted for. -/
def Compared (st : WorkerState T) (req : HostReplayRequest) (event : HookEvent T) : Prop :=
  (storedFor st req (st.layerOf event)).isSome ∧ event.output.isSome

instance (st : WorkerState T) (req : HostReplayRequest) (event : HookEvent T) :
    Decidable (Compared st req event) :=
  inferInstanceAs (Decidable (_ ∧ _))

/-- The replay has come to the layer. -/
def Reached (st : WorkerState T) (events : List (HookEvent T)) (layer : ℕ) : Prop :=
  ∃ event ∈ events, st.layerOf event = layer ∨ IsContainerOf st layer event

/-! ## The divergences of a replay -/

/-- The point a divergence is recorded at. -/
def divergencePoint (st : WorkerState T) (layer : ℕ) (canonical : String) : String :=
  s!"{st.family}:0:{layer}:{canonical}:output"

/-- The divergence of a comparison with these measures, if it has failed. -/
def recorded (st : WorkerState T) (tickId preReplayTick layer : ℕ) (canonical : String) :
    Option (ℚ × ℚ) → List Divergence
  | none => []
  | some (cosine, mre) => [{
      tickId
      originalTickId := preReplayTick
      probePoint := divergencePoint st layer canonical
      cosineSimilarity := cosine
      maxRelativeError := mre }]

/-- What an event adds to the divergences. -/
def divergencesAt (compare : Comparison T) (st : WorkerState T) (req : HostReplayRequest)
    (preReplayTick tickId : ℕ) (event : HookEvent T) : List Divergence :=
  let component := st.lookupComponent event.path event.callIndex
  recorded st tickId preReplayTick component.2 component.1
    (event.output.bind (failure compare st req component.2))

/-- What the events behind a tick add. -/
def divergencesThrough (compare : Comparison T) (st : WorkerState T) (req : HostReplayRequest)
    (preReplayTick tickId : ℕ) : List (HookEvent T) → List Divergence
  | [] => []
  | event :: events =>
      divergencesAt compare st req preReplayTick (tickId + 1) event ++
        divergencesThrough compare st req preReplayTick (tickId + 1) events

section Loop

variable {bridge : Bridge T} {compare : Comparison T} {st : WorkerState T} {handle : ℕ}
  {req : HostReplayRequest} {preReplayTick : ℕ}

lemma checkDivergenceAtBoundary_comparing (tickId layer : ℕ) (canonical : String)
    (event : HookEvent T) :
    checkDivergenceAtBoundary (bridge.comparing compare) st req tickId preReplayTick layer canonical
        event =
      .ok (recorded st tickId preReplayTick layer canonical
        (event.output.bind (failure compare st req layer))) := by
  unfold checkDivergenceAtBoundary
  have hnothing (hstored : storedFor st req layer = none) :
      event.output.bind (failure compare st req layer) = none := by
    cases event.output <;> simp [failure, hstored]
  split_ifs with hboundary
  · split
    next hslot =>
      have hstored : storedFor st req layer = none := by
        rw [storedFor, if_pos hboundary]
        simpa using hslot
      rw [hnothing hstored]
      rfl
    next arena off hdr hslot =>
      have hstored : storedFor st req layer = some (arena.dataAt off hdr.byteLen,
          hdr.dtype.toTorchStr, (hdr.shape.take hdr.ndim).map Int.ofNat) := by
        obtain ⟨arena', harena, hget⟩ := bind_eq_some_iff.mp hslot
        obtain ⟨slot, hget, heq⟩ := map_eq_some_iff.mp hget
        cases heq
        simp [storedFor, hboundary, harena, hget]
      cases houtput : event.output with
      | none => rfl
      | some output =>
        rw [bind_some, failure, hstored]
        simp only [bind_some, Bridge.comparing]
        cases compare (arena.dataAt off hdr.byteLen) hdr.dtype.toTorchStr
          ((hdr.shape.take hdr.ndim).map Int.ofNat) output req.cosineThreshold
          req.mreThreshold <;> rfl
  · rw [hnothing (if_neg hboundary)]
    rfl

lemma verifyEvent_comparing (hverify : req.verify = true) (tickId : ℕ) (event : HookEvent T) :
    verifyEvent (bridge.comparing compare) st req tickId preReplayTick event =
      .ok (divergencesAt compare st req preReplayTick tickId event) := by
  rw [verifyEvent, if_pos hverify, checkDivergenceAtBoundary_comparing]
  rfl

/-- A verifying loop records what its events add, one after the other. -/
lemma replayLoop_divergences (hverify : req.verify = true) (items : List (MailItem T))
    (cursor : ReplayCursor T) :
    let ended := replayLoop (bridge.comparing compare) st handle req preReplayTick items cursor
    ∃ events, ended.cursor.progress.seen = cursor.progress.seen ++ events ∧
      ended.cursor.divergences = cursor.divergences ++
        divergencesThrough compare st req preReplayTick cursor.progress.tick.tickId events := by
  induction items generalizing cursor with
  | nil => exact ⟨[], (append_nil _).symm, (append_nil _).symm⟩
  | cons item rest ih =>
    cases item with
    | forwardComplete => exact ⟨[], (append_nil _).symm, (append_nil _).symm⟩
    | hook event =>
      simp only [replayLoop, verifyEvent_comparing hverify]
      have hone : divergencesThrough compare st req preReplayTick cursor.progress.tick.tickId
          [event] = divergencesAt compare st req preReplayTick
            (cursor.progress.receive st event).tick.tickId event := append_nil _
      split_ifs
      · exact ⟨[event], rfl, by rw [hone]⟩
      · split
        · exact ⟨[event], rfl, by rw [hone]⟩
        next value _ =>
          obtain ⟨events, hseen, hdivergences⟩ := ih { cursor with
            progress := (cursor.progress.receive st event).put value
            ticks := cursor.ticks + 1
            divergences := cursor.divergences ++ divergencesAt compare st req preReplayTick
              (cursor.progress.receive st event).tick.tickId event }
          refine ⟨event :: events, ?_, ?_⟩
          · rw [hseen]
            simp [PassProgress.receive, PassProgress.put]
          · rw [hdivergences, divergencesThrough, append_assoc]
            rfl

/-- The events up to the one a replay stops on. -/
def untilStop (st : WorkerState T) (stopAt : Option ReplayStopAt) :
    List (HookEvent T) → List (HookEvent T)
  | [] => []
  | event :: rest =>
      let component := st.lookupComponent event.path event.callIndex
      if shouldStop stopAt component.2 component.1 then [event]
      else event :: untilStop st stopAt rest

/-- The events a replay receives if no call fails. -/
def received (bridge : Bridge T) (st : WorkerState T) (req : HostReplayRequest) :
    List (HookEvent T) :=
  untilStop st req.stopAt (passEvents (forwardItems bridge st (inputTensor none)))

lemma replayLoop_seen {items : List (MailItem T)} {cursor : ReplayCursor T}
    (hok : (replayLoop bridge st handle req preReplayTick items cursor).result = .ok complete) :
    (replayLoop bridge st handle req preReplayTick items cursor).cursor.progress.seen =
      cursor.progress.seen ++ untilStop st req.stopAt (passEvents items) := by
  induction items generalizing cursor with
  | nil => cases hok
  | cons item rest ih =>
    cases item with
    | forwardComplete => exact (append_nil _).symm
    | hook event =>
      simp only [replayLoop, passEvents, untilStop] at hok ⊢
      -- Neither the comparison nor the interventions can have failed.
      cases hverify : verifyEvent bridge st req (cursor.progress.receive st event).tick.tickId
          preReplayTick event with
      | error message =>
        rw [hverify] at hok
        cases hok
      | ok divergences =>
        simp only [hverify] at hok ⊢
        split_ifs at hok ⊢ with hstops
        · rfl
        · cases hreact : replayReaction bridge st handle req.interventions
              (cursor.progress.receive st event).tick.tickId event with
          | error message =>
            rw [hreact] at hok
            cases hok
          | ok value =>
            simp only [hreact] at hok ⊢
            rw [ih hok]
            simp [PassProgress.receive, PassProgress.put]

end Loop

/-! ## The layer of a divergence -/

/-- The point of a divergence tells its layer. -/
lemma layer_of_divergencePoint_eq
    (heq : divergencePoint st layer canonical = divergencePoint st layer' canonical') :
    layer = layer' := by
  have hsplit (n : ℕ) (rest : List Char) :
      splitOnce ':' (Nat.toDigits 10 n ++ ':' :: rest) = some (Nat.toDigits 10 n, rest) :=
    splitOnce_append (not_mem_toDigits (by decide) n) rest
  have hchars := congrArg String.toList heq
  simp only [divergencePoint, toString, String.toList_append, append_assoc,
    append_cancel_left_eq, Nat.toList_repr] at hchars
  have hparts := congrArg (splitOnce ':') hchars
  rw [show ":".toList = [':'] from rfl, singleton_append, singleton_append, hsplit,
    hsplit] at hparts
  have hdigits : Nat.toDigits 10 layer = Nat.toDigits 10 layer' :=
    congrArg Prod.fst (some.inj hparts)
  calc layer
      = Nat.ofDigitChars 10 (Nat.toDigits 10 layer) 0 := Nat.ofDigitChars_ten_toDigits.symm
    _ = Nat.ofDigitChars 10 _ 0 := by rw [hdigits]
    _ = layer' := Nat.ofDigitChars_ten_toDigits

/-- A divergence is recorded for the layer. -/
def Records (st : WorkerState T) (divergences : List Divergence) (layer : ℕ) : Prop :=
  ∃ divergence ∈ divergences, ∃ canonical,
    divergence.probePoint = divergencePoint st layer canonical

lemma records_append :
    Records st (divergences ++ more) layer ↔
      Records st divergences layer ∨ Records st more layer := by
  simp only [Records, mem_append, or_and_right, exists_or]

section Divergences

variable (compare : Comparison T) (st : WorkerState T) (req : HostReplayRequest)
  (preReplayTick tickId : ℕ)

/-- An event adds a divergence, for the layer it is counted for, exactly if it fails there. -/
lemma divergencesAt_cases (event : HookEvent T) :
    (¬ Fails compare st req (st.layerOf event) event ∧
        divergencesAt compare st req preReplayTick tickId event = []) ∨
    (Fails compare st req (st.layerOf event) event ∧
      ∃ divergence canonical, divergence.probePoint =
          divergencePoint st (st.layerOf event) canonical ∧
        divergencesAt compare st req preReplayTick tickId event = [divergence]) := by
  cases hfound : event.output.bind (failure compare st req (st.layerOf event)) with
  | none =>
    left
    constructor
    · rintro ⟨output, houtput, hfails⟩
      rw [houtput] at hfound
      exact hfails hfound
    · exact congrArg (recorded st _ _ _ _) hfound
  | some measures =>
    right
    obtain ⟨output, houtput, hfails⟩ := bind_eq_some_iff.mp hfound
    refine ⟨⟨output, houtput, by simp [hfails]⟩, _,
      (st.lookupComponent event.path event.callIndex).1, ?_,
      congrArg (recorded st tickId preReplayTick _ _) hfound⟩
    rfl

lemma records_divergencesAt_iff (event : HookEvent T) (layer : ℕ) :
    Records st (divergencesAt compare st req preReplayTick tickId event) layer ↔
      st.layerOf event = layer ∧ Fails compare st req layer event := by
  rcases divergencesAt_cases compare st req preReplayTick tickId event with
    ⟨hpasses, hat⟩ | ⟨hfails, divergence, canonical, hpoint, hat⟩
  · rw [hat]
    constructor
    · rintro ⟨_, hmem, -⟩
      cases hmem
    · rintro ⟨rfl, hfails⟩
      exact absurd hfails hpasses
  · rw [hat]
    constructor
    · rintro ⟨other, hmem, canonical', hother⟩
      rw [mem_singleton.mp hmem, hpoint] at hother
      obtain rfl := layer_of_divergencePoint_eq hother
      exact ⟨rfl, hfails⟩
    · rintro ⟨rfl, -⟩
      exact ⟨divergence, mem_singleton_self _, canonical, hpoint⟩

lemma records_divergencesThrough_iff (events : List (HookEvent T)) (layer : ℕ) :
    Records st (divergencesThrough compare st req preReplayTick tickId events) layer ↔
      ∃ event ∈ events, st.layerOf event = layer ∧ Fails compare st req layer event := by
  induction events generalizing tickId with
  | nil => simp [divergencesThrough, Records]
  | cons event events ih =>
    rw [divergencesThrough, records_append, records_divergencesAt_iff, ih]
    simp only [mem_cons, or_and_right, exists_or, exists_eq_left]

lemma divergencesThrough_eq_nil_iff (events : List (HookEvent T)) :
    divergencesThrough compare st req preReplayTick tickId events = [] ↔
      ∀ event ∈ events, ¬ Fails compare st req (st.layerOf event) event := by
  induction events generalizing tickId with
  | nil => simp [divergencesThrough]
  | cons event events ih =>
    have hevent : divergencesAt compare st req preReplayTick (tickId + 1) event = [] ↔
        ¬ Fails compare st req (st.layerOf event) event := by
      rcases divergencesAt_cases compare st req preReplayTick (tickId + 1) event with
        ⟨hpasses, hat⟩ | ⟨hfails, divergence, canonical, -, hat⟩
      · simp [hat, hpasses]
      · simp [hat, hfails]
    rw [divergencesThrough, append_eq_nil_iff, ih, hevent, forall_mem_cons]

end Divergences

/-! ## Whole replays -/

section Replay

variable {bridge : Bridge T} {compare : Comparison T} {st : WorkerState T} {handle : ℕ}
  {req : HostReplayRequest} {response : HostReplayResponse} {st' : WorkerState T}

lemma OnlyPass.divergencesThrough (honly : OnlyPass st st') (compare : Comparison T)
    (req : HostReplayRequest) (preReplayTick tickId : ℕ) (events : List (HookEvent T)) :
    Worker.divergencesThrough compare st' req preReplayTick tickId events =
      Worker.divergencesThrough compare st req preReplayTick tickId events := by
  obtain ⟨_, _, _, _, _, rfl⟩ := honly
  induction events generalizing tickId with
  | nil => rfl
  | cons event events ih => exact congrArg _ (ih _)

/-- The divergences of a verifying replay are those of the events it has seen. -/
lemma runReplayLoop_divergences (hverify : req.verify = true)
    (hok : runReplayLoop (bridge.comparing compare) st handle req = (.ok response, st')) :
    ∃ events, eventsSeen st' = some events ∧
      response.divergences = divergencesThrough compare st req st.tickState.tickId
        st.tickState.tickId events ∧
      response.verified = response.divergences.isEmpty := by
  obtain ⟨st₀, -, hensure, -, hseen, -, rfl⟩ := runReplayLoop_loop hok
  have honly : OnlyPass st st₀ := by
    have hdrop : OnlyPass st { st with forwardPass := none } := ⟨_, _, _, _, _, rfl⟩
    have hstart := onlyPass_ensureForwardPass (bridge.comparing compare)
      { st with forwardPass := none } none
    rw [hensure] at hstart
    exact hdrop.trans hstart
  obtain ⟨events, hevents, hloop⟩ := @replayLoop_divergences T bridge compare st₀ handle req
    st.tickState.tickId hverify _
    ⟨⟨st.tickState, st₀.lastOutputs, [], []⟩, 0, []⟩
  exact ⟨events, hseen.trans (congrArg some hevents),
    hloop.trans (honly.divergencesThrough compare req _ _ events), rfl⟩

lemma OnlyPass.untilStop (honly : OnlyPass st st') (stopAt : Option ReplayStopAt)
    (events : List (HookEvent T)) :
    Worker.untilStop st' stopAt events = Worker.untilStop st stopAt events := by
  obtain ⟨_, _, _, _, _, rfl⟩ := honly
  induction events with
  | nil => rfl
  | cons event events ih =>
    rw [Worker.untilStop, Worker.untilStop, ih]
    rfl

/-- A replay that succeeds has seen what it receives if no call fails. -/
lemma eventsSeen_runReplayLoop (hok : runReplayLoop bridge st handle req = (.ok response, st')) :
    eventsSeen st' = some (received bridge st req) := by
  obtain ⟨st₀, complete, hensured, hresult, hseen, -⟩ := runReplayLoop_loop hok
  have hstarted := onlyPass_ensureForwardPass bridge { st with forwardPass := none } none
  rw [hensured] at hstarted
  have hdropped : OnlyPass st { st with forwardPass := none } := ⟨_, _, _, _, _, rfl⟩
  refine hseen.trans (congrArg some ?_)
  rw [replayLoop_seen hresult, (hdropped.trans hstarted).untilStop]
  rfl

/-- A replay has compared like with like.  A divergence is recorded for a layer exactly if the layer
is stored and its container fails, only containers are compared with the slots of their layers, and a
replay that is verified has compared the container of every stored layer it has come to. -/
structure LikeWithLike (compare : Comparison T) (st : WorkerState T) (req : HostReplayRequest)
    (events : List (HookEvent T)) (response : HostReplayResponse) : Prop where
  recorded (layer : ℕ) : Records st response.divergences layer ↔
    (storedFor st req layer).isSome ∧
      ∃ event ∈ events, IsContainerOf st layer event ∧ Fails compare st req layer event
  others : ∀ event ∈ events, Compared st req event → IsContainerOf st (st.layerOf event) event
  verified : response.verified = true → ∀ layer, (storedFor st req layer).isSome →
    Reached st events layer → ∃ event ∈ events, IsContainerOf st layer event ∧
      st.layerOf event = layer ∧ Compared st req event ∧ ¬ Fails compare st req layer event

/-- Replays of the request compare like with like, whatever the comparison is that accepts equal
tensors. -/
def VerifiesLikeWithLike (Same : List UInt8 → String → List ℤ → T → Prop) (bridge : Bridge T)
    (st : WorkerState T) (handle : ℕ) (req : HostReplayRequest) : Prop :=
  ∀ compare, AcceptsEqual Same compare → ∀ response st',
    runReplayLoop (bridge.comparing compare) st handle req = (.ok response, st') →
      ∀ events, eventsSeen st' = some events → LikeWithLike compare st req events response

/-- The worker serves a model whose modules `resolve_with_containers` has named, in any order of
execution. -/
def Resolved (st : WorkerState T) : Prop :=
  ∃ modules config rank map executionOrder, (modules.map RawModule.path).Nodup ∧
    resolveWithContainers modules config rank = .ok (map, st.containerPaths) ∧
    st.modulePaths = (applyExecutionOrder map executionOrder).components.map
      MappedComponent.modulePath

lemma mem_of_get_buildLayerContainerMap {paths : List String} {path : String}
    (hget : FMap.get (buildLayerContainerMap paths) layer = some path) : path ∈ paths := by
  induction paths using reverseRecOn with
  | nil => cases hget
  | append_singleton paths last ih =>
    have hinsert : ∀ key, FMap.get (FMap.insert (buildLayerContainerMap paths) key last) layer =
        some path → path ∈ paths ++ [last] := by
      intro key hfound
      by_cases hkey : layer = key
      · rw [hkey, FMap.get_insert_self] at hfound
        exact mem_append_right _ (mem_singleton.mpr (some.inj hfound).symm)
      · rw [FMap.get_insert_of_ne _ _ hkey] at hfound
        exact mem_append_left _ (ih hfound)
    rw [buildLayerContainerMap, foldl_append, foldl_cons, foldl_nil] at hget
    split at hget
    · exact mem_append_left _ (ih hget)
    · split at hget
      · exact hinsert _ hget
      · split_ifs at hget
        · exact hinsert _ hget
        · exact mem_append_left _ (ih hget)

/-- Containers are no components, so no hook puts the output of one. -/
lemma Resolved.not_isContainerOf (hresolved : Resolved st) {event : HookEvent T}
    (hhooked : event.path ∈ st.modulePaths) : ¬ IsContainerOf st layer event := by
  rintro ⟨hcontainer, -⟩
  obtain ⟨modules, config, rank, map, executionOrder, hpaths, hresolve, hmodules⟩ := hresolved
  rw [hmodules] at hhooked
  obtain ⟨component, hmapped, hpath⟩ := mem_map.mp hhooked
  have hmem := mem_of_get_buildLayerContainerMap hcontainer
  unfold resolveWithContainers at hresolve
  split at hresolve
  · cases hresolve
  next decl _ =>
    obtain ⟨hmap, hcontainers⟩ := Prod.mk.inj (Except.ok.inj hresolve)
    rw [← hcontainers] at hmem
    obtain ⟨container, hlisted, hsame⟩ := mem_map.mp hmem
    obtain ⟨hlisted, hmapping⟩ := mem_filter.mp hlisted
    rw [mem_applyExecutionOrder, ← hmap] at hmapped
    obtain ⟨source, hsource, hcomponent⟩ := mem_filterMap.mp hmapped
    obtain ⟨canonical, rfl, -⟩ := resolveModule_eq_some hcomponent
    -- the container and the component are one module, which is resolved to nothing
    obtain rfl : source = container :=
      inj_on_of_nodup_map hpaths hsource hlisted (hpath.trans hsame.symm)
    rw [resolveModule, of_decide_eq_true hmapping] at hcomponent
    cases hcomponent

lemma storedFor_of_fails (hfails : Fails compare st req layer event) :
    (storedFor st req layer).isSome ∧ event.output.isSome := by
  obtain ⟨output, houtput, hfails⟩ := hfails
  refine ⟨?_, by rw [houtput]; rfl⟩
  cases hstored : storedFor st req layer with
  | none => simp [failure, hstored] at hfails
  | some slot => rfl

lemma mem_of_mem_untilStop {events : List (HookEvent T)}
    (hmem : event ∈ untilStop st stopAt events) : event ∈ events := by
  induction events with
  | nil => cases hmem
  | cons first rest ih =>
    rw [untilStop] at hmem
    split_ifs at hmem
    · exact mem_singleton.mp hmem ▸ mem_cons_self
    · rcases mem_cons.mp hmem with rfl | hrest
      · exact mem_cons_self
      · exact mem_cons_of_mem _ (ih hrest)

lemma mem_passEvents_of_mem_received (hmem : event ∈ received bridge st req) :
    event ∈ passEvents (bridge.forward (inputTensor none)) := by
  obtain ⟨rest, hforward⟩ := exists_forward_eq bridge st (inputTensor none)
  obtain ⟨more, hmore⟩ :=
    exists_passEvents_append (forwardItems bridge st (inputTensor none)) rest
  rw [hforward, hmore]
  exact mem_append_left _ (mem_of_mem_untilStop hmem)

/-- **Which replays compare like with like.**  Let the modules of a model be named by
`resolve_with_containers`, and let a verifying replay of it succeed.  It compares slots with the
containers they were filled from, for every comparison that accepts equal tensors, exactly if it
receives no event of a layer that is stored, so that it compares nothing at all. -/
theorem verifiesLikeWithLike_iff {Same : List UInt8 → String → List ℤ → T → Prop}
    (hresolved : Resolved st)
    (hhooked : ∀ event ∈ passEvents (bridge.forward (inputTensor none)), event.path ∈ st.modulePaths)
    (hverify : req.verify = true)
    (hok : runReplayLoop (bridge.comparing acceptAll) st handle req = (.ok response, st')) :
    VerifiesLikeWithLike Same bridge st handle req ↔
      ∀ event ∈ received bridge st req, storedFor st req (st.layerOf event) = none := by
  have hnone : ∀ layer, ∀ event ∈ received bridge st req, ¬ IsContainerOf st layer event :=
    fun layer event hevent => hresolved.not_isContainerOf
      (hhooked event (mem_passEvents_of_mem_received hevent))
  constructor
  · intro hlike event hevent
    have hseen := eventsSeen_runReplayLoop hok
    obtain ⟨-, -, hverified⟩ :=
      hlike acceptAll (acceptsEqual_acceptAll Same) response st' hok _ hseen
    -- Under the comparison that never fails every replay is verified.
    obtain ⟨events, hseen', hdivergences, hempty⟩ := runReplayLoop_divergences hverify hok
    have hall : response.verified = true := by
      rw [hempty, List.isEmpty_iff, hdivergences, divergencesThrough_eq_nil_iff]
      rintro event - ⟨output, -, hfails⟩
      refine hfails ?_
      cases h : storedFor st req (st.layerOf event) <;> simp [failure, h, acceptAll]
    by_contra hstored
    obtain ⟨container, hmem, hcontainer, -⟩ := hverified hall (st.layerOf event)
      (isSome_iff_ne_none.mpr hstored) ⟨event, hevent, .inl rfl⟩
    exact hnone _ container hmem hcontainer
  · intro hunstored compare _ response₁ st₁ hok₁ events hseen
    have hreceived := eventsSeen_runReplayLoop hok₁
    obtain rfl : events = received bridge st req := some.inj (hseen.symm.trans hreceived)
    obtain ⟨events', hseen', hdivergences, -⟩ := runReplayLoop_divergences hverify hok₁
    obtain rfl : events' = received bridge st req := some.inj (hseen'.symm.trans hseen)
    have hnever : ∀ event ∈ received bridge st req,
        ¬ (storedFor st req (st.layerOf event)).isSome := by
      intro event hevent hstored
      rw [hunstored event hevent] at hstored
      cases hstored
    refine ⟨fun layer => ?_, fun event hevent hcompared => ?_, fun _ layer hstored hreached => ?_⟩
    · rw [hdivergences, records_divergencesThrough_iff]
      constructor
      · rintro ⟨event, hevent, rfl, hfails⟩
        exact absurd (storedFor_of_fails hfails).1 (hnever event hevent)
      · rintro ⟨-, event, hevent, hcontainer, -⟩
        exact absurd hcontainer (hnone layer event hevent)
    · exact absurd hcompared.1 (hnever event hevent)
    · obtain ⟨event, hevent, rfl | hcontainer⟩ := hreached
      · exact absurd hstored (hnever event hevent)
      · exact absurd hcontainer (hnone layer event hevent)

end Replay

/-! ### A llama model of two layers

The containers put out zeros and their projections threes.  Once a pass is complete a checkpoint
stores what the container of layer 1 has put out.  The next step drops the pass with its hooks and
cannot start another one, so that a replay gets through.  It does exactly what the pass did, and
diverges.
-/

/-- The stored bytes are zeros and so is the tensor. -/
def BothZero (data : List UInt8) (_ : String) (_ : List ℤ) (output : ℤ) : Prop :=
  (∀ byte ∈ data, byte = 0) ∧ output = 0

/-- A comparison that accepts nothing but zeros. -/
def compareZeros : Comparison ℤ := fun data _ _ output _ _ =>
  if (∀ byte ∈ data, byte = 0) ∧ output = 0 then none else some (0, 1)

lemma acceptsEqual_compareZeros : AcceptsEqual BothZero compareZeros :=
  fun _ _ _ _ _ _ hzero => if_pos hzero

def llamaModules : List RawModule :=
  [⟨"model.layers.0", "LlamaDecoderLayer", "0"⟩,
    ⟨"model.layers.0.self_attn", "LlamaSdpaAttention", "self_attn"⟩,
    ⟨"model.layers.0.self_attn.o_proj", "Linear", "o_proj"⟩,
    ⟨"model.layers.1", "LlamaDecoderLayer", "1"⟩,
    ⟨"model.layers.1.self_attn", "LlamaSdpaAttention", "self_attn"⟩,
    ⟨"model.layers.1.self_attn.o_proj", "Linear", "o_proj"⟩]

def llamaMap : ComponentMap where
  components := [
    mappedComponent "llama" 0 ⟨"model.layers.0.self_attn.o_proj", "Linear", "o_proj"⟩ "o_proj",
    mappedComponent "llama" 0 ⟨"model.layers.1.self_attn.o_proj", "Linear", "o_proj"⟩ "o_proj"]
  modelFamily := "llama"

def llamaModel : AttachedModel :=
  { twoLayerModel with
    componentMap := applyExecutionOrder llamaMap []
    containerPaths := ["model.layers.0", "model.layers.0.self_attn", "model.layers.1",
      "model.layers.1.self_attn"] }

/-- Two projections that put out threes. -/
def llamaBridge : Bridge ℤ :=
  Bridge.quiet fun _ => [.hook ⟨"model.layers.0.self_attn.o_proj", 0, some 3⟩,
    .hook ⟨"model.layers.1.self_attn.o_proj", 0, some 3⟩, .forwardComplete]

/-- The same Python side when both layers have put out zeros. -/
def completedBridge : Bridge ℤ :=
  { llamaBridge with activationAvailable := fun path => .ok (path ∈ llamaModel.containerPaths) }

/-- A worker that has completed a pass and created a checkpoint. -/
def completedWorker : WorkerState ℤ :=
  serveAll (attachModel WorkerState.new llamaModel)
    [(llamaBridge, .step { echoStep [7] with count := 5 }), (completedBridge, .checkpoint createC1)]

/-- The worker after a step that could not start a pass. -/
def unhookedWorker : WorkerState ℤ :=
  serveAll completedWorker
    [({ llamaBridge with startFailure := some .mailboxes }, .step (echoStep [7]))]

def verifyC1 : HostReplayRequest := { replayC1 with verify := true }

lemma resolved_completedWorker : Resolved completedWorker :=
  ⟨llamaModules, ⟨"llama", 2, 1, 8, none⟩, 0, llamaMap, [], by decide, by decide +kernel,
    by decide +kernel⟩

/-- A replay that stops in layer 0 comes to no layer that is stored. -/
theorem verifiesLikeWithLike_stopped :
    (storedFor completedWorker verifyC1 1).isSome ∧
      VerifiesLikeWithLike BothZero llamaBridge completedWorker 1
        { verifyC1 with stopAt := some ⟨0, "o_proj"⟩ } := by
  have hran : (runReplayLoop (llamaBridge.comparing acceptAll) completedWorker 1
      { verifyC1 with stopAt := some ⟨0, "o_proj"⟩ }).1.isOk = true := by
    decide +kernel
  obtain ⟨response, hok⟩ := exists_ok_of_isOk hran
  refine ⟨by decide +kernel, (verifiesLikeWithLike_iff resolved_completedWorker ?_ rfl
    (Prod.ext hok rfl)).mpr ?_⟩
  · decide +kernel
  · decide +kernel

/-- The projection of layer 1 is compared with what its container has put out. -/
theorem not_verifiesLikeWithLike_projections :
    (runReplayLoop (llamaBridge.comparing compareZeros) unhookedWorker 1 verifyC1).1.map
          (fun response => (response.verified, response.divergences.map Divergence.probePoint)) =
        .ok (false, ["llama:0:1:o_proj:output"]) ∧
      ¬ VerifiesLikeWithLike BothZero llamaBridge unhookedWorker 1 verifyC1 := by
  refine ⟨by decide +kernel, fun hlike => ?_⟩
  have hran : (runReplayLoop (llamaBridge.comparing compareZeros) unhookedWorker 1
      verifyC1).1.isOk = true := by
    decide +kernel
  obtain ⟨response, hok⟩ := exists_ok_of_isOk hran
  have hothers := (hlike compareZeros acceptsEqual_compareZeros response _ (Prod.ext hok rfl) _
    (eventsSeen_runReplayLoop (Prod.ext hok rfl))).others
    ⟨"model.layers.1.self_attn.o_proj", 0, some 3⟩ (by decide +kernel) (by decide +kernel)
  exact absurd hothers (by decide +kernel)

end RocketSurgeon.Worker
