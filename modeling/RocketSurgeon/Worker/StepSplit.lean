import RocketSurgeon.Worker.Step

/-!
# Splitting a component step

At component granularity the step loop counts events, and its probes and drain
state do not influence what the model is answered.  `componentLoop` is that
reading of the loop: it carries only the progress of the pass and the number of
events left, and returns the recipes that fired.  `stepLoop_component` says that
the step loop is this loop.

A step of `n + m` events is then compared with a step of `n` followed by one of
`m`.  Both receive the same events at the same ticks.  They differ at the event
the first step stops on: the undivided step answers it with the outcome of its
interventions, while the divided one has left that outcome behind and answers
with nothing when it resumes.
-/

namespace RocketSurgeon.Worker

open Lib Protocol Probes List StepCursor

variable {T : Type}

/-! ## The component loop -/

/-- How a component loop ended. -/
structure ComponentEnd (T : Type) where
  result : Except String Bool
  progress : PassProgress T
  pending : List (MailItem T)
  fired : List String

/-- The value a reaction puts into the resume mailbox. -/
def reactionValue (reaction : Option (T × List String)) : Option T := reaction.map Prod.fst

/-- The recipes a reaction reports. -/
def reactionFired (reaction : Option (T × List String)) : List String :=
  (reaction.map Prod.snd).getD []

/-- Receive and answer events until `left` of them have been received. -/
def componentLoop (bridge : Bridge T) (st : WorkerState T) (handle : ℕ)
    (recipes : List InterventionRecipe) :
    ℕ → List (MailItem T) → PassProgress T → ComponentEnd T
  | _, [], progress => ⟨.error "TimeoutError", progress, [], []⟩
  | _, .forwardComplete :: rest, progress => ⟨.ok true, progress, rest, []⟩
  | left, .hook event :: rest, progress =>
      let received := progress.receive st event
      match react bridge st handle recipes received.tick.tickId event with
      | .error message => ⟨.error message, received, rest, []⟩
      | .ok reaction =>
          if left ≤ 1 then ⟨.ok false, received, rest, []⟩
          else
            let ended := componentLoop bridge st handle recipes (left - 1) rest
              (received.put (reactionValue reaction))
            { ended with fired := reactionFired reaction ++ ended.fired }

section Refinement

variable (bridge : Bridge T) (st : WorkerState T) (handle : ℕ) (req : HostStepRequest)
  (cursor : StepCursor T) (event : HookEvent T) (reaction : Option (T × List String))

@[simp] lemma StepCursor.progress_observe :
    (cursor.observe st req event).progress = cursor.progress.receive st event := by
  unfold observe probe
  split <;> rfl

@[simp] lemma StepCursor.ticksConsumed_observe :
    (cursor.observe st req event).ticksConsumed = cursor.ticksConsumed := by
  unfold observe probe
  split <;> rfl

@[simp] lemma StepCursor.trackingLayer_observe :
    (cursor.observe st req event).trackingLayer = cursor.trackingLayer := by
  unfold observe probe
  split <;> rfl

@[simp] lemma StepCursor.drainState_observe :
    (cursor.observe st req event).drainState = cursor.drainState := by
  unfold observe probe
  split <;> rfl

@[simp] lemma StepCursor.allFired_observe :
    (cursor.observe st req event).allFired = cursor.allFired := by
  unfold observe probe
  split <;> rfl

lemma StepCursor.count_component (hcomp : req.granularity ≠ some .layer) (layer : ℕ) :
    cursor.count (planStep req.count req.granularity) layer =
      (decide (req.count ≤ cursor.ticksConsumed + 1),
        { cursor with ticksConsumed := cursor.ticksConsumed + 1 }) := by
  have hplan : (planStep req.count req.granularity).granularity ≠ .layer := by
    cases hgranularity : req.granularity with
    | none => simp [planStep]
    | some granularity => simpa [planStep, hgranularity] using hcomp
  rw [count, if_neg hplan]
  rfl

@[simp] lemma StepCursor.progress_answer :
    (cursor.answer reaction).progress = cursor.progress.put (reactionValue reaction) := by
  cases reaction <;> rfl

@[simp] lemma StepCursor.allFired_answer :
    (cursor.answer reaction).allFired = cursor.allFired ++ reactionFired reaction := by
  cases reaction with
  | none => simp [answer, reactionFired]
  | some modified => rfl

@[simp] lemma StepCursor.ticksConsumed_answer :
    (cursor.answer reaction).ticksConsumed = cursor.ticksConsumed := by
  cases reaction <;> rfl

/-- What a component loop says about a step loop. -/
def StepEnd.Agrees (ended : StepEnd T) (fired : List String) (core : ComponentEnd T) : Prop :=
  ended.result = core.result ∧ ended.cursor.progress = core.progress ∧
    ended.pending = core.pending ∧ ended.cursor.allFired = fired ++ core.fired

/-- Except at layer granularity, the step loop is the component loop. -/
lemma stepLoop_component (hcomp : req.granularity ≠ some .layer)
    (items : List (MailItem T)) (cursor : StepCursor T) :
    (stepLoop bridge st handle req items cursor).Agrees cursor.allFired
      (componentLoop bridge st handle req.interventions (req.count - cursor.ticksConsumed) items
        cursor.progress) := by
  induction items generalizing cursor with
  | nil => simp [stepLoop, componentLoop, StepEnd.Agrees]
  | cons item rest ih =>
    cases item with
    | forwardComplete => simp [stepLoop, componentLoop, StepEnd.Agrees]
    | hook event =>
      simp only [stepLoop, componentLoop, StepCursor.progress_observe,
        StepCursor.count_component _ _ hcomp, StepCursor.ticksConsumed_observe]
      cases hreact : react bridge st handle req.interventions
          (cursor.progress.receive st event).tick.tickId event with
      | error message => simp [StepEnd.Agrees]
      | ok reaction =>
        by_cases hstop : req.count ≤ cursor.ticksConsumed + 1
        · have hleft : req.count - cursor.ticksConsumed ≤ 1 := by omega
          simp [hstop, hleft, StepEnd.Agrees]
        · have hleft : ¬ req.count - cursor.ticksConsumed ≤ 1 := by omega
          have hnext := ih (answer { cursor.observe st req event with
            ticksConsumed := cursor.ticksConsumed + 1 } reaction)
          simp only [StepCursor.ticksConsumed_answer, StepCursor.progress_answer,
            StepCursor.allFired_answer, StepCursor.progress_observe,
            StepCursor.allFired_observe, ← Nat.sub_sub] at hnext
          obtain ⟨hres, hprogress, hpending, hfired⟩ := hnext
          simp only [hstop, decide_false, Bool.false_eq_true, if_false, hleft,
            StepCursor.allFired_observe]
          exact ⟨hres, hprogress, hpending, by rw [hfired, append_assoc]⟩

end Refinement

/-! ## Where a step is divided -/

/-- The reaction to the event at index `index`, when the clock stood at `tick` before the
events; nothing behind their end. -/
def reactionAt (bridge : Bridge T) (st : WorkerState T) (handle : ℕ)
    (recipes : List InterventionRecipe) (tick : ℕ) (events : List (HookEvent T)) (index : ℕ) :
    Except String (Option (T × List String)) :=
  match events[index]? with
  | some event => react bridge st handle recipes (tick + index + 1) event
  | none => .ok none

section Division

variable (bridge : Bridge T) (st : WorkerState T) (handle : ℕ)
  (recipes : List InterventionRecipe)

lemma reactionAt_cons (tick : ℕ) (event : HookEvent T) (events : List (HookEvent T))
    (index : ℕ) :
    reactionAt bridge st handle recipes tick (event :: events) (index + 1) =
      reactionAt bridge st handle recipes (tick + 1) events index := by
  have htick : tick + (index + 1) + 1 = tick + 1 + index + 1 := by omega
  rw [reactionAt, reactionAt, getElem?_cons_succ, htick]

/-- A component loop of `n + 1` events against one that goes on: either an intervention
fails on the way, and both end there, or the shorter one stops where the longer one answers
and continues. -/
lemma componentLoop_divide (events : List (HookEvent T)) (tail : List (MailItem T))
    (progress : PassProgress T) (hn : n < events.length) (hm : 1 ≤ m) :
    let items := events.map MailItem.hook ++ tail
    let first := componentLoop bridge st handle recipes (n + 1) items progress
    let reactions := reactionAt bridge st handle recipes progress.tick.tickId events
    ((∃ j ≤ n, ∃ message, reactions j = .error message) ∧
      (∃ message, first.result = .error message) ∧
      componentLoop bridge st handle recipes (n + 1 + m) items progress = first) ∨
    ∃ reaction, reactions n = .ok reaction ∧ (∀ j ≤ n, ∀ message, reactions j ≠ .error message) ∧
      first.result = .ok false ∧
      componentLoop bridge st handle recipes (n + 1 + m) items progress =
        let second := componentLoop bridge st handle recipes m first.pending
          (first.progress.put (reactionValue reaction))
        { second with fired := first.fired ++ (reactionFired reaction ++ second.fired) } := by
  -- Induction on the number of events before the one the shorter loop stops on.
  induction n generalizing events progress with
  | zero =>
    obtain _ | ⟨event, rest⟩ := events
    · simp at hn
    have hfirst : reactionAt bridge st handle recipes progress.tick.tickId (event :: rest) 0 =
        react bridge st handle recipes (progress.receive st event).tick.tickId event := rfl
    -- The shorter loop stops at this event; the longer one answers it and goes on.
    have hlong : ¬ 0 + 1 + m ≤ 1 := by omega
    have hleft : 0 + 1 + m - 1 = m := by omega
    simp only [map_cons, cons_append, componentLoop, hlong, hleft, if_false, le_refl,
      if_true, Nat.zero_add]
    cases hreact : react bridge st handle recipes (progress.receive st event).tick.tickId event with
    | error message =>
      exact .inl ⟨⟨0, le_rfl, message, hfirst.trans hreact⟩, ⟨message, rfl⟩, rfl⟩
    | ok reaction =>
      refine .inr ⟨reaction, hfirst.trans hreact, fun j hj message herror => ?_, rfl, rfl⟩
      obtain rfl : j = 0 := by omega
      rw [hfirst, hreact] at herror
      cases herror
  | succ n ih =>
    obtain _ | ⟨event, rest⟩ := events
    · simp at hn
    have hfirst : reactionAt bridge st handle recipes progress.tick.tickId (event :: rest) 0 =
        react bridge st handle recipes (progress.receive st event).tick.tickId event := rfl
    -- Both loops answer this event alike.
    have hshort : ¬ n + 1 + 1 ≤ 1 := by omega
    have hlong : ¬ n + 1 + 1 + m ≤ 1 := by omega
    have hleft : n + 1 + 1 - 1 = n + 1 := by omega
    have hleft' : n + 1 + 1 + m - 1 = n + 1 + m := by omega
    simp only [map_cons, cons_append, componentLoop, hshort, hlong, hleft, hleft',
      if_false]
    cases hreact : react bridge st handle recipes (progress.receive st event).tick.tickId event with
    | error message =>
      exact .inl ⟨⟨0, Nat.zero_le _, message, hfirst.trans hreact⟩, ⟨message, rfl⟩, rfl⟩
    | ok reaction =>
      rcases ih rest ((progress.receive st event).put (reactionValue reaction))
        (Nat.lt_of_succ_lt_succ hn) with ⟨⟨j, hj, message, herror⟩, hres, heq⟩ |
        ⟨last, hlast, hok, hres, heq⟩
      · refine .inl ⟨⟨j + 1, Nat.succ_le_succ hj, message, ?_⟩, hres, ?_⟩
        · rw [reactionAt_cons]
          exact herror
        · simp only [heq]
      · refine .inr ⟨last, ?_, fun j hj message => ?_, hres, ?_⟩
        · rw [reactionAt_cons]
          exact hlast
        · cases j with
          | zero =>
            rw [hfirst, hreact]
            exact nofun
          | succ j =>
            rw [reactionAt_cons]
            exact hok j (Nat.le_of_succ_le_succ hj) message
        · simp only [heq, append_assoc]

/-- The loop only ever adds to what it has put into the resume mailbox. -/
lemma resumePuts_componentLoop (left : ℕ) (items : List (MailItem T))
    (progress : PassProgress T) :
    progress.resumePuts <+:
      (componentLoop bridge st handle recipes left items progress).progress.resumePuts := by
  induction items generalizing left progress with
  | nil => exact prefix_refl _
  | cons item rest ih =>
    cases item with
    | forwardComplete => exact prefix_refl _
    | hook event =>
      simp only [componentLoop]
      split
      · exact prefix_refl _
      · split
        · exact prefix_refl _
        next reaction _ _ =>
          exact (prefix_append _ _).trans
            (ih _ ((progress.receive st event).put (reactionValue reaction)))

end Division

/-! ## One step or two -/

lemma SameModel.react (hsame : SameModel st st') (bridge : Bridge T) (handle : ℕ)
    (recipes : List InterventionRecipe) (tickId : ℕ) (event : HookEvent T) :
    react bridge st' handle recipes tickId event = react bridge st handle recipes tickId event := by
  simp only [Worker.react, tryApplyInterventions, WorkerState.lookupComponent, WorkerState.family,
    hsame.componentMap, hsame.componentIndex, hsame.rank, hsame.numHeads]

lemma SameModel.componentLoop (hsame : SameModel st st') (bridge : Bridge T) (handle : ℕ)
    (recipes : List InterventionRecipe) (left : ℕ) (items : List (MailItem T))
    (progress : PassProgress T) :
    componentLoop bridge st' handle recipes left items progress =
      componentLoop bridge st handle recipes left items progress := by
  have hreceive : ∀ (progress : PassProgress T) (event : HookEvent T),
      progress.receive st' event = progress.receive st event := fun progress event => by
    simp only [PassProgress.receive, WorkerState.lookupComponent, hsame.componentMap,
      hsame.componentIndex]
  induction items generalizing left progress with
  | nil => rfl
  | cons item rest ih =>
    cases item with
    | forwardComplete => rfl
    | hook event => simp only [Worker.componentLoop, hreceive, hsame.react, ih]

/-- The values put into the resume mailbox of the current pass. -/
def resumePutsOf (st : WorkerState T) : Option (List (Option T)) :=
  st.forwardPass.map fun pass => pass.resumePuts

/-- What a step reports as fired. -/
def firedOf (result : Except String HostStepResponse) : Except String (List String) :=
  result.map fun response => response.firedInterventions

/-- A step of `n` events and then, unless it fails, one of `m`: everything that fired. -/
def stepTwice (bridge : Bridge T) (st : WorkerState T) (handle : ℕ) (req : HostStepRequest)
    (n m : ℕ) : Except String (List String) × WorkerState T :=
  match runStepLoop bridge st handle { req with count := n } with
  | (.error message, st) => (.error message, st)
  | (.ok first, st) =>
      let second := runStepLoop bridge st handle { req with count := m }
      ((firedOf second.1).map (first.firedInterventions ++ ·), second.2)

/-- Dividing a step changes neither what the hooks are answered nor what is reported. -/
def SplitAgrees (bridge : Bridge T) (st : WorkerState T) (handle : ℕ) (req : HostStepRequest)
    (n m : ℕ) : Prop :=
  let once := runStepLoop bridge st handle { req with count := n + m }
  let twice := stepTwice bridge st handle req n m
  resumePutsOf twice.2 = resumePutsOf once.2 ∧ twice.1 = firedOf once.1

section Whole

variable {bridge : Bridge T} {st st₀ : WorkerState T} {pass : ForwardPassState T} {handle : ℕ}
  {req : HostStepRequest}

lemma finishStep_of_agrees {ended : StepEnd T} {core : ComponentEnd T}
    (hagrees : ended.Agrees [] core) :
    firedOf (finishStep st pass ended).1 = core.result.map (fun _ => core.fired) ∧
      resumePutsOf (finishStep st pass ended).2 = some core.progress.resumePuts ∧
      (core.result = .ok false →
        (finishStep st pass ended).2 = st.withProgress pass core.progress core.pending false) := by
  obtain ⟨hres, hprogress, hpending, hfired⟩ := hagrees
  rw [nil_append] at hfired
  rw [← hres, ← hprogress, ← hpending, ← hfired]
  unfold finishStep
  cases ended.result with
  | error message => exact ⟨rfl, rfl, nofun⟩
  | ok complete =>
    cases complete with
    | true => exact ⟨rfl, rfl, nofun⟩
    | false => exact ⟨rfl, rfl, fun _ => rfl⟩

lemma runStepLoop_component (hcomp : req.granularity ≠ some .layer)
    (hensure : ensureForwardPass bridge (dropCompletedPass st) req.inputIds = (.ok (), st₀))
    (hpass : st₀.forwardPass = some pass) :
    let core := componentLoop bridge st₀ handle req.interventions req.count pass.pending
      (startCursor st₀ pass (dropCompletedPass st).forwardPass.isSome).progress
    firedOf (runStepLoop bridge st handle req).1 = core.result.map (fun _ => core.fired) ∧
      resumePutsOf (runStepLoop bridge st handle req).2 = some core.progress.resumePuts ∧
      (core.result = .ok false →
        (runStepLoop bridge st handle req).2 =
          st₀.withProgress pass core.progress core.pending false) := by
  have hrun : runStepLoop bridge st handle req = finishStep st₀ pass
      (stepLoop bridge st₀ handle req pass.pending
        (startCursor st₀ pass (dropCompletedPass st).forwardPass.isSome)) := by
    simp only [runStepLoop, hensure, hpass]
  rw [hrun]
  exact finishStep_of_agrees (stepLoop_component bridge st₀ handle req hcomp pass.pending _)

/-- Resuming a paused pass: the hook it is paused at is answered with nothing. -/
lemma runStepLoop_resume (hcomp : req.granularity ≠ some .layer)
    (progress : PassProgress T) (pending : List (MailItem T)) :
    let core := componentLoop bridge st handle req.interventions req.count pending
      (progress.put none)
    let next := runStepLoop bridge (st.withProgress pass progress pending false) handle req
    firedOf next.1 = core.result.map (fun _ => core.fired) ∧
      resumePutsOf next.2 = some core.progress.resumePuts := by
  intro core next
  have hsame : SameModel st (st.withProgress pass progress pending false) := ⟨rfl, rfl, rfl, rfl⟩
  have hdrop : dropCompletedPass (st.withProgress pass progress pending false) =
      st.withProgress pass progress pending false := rfl
  have hnext := @runStepLoop_component T bridge (st.withProgress pass progress pending false) _ _
    handle req hcomp rfl rfl
  rw [hdrop, hsame.componentLoop] at hnext
  exact ⟨hnext.1, hnext.2.1⟩

lemma stepTwice_of_error (m : ℕ)
    (hfirst : firedOf (runStepLoop bridge st handle { req with count := n }).1 = .error message) :
    stepTwice bridge st handle req n m =
      (.error message, (runStepLoop bridge st handle { req with count := n }).2) := by
  unfold stepTwice
  split
  next found _ hrun =>
    rw [hrun] at hfirst ⊢
    cases hfirst
    rfl
  next _ _ hrun =>
    rw [hrun] at hfirst
    cases hfirst

lemma stepTwice_of_ok {n : ℕ} (m : ℕ) {fired : List String}
    (hfirst : firedOf (runStepLoop bridge st handle { req with count := n }).1 = .ok fired) :
    let second := runStepLoop bridge (runStepLoop bridge st handle { req with count := n }).2 handle
      { req with count := m }
    stepTwice bridge st handle req n m = ((firedOf second.1).map (fired ++ ·), second.2) := by
  unfold stepTwice
  split
  next _ _ hrun =>
    rw [hrun] at hfirst
    cases hfirst
  next _ _ hrun =>
    rw [hrun] at hfirst ⊢
    cases hfirst
    rfl

/-- Two lists that continue one list by different values are different. -/
private theorem ne_of_append_ne (hne : x ≠ y) (hx : front ++ [x] <+: xs) (hy : front ++ [y] <+: ys) :
    xs ≠ ys := by
  rintro rfl
  have hlen : (front ++ [x]).length = (front ++ [y]).length := by simp
  have heq := (prefix_of_prefix_length_le hx hy hlen.le).eq_of_length hlen
  exact hne (singleton_inj.mp (append_cancel_left heq))

/-- **Dividing a component step.**  A step of `n + m` events agrees with a step of `n` followed
by one of `m` exactly when no intervention fires at the event the first one stops on, or when an
intervention has failed by then. -/
theorem splitAgrees_iff (hcomponent : req.granularity ≠ some .layer)
    (hensure : ensureForwardPass bridge (dropCompletedPass st) req.inputIds = (.ok (), st₀))
    (hpass : st₀.forwardPass = some pass) {events : List (HookEvent T)}
    {tail : List (MailItem T)} (hpending : pass.pending = events.map MailItem.hook ++ tail)
    {n m : ℕ} (hn : 1 ≤ n) (hm : 1 ≤ m) (hlength : n + m ≤ events.length) :
    SplitAgrees bridge st handle req n m ↔
      (∃ j < n, ∃ message, reactionAt bridge st handle req.interventions
        (dropCompletedPass st).tickState.tickId events j = .error message) ∨
      reactionAt bridge st handle req.interventions
        (dropCompletedPass st).tickState.tickId events (n - 1) = .ok none := by
  obtain ⟨n, rfl⟩ : ∃ k, n = k + 1 := ⟨n - 1, by omega⟩
  have hsame := (onlyPass_ensureForwardPass bridge (dropCompletedPass st) req.inputIds).sameStore
  have htick := tickState_ensureForwardPass bridge (dropCompletedPass st) req.inputIds
  rw [hensure] at hsame htick
  have hreaction : reactionAt bridge st₀ handle req.interventions = reactionAt bridge st handle
      req.interventions := by
    funext tick events index
    simp only [reactionAt, hsame.toSameModel.react,
      (onlyPass_dropCompletedPass st).sameStore.toSameModel.react]
  generalize hresuming : (dropCompletedPass st).forwardPass.isSome = resuming at *
  have hstart : (startCursor st₀ pass resuming).progress.tick.tickId =
      (dropCompletedPass st).tickState.tickId := by
    cases resuming <;> exact congrArg TickState.tickId htick
  have hdivide := componentLoop_divide bridge st₀ handle req.interventions events tail
    (startCursor st₀ pass resuming).progress (by omega : n < events.length) hm
  have hfirst := @runStepLoop_component T bridge st st₀ pass handle { req with count := n + 1 }
    hcomponent hensure hpass
  have honce := @runStepLoop_component T bridge st st₀ pass handle { req with count := n + 1 + m }
    hcomponent hensure hpass
  simp only [← hpending, hreaction, hstart] at hdivide
  rw [hresuming] at hfirst honce
  generalize hcore : componentLoop bridge st₀ handle req.interventions (n + 1) pass.pending
    (startCursor st₀ pass resuming).progress = core at hdivide hfirst
  obtain ⟨hfired, hputs, hstate⟩ := hfirst
  rcases hdivide with ⟨⟨j, hj, message, herror⟩, ⟨message', hresult⟩, heq⟩ |
    ⟨reaction, hlast, hok, hresult, heq⟩
  · -- An intervention fails: both runs end at the same event.
    rw [hresult] at hfired
    refine iff_of_true ⟨?_, ?_⟩ (.inl ⟨j, Nat.lt_succ_of_le hj, message, herror⟩)
    · rw [stepTwice_of_error m hfired, hputs, honce.2.1, heq]
    · rw [stepTwice_of_error m hfired, honce.1, heq, hresult]
      rfl
  · -- The first step stops on an event; resuming answers it with nothing.
    rw [hresult] at hfired
    have hsecond := @runStepLoop_resume T bridge st₀ pass handle { req with count := m }
      hcomponent core.progress core.pending
    have htwice := stepTwice_of_ok m hfired
    rw [hstate hresult] at htwice
    simp only [SplitAgrees, htwice, hsecond.1, hsecond.2, honce.1, honce.2.1, heq]
    cases reaction with
    | none =>
      have hvalue : reactionValue (none : Option (T × List String)) = none := rfl
      refine iff_of_true ⟨rfl, ?_⟩ (.inr hlast)
      rw [hvalue]
      cases (componentLoop bridge st₀ handle req.interventions m core.pending
        (core.progress.put none)).result <;> rfl
    | some modified =>
      refine iff_of_false (fun hagrees => ?_) ?_
      · exact ne_of_append_ne (nofun : none ≠ some modified.1)
          (resumePuts_componentLoop bridge st₀ handle req.interventions m core.pending
            (core.progress.put none))
          (resumePuts_componentLoop bridge st₀ handle req.interventions m core.pending
            (core.progress.put _)) (Option.some.inj hagrees.1)
      · rintro (⟨j, hj, message, herror⟩ | hnone)
        · exact hok j (Nat.le_of_lt_succ hj) message herror
        · rw [Nat.add_sub_cancel, hlast] at hnone
          cases hnone

end Whole

/-! ### A pass of two events

Every call of the recipe adds one to the output.  Stepping twice by one event answers the
first hook with nothing; stepping once by two answers it with the modified output.
-/

/-- Two module calls with outputs 10 and 20. -/
def twoEvents : List (HookEvent ℕ) :=
  [⟨"layers.0.o_proj", 0, some 10⟩, ⟨"layers.1.o_proj", 0, some 20⟩]

/-- A network of two calls whose every output an intervention increases by one. -/
def addOneBridge : Bridge ℕ :=
  { Bridge.quiet fun _ => twoEvents.map MailItem.hook ++ [.forwardComplete] with
    applyInterventionsAtPoint := fun tensor _ => .ok (tensor + 1, ["add-one"]) }

/-- A request with one recipe, which matches everywhere. -/
def addOneStep : HostStepRequest where
  modelHandle := 1
  count := 1
  direction := .forward
  granularity := none
  maxEvents := none
  interventions := [{
    id := some "add-one"
    interventionType := .add
    target := "*:*:*:*:*"
    params := .add (.inline [1])
    condition := none
    priority := 0
    mode := .additive }]
  inputIds := none

theorem not_splitAgrees_addOne :
    ¬ SplitAgrees addOneBridge twoLayerWorker 1 addOneStep 1 1 := by
  intro hagrees
  exact absurd hagrees.1 (by decide)

def threeEvents : List (HookEvent ℕ) := twoEvents ++ [⟨"layers.1.o_proj", 0, some 30⟩]

/-- The network with a third call, and a recipe for the first layer only. -/
def firstLayerBridge : Bridge ℕ :=
  { Bridge.quiet fun _ => threeEvents.map MailItem.hook ++ [.forwardComplete] with
    applyInterventionsAtPoint := fun tensor point =>
      .ok (if point.layer = 0 then (tensor + 1, ["add-one"]) else (tensor, [])) }

/-- Both ways the first call is answered with 11: the step that is divided stops on the second. -/
theorem splitAgrees_firstLayer :
    SplitAgrees firstLayerBridge twoLayerWorker 1 addOneStep 2 1 ∧
      firedOf (runStepLoop firstLayerBridge twoLayerWorker 1 { addOneStep with count := 3 }).1 =
        .ok ["add-one"] := by
  have hpending : firstLayerBridge.forward [0, 0] =
    threeEvents.map MailItem.hook ++ [.forwardComplete] := rfl
  exact ⟨(splitAgrees_iff (by decide) rfl rfl hpending (by decide) (by decide) (by decide)).mpr
    (.inr rfl), by decide +kernel⟩

end RocketSurgeon.Worker
