import RocketSurgeon.Worker.ReplayRun
import RocketSurgeon.Worker.StepSplit

/-!
# What a step receives

A step of any granularity resumes the pass that is running or starts one.  Its loop then receives
events from the front of what the pass still has to put: every event ticks the clock once, and every
one is answered before the next is received.  `stepLoop_rule` is the rule by which the loop is reasoned
about; its first uses are `stepLoop_received` and `stepLoop_waits`.
-/

namespace RocketSurgeon.Worker

open Lib Protocol Probes PassProgress

variable {T : Type} (st : WorkerState T) (pass : ForwardPassState T)

/-! ## The rule of the loop -/

/-- The layer an event is counted for. -/
def WorkerState.layerOf (st : WorkerState T) (event : HookEvent T) : ℕ :=
  (st.lookupComponent event.path event.callIndex).2

/-- The cursor after an event has been received and counted, and whether the loop stops there. -/
def StepCursor.take (st : WorkerState T) (req : HostStepRequest) (cursor : StepCursor T)
    (event : HookEvent T) : Bool × StepCursor T :=
  (cursor.observe st req event).count (planStep req.count req.granularity) (st.layerOf event)

@[simp] lemma StepCursor.progress_count (plan : StepPlan) (cursor : StepCursor T) (layer : ℕ) :
    (cursor.count plan layer).2.progress = cursor.progress := by
  unfold StepCursor.count
  split
  · split
    · split <;> rfl
    · rfl
  · rfl

@[simp] lemma StepCursor.progress_take (req : HostStepRequest) (cursor : StepCursor T)
    (event : HookEvent T) :
    (cursor.take st req event).2.progress = cursor.progress.receive st event := by
  rw [StepCursor.take, StepCursor.progress_count, StepCursor.progress_observe]

section Loop

variable {bridge : Bridge T} {st : WorkerState T} {handle : ℕ} {req : HostStepRequest}
  (tick : TickState) (events : List (HookEvent T))

/-- The loop ends in one of four ways.  What is known of its cursor and of what is still to be put
has to be known again once an event has been answered. -/
lemma stepLoop_rule {inv : List (MailItem T) → StepCursor T → Prop} {post : StepEnd T → Prop}
    (htimeout : ∀ cursor, inv [] cursor → post ⟨.error "TimeoutError", cursor, []⟩)
    (hcomplete : ∀ rest cursor, inv (.forwardComplete :: rest) cursor →
      post ⟨.ok true, cursor, rest⟩)
    (hfail : ∀ event rest cursor msg, inv (.hook event :: rest) cursor →
      post ⟨.error msg, cursor.observe st req event, rest⟩)
    (hstop : ∀ event rest cursor, inv (.hook event :: rest) cursor →
      (cursor.take st req event).1 = true → post ⟨.ok false, (cursor.take st req event).2, rest⟩)
    (hanswer : ∀ event rest cursor reaction, inv (.hook event :: rest) cursor →
      (cursor.take st req event).1 = false → inv rest ((cursor.take st req event).2.answer reaction))
    {items : List (MailItem T)} {cursor : StepCursor T} (hinv : inv items cursor) :
    post (stepLoop bridge st handle req items cursor) := by
  induction items generalizing cursor with
  | nil => exact htimeout cursor hinv
  | cons item rest ih =>
    cases item with
    | forwardComplete => exact hcomplete rest cursor hinv
    | hook event =>
      rw [stepLoop]
      dsimp only
      split
      next msg _ => exact hfail event rest cursor msg hinv
      next reaction _ =>
        split
        next hstopped => exact hstop event rest cursor hinv hstopped
        next hgoes =>
          exact ih (hanswer event rest cursor reaction hinv (Bool.eq_false_iff.mpr hgoes))

/-! ## Clocks -/

/-- The clock after some events. -/
def WorkerState.tickAfter (st : WorkerState T) (tick : TickState) (events : List (HookEvent T)) :
    TickState :=
  events.foldl (fun tick event =>
    let component := st.lookupComponent event.path event.callIndex
    tick.advance component.1 component.2 event.callIndex) tick

lemma tickAfter_concat (event : HookEvent T) :
    st.tickAfter tick (events ++ [event]) =
      let component := st.lookupComponent event.path event.callIndex
      (st.tickAfter tick events).advance component.1 component.2 event.callIndex := by
  simp only [WorkerState.tickAfter, List.foldl_append, List.foldl_cons, List.foldl_nil]

@[simp] lemma operator_tickAfter :
    (st.tickAfter tick events).operator = tick.operator + events.length := by
  induction events generalizing tick with
  | nil => rfl
  | cons event events ih =>
    calc (st.tickAfter tick (event :: events)).operator
        = tick.operator + 1 + events.length := ih _
      _ = tick.operator + (event :: events).length := by rw [List.length_cons]; omega

@[simp] lemma token_tickAfter :
    (st.tickAfter tick events).token = tick.token := by
  induction events generalizing tick with
  | nil => rfl
  | cons event events ih => exact ih _

/-! ## Events -/

/-- The events received by the end of a loop. -/
structure Received (st : WorkerState T) (items : List (MailItem T)) (cursor : StepCursor T)
    (ended : StepEnd T) (events : List (HookEvent T)) : Prop where
  seen : ended.cursor.progress.seen = cursor.progress.seen ++ events
  tick : ended.cursor.progress.tick = st.tickAfter cursor.progress.tick events
  pending : passEvents items =
    if ended.result = .ok true then events else events ++ passEvents ended.pending
  stopped : ended.result = .ok false → events ≠ []

lemma stepLoop_received (items : List (MailItem T)) (cursor : StepCursor T) :
    ∃ events, Received st items cursor (stepLoop bridge st handle req items cursor) events := by
  -- the events so far, with those still to be put, are those of the pass
  refine @stepLoop_rule T bridge st handle req (fun rest cur => ∃ events,
    cur.progress.seen = cursor.progress.seen ++ events ∧
      cur.progress.tick = st.tickAfter cursor.progress.tick events ∧
      passEvents items = events ++ passEvents rest)
    (fun ended => ∃ events, Received st items cursor ended events) ?_ ?_ ?_ ?_ ?_ _ _
    ⟨[], (List.append_nil _).symm, rfl, rfl⟩
  · rintro cur ⟨events, hseen, htick, hpending⟩
    exact ⟨events, hseen, htick, hpending, nofun⟩
  · rintro rest cur ⟨events, hseen, htick, hpending⟩
    exact ⟨events, hseen, htick, hpending.trans (List.append_nil _), nofun⟩
  · rintro event rest cur msg ⟨events, hseen, htick, hpending⟩
    refine ⟨events ++ [event], ?_, ?_, ?_, nofun⟩
    · simp [receive, hseen]
    · simp [receive, htick, tickAfter_concat]
    · simp [hpending, passEvents]
  · rintro event rest cur ⟨events, hseen, htick, hpending⟩ -
    refine ⟨events ++ [event], ?_, ?_, ?_, fun _ => by simp⟩
    · simp [receive, hseen]
    · simp [receive, htick, tickAfter_concat]
    · simp [hpending, passEvents]
  · rintro event rest cur reaction ⟨events, hseen, htick, hpending⟩ -
    refine ⟨events ++ [event], ?_, ?_, ?_⟩
    · simp [receive, put, hseen]
    · simp [receive, put, htick, tickAfter_concat]
    · simp [hpending, passEvents]

/-- The pass waits at its last event for an answer. -/
structure PassProgress.WaitsAt (st : WorkerState T) (progress : PassProgress T)
    (front : List (HookEvent T)) (event : HookEvent T) : Prop where
  seen : progress.seen = front ++ [event]
  answered : progress.resumePuts.length = front.length
  layer : progress.tick.layer = st.layerOf event

/-- A loop that has not completed its pass leaves it waiting at an event, unless there was none
left. -/
lemma stepLoop_waits {items : List (MailItem T)} {cursor : StepCursor T}
    (hanswered : cursor.progress.resumePuts.length = cursor.progress.seen.length) :
    let ended := stepLoop bridge st handle req items cursor
    ended.result = .ok true ∨
      ended.pending = [] ∧ ended.result ≠ .ok false ∨
      ∃ front event, ended.cursor.progress.WaitsAt st front event := by
  refine @stepLoop_rule T bridge st handle req (fun _ cur =>
    cur.progress.resumePuts.length = cur.progress.seen.length)
    (fun ended => ended.result = .ok true ∨ ended.pending = [] ∧ ended.result ≠ .ok false ∨
      ∃ front event, ended.cursor.progress.WaitsAt st front event) ?_ ?_ ?_ ?_ ?_ _ _ hanswered
  · exact fun cur _ => .inr (.inl ⟨rfl, nofun⟩)
  · exact fun rest cur _ => .inl rfl
  · intro event rest cur msg hcurrent
    refine .inr (.inr ⟨cur.progress.seen, event, ?_, ?_, ?_⟩)
    · simp [receive]
    · simp [receive, hcurrent]
    · simp [receive, TickState.advance, WorkerState.layerOf]
  · intro event rest cur hcurrent _
    refine .inr (.inr ⟨cur.progress.seen, event, ?_, ?_, ?_⟩)
    · simp [receive]
    · simp [receive, hcurrent]
    · simp [receive, TickState.advance, WorkerState.layerOf]
  · intro event rest cur reaction hcurrent _
    simp [receive, put, hcurrent]

end Loop

/-! ## Whole steps -/

/-- The state of a step that has started a pass. -/
def withFreshPass (bridge : Bridge T) (st : WorkerState T) (req : HostStepRequest) :
    WorkerState T :=
  { installCaptureHooks bridge { st with lastOutputs := some [] } with
    forwardPass := some (freshPass bridge st (inputTensor req.inputIds)) }

/-- Where the loop of a step starts: on the pass that is running, or on a fresh one. -/
inductive StepStart (bridge : Bridge T) (st : WorkerState T) (req : HostStepRequest) :
    WorkerState T → ForwardPassState T → Bool → Prop
  | resumed {pass : ForwardPassState T} (hpass : (dropCompletedPass st).forwardPass = some pass) :
      StepStart bridge st req (dropCompletedPass st) pass true
  | started (hpass : (dropCompletedPass st).forwardPass = none) :
      StepStart bridge st req (withFreshPass bridge (dropCompletedPass st) req)
        (freshPass bridge (dropCompletedPass st) (inputTensor req.inputIds)) false

/-- The pass a step runs on: the one that is running, or a fresh one. -/
def passUnder (bridge : Bridge T) (st : WorkerState T) (req : HostStepRequest) :
    ForwardPassState T :=
  ((dropCompletedPass st).forwardPass).getD
    (freshPass bridge (dropCompletedPass st) (inputTensor req.inputIds))

@[simp] lemma seen_startCursor (resuming : Bool) :
    (startCursor st pass resuming).progress.seen = pass.seen := by
  cases resuming <;> rfl

@[simp] lemma tick_startCursor (resuming : Bool) :
    (startCursor st pass resuming).progress.tick = st.tickState := by
  cases resuming <;> rfl

namespace StepStart

variable {bridge : Bridge T} {st st' : WorkerState T} {req : HostStepRequest}
  {pass : ForwardPassState T} {resuming : Bool}

section

variable (hstart : StepStart bridge st req st' pass resuming)

include hstart

lemma onlyPass : OnlyPass st st' := by
  refine (onlyPass_dropCompletedPass st).trans ?_
  cases hstart with
  | resumed hpass => exact .refl _
  | started hpass => exact ⟨_, _, _, _, _, rfl⟩

lemma tickState :
    st'.tickState = (dropCompletedPass st).tickState := by
  cases hstart <;> rfl

lemma pass_eq :
    pass = passUnder bridge st req := by
  cases hstart with
  | resumed hpass => rw [passUnder, hpass, Option.getD_some]
  | started hpass => rw [passUnder, hpass, Option.getD_none]

end

end StepStart

/-- The response of a step whose loop has ended, with the position it reports. -/
def StepEnd.toResponse (ended : StepEnd T) (tick : TickState) (forwardComplete : Bool) :
    HostStepResponse where
  position := tick.toTickPosition
  events := ended.cursor.allEvents
  forwardComplete := forwardComplete
  eventsTruncated := ended.cursor.allEventsTruncated
  firedInterventions := ended.cursor.allFired

lemma finishStep_cases (ended : StepEnd T) :
    (∃ msg, ended.result = .error msg ∧ finishStep st pass ended =
      (.error msg, st.withProgress pass ended.cursor.progress ended.pending false)) ∨
    (ended.result = .ok true ∧ finishStep st pass ended =
      let tick := ended.cursor.progress.tick.advanceToken
      (.ok (ended.toResponse tick true),
        st.withProgress pass { ended.cursor.progress with tick } ended.pending true)) ∨
    (ended.result = .ok false ∧ finishStep st pass ended =
      (.ok (ended.toResponse ended.cursor.progress.tick false),
        st.withProgress pass ended.cursor.progress ended.pending false)) := by
  rcases ended with ⟨msg | _ | _, cursor, pending⟩
  · exact .inl ⟨msg, rfl, rfl⟩
  · exact .inr (.inr ⟨rfl, rfl⟩)
  · exact .inr (.inl ⟨rfl, rfl⟩)

/-- A step cannot start its pass, or its loop runs on one. -/
lemma runStepLoop_start (bridge : Bridge T) (st : WorkerState T) (handle : ℕ)
    (req : HostStepRequest) :
    (∃ msg st', st'.forwardPass = none ∧ OnlyPass st st' ∧
      st'.tickState = (dropCompletedPass st).tickState ∧
      runStepLoop bridge st handle req = (.error msg, st')) ∨
    ∃ st' pass resuming, StepStart bridge st req st' pass resuming ∧
      runStepLoop bridge st handle req = finishStep st' pass
        (stepLoop bridge st' handle req pass.pending (startCursor st' pass resuming)) := by
  have houtcome := ensureForwardPass_outcome bridge (dropCompletedPass st) req.inputIds
  unfold runStepLoop
  dsimp only
  revert houtcome
  generalize ensureForwardPass bridge (dropCompletedPass st) req.inputIds = ensured
  intro houtcome
  cases houtcome with
  | running hpass =>
    obtain ⟨pass, hpass⟩ := Option.isSome_iff_exists.mp hpass
    refine .inr ⟨_, pass, true, .resumed hpass, ?_⟩
    simp only [hpass, Option.isSome_some]
  | failedEarly hpass hlate msg =>
    exact .inl ⟨msg, { dropCompletedPass st with lastOutputs := some [] }, hpass,
      (onlyPass_dropCompletedPass st).trans ⟨_, _, _, _, _, rfl⟩, rfl, rfl⟩
  | failedLate hpass hlate msg =>
    exact .inl ⟨msg,
      installCaptureHooks bridge { dropCompletedPass st with lastOutputs := some [] }, hpass,
      (onlyPass_dropCompletedPass st).trans ⟨_, _, _, _, _, rfl⟩, rfl, rfl⟩
  | started hpass hlate =>
    refine .inr ⟨_, _, false, .started hpass, ?_⟩
    have hfresh : (dropCompletedPass st).forwardPass.isSome = false := by rw [hpass]; rfl
    rw [hfresh]
    rfl

end RocketSurgeon.Worker
