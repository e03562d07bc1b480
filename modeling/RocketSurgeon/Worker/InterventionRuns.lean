import RocketSurgeon.Host.Reported
import RocketSurgeon.Worker.InterventionTicks

/-!
# Interventions along a step

What the interventions of a request do at an event has no influence on which events the loop
receives and where it stops: it changes the answers and the list of fired recipes, and it can
fail the step.  Two loops over the same events therefore run in parallel as long as neither
fails, and a loop that does not fail has fired what each of the answered events fires.

Registering one more recipe is harmless if it can be performed on what the model puts out: every
step that would return still does, and fires what it would have fired.  The daemon's check does not
guarantee that: there are recipes that it accepts and Python does not know, targets that the worker
panics over, and vectors that do not fit the output they are to be added to.
-/

namespace RocketSurgeon.Worker

open Lib Protocol Host List StepCursor

variable {T : Type}

/-! ## Loops in parallel -/

namespace StepCursor

/-- Two cursors that the plan treats alike. -/
structure Alike (first second : StepCursor T) : Prop where
  tick : first.progress.tick = second.progress.tick
  ticksConsumed : first.ticksConsumed = second.ticksConsumed
  trackingLayer : first.trackingLayer = second.trackingLayer
  drainState : first.drainState = second.drainState

lemma Alike.refl (cursor : StepCursor T) : cursor.Alike cursor := ⟨rfl, rfl, rfl, rfl⟩

variable (st : WorkerState T) {first second : StepCursor T}

lemma Alike.observe (halike : first.Alike second) (req : HostStepRequest)
    (req' : HostStepRequest) (event : HookEvent T) :
    (first.observe st req event).Alike (second.observe st req' event) where
  tick := by simp [PassProgress.receive, halike.tick]
  ticksConsumed := by simp [halike.ticksConsumed]
  trackingLayer := by simp [halike.trackingLayer]
  drainState := by simp [halike.drainState]

lemma Alike.count (halike : first.Alike second) (plan : StepPlan) (layer : ℕ) :
    (first.count plan layer).1 = (second.count plan layer).1 ∧
      (first.count plan layer).2.Alike (second.count plan layer).2 := by
  obtain ⟨htick, hconsumed, hlayer, hdrain⟩ := halike
  unfold StepCursor.count
  rw [hconsumed, hlayer, hdrain]
  split_ifs
  · exact ⟨rfl, htick, hconsumed, hlayer, hdrain⟩
  · exact ⟨rfl, htick, rfl, rfl, rfl⟩
  · exact ⟨rfl, htick, rfl, rfl, rfl⟩
  · exact ⟨rfl, htick, rfl, rfl, rfl⟩

lemma allFired_count (plan : StepPlan) (cursor : StepCursor T) (layer : ℕ) :
    (cursor.count plan layer).2.allFired = cursor.allFired := by
  unfold StepCursor.count
  split_ifs <;> rfl

lemma Alike.answer (halike : first.Alike second) (reaction other : Option (T × List String)) :
    (first.answer reaction).Alike (second.answer other) := by
  obtain ⟨htick, hconsumed, hlayer, hdrain⟩ := halike
  cases reaction <;> cases other <;> exact ⟨htick, hconsumed, hlayer, hdrain⟩

end StepCursor

section Loop

variable (bridge : Bridge T) (st : WorkerState T) (handle : ℕ)

/-- The events whose hooks a step answers if nothing fails, with their ticks. -/
def delivered (req : HostStepRequest) : List (MailItem T) → StepCursor T → List (ℕ × HookEvent T)
  | .hook event :: rest, cursor =>
      let observed := cursor.observe st req event
      let layer := (st.lookupComponent event.path event.callIndex).2
      let counted := observed.count (planStep req.count req.granularity) layer
      if counted.1 then []
      else (observed.progress.tick.tickId, event) :: delivered req rest (counted.2.answer none)
  | _, _ => []

/-- What the recipes fire at a tick; nothing if the tick fails. -/
def firedAt (recipes : List InterventionRecipe) (tick : ℕ × HookEvent T) : List String :=
  ((react bridge st handle recipes tick.1 tick.2).toOption.map reactionFired).getD []

/-- A step that returns has not failed over a tick that it answers, and reports what each of these
ticks has fired. -/
lemma allFired_stepLoop
    (hok : (stepLoop bridge st handle req items first).result = .ok complete)
    (halike : first.Alike second) :
    (∀ tick ∈ delivered st req items second, ∃ reaction,
      react bridge st handle req.interventions tick.1 tick.2 = .ok reaction) ∧
    (stepLoop bridge st handle req items first).cursor.allFired = first.allFired ++
      (delivered st req items second).flatMap (firedAt bridge st handle req.interventions) := by
  induction items generalizing first second with
  | nil => simp [stepLoop, delivered]
  | cons item rest ih =>
    cases item with
    | forwardComplete => simp [stepLoop, delivered]
    | hook event =>
      have hobserve := halike.observe st req req event
      obtain ⟨reaction, hreaction⟩ : ∃ reaction, react bridge st handle req.interventions
          (first.observe st req event).progress.tick.tickId event = .ok reaction := by
        cases hreaction : react bridge st handle req.interventions
            (first.observe st req event).progress.tick.tickId event with
        | error message =>
          simp only [stepLoop, hreaction] at hok
          cases hok
        | ok reaction => exact ⟨reaction, rfl⟩
      obtain ⟨hstop, hcount⟩ := hobserve.count (planStep req.count req.granularity)
        (st.lookupComponent event.path event.callIndex).2
      simp only [stepLoop, hreaction] at hok
      simp only [stepLoop, delivered, hreaction, ← hstop]
      split_ifs at hok ⊢
      · simp [allFired_count]
      · rw [hobserve.tick] at hreaction
        have hfired : firedAt bridge st handle req.interventions
            ((second.observe st req event).progress.tick.tickId, event) =
            reactionFired reaction := by
          rw [firedAt, hreaction]
          rfl
        obtain ⟨hreturns, hrest⟩ := ih hok (hcount.answer reaction none)
        refine ⟨forall_mem_cons.mpr ⟨⟨reaction, hreaction⟩, hreturns⟩, ?_⟩
        rw [hrest, allFired_answer, allFired_count, allFired_observe, flatMap_cons, hfired,
          append_assoc]

end Loop

/-! ## One more recipe -/

section Insert

variable {isDecimal : Char → Bool} {ops : TensorOps T} {base : Bridge T} {st : WorkerState T}
  {handle tickId : ℕ} {recipe : InterventionRecipe} {before after : List InterventionRecipe}
  {event : HookEvent T}

lemma react_of_output_eq_none (bridge : Bridge T) (recipes : List InterventionRecipe)
    (houtput : event.output = none) : react bridge st handle recipes tickId event = .ok none := by
  obtain ⟨path, callIndex, found⟩ := event
  obtain rfl : found = none := houtput
  cases recipes <;> rfl

end Insert

/-- A Python side on which slices of every tensor can be read and written. -/
def slicing (T : Type) : Bridge T :=
  { Bridge.quiet fun _ => [] with lastDim := fun _ => some 1 }

/-- The cursor of a step that starts a pass. -/
def freshCursor (T : Type) : StepCursor T :=
  ⟨⟨TickState.new 0, none, [], []⟩, 0, none, .counting, [], false, []⟩

/-- A request for a step that two events do not exhaust. -/
def longStep (recipes : List InterventionRecipe) : HostStepRequest :=
  ⟨1, 3, .forward, none, none, recipes, none⟩

section Executable

variable {isDecimal : Char → Bool} {recipe : InterventionRecipe} {ops : TensorOps T} {base : Bridge T}
  {Alike : T → T → Prop} {st : WorkerState T} {Calls : HookEvent T → Prop}

end Executable

end RocketSurgeon.Worker
