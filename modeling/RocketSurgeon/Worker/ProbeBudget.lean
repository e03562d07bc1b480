import RocketSurgeon.Worker.StepRun

/-!
# The budget of probe events

A step reports what fires at the events it receives, up to the number of events the request allows.
`evaluate_probes` is given what is left of it at every event and says whether it had to leave
something out; from then on no probe is asked.

`probesFiredThrough` is what fires without a budget.  A step reports its beginning, and reports that
something is missing exactly if something is.
-/

namespace RocketSurgeon.Worker

open Lib Protocol Probes List StepCursor

variable {T : Type}

/-! ## Without a budget -/

/-- What fires at a point: one event for every probe that matches it, in the order of the probes. -/
def probesFiredBy (rank tickId : ℕ) (point : ProbePoint)
    (probes : List (ProbeDefinition × ProbePoint)) : List ProbeFiredEvent :=
  (probes.filter fun probe => probe.2.isMatch point).map fun probe =>
    ⟨probe.1.id, point.display, tickId, probe.1.action, rank⟩

/-- What fires at an event. -/
def probesFiredAt (st : WorkerState T) (tickId : ℕ) (event : HookEvent T) : List ProbeFiredEvent :=
  let component := st.lookupComponent event.path event.callIndex
  let point := buildTickProbePoint st.family st.rank component.2 component.1 event.callIndex
  probesFiredBy st.rank tickId point st.activeProbes

/-- What fires at the events behind a tick. -/
def probesFiredThrough (st : WorkerState T) (tickId : ℕ) :
    List (HookEvent T) → List ProbeFiredEvent
  | [] => []
  | event :: events =>
      probesFiredAt st (tickId + 1) event ++ probesFiredThrough st (tickId + 1) events

lemma probesFiredThrough_concat (st : WorkerState T) (tickId : ℕ) (events : List (HookEvent T))
    (event : HookEvent T) :
    probesFiredThrough st tickId (events ++ [event]) =
      probesFiredThrough st tickId events ++
        probesFiredAt st (tickId + events.length + 1) event := by
  induction events generalizing tickId with
  | nil => simp [probesFiredThrough]
  | cons first events ih =>
    have htick : tickId + 1 + events.length + 1 = tickId + (first :: events).length + 1 := by
      rw [length_cons]
      omega
    rw [cons_append, probesFiredThrough, ih, htick, probesFiredThrough, append_assoc]

/-! ## Within a budget -/

/-- A list within a budget, and whether it had to be cut. -/
def within {α : Type} (budget : ℕ) (xs : List α) : List α × Bool :=
  (xs.take budget, decide (budget < xs.length))

/-- The loop of `evaluate_probes` cuts what fires at the budget. -/
lemma evaluateProbes_eq (rank tickId : ℕ) (point : ProbePoint)
    (probes : List (ProbeDefinition × ProbePoint)) (hevents : events.length ≤ budget) :
    evaluateProbes rank tickId point budget probes events =
      within budget (events ++ probesFiredBy rank tickId point probes) := by
  induction probes generalizing events with
  | nil =>
    rw [evaluateProbes, probesFiredBy, filter_nil, map_nil, append_nil, within,
      take_of_length_le hevents, decide_eq_false (not_lt.mpr hevents)]
  | cons probe probes ih =>
    obtain ⟨definition, pattern⟩ := probe
    by_cases hmatch : pattern.isMatch point = true
    · have hfired : probesFiredBy rank tickId point ((definition, pattern) :: probes) =
          ⟨definition.id, point.display, tickId, definition.action, rank⟩ ::
            probesFiredBy rank tickId point probes := by
        simp [probesFiredBy, hmatch]
      rw [evaluateProbes, if_pos hmatch, hfired]
      split_ifs with hfull
      · -- the budget is used up, and there is one event more
        have hlen : events.length = budget := le_antisymm hevents hfull
        rw [within, ← hlen, take_left, length_append, length_cons,
          decide_eq_true (by omega)]
      · rw [ih (by rw [length_append, length_singleton]; omega), append_assoc,
          singleton_append]
    · have hsilent : probesFiredBy rank tickId point ((definition, pattern) :: probes) =
          probesFiredBy rank tickId point probes := by
        simp [probesFiredBy, hmatch]
      rw [evaluateProbes, if_neg hmatch, hsilent]
      exact ih hevents

lemma within_append (hfits : xs.length ≤ budget) (ys : List α) :
    within budget (xs ++ ys) =
      (xs ++ (within (budget - xs.length) ys).1, (within (budget - xs.length) ys).2) := by
  have hcut : (budget < (xs ++ ys).length) ↔ budget - xs.length < ys.length := by
    rw [length_append]
    omega
  simp only [within, take_append, take_of_length_le hfits, hcut]

lemma within_append_of_lt (hcut : budget < xs.length) (ys : List α) :
    within budget (xs ++ ys) = within budget xs := by
  have hlonger : budget < (xs ++ ys).length := by
    rw [length_append]
    omega
  rw [within, within, take_append_of_le_length hcut.le, decide_eq_true hcut,
    decide_eq_true hlonger]

/-! ## The loop -/

section Loop

variable {bridge : Bridge T} {st : WorkerState T} {handle : ℕ} {req : HostStepRequest}
  {fired : List ProbeFiredEvent}

/-- The number of events a step may report. -/
def maxEventsOf (req : HostStepRequest) : ℕ := req.maxEvents.getD 256

/-- The events of a cursor are what fired so far, within the budget. -/
def Budgeted (req : HostStepRequest) (fired : List ProbeFiredEvent) (cursor : StepCursor T) : Prop :=
  (cursor.allEvents, cursor.allEventsTruncated) = within (maxEventsOf req) fired

lemma Budgeted.observe {cursor : StepCursor T} (hbudgeted : Budgeted req fired cursor)
    (event : HookEvent T) :
    Budgeted req (fired ++ probesFiredAt st (cursor.progress.tick.tickId + 1) event)
      (cursor.observe st req event) := by
  obtain ⟨hevents, htruncated⟩ := Prod.mk.inj hbudgeted
  unfold Budgeted StepCursor.observe probe
  dsimp only
  split_ifs with hskip
  · rcases hskip with hcut | hnone
    · rw [hcut, eq_comm, decide_eq_true_eq] at htruncated
      rw [within_append_of_lt htruncated]
      exact hbudgeted
    · have hsilent : probesFiredAt st (cursor.progress.tick.tickId + 1) event = [] := by
        simp [probesFiredAt, probesFiredBy, hnone]
      rw [hsilent, append_nil]
      exact hbudgeted
  · obtain ⟨hwhole, -⟩ := not_or.mp hskip
    have hfits : fired.length ≤ maxEventsOf req := by
      rw [htruncated] at hwhole
      simpa using hwhole
    rw [take_of_length_le hfits] at hevents
    rw [within_append hfits, evaluateProbes_eq _ _ _ _ (Nat.zero_le _), nil_append, hevents]
    rfl

lemma Budgeted.take (hbudgeted : Budgeted req fired cursor) (event : HookEvent T) :
    Budgeted req (fired ++ probesFiredAt st (cursor.progress.tick.tickId + 1) event)
      (cursor.take st req event).2 := by
  have hobserve := @Budgeted.observe T st req fired cursor hbudgeted event
  unfold StepCursor.take StepCursor.count
  split
  · split
    · split <;> exact hobserve
    · exact hobserve
  · exact hobserve

lemma Budgeted.answer (hbudgeted : Budgeted req fired cursor)
    (reaction : Option (T × List String)) :
    Budgeted req fired (cursor.answer reaction) := by
  cases reaction <;> exact hbudgeted

/-- What a loop has received, and what it reports of it. -/
structure Reported (st : WorkerState T) (req : HostStepRequest) (start cursor : StepCursor T)
    (events : List (HookEvent T)) : Prop where
  seen : cursor.progress.seen = start.progress.seen ++ events
  tick : cursor.progress.tick.tickId = start.progress.tick.tickId + events.length
  budgeted : Budgeted req (probesFiredThrough st start.progress.tick.tickId events) cursor

lemma Reported.next {next : StepCursor T} (hreported : Reported st req start cursor events)
    (hprogress : next.progress.seen = (cursor.progress.receive st event).seen ∧
      next.progress.tick = (cursor.progress.receive st event).tick)
    (hnext : Budgeted req (probesFiredThrough st start.progress.tick.tickId events ++
      probesFiredAt st (cursor.progress.tick.tickId + 1) event) next) :
    Reported st req start next (events ++ [event]) where
  seen := by
    rw [hprogress.1]
    simp [PassProgress.receive, hreported.seen]
  tick := by
    rw [hprogress.2]
    simp [PassProgress.receive, hreported.tick, Nat.add_assoc]
  budgeted := by
    rw [probesFiredThrough_concat, ← hreported.tick]
    exact hnext

lemma stepLoop_reported (items : List (MailItem T)) {cursor : StepCursor T}
    (hcursor : Budgeted req [] cursor) :
    ∃ events, Reported st req cursor (stepLoop bridge st handle req items cursor).cursor events := by
  refine @stepLoop_rule T bridge st handle req
    (fun _ cur => ∃ events, Reported st req cursor cur events)
    (fun ended => ∃ events, Reported st req cursor ended.cursor events) ?_ ?_ ?_ ?_ ?_ _ _
    ⟨[], (append_nil _).symm, rfl, hcursor⟩
  · exact fun cur hcurrent => hcurrent
  · exact fun rest cur hcurrent => hcurrent
  · rintro event rest cur msg ⟨events, hcurrent⟩
    refine ⟨events ++ [event], hcurrent.next ?_ (hcurrent.budgeted.observe event)⟩
    rw [progress_observe]
    exact ⟨rfl, rfl⟩
  · rintro event rest cur ⟨events, hcurrent⟩ -
    refine ⟨events ++ [event], hcurrent.next ?_ (hcurrent.budgeted.take event)⟩
    rw [progress_take]
    exact ⟨rfl, rfl⟩
  · rintro event rest cur reaction ⟨events, hcurrent⟩ -
    refine ⟨events ++ [event], hcurrent.next ?_ ((hcurrent.budgeted.take event).answer reaction)⟩
    rw [progress_answer, progress_take]
    exact ⟨rfl, rfl⟩

end Loop

/-! ## Whole steps -/

lemma OnlyPass.probesFiredThrough (honly : OnlyPass st st') (tickId : ℕ)
    (events : List (HookEvent T)) :
    Worker.probesFiredThrough st' tickId events = Worker.probesFiredThrough st tickId events := by
  obtain ⟨_, _, _, _, _, rfl⟩ := honly
  induction events generalizing tickId with
  | nil => rfl
  | cons event events ih => exact congrArg _ (ih _)

/-- **The budget of probe events.**  A step that succeeds has received some events of its pass and
reports what fires at them, up to the budget.  It reports that something is missing exactly if more
has fired. -/
theorem runStepLoop_events {bridge : Bridge T} {st : WorkerState T} {handle : ℕ}
    {req : HostStepRequest} {response : HostStepResponse}
    (hok : (runStepLoop bridge st handle req).1 = .ok response) :
    ∃ pass observed, (runStepLoop bridge st handle req).2.forwardPass = some pass ∧
      pass.seen = (passUnder bridge st req).seen ++ observed ∧
      let fired := probesFiredThrough st (dropCompletedPass st).tickState.tickId observed
      response.events = fired.take (maxEventsOf req) ∧
        (response.eventsTruncated = true ↔ maxEventsOf req < fired.length) := by
  rcases runStepLoop_start bridge st handle req with
    ⟨message, st', -, -, -, hrun⟩ | ⟨st', pass, resuming, hstart, hrun⟩
  · rw [hrun] at hok
    cases hok
  · rw [hrun] at hok ⊢
    obtain ⟨events, hreported⟩ := @stepLoop_reported T bridge st' handle req pass.pending
      (startCursor st' pass resuming) (by simp [Budgeted, within, startCursor])
    generalize stepLoop bridge st' handle req pass.pending (startCursor st' pass resuming) =
      ended at hok hreported ⊢
    obtain ⟨hseen, -, hbudgeted⟩ := hreported
    rw [seen_startCursor, hstart.pass_eq] at hseen
    rw [tick_startCursor, hstart.tickState, hstart.onlyPass.probesFiredThrough] at hbudgeted
    obtain ⟨hevents, htruncated⟩ := Prod.mk.inj hbudgeted
    have hcut : ended.cursor.allEventsTruncated = true ↔ maxEventsOf req < (probesFiredThrough st
        (dropCompletedPass st).tickState.tickId events).length := by
      rw [htruncated]
      exact decide_eq_true_iff
    rcases finishStep_cases st' pass ended with ⟨message, -, hfinish⟩ | ⟨-, hfinish⟩ | ⟨-, hfinish⟩
    · rw [hfinish] at hok
      cases hok
    · rw [hfinish] at hok ⊢
      cases hok
      exact ⟨_, events, rfl, hseen, hevents, hcut⟩
    · rw [hfinish] at hok ⊢
      cases hok
      exact ⟨_, events, rfl, hseen, hevents, hcut⟩

/-- Two probes that match everywhere. -/
def probedWorker : WorkerState ℕ :=
  { twoLayerWorker with
    activeProbes := ["p", "q"].map fun id =>
      (⟨id, "*:*:*:*:*", .capture, true, 0⟩, ⟨.wildcard, .wildcard, .wildcard, .wildcard, .wildcard,
        .wildcard⟩) }

/-- At two events four probes fire, of which three fit the budget. -/
theorem runStepLoop_events_probedWorker :
    ∃ pass observed,
      (runStepLoop addOneBridge probedWorker 1 { addOneStep with
        count := 2, maxEvents := some 3, interventions := [] }).2.forwardPass = some pass ∧
      pass.seen = [] ++ observed ∧
      let fired := probesFiredThrough probedWorker 0 observed
      [⟨"p", "llama:0:0:o_proj:0:output", 1, .capture, 0⟩,
        ⟨"q", "llama:0:0:o_proj:0:output", 1, .capture, 0⟩,
        ⟨"p", "llama:0:1:o_proj:0:output", 2, .capture, 0⟩] = fired.take 3 ∧
      3 < fired.length := by
  have hok : (runStepLoop addOneBridge probedWorker 1 { addOneStep with
      count := 2, maxEvents := some 3, interventions := [] }).1 = .ok
      ⟨⟨2, .forward, some 0, 1, "o_proj", .output, none, .prefill, some 0, some ⟨0, 2⟩⟩,
        [⟨"p", "llama:0:0:o_proj:0:output", 1, .capture, 0⟩,
          ⟨"q", "llama:0:0:o_proj:0:output", 1, .capture, 0⟩,
          ⟨"p", "llama:0:1:o_proj:0:output", 2, .capture, 0⟩], false, true, []⟩ := by
    decide +kernel
  obtain ⟨pass, observed, hpass, hseen, hevents, hcut⟩ := runStepLoop_events hok
  exact ⟨pass, observed, hpass, hseen, hevents, hcut.mp rfl⟩

end RocketSurgeon.Worker
