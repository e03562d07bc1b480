import RocketSurgeon.Lib.Segments
import RocketSurgeon.Worker.StepRun

/-!
# Steps by layers

At layer granularity the step loop counts the boundaries between layers.  Once it has counted as many
as were asked for it drains: it goes on through the layer it has entered, and stops on the first event
behind it.  So a step of `n` layers that starts in run `k` of the pass has answered the runs up to
`k + n` and waits on the first event of run `k + n + 1`.

The event it waits on is already one of the next layer.  A step that resumes there counts only the
boundaries behind that layer: a step of `n` layers and one of `m` get one layer further than a step of
`n + m`.
-/

namespace RocketSurgeon.Worker

open Lib Protocol Probes List Option

variable {T : Type} {st : WorkerState T} {st' : WorkerState T} {event : HookEvent T}
  {stopped : Option (List (HookEvent T))}

/-! ## Passes that steps have left -/

/-- A worker whose pass, if it has one, was driven by steps alone.  In between anything may happen that
leaves the pass, the clock and the model as they are. -/
inductive Stepping : WorkerState T → Prop
  | fresh {st : WorkerState T} (hpass : (dropCompletedPass st).forwardPass = none) : Stepping st
  | step {st : WorkerState T} (hstepping : Stepping st) (bridge : Bridge T) (handle : ℕ)
      (req : HostStepRequest) : Stepping (runStepLoop bridge st handle req).2
  | other {st st' : WorkerState T} (hstepping : Stepping st) (hmodel : SameModel st st')
      (hpass : st'.forwardPass = st.forwardPass) (htick : st'.tickState = st.tickState) :
      Stepping st'

/-- A pass that is running waits at an event, or nothing more will come. -/
def Settled (st : WorkerState T) : Prop :=
  ∀ pass, st.forwardPass = some pass → pass.forwardComplete = false →
    pass.pending = [] ∨ ∃ front event, (st.progress pass).WaitsAt st front event

lemma SameModel.layerOf (hsame : SameModel st st') (event : HookEvent T) :
    st'.layerOf event = st.layerOf event := by
  simp only [WorkerState.layerOf, WorkerState.lookupComponent, hsame.componentMap,
    hsame.componentIndex]

lemma dropCompletedPass_of_some {pass : ForwardPassState T}
    (hpass : (dropCompletedPass st).forwardPass = some pass) :
    dropCompletedPass st = st ∧ st.forwardPass = some pass ∧ pass.forwardComplete = false := by
  unfold dropCompletedPass at hpass ⊢
  split at hpass
  next found hfound =>
    split at hpass
    · cases hpass
    next hrunning =>
      rw [hpass] at hfound
      cases hfound
      exact ⟨if_neg hrunning, hpass, Bool.eq_false_iff.mpr hrunning⟩
  next hnone => rw [hnone] at hpass; cases hpass

section Start

variable {bridge : Bridge T} {st st' : WorkerState T} {req : HostStepRequest}
  {pass : ForwardPassState T} {resuming : Bool}

/-- Before its loop a step has answered everything, and it tracks the layer of the last event. -/
structure Aligned (st : WorkerState T) (cursor : StepCursor T) : Prop where
  answered : cursor.progress.resumePuts.length = cursor.progress.seen.length
  tracking : cursor.trackingLayer = cursor.progress.seen.getLast?.map st.layerOf

lemma StepStart.aligned (hstart : StepStart bridge st req st' pass resuming)
    (hsettled : Settled st) : pass.pending = [] ∨ Aligned st' (startCursor st' pass resuming) := by
  cases hstart with
  | started hpass => exact .inr ⟨rfl, rfl⟩
  | resumed hpass =>
    obtain ⟨hdrop, hpass, hrunning⟩ := dropCompletedPass_of_some hpass
    rw [hdrop]
    rcases hsettled pass hpass hrunning with hpending | ⟨front, event, hseen, hanswered, hlayer⟩
    · exact .inl hpending
    · change pass.seen = front ++ [event] at hseen
      change pass.resumePuts.length = front.length at hanswered
      refine .inr ⟨?_, ?_⟩
      · simp [startCursor, WorkerState.progress, PassProgress.put, hseen, hanswered]
      · simp only [startCursor, WorkerState.progress, PassProgress.put, hseen, if_true,
          getLast?_append, getLast?_singleton, some_or, map_some]
        exact congrArg some hlayer

end Start

lemma settled_withProgress
    (hwaits : pending = [] ∨ ∃ front event, prog.WaitsAt st front event)
    (pass : ForwardPassState T) (complete : Bool) :
    Settled (st.withProgress pass prog pending complete) := by
  intro left hleft _
  cases hleft
  exact hwaits.imp_right fun ⟨front, event, hseen, hanswered, hlayer⟩ =>
    ⟨front, event, hseen, hanswered, hlayer⟩

lemma settled_runStepLoop (hsettled : Settled st) (bridge : Bridge T) (handle : ℕ)
    (req : HostStepRequest) : Settled (runStepLoop bridge st handle req).2 := by
  rcases runStepLoop_start bridge st handle req with
    ⟨msg, st', hpass, -, -, hrun⟩ | ⟨st', pass, resuming, hstart, hrun⟩
  · rw [hrun]
    intro pass hsome
    rw [hpass] at hsome
    cases hsome
  · have hended : (stepLoop bridge st' handle req pass.pending
          (startCursor st' pass resuming)).pending = [] ∨ _ :=
      (hstart.aligned hsettled).imp (fun hpending => by rw [hpending]; rfl)
        fun haligned => @stepLoop_waits T bridge st' handle req pass.pending _ haligned.answered
    rw [hrun]
    revert hended
    generalize stepLoop bridge st' handle req pass.pending (startCursor st' pass resuming) = ended
    intro hended
    have hwaits : ended.result ≠ .ok true → ended.pending = [] ∨
        ∃ front event, ended.cursor.progress.WaitsAt st' front event := fun hincomplete =>
      hended.elim .inl fun hwaits => (hwaits.resolve_left hincomplete).imp_left And.left
    rcases finishStep_cases st' pass ended with ⟨msg, hres, hfinish⟩ | ⟨hres, hfinish⟩ |
      ⟨hres, hfinish⟩
    · rw [hfinish]
      exact settled_withProgress (hwaits (hres ▸ nofun)) pass false
    · rw [hfinish]
      intro left hleft hrunning
      cases hleft
      cases hrunning
    · rw [hfinish]
      exact settled_withProgress (hwaits (hres ▸ nofun)) pass false

lemma Stepping.settled (hstepping : Stepping st) : Settled st := by
  induction hstepping with
  | @fresh st hpass =>
    intro pass hsome hrunning
    simp [dropCompletedPass, hsome, hrunning] at hpass
  | step _ bridge handle req ih => exact settled_runStepLoop ih bridge handle req
  | other _ hmodel hpass htick ih =>
    intro pass hsome hrunning
    refine (ih pass (hpass ▸ hsome) hrunning).imp_right ?_
    rintro ⟨front, event, hseen, hanswered, hlayer⟩
    refine ⟨front, event, hseen, hanswered, ?_⟩
    rw [hmodel.layerOf, ← hlayer]
    exact congrArg TickState.layer htick

/-! ## The loop at layer granularity -/

section Loop

variable {bridge : Bridge T} {st : WorkerState T} {handle : ℕ} {req : HostStepRequest}

lemma StepCursor.take_layer (hlayer : req.granularity = some .layer) (cursor : StepCursor T)
    (event : HookEvent T) :
    cursor.take st req event =
      let observed := cursor.observe st req event
      if isLayerBoundary cursor.trackingLayer (st.layerOf event) then
        if cursor.drainState = .draining then (true, observed)
        else (false, { observed with
          ticksConsumed := cursor.ticksConsumed + 1
          drainState := if req.count ≤ cursor.ticksConsumed + 1 then .draining else .counting
          trackingLayer := some (st.layerOf event) })
      else (false, { observed with trackingLayer := some (st.layerOf event) }) := by
  simp [StepCursor.take, StepCursor.count, planStep, hlayer]

/-- The runs of a pass by layers. -/
def WorkerState.layerRuns (st : WorkerState T) (events : List (HookEvent T)) :
    List (List (HookEvent T)) :=
  runs st.layerOf events

lemma isLayerBoundary_iff :
    isLayerBoundary (seen.getLast?.map st.layerOf) (st.layerOf event) = true ↔
      seen ≠ [] ∧ ¬ Continues st.layerOf seen event := by
  cases hlast : seen.getLast? with
  | none =>
    rw [getLast?_eq_none_iff] at hlast
    simp [isLayerBoundary, hlast]
  | some last =>
    have hne : seen ≠ [] := by
      rintro rfl
      cases hlast
    simp only [map_some, isLayerBoundary, Continues, hlast, some.injEq,
      exists_eq_left', ne_eq, hne, not_false_eq_true, true_and, decide_eq_true_eq]
    exact ne_comm

/-- The loop of a step of `n` layers that has started in run `k`: as many boundaries are counted as
runs were entered. -/
structure Counts (st : WorkerState T) (k n : ℕ) (cursor : StepCursor T) : Prop
    extends Aligned st cursor where
  runs : k + 1 + cursor.ticksConsumed = max 1 (st.layerRuns cursor.progress.seen).length
  counting : cursor.ticksConsumed ≤ n
  draining : cursor.drainState = .draining ↔ n ≤ cursor.ticksConsumed

@[simp] lemma StepCursor.trackingLayer_answer (cursor : StepCursor T)
    (reaction : Option (T × List String)) :
    (cursor.answer reaction).trackingLayer = cursor.trackingLayer := by
  cases reaction <;> rfl

@[simp] lemma StepCursor.drainState_answer (cursor : StepCursor T)
    (reaction : Option (T × List String)) :
    (cursor.answer reaction).drainState = cursor.drainState := by
  cases reaction <;> rfl

/-- Where the loop stops, all the layers it was to step through have been received. -/
lemma Counts.of_stop (hcounts : Counts st k req.count cursor)
    (hlayer : req.granularity = some .layer) (hstop : (cursor.take st req event).1 = true) :
    ¬ Continues st.layerOf cursor.progress.seen event ∧
      (st.layerRuns cursor.progress.seen).length = k + 1 + req.count := by
  rw [StepCursor.take_layer hlayer, hcounts.tracking] at hstop
  split_ifs at hstop with hboundary hdraining
  obtain ⟨hne, hnew⟩ := isLayerBoundary_iff.mp hboundary
  have hruns := hcounts.runs
  have hcounting := hcounts.counting
  have hdrained := hcounts.draining.mp hdraining
  have hpos : 0 < (st.layerRuns cursor.progress.seen).length :=
    length_pos_iff.mpr (splitBy_ne_nil.mpr hne)
  exact ⟨hnew, by omega⟩

section Answer

variable {k n : ℕ} {cursor next : StepCursor T} {event : HookEvent T}
  (hcounts : Counts st k n cursor) (haligned : Aligned st next)
  (hseen : next.progress.seen = cursor.progress.seen ++ [event])

include hcounts haligned hseen

/-- The event is the first of another layer. -/
lemma Counts.cross
    (hboundary : cursor.progress.seen ≠ [] ∧ ¬ Continues st.layerOf cursor.progress.seen event)
    (hcounting : ¬ cursor.drainState = .draining)
    (hticks : next.ticksConsumed = cursor.ticksConsumed + 1)
    (hdrain : next.drainState = if n ≤ cursor.ticksConsumed + 1 then .draining else .counting) :
    Counts st k n next where
  toAligned := haligned
  runs := by
    have hpos : 0 < (st.layerRuns cursor.progress.seen).length :=
      length_pos_iff.mpr (splitBy_ne_nil.mpr hboundary.1)
    have hlen : (st.layerRuns next.progress.seen).length =
        (st.layerRuns cursor.progress.seen).length + 1 := by
      rw [hseen]
      exact length_runs_concat_of_not_continues hboundary.2
    have hruns := hcounts.runs
    omega
  counting := by
    have hroom := mt hcounts.draining.mpr hcounting
    omega
  draining := by
    rw [hdrain, hticks]
    split_ifs with hdrained
    · exact iff_of_true rfl hdrained
    · exact iff_of_false nofun hdrained

/-- The event is the first of all, or one of the same layer. -/
lemma Counts.stay
    (hsame : ¬ (cursor.progress.seen ≠ [] ∧ ¬ Continues st.layerOf cursor.progress.seen event))
    (hticks : next.ticksConsumed = cursor.ticksConsumed)
    (hdrain : next.drainState = cursor.drainState) : Counts st k n next where
  toAligned := haligned
  runs := by
    rw [hticks, hcounts.runs, hseen]
    by_cases hfirst : cursor.progress.seen = []
    · rw [hfirst]
      rfl
    · have hcontinues := not_not.mp fun hnew => hsame ⟨hfirst, hnew⟩
      exact congrArg _ (length_runs_concat_of_continues hcontinues).symm
  counting := hticks ▸ hcounts.counting
  draining := by rw [hdrain, hticks]; exact hcounts.draining

end Answer

lemma Counts.answer (hcounts : Counts st k req.count cursor)
    (hlayer : req.granularity = some .layer) (hgoes : (cursor.take st req event).1 = false)
    (reaction : Option (T × List String)) :
    Counts st k req.count ((cursor.take st req event).2.answer reaction) := by
  have hseen : ((cursor.take st req event).2.answer reaction).progress.seen =
      cursor.progress.seen ++ [event] := by
    simp [PassProgress.receive, PassProgress.put]
  have hputs : ((cursor.take st req event).2.answer reaction).progress.resumePuts.length =
      cursor.progress.resumePuts.length + 1 := by
    simp [PassProgress.receive, PassProgress.put]
  have htake := @StepCursor.take_layer T st req hlayer cursor event
  rw [hcounts.tracking] at htake
  have haligned : ((cursor.take st req event).2.answer reaction).trackingLayer =
      some (st.layerOf event) → Aligned st ((cursor.take st req event).2.answer reaction) :=
    fun htracking => ⟨by rw [hseen, hputs, hcounts.answered, length_append]; rfl, by
      rw [htracking, hseen, getLast?_concat, map_some]⟩
  by_cases hboundary : isLayerBoundary (cursor.progress.seen.getLast?.map st.layerOf)
      (st.layerOf event) = true
  · by_cases hdraining : cursor.drainState = .draining
    · rw [htake, if_pos hboundary, if_pos hdraining] at hgoes
      cases hgoes
    · rw [if_pos hboundary, if_neg hdraining] at htake
      refine hcounts.cross (haligned ?_) hseen (isLayerBoundary_iff.mp hboundary) hdraining ?_ ?_
      · simp [htake]
      · simp [htake]
      · simp [htake]
  · rw [if_neg hboundary] at htake
    refine hcounts.stay (haligned ?_) hseen (mt isLayerBoundary_iff.mpr hboundary) ?_ ?_
    · simp [htake]
    · simp [htake]
    · simp [htake]

/-- How a step of `n` layers ends that has started in run `k` of a pass. -/
structure LayerEnd (st : WorkerState T) (k n : ℕ) (stream : List (HookEvent T))
    (ended : StepEnd T) : Prop where
  complete : ended.result = .ok true → (st.layerRuns stream).length ≤ k + 1 + n
  stopped : ended.result = .ok false → ∃ front event,
    ended.cursor.progress.WaitsAt st front event ∧
      (st.layerRuns front).length = k + 1 + n ∧ ¬ Continues st.layerOf front event ∧
      stream = front ++ event :: passEvents ended.pending

lemma stepLoop_layerEnd {k : ℕ} {items : List (MailItem T)} {cursor : StepCursor T}
    (hlayer : req.granularity = some .layer) (hcounts : Counts st k req.count cursor) :
    LayerEnd st k req.count (cursor.progress.seen ++ passEvents items)
      (stepLoop bridge st handle req items cursor) := by
  refine @stepLoop_rule T bridge st handle req (fun rest cur =>
    Counts st k req.count cur ∧
      cursor.progress.seen ++ passEvents items = cur.progress.seen ++ passEvents rest)
    (LayerEnd st k req.count _) ?_ ?_ ?_ ?_ ?_ _ _
    ⟨hcounts, rfl⟩
  · exact fun cur _ => ⟨nofun, nofun⟩
  · rintro rest cur ⟨hcurrent, hstream⟩
    refine ⟨fun _ => ?_, nofun⟩
    have hruns := hcurrent.runs
    have hcounting := hcurrent.counting
    have hnone : passEvents (.forwardComplete :: rest) = [] := rfl
    rw [hstream, hnone, append_nil]
    omega
  · exact fun event rest cur msg _ => ⟨nofun, nofun⟩
  · rintro event rest cur ⟨hcurrent, hstream⟩ hstop
    obtain ⟨hnew, hruns⟩ := hcurrent.of_stop hlayer hstop
    refine ⟨nofun, fun _ => ⟨cur.progress.seen, event, ⟨?_, ?_, ?_⟩, hruns, hnew, hstream⟩⟩
    · simp [PassProgress.receive]
    · simp [PassProgress.receive, hcurrent.answered]
    · simp [PassProgress.receive, TickState.advance, WorkerState.layerOf]
  · rintro event rest cur reaction ⟨hcurrent, hstream⟩ hgoes
    refine ⟨hcurrent.answer hlayer hgoes reaction, hstream.trans ?_⟩
    simp [PassProgress.receive, PassProgress.put, passEvents]

/-- The pass ends within the items: nothing that comes behind them belongs to it. -/
def Ends (items : List (MailItem T)) : Prop :=
  ∀ behind, passEvents (items ++ behind) = passEvents items

/-- A loop that completes its pass has received the end of it. -/
lemma ends_of_stepLoop {items : List (MailItem T)} {cursor : StepCursor T} :
    (stepLoop bridge st handle req items cursor).result = .ok true → Ends items := by
  refine @stepLoop_rule T bridge st handle req (fun rest _ => Ends rest → Ends items)
    (fun ended => ended.result = .ok true → Ends items) ?_ ?_ ?_ ?_ ?_ _ _ id
  · exact fun _ _ hcomplete => nomatch hcomplete
  · exact fun rest _ hends _ => hends fun _ => rfl
  · exact fun _ _ _ _ _ hcomplete => nomatch hcomplete
  · exact fun _ _ _ _ _ hcomplete => nomatch hcomplete
  · exact fun event rest _ _ hends _ hrest => hends fun behind =>
      congrArg (event :: ·) (hrest behind)

end Loop

/-! ## Whole steps -/

section Whole

variable {bridge : Bridge T} {st : WorkerState T} {handle : ℕ} {req : HostStepRequest}
  {pass : ForwardPassState T}

/-- All the events of the pass a step runs on. -/
def streamUnder (bridge : Bridge T) (st : WorkerState T) (req : HostStepRequest) :
    List (HookEvent T) :=
  (passUnder bridge st req).seen ++ passEvents (passUnder bridge st req).pending

/-- The run of the event the pass waits at, the last of those that were seen; 0 if it is fresh. -/
def startRun (bridge : Bridge T) (st : WorkerState T) (req : HostStepRequest) : ℕ :=
  (st.layerRuns (passUnder bridge st req).seen).length - 1

lemma SameModel.layerRuns (hsame : SameModel st st') (events : List (HookEvent T)) :
    st'.layerRuns events = st.layerRuns events := by
  have hlayerOf : st'.layerOf = st.layerOf := funext hsame.layerOf
  rw [WorkerState.layerRuns, hlayerOf, WorkerState.layerRuns]

/-- A pass that has stopped on an event: those before it are answered. -/
structure ForwardPassState.StoppedOn (pass : ForwardPassState T) (front : List (HookEvent T))
    (event : HookEvent T) : Prop where
  running : pass.forwardComplete = false
  seen : pass.seen = front ++ [event]
  answered : pass.resumePuts.length = front.length

lemma StepStart.counts (hstart : StepStart bridge st req st' pass resuming)
    (hcount : 1 ≤ req.count) (haligned : Aligned st' (startCursor st' pass resuming)) :
    Counts st' (startRun bridge st req) req.count (startCursor st' pass resuming) where
  toAligned := haligned
  runs := by
    rw [seen_startCursor, hstart.onlyPass.sameStore.toSameModel.layerRuns, startRun, hstart.pass_eq]
    change _ + 1 + 0 = _
    omega
  counting := Nat.zero_le _
  draining := iff_of_false nofun (by change ¬ req.count ≤ 0; omega)

/-- A step of layers that does not fail completes its pass, which has no more runs than it was to
step through, or stops where the next run begins. -/
lemma runStepLoop_layer (hstepping : Stepping st) (hlayer : req.granularity = some .layer)
    (hcount : 1 ≤ req.count) {resp : HostStepResponse}
    (hok : (runStepLoop bridge st handle req).1 = .ok resp) :
    ∃ pass, (runStepLoop bridge st handle req).2.forwardPass = some pass ∧
      (resp.forwardComplete = true ∧ pass.forwardComplete = true ∧
          Ends (passUnder bridge st req).pending ∧
          (st.layerRuns (streamUnder bridge st req)).length ≤
            startRun bridge st req + req.count + 1 ∨
        resp.forwardComplete = false ∧ ∃ front event, pass.StoppedOn front event ∧
          streamUnder bridge st req = front ++ event :: passEvents pass.pending ∧
          (st.layerRuns front).length = startRun bridge st req + req.count + 1 ∧
          ¬ Continues st.layerOf front event) := by
  rcases runStepLoop_start bridge st handle req with
    ⟨msg, st', -, -, -, hrun⟩ | ⟨st', pass, resuming, hstart, hrun⟩
  · rw [hrun] at hok
    cases hok
  · have hmodel := hstart.onlyPass.sameStore.toSameModel
    rw [hrun] at hok ⊢
    rcases hstart.aligned hstepping.settled with hpending | haligned
    · rw [hpending] at hok
      cases hok
    · have hended := @stepLoop_layerEnd T bridge st' handle req _ pass.pending _ hlayer
        (hstart.counts hcount haligned)
      have hstream : pass.seen ++ passEvents pass.pending = streamUnder bridge st req := by
        rw [streamUnder, ← hstart.pass_eq]
      rw [seen_startCursor, hstream] at hended
      have hends := @ends_of_stepLoop T bridge st' handle req pass.pending
        (startCursor st' pass resuming)
      generalize stepLoop bridge st' handle req pass.pending (startCursor st' pass resuming) =
        ended at hok hended hends ⊢
      rcases finishStep_cases st' pass ended with ⟨msg, -, hfinish⟩ | ⟨hres, hfinish⟩ |
        ⟨hres, hfinish⟩
      · rw [hfinish] at hok
        cases hok
      · rw [hfinish] at hok ⊢
        cases hok
        have hruns := hended.complete hres
        rw [hmodel.layerRuns] at hruns
        exact ⟨_, rfl, .inl ⟨rfl, rfl, hstart.pass_eq ▸ hends hres, by omega⟩⟩
      · rw [hfinish] at hok ⊢
        cases hok
        obtain ⟨front, event, hwaits, hruns, hnew, hrest⟩ := hended.stopped hres
        rw [hmodel.layerRuns] at hruns
        refine ⟨_, rfl, .inr ⟨rfl, front, event, ⟨rfl, hwaits.seen, hwaits.answered⟩, hrest,
          by omega, ?_⟩⟩
        rwa [show st.layerOf = st'.layerOf from (funext hmodel.layerOf).symm]

/-- **A layer step drains whole layers.**  A step of layers that starts in run `k` of the layers of a
pass and does not reach its end has answered all the runs up to `k` and the `n` it was to step through,
and waits on the first event of the next. -/
theorem layerStep_drains (hstepping : Stepping st) (hlayer : req.granularity = some .layer)
    (hcount : 1 ≤ req.count) {response : HostStepResponse}
    (hok : (runStepLoop bridge st handle req).1 = .ok response)
    (hpaused : response.forwardComplete = false) :
    let runs := st.layerRuns (streamUnder bridge st req)
    let next := startRun bridge st req + req.count + 1
    ∃ pass first, (runStepLoop bridge st handle req).2.forwardPass = some pass ∧
      pass.forwardComplete = false ∧
      runs[next]?.bind List.head? = some first ∧
      pass.seen = (runs.take next).flatten ++ [first] ∧
      pass.resumePuts.length = (runs.take next).flatten.length := by
  intro runs next
  obtain ⟨pass, hpass, ⟨hcomplete, -⟩ | ⟨-, front, event, hstopped, hstream, hlength, hnew⟩⟩ :=
    runStepLoop_layer hstepping hlayer hcount hok
  · rw [hpaused] at hcomplete
    cases hcomplete
  · have hruns : runs = st.layerRuns front ++ st.layerRuns (event :: passEvents pass.pending) := by
      change st.layerRuns (streamUnder bridge st req) = _
      rw [hstream]
      exact runs_append_cons hnew _
    have htake : (runs.take next).flatten = front := by
      rw [hruns, take_left' hlength]
      exact flatten_runs front
    refine ⟨pass, event, hpass, hstopped.running, ?_, ?_, ?_⟩
    · rw [hruns, getElem?_append_right hlength.le, hlength, Nat.sub_self,
        ← head?_eq_getElem?]
      exact head?_runs_cons event _
    · rw [htake]
      exact hstopped.seen
    · rw [htake]
      exact hstopped.answered

/-! ### A pass of four layers -/

/-- A model of four layers with one component each. -/
def fourLayerModel : AttachedModel :=
  { twoLayerModel with
    numLayers := 4
    componentMap := {
      components := [
        ⟨"layers.0.o_proj", "o_proj", some 0, 0, "llama:0:0:o_proj:0:output"⟩,
        ⟨"layers.1.o_proj", "o_proj", some 1, 0, "llama:0:1:o_proj:0:output"⟩,
        ⟨"layers.2.o_proj", "o_proj", some 2, 0, "llama:0:2:o_proj:0:output"⟩,
        ⟨"layers.3.o_proj", "o_proj", some 3, 0, "llama:0:3:o_proj:0:output"⟩]
      modelFamily := "llama" }
    containerPaths := ["layers.0", "layers.1", "layers.2", "layers.3"] }

def fourLayerWorker : WorkerState ℕ := attachModel WorkerState.new fourLayerModel

/-- Every layer is called once. -/
def fourLayerBridge : Bridge ℕ :=
  Bridge.quiet fun _ => [
    .hook ⟨"layers.0.o_proj", 0, some 10⟩, .hook ⟨"layers.1.o_proj", 0, some 11⟩,
    .hook ⟨"layers.2.o_proj", 0, some 12⟩, .hook ⟨"layers.3.o_proj", 0, some 13⟩, .forwardComplete]

def layerStep (count : ℕ) : HostStepRequest :=
  { addOneStep with count, granularity := some .layer, interventions := [] }

/-- A step of one layer answers two of them and waits in the third. -/
theorem layerStep_drains_fourLayers :
    let runs := fourLayerWorker.layerRuns (streamUnder fourLayerBridge fourLayerWorker (layerStep 1))
    ∃ pass first,
      (runStepLoop fourLayerBridge fourLayerWorker 1 (layerStep 1)).2.forwardPass = some pass ∧
      pass.forwardComplete = false ∧ runs[2]?.bind List.head? = some first ∧
      pass.seen = (runs.take 2).flatten ++ [first] ∧
      pass.resumePuts.length = (runs.take 2).flatten.length := by
  have hok : (runStepLoop fourLayerBridge fourLayerWorker 1 (layerStep 1)).1 = .ok
      ⟨⟨3, .forward, some 0, 2, "o_proj", .output, none, .prefill, some 0, some ⟨0, 3⟩⟩, [], false,
        false, []⟩ := by decide +kernel
  exact layerStep_drains (.fresh rfl) rfl (by decide) hok rfl

/-! ## Two steps or one -/

/-- The events up to the one that a pass has stopped on; nothing if it is complete. -/
def stoppedAt (st : WorkerState T) : Option (List (HookEvent T)) :=
  st.forwardPass.bind fun pass => if pass.forwardComplete then none else some pass.seen

/-- A step of `n` layers and one of `m` get as far as a step of `n + m`. -/
def LayerStepsAdd (bridge : Bridge T) (st : WorkerState T) (handle : ℕ) (req : HostStepRequest)
    (n m : ℕ) : Prop :=
  let once := runStepLoop bridge st handle { req with count := n + m }
  let first := runStepLoop bridge st handle { req with count := n }
  let second := runStepLoop bridge first.2 handle { req with count := m }
  stoppedAt second.2 = stoppedAt once.2

/-- A pass of `total` runs is complete, or it has stopped on the first event behind `last` of them. -/
def Lands (st : WorkerState T) (total last : ℕ) (stopped : Option (List (HookEvent T))) : Prop :=
  stopped = none ∧ total ≤ last ∨
    ∃ seen, stopped = some seen ∧ (st.layerRuns seen).length = last + 1 ∧ last < total

lemma Lands.eq_none_iff {total : ℕ} (hlands : Lands st total last stopped) :
    stopped = none ↔ total ≤ last := by
  rcases hlands with ⟨hnone, hreach⟩ | ⟨seen, hseen, -, hbeyond⟩
  · exact iff_of_true hnone hreach
  · exact iff_of_false (by rw [hseen]; nofun) (not_le.mpr hbeyond)

/-- Behind different numbers of runs of a pass, only its end is the same. -/
lemma Lands.eq_iff_of_lt {total : ℕ} (hlands : Lands st total last stopped)
    (hlands' : Lands st total last' stopped') (hlt : last' < last) :
    stopped = stopped' ↔ total ≤ last' := by
  constructor
  · rintro rfl
    by_contra hbeyond
    rcases hlands' with ⟨-, hreach⟩ | ⟨seen, hseen, hlen', -⟩
    · exact hbeyond hreach
    · rcases hlands with ⟨hnone, -⟩ | ⟨other, hother, hlen, -⟩
      · cases hnone.symm.trans hseen
      · cases hother.symm.trans hseen
        omega
  · intro hreach
    rw [hlands.eq_none_iff.mpr (by omega), hlands'.eq_none_iff.mpr hreach]

lemma SameModel.lands {total : ℕ} (hsame : SameModel st st')
    (hlands : Lands st' total last stopped) : Lands st total last stopped := by
  simpa only [Lands, hsame.layerRuns] using hlands

/-- How far a step of layers gets, by the number of runs. -/
lemma lands_runStepLoop (hstepping : Stepping st) (hlayer : req.granularity = some .layer)
    (hn : 1 ≤ n) (hok : (runStepLoop bridge st handle { req with count := n }).1.isOk = true) :
    Lands st (st.layerRuns (streamUnder bridge st req)).length (startRun bridge st req + n + 1)
      (stoppedAt (runStepLoop bridge st handle { req with count := n }).2) := by
  obtain ⟨resp, hok⟩ := exists_ok_of_isOk hok
  obtain ⟨pass, hpass, ⟨-, hcomplete, -, htotal⟩ |
      ⟨-, front, event, hstopped, hstream, hlen, hnew⟩⟩ :=
    @runStepLoop_layer T bridge st handle { req with count := n } hstepping hlayer hn _ hok
  · refine .inl ⟨?_, htotal⟩
    rw [stoppedAt, hpass, bind_some, if_pos hcomplete]
  · -- a count is not part of the pass under a request, nor of where it starts
    change streamUnder bridge st req = _ at hstream
    change _ = startRun bridge st req + n + 1 at hlen
    refine .inr ⟨pass.seen, ?_, ?_, ?_⟩
    · rw [stoppedAt, hpass, bind_some, hstopped.running, if_neg Bool.false_ne_true]
    · rw [hstopped.seen, ← hlen]
      exact length_runs_concat_of_not_continues hnew
    · rw [hstream, ← hlen]
      exact length_runs_lt hnew _

/-- A step that starts a pass gets as far as in the whole pass: the hooks of an earlier one either let
it through to the end, or hold it up behind the event it stops on. -/
lemma lands_of_fresh (hfresh : (dropCompletedPass st).forwardPass = none)
    (hlayer : req.granularity = some .layer) (hn : 1 ≤ n)
    (hok : (runStepLoop bridge st handle { req with count := n }).1.isOk = true) :
    Lands st (st.layerRuns (passEvents (bridge.forward (inputTensor req.inputIds)))).length (n + 1)
      (stoppedAt (runStepLoop bridge st handle { req with count := n }).2) := by
  have hunder : passUnder bridge st req =
      freshPass bridge (dropCompletedPass st) (inputTensor req.inputIds) := by
    rw [passUnder, hfresh, getD_none]
  have hstart : startRun bridge st req = 0 := by
    rw [startRun, hunder]
    rfl
  have hpending : streamUnder bridge st req =
      passEvents (forwardItems bridge (dropCompletedPass st) (inputTensor req.inputIds)) := by
    rw [streamUnder, hunder]
    rfl
  obtain ⟨behind, hforward⟩ := exists_forward_eq bridge (dropCompletedPass st)
    (inputTensor req.inputIds)
  obtain ⟨resp, hok⟩ := exists_ok_of_isOk hok
  obtain ⟨pass, hpass, ⟨-, hcomplete, hends, htotal⟩ |
      ⟨-, front, event, hstopped, hstream, hlength, hnew⟩⟩ :=
    @runStepLoop_layer T bridge st handle { req with count := n } (.fresh hfresh) hlayer hn _ hok
  · change Ends (passUnder bridge st req).pending at hends
    change (st.layerRuns (streamUnder bridge st req)).length ≤ startRun bridge st req + n + 1 at htotal
    rw [hunder] at hends
    have hwhole : passEvents (bridge.forward (inputTensor req.inputIds)) =
        streamUnder bridge st req := by
      rw [hforward, hpending]
      exact hends behind
    refine .inl ⟨by rw [stoppedAt, hpass, bind_some, if_pos hcomplete], ?_⟩
    rw [hwhole]
    omega
  · change streamUnder bridge st req = _ at hstream
    change _ = startRun bridge st req + n + 1 at hlength
    rw [hstart, Nat.zero_add] at hlength
    refine .inr ⟨pass.seen, ?_, ?_, ?_⟩
    · rw [stoppedAt, hpass, bind_some, hstopped.running, if_neg Bool.false_ne_true]
    · rw [hstopped.seen, ← hlength]
      exact length_runs_concat_of_not_continues hnew
    · obtain ⟨more, hmore⟩ := exists_passEvents_append
        (forwardItems bridge (dropCompletedPass st) (inputTensor req.inputIds)) behind
      rw [hforward, hmore, ← hpending, hstream, ← hlength, append_assoc]
      exact length_runs_lt hnew _

lemma fresh_of_complete (hpass : st.forwardPass = some pass)
    (hcomplete : pass.forwardComplete = true) : (dropCompletedPass st).forwardPass = none := by
  simp [dropCompletedPass, removeHooks, hpass, hcomplete]

lemma passUnder_of_running (hpass : st.forwardPass = some pass)
    (hrunning : pass.forwardComplete = false) : passUnder bridge st req = pass := by
  simp [passUnder, dropCompletedPass, hpass, hrunning]

/-- Where the next step starts: over, or in the run behind the layers of this one. -/
lemma next_runStepLoop (hstepping : Stepping st) (hlayer : req.granularity = some .layer)
    (hn : 1 ≤ n) (hok : (runStepLoop bridge st handle { req with count := n }).1.isOk = true) :
    let next := (runStepLoop bridge st handle { req with count := n }).2
    let total := (st.layerRuns (streamUnder bridge st req)).length
    let last := startRun bridge st req + n + 1
    (total ≤ last ∧ (dropCompletedPass next).forwardPass = none) ∨
      (last < total ∧ startRun bridge next req = last ∧
        streamUnder bridge next req = streamUnder bridge st req) := by
  have hmodel := (onlyPass_runStepLoop bridge st handle { req with count := n }).sameStore.toSameModel
  obtain ⟨resp, hok⟩ := exists_ok_of_isOk hok
  obtain ⟨pass, hpass, ⟨-, hcomplete, -, htotal⟩ |
      ⟨-, front, event, hstopped, hstream, hlen, hnew⟩⟩ :=
    @runStepLoop_layer T bridge st handle { req with count := n } hstepping hlayer hn _ hok
  · exact .inl ⟨htotal, fresh_of_complete hpass hcomplete⟩
  · change streamUnder bridge st req = _ at hstream
    change _ = startRun bridge st req + n + 1 at hlen
    have hunder := @passUnder_of_running T bridge _ req pass hpass hstopped.running
    refine .inr ⟨?_, ?_, ?_⟩
    · rw [← hlen, hstream]
      exact length_runs_lt hnew _
    · have hone : (st.layerRuns (front ++ [event])).length = (st.layerRuns front).length + 1 :=
        length_runs_concat_of_not_continues hnew
      rw [startRun, hunder, hmodel.layerRuns, hstopped.seen, hone, hlen, Nat.add_sub_cancel]
    · rw [streamUnder, hunder, hstopped.seen, append_assoc, hstream]
      rfl

/-- **Layer steps do not add up.**  A step of `n` layers and one of `m` get as far as a step of `n + m`
exactly if that one reaches the end of the pass and, where already the first step does, the second
reaches the end of a pass of its own. -/
theorem layerStepsAdd_iff (hstepping : Stepping st) (hlayer : req.granularity = some .layer)
    {n m : ℕ} (hn : 1 ≤ n) (hm : 1 ≤ m)
    (honce : (runStepLoop bridge st handle { req with count := n + m }).1.isOk = true)
    (hfirst : (runStepLoop bridge st handle { req with count := n }).1.isOk = true)
    (hsecond : (runStepLoop bridge (runStepLoop bridge st handle { req with count := n }).2 handle
      { req with count := m }).1.isOk = true) :
    LayerStepsAdd bridge st handle req n m ↔
      let total := (st.layerRuns (streamUnder bridge st req)).length
      let start := startRun bridge st req
      total ≤ start + (n + m) + 1 ∧ (total ≤ start + n + 1 →
        (st.layerRuns (passEvents (bridge.forward (inputTensor req.inputIds)))).length ≤ m + 1) := by
  have hmodel := (onlyPass_runStepLoop bridge st handle { req with count := n }).sameStore.toSameModel
  have honce := lands_runStepLoop hstepping hlayer (Nat.le_add_right_of_le hn) honce
  unfold LayerStepsAdd
  dsimp only
  rcases next_runStepLoop hstepping hlayer hn hfirst with
    ⟨hreached, hfresh⟩ | ⟨hbeyond, hstart, hstream⟩
  · -- the first step reaches the end of the pass, and so does the step of both counts
    have hsecond := hmodel.lands (lands_of_fresh hfresh hlayer hm hsecond)
    rw [hmodel.layerRuns] at hsecond
    rw [honce.eq_none_iff.mpr (by omega), hsecond.eq_none_iff]
    exact ⟨fun hagain => ⟨by omega, fun _ => hagain⟩, fun hboth => hboth.2 hreached⟩
  · -- the second step counts from behind the layers of the first one
    have hsecond := hmodel.lands (lands_runStepLoop
      (hstepping.step bridge handle { req with count := n }) hlayer hm hsecond)
    rw [hmodel.layerRuns, hstart, hstream] at hsecond
    rw [hsecond.eq_iff_of_lt honce (by omega)]
    exact ⟨fun hwhole => ⟨hwhole, fun hshort => absurd hshort (not_le.mpr hbeyond)⟩, And.left⟩

/-- Two steps of one layer complete the pass, one step of two layers stops in its last layer. -/
theorem not_layerStepsAdd_fourLayers :
    ¬ LayerStepsAdd fourLayerBridge fourLayerWorker 1 (layerStep 0) 1 1 := by
  unfold LayerStepsAdd
  decide +kernel

/-- A step of three layers completes the pass, as does a step of two and one of one. -/
theorem layerStepsAdd_fourLayers :
    LayerStepsAdd fourLayerBridge fourLayerWorker 1 (layerStep 0) 2 1 := by
  refine (layerStepsAdd_iff (.fresh rfl) rfl (by decide) (by decide) ?_ ?_ ?_).mpr ?_
  · decide +kernel
  · decide +kernel
  · decide +kernel
  · decide +kernel

end Whole

end RocketSurgeon.Worker
