import RocketSurgeon.Lib.Runs
import RocketSurgeon.Worker.Replay

/-!
# The barrier between the forward thread and the worker

The other modules of the worker read a pass off a list of pending events.  Here the two
threads run as they are, one statement of `Mailbox` at a time and in any interleaving: a
capture hook puts its event into the result mailbox and waits on the resume mailbox; the
worker waits on the result mailbox, decides, and puts its answer into the resume mailbox.

A mailbox is a lock and one value.  `put` overwrites the value and releases the lock if it
is held, so a second `put` before the `wait` loses the first one.  The hand-off is safe as
long as the two threads take turns.  They do, with one exception: a replay that stops at
its stop point has already answered the event it stops on, and the step that resumes the
pass answers once more.

`Handed` says who has the turn; it is kept by every move but a resumption after such a
stop, and `handedOff_of_run` reads the guarantees off it.
-/

namespace RocketSurgeon.Worker

open Lib Protocol List

/-! ## Mailboxes -/

/-- `Mailbox`: the lock that the consumer acquires, and the slot. -/
structure Mailbox (V : Type) where
  locked : Bool
  value : Option V

namespace Mailbox

variable {V : Type}

/-- A new mailbox has its lock held and holds nothing. -/
def new : Mailbox V := ⟨true, none⟩

/-- The first statement of `put`. -/
def store (mailbox : Mailbox V) (value : Option V) : Mailbox V := { mailbox with value }

/-- The second statement of `put`: release the lock if it is held. -/
def release (mailbox : Mailbox V) : Mailbox V := { mailbox with locked := false }

/-- The acquisition in `wait`, which blocks while the lock is held. -/
def acquire (mailbox : Mailbox V) : Option (Mailbox V) :=
  if mailbox.locked then none else some { mailbox with locked := true }

def restore (mailbox : Mailbox V) : Mailbox V := { mailbox with value := none }

end Mailbox

/-! ## The two threads -/

variable {T : Type}

/-- Where the forward thread is within the hook of the event it works on. -/
inductive ForwardPc
  | putWrite
  | putRelease
  | waitAcquire
  | waitRead
  | restore
  | finished
  deriving DecidableEq, Repr

/-- Where the worker is.  After `putRelease` it waits for the next event, unless `thenStop`.  A
request leaves the worker `paused` on an event, which it has `answered` or not. -/
inductive WorkerPc (T : Type)
  | waitAcquire
  | waitRead
  | restore (item : Option (MailItem T))
  | decide (item : Option (MailItem T))
  | putWrite (event : HookEvent T) (value : Option T) (thenStop : Bool)
  | putRelease (event : HookEvent T) (thenStop : Bool)
  | paused (event : HookEvent T) (answered : Bool)
  | complete
  deriving DecidableEq, Repr

/-- The two mailboxes, the two threads, and what has happened: the events `seen` by the worker,
its `answers` with the event each was meant for, and what the hooks `got` back. -/
structure Barrier (T : Type) where
  result : Mailbox (MailItem T)
  resume : Mailbox T
  forward : ForwardPc
  todo : List (HookEvent T)
  worker : WorkerPc T
  replaying : Bool
  seen : List (HookEvent T)
  answers : List (HookEvent T × Option T)
  got : List (HookEvent T × Option T)

/-- What the forward thread puts next: the event it works on or, after the last one, the
completion that the done callback puts. -/
def nextItem : List (HookEvent T) → MailItem T
  | event :: _ => .hook event
  | [] => .forwardComplete

/-- Where the forward thread is once it has put: in the hook's `wait`, or at its end. -/
def afterPut : List (HookEvent T) → ForwardPc
  | _ :: _ => .waitAcquire
  | [] => .finished

/-- One statement of the forward thread.  A blocked thread stays where it is. -/
def Barrier.stepForward (b : Barrier T) : Barrier T :=
  match b.forward with
  | .putWrite => { b with
      result := b.result.store (some (nextItem b.todo))
      forward := .putRelease }
  | .putRelease => { b with
      result := b.result.release
      forward := afterPut b.todo }
  | .waitAcquire =>
      match b.resume.acquire with
      | none => b
      | some resume => { b with resume, forward := .waitRead }
  | .waitRead => { b with
      got := b.got ++ (b.todo.take 1).map fun event => (event, b.resume.value)
      forward := .restore }
  | .restore => { b with
      resume := b.resume.restore
      todo := b.todo.tail
      forward := .putWrite }
  | .finished => b

/-- What a request decides on an event: whether a step stops on it, and what it is answered
otherwise. -/
structure Choice (T : Type) where
  stop : Bool
  value : Option T

/-- One statement of the worker.  A step stops where its plan says so and leaves the event
unanswered; a replay stops where `stops` says so, after an empty answer. -/
def Barrier.stepWorker (stops : HookEvent T → Bool) (b : Barrier T) (choice : Choice T) :
    Barrier T :=
  match b.worker with
  | .waitAcquire =>
      match b.result.acquire with
      | none => b
      | some result => { b with result, worker := .waitRead }
  | .waitRead => { b with worker := .restore b.result.value }
  | .restore item => { b with result := b.result.restore, worker := .decide item }
  | .decide none => b
  | .decide (some .forwardComplete) => { b with worker := .complete }
  | .decide (some (.hook event)) => { b with
      seen := b.seen ++ [event]
      worker :=
        if b.replaying then
          if stops event then .putWrite event none true else .putWrite event choice.value false
        else if choice.stop then .paused event false
        else .putWrite event choice.value false }
  | .putWrite event value thenStop => { b with
      resume := b.resume.store value
      answers := b.answers ++ [(event, value)]
      worker := .putRelease event thenStop }
  | .putRelease event thenStop => { b with
      resume := b.resume.release
      worker := if thenStop then .paused event true else .waitAcquire }
  | .paused _ _ => b
  | .complete => b

/-- The next step request: it resumes a paused pass with an empty answer. -/
def Barrier.resumeStep (b : Barrier T) : Barrier T :=
  match b.worker with
  | .paused event _ => { b with worker := .putWrite event none false, replaying := false }
  | _ => b

inductive BarrierMove (T : Type)
  | forward
  | worker (choice : Choice T)
  | step

def Barrier.move (stops : HookEvent T → Bool) (b : Barrier T) : BarrierMove T → Barrier T
  | .forward => b.stepForward
  | .worker choice => b.stepWorker stops choice
  | .step => b.resumeStep

/-- A pass over `events` has just been started, by a step or by a replay. -/
def Barrier.start (events : List (HookEvent T)) (replaying : Bool) : Barrier T where
  result := .new
  resume := .new
  forward := .putWrite
  todo := events
  worker := .waitAcquire
  replaying := replaying
  seen := []
  answers := []
  got := []

/-! ## Taking turns -/

/-- The worker waits for the next event, or has stopped after an answer and does nothing. -/
inductive Waits : WorkerPc T → Prop
  | waiting : Waits .waitAcquire
  | stopped (event : HookEvent T) : Waits (.paused event true)

/-- The worker has taken `item` and not yet decided on it; before it reads, the item is still in
the slot. -/
inductive Takes (item : MailItem T) : WorkerPc T → Option (MailItem T) → Prop
  | acquired : Takes item .waitRead (some item)
  | read (slot : Option (MailItem T)) : Takes item (.restore (some item)) slot
  | restored (slot : Option (MailItem T)) : Takes item (.decide (some item)) slot

/-- The worker has received `event` and owes it an answer. -/
inductive Owes (event : HookEvent T) : WorkerPc T → Prop
  | answer (value : Option T) (thenStop : Bool) : Owes event (.putWrite event value thenStop)
  | pause : Owes event (.paused event false)

/-- The turns of a pass over `events`, in the order in which they are taken for each event. -/
inductive Handed (events : List (HookEvent T)) : Barrier T → Prop
  /-- The forward thread is about to write the next item. -/
  | producing {slot resumeSlot todo worker replaying seen answers} (hworker : Waits worker)
      (hevents : events = seen ++ todo) (hanswers : answers.map Prod.fst = seen) :
      Handed events ⟨⟨true, slot⟩, ⟨true, resumeSlot⟩, .putWrite, todo, worker, replaying, seen,
        answers, answers⟩
  /-- It has written it and not yet released the lock. -/
  | produced {resumeSlot todo worker replaying seen answers} (hworker : Waits worker)
      (hevents : events = seen ++ todo) (hanswers : answers.map Prod.fst = seen) :
      Handed events ⟨⟨true, some (nextItem todo)⟩, ⟨true, resumeSlot⟩, .putRelease, todo, worker,
        replaying, seen, answers, answers⟩
  /-- The item is there for the worker to take. -/
  | offered {resumeSlot todo worker replaying seen answers} (hworker : Waits worker)
      (hevents : events = seen ++ todo) (hanswers : answers.map Prod.fst = seen) :
      Handed events ⟨⟨false, some (nextItem todo)⟩, ⟨true, resumeSlot⟩, afterPut todo, todo, worker,
        replaying, seen, answers, answers⟩
  /-- The worker has taken it. -/
  | taken {slot resumeSlot todo worker replaying seen answers}
      (hworker : Takes (nextItem todo) worker slot) (hevents : events = seen ++ todo)
      (hanswers : answers.map Prod.fst = seen) :
      Handed events ⟨⟨true, slot⟩, ⟨true, resumeSlot⟩, afterPut todo, todo, worker, replaying, seen,
        answers, answers⟩
  /-- The item was an event, and its hook waits for the worker. -/
  | received {slot resumeSlot event todo worker replaying seen answers} (hworker : Owes event worker)
      (hevents : events = seen ++ event :: todo) (hanswers : answers.map Prod.fst = seen) :
      Handed events ⟨⟨true, slot⟩, ⟨true, resumeSlot⟩, .waitAcquire, event :: todo, worker, replaying,
        seen ++ [event], answers, answers⟩
  /-- The answer is written and the lock not yet released. -/
  | answering {slot value event todo thenStop replaying seen answers}
      (hevents : events = seen ++ event :: todo) (hanswers : answers.map Prod.fst = seen) :
      Handed events ⟨⟨true, slot⟩, ⟨true, value⟩, .waitAcquire, event :: todo,
        .putRelease event thenStop, replaying, seen ++ [event], answers ++ [(event, value)], answers⟩
  /-- The answer is there for the hook to take. -/
  | answered {slot value event todo worker replaying seen answers} (hworker : Waits worker)
      (hevents : events = seen ++ event :: todo) (hanswers : answers.map Prod.fst = seen) :
      Handed events ⟨⟨true, slot⟩, ⟨false, value⟩, .waitAcquire, event :: todo, worker, replaying,
        seen ++ [event], answers ++ [(event, value)], answers⟩
  /-- The hook has taken it. -/
  | accepted {slot value event todo worker replaying seen answers} (hworker : Waits worker)
      (hevents : events = seen ++ event :: todo) (hanswers : answers.map Prod.fst = seen) :
      Handed events ⟨⟨true, slot⟩, ⟨true, value⟩, .waitRead, event :: todo, worker, replaying,
        seen ++ [event], answers ++ [(event, value)], answers⟩
  /-- The hook has read it and not yet emptied the slot. -/
  | returning {slot value event todo worker replaying seen answers} (hworker : Waits worker)
      (hevents : events = seen ++ event :: todo) (hanswers : answers.map Prod.fst = seen ++ [event]) :
      Handed events ⟨⟨true, slot⟩, ⟨true, value⟩, .restore, event :: todo, worker, replaying,
        seen ++ [event], answers, answers⟩
  /-- The item was the completion. -/
  | complete {slot resumeSlot replaying answers} (hanswers : answers.map Prod.fst = events) :
      Handed events ⟨⟨true, slot⟩, ⟨true, resumeSlot⟩, .finished, [], .complete, replaying, events,
        answers, answers⟩

lemma handed_start (events : List (HookEvent T)) (replaying : Bool) :
    Handed events (Barrier.start events replaying) :=
  .producing .waiting rfl rfl

lemma handed_stepForward {b : Barrier T} (hturn : Handed events b) :
    Handed events b.stepForward := by
  have hkept := hturn
  cases hturn with
  | producing hworker hevents hanswers => exact .produced hworker hevents hanswers
  | produced hworker hevents hanswers => exact .offered hworker hevents hanswers
  | @offered _ todo _ _ _ _ _ _ _ | @taken _ _ todo _ _ _ _ _ _ _ => cases todo <;> exact hkept
  | received _ _ _ | answering _ _ | complete _ => exact hkept
  | answered hworker hevents hanswers => exact .accepted hworker hevents hanswers
  | accepted hworker hevents hanswers =>
    refine .returning hworker hevents ?_
    rw [map_append, hanswers]
    rfl
  | returning hworker hevents hanswers =>
    -- The next event begins: what was one event of `todo` is now one of `seen`.
    refine .producing hworker ?_ hanswers
    rw [hevents, append_assoc]
    rfl

/-- A worker that waits on a locked mailbox, or does nothing, stays where it is. -/
lemma stepWorker_of_waits (stops : HookEvent T → Bool) {b : Barrier T} (choice : Choice T)
    (hworker : Waits b.worker) (hlocked : b.result.locked = true) :
    b.stepWorker stops choice = b := by
  obtain ⟨⟨locked, slot⟩, resume, forward, todo, worker, replaying, seen, answers, got⟩ := b
  cases hlocked
  cases hworker <;> rfl

lemma handed_stepWorker (stops : HookEvent T → Bool) (hturn : Handed events b) (choice : Choice T) :
    Handed events (b.stepWorker stops choice) := by
  have hkept := hturn
  cases hturn with
  | producing hworker _ _ | produced hworker _ _ | answered hworker _ _ | accepted hworker _ _
    | returning hworker _ _ =>
    rw [stepWorker_of_waits stops choice hworker rfl]
    exact hkept
  | offered hworker hevents hanswers =>
    cases hworker with
    | waiting => exact .taken .acquired hevents hanswers
    | stopped ev => exact hkept
  | @taken _ _ todo _ replaying _ _ hworker hevents hanswers =>
    cases hworker with
    | acquired => exact .taken (.read _) hevents hanswers
    | read => exact .taken (.restored _) hevents hanswers
    | restored =>
      cases todo with
      | nil =>
        rw [append_nil] at hevents
        subst hevents
        exact .complete hanswers
      | cons ev todo =>
        refine .received ?_ hevents hanswers
        -- A replay answers, a step pauses or answers.
        cases replaying with
        | true =>
          by_cases hstops : stops ev = true
          · rw [if_pos rfl, if_pos hstops]
            exact .answer none true
          · rw [if_pos rfl, if_neg hstops]
            exact .answer choice.value false
        | false =>
          by_cases hstop : choice.stop = true
          · rw [if_neg Bool.false_ne_true, if_pos hstop]
            exact .pause
          · rw [if_neg Bool.false_ne_true, if_neg hstop]
            exact .answer choice.value false
  | received hworker hevents hanswers =>
    cases hworker with
    | answer value thenStop => exact .answering hevents hanswers
    | pause => exact hkept
  | @answering _ _ ev _ thenStop _ _ _ hevents hanswers =>
    cases thenStop with
    | true => exact .answered (.stopped ev) hevents hanswers
    | false => exact .answered .waiting hevents hanswers
  | complete _ => exact hkept

/-- The resumption of a pass that a step has paused on an event it owes an answer. -/
lemma handed_resumeStep {b : Barrier T} (hturn : Handed events b)
    (hstopped : ∀ ev, b.worker ≠ .paused ev true) : Handed events b.resumeStep := by
  have hkept := hturn
  cases hturn with
  | producing hworker _ _ | produced hworker _ _ | offered hworker _ _ | answered hworker _ _
    | accepted hworker _ _ | returning hworker _ _ =>
    cases hworker with
    | waiting => exact hkept
    | stopped ev => exact (hstopped ev rfl).elim
  | taken hworker _ _ => cases hworker <;> exact hkept
  | received hworker hevents hanswers =>
    cases hworker with
    | answer value thenStop => exact hkept
    | pause => exact .received (.answer none false) hevents hanswers
  | answering _ _ | complete _ => exact hkept

/-- The condition on a move: a step request does not resume a pass that a replay has stopped at
its stop point. -/
def KeepsTurn (b : Barrier T) : BarrierMove T → Prop
  | .step => ∀ event, b.worker ≠ .paused event true
  | _ => True

lemma handed_move (stops : HookEvent T → Bool) (b : Barrier T) (move : BarrierMove T)
    (hturn : Handed events b) (hkeeps : KeepsTurn b move) :
    Handed events (b.move stops move) := by
  cases move with
  | forward => exact handed_stepForward hturn
  | worker choice => exact handed_stepWorker stops hturn choice
  | step => exact handed_resumeStep hturn hkeeps

/-! ## What the turns guarantee -/

/-- Every event is received once and in order, and every hook gets the answer to its own event. -/
structure HandedOff (events : List (HookEvent T)) (b : Barrier T) : Prop where
  /-- The events received are the first ones of the pass. -/
  received : b.seen <+: events
  /-- The events answered are the first ones received. -/
  answered : b.answers.map Prod.fst <+: b.seen
  /-- What the hooks got back is what was answered to them. -/
  returned : b.got <+: b.answers
  /-- At a pause of a step nothing that was put is left to receive. -/
  paused : ∀ event, b.worker = .paused event false → events = b.seen ++ b.todo.tail
  /-- At the end every event has been received. -/
  complete : b.worker = .complete → b.seen = events

lemma Handed.handedOff {b : Barrier T} (hturn : Handed events b) :
    HandedOff events b := by
  have hnotPaused : ∀ {worker : WorkerPc T}, Waits worker →
      (∀ ev, worker ≠ .paused ev false) ∧ worker ≠ .complete := by
    intro worker hworker
    cases hworker <;> exact ⟨nofun, nofun⟩
  -- In the middle of an event, `seen` is one longer than `answers` was.
  have hmiddle : ∀ {seen todo : List (HookEvent T)} {ev : HookEvent T},
      events = seen ++ ev :: todo → seen ++ [ev] <+: events := by
    intro seen todo ev hevents
    exact ⟨todo, by rw [hevents, append_assoc, singleton_append]⟩
  cases hturn with
  | producing hworker hevents hanswers | produced hworker hevents hanswers
    | offered hworker hevents hanswers =>
    exact ⟨⟨_, hevents.symm⟩, hanswers ▸ prefix_rfl, prefix_rfl,
      fun ev h => ((hnotPaused hworker).1 ev h).elim, fun h => ((hnotPaused hworker).2 h).elim⟩
  | taken hworker hevents hanswers =>
    refine ⟨⟨_, hevents.symm⟩, hanswers ▸ prefix_rfl, prefix_rfl, ?_, ?_⟩
    · cases hworker <;> exact nofun
    · cases hworker <;> exact nofun
  | received hworker hevents hanswers =>
    refine ⟨hmiddle hevents, hanswers ▸ prefix_append _ _, prefix_rfl, ?_, ?_⟩
    · intro _ _
      rw [hevents, append_assoc]
      rfl
    · cases hworker <;> exact nofun
  | answering hevents hanswers =>
    refine ⟨hmiddle hevents, ?_, prefix_append _ _, nofun, nofun⟩
    rw [map_append, hanswers]
    exact prefix_rfl
  | answered hworker hevents hanswers | accepted hworker hevents hanswers =>
    refine ⟨hmiddle hevents, ?_, prefix_append _ _,
      fun ev h => ((hnotPaused hworker).1 ev h).elim, fun h => ((hnotPaused hworker).2 h).elim⟩
    rw [map_append, hanswers]
    exact prefix_rfl
  | returning hworker hevents hanswers =>
    exact ⟨hmiddle hevents, hanswers ▸ prefix_rfl, prefix_rfl,
      fun ev h => ((hnotPaused hworker).1 ev h).elim, fun h => ((hnotPaused hworker).2 h).elim⟩
  | complete hanswers =>
    exact ⟨prefix_rfl, hanswers ▸ prefix_rfl, prefix_rfl, nofun, fun _ => rfl⟩

/-- What is still to be received, as the sequential model of a pass has it. -/
def pendingItems (events : List (HookEvent T)) (b : Barrier T) : List (MailItem T) :=
  (events.drop b.seen.length).map MailItem.hook ++ [.forwardComplete]

/-- The worker decides on the first pending item: the loops of the sequential model, which take
their items off the head of a list, receive what the threads hand over. -/
lemma Handed.decides_head (hturn : Handed events b) {item : Option (MailItem T)}
    (hdecide : b.worker = .decide item) :
    item = (pendingItems events b).head? := by
  cases hturn with
  | @taken _ _ todo _ _ _ _ hworker hevents _ =>
    cases hworker with
    | acquired | read => cases hdecide
    | restored =>
      cases hdecide
      rw [pendingItems, hevents, drop_left]
      cases todo with
      | nil | cons ev todo => rfl
  | producing hworker _ _ | produced hworker _ _ | offered hworker _ _ | received hworker _ _
    | answered hworker _ _ | accepted hworker _ _ | returning hworker _ _ =>
    cases hworker <;> cases hdecide
  | answering _ _ | complete _ => cases hdecide

/-- No deadlock: while a request runs, one of the two threads can move. -/
lemma Handed.progress (stops : HookEvent T → Bool) (hturn : Handed events b) :
    (∃ ev answered, b.worker = .paused ev answered) ∨ b.worker = .complete ∨
      b.stepForward.forward ≠ b.forward ∨ ∀ choice, (b.stepWorker stops choice).worker ≠ b.worker := by
  cases hturn with
  | producing _ _ _ | answered _ _ _ | accepted _ _ _ | returning _ _ _ =>
    exact .inr (.inr (.inl nofun))
  | @produced _ todo _ _ _ _ _ _ _ =>
    refine .inr (.inr (.inl ?_))
    cases todo <;> exact nofun
  | offered hworker _ _ =>
    cases hworker with
    | waiting => exact .inr (.inr (.inr fun _ => nofun))
    | stopped ev => exact .inl ⟨ev, true, rfl⟩
  | @taken _ _ todo _ replaying _ _ hworker _ _ =>
    refine .inr (.inr (.inr fun choice => ?_))
    cases hworker with
    | acquired | read => exact nofun
    | restored =>
      cases todo with
      | nil => exact nofun
      | cons ev todo =>
        show (if replaying then _ else _) ≠ _
        split_ifs <;> exact nofun
  | received hworker _ _ =>
    cases hworker with
    | answer value thenStop => exact .inr (.inr (.inr fun _ => nofun))
    | pause => exact .inl ⟨_, false, rfl⟩
  | @answering _ _ _ _ thenStop _ _ _ _ _ =>
    refine .inr (.inr (.inr fun _ => ?_))
    cases thenStop <;> exact nofun
  | complete _ => exact .inr (.inl rfl)

/-- **The hand-off.**  Take any pass, started by a step or by a replay, and any interleaving of the
two threads and of further step requests.  If no step resumes the pass after a replay has stopped
it at its stop point, the worker receives the events once and in order, and every hook gets the
answer to its own event. -/
theorem handedOff_of_run (stops : HookEvent T → Bool) (events : List (HookEvent T))
    (replaying : Bool) (moves : List (BarrierMove T))
    (hkeeps : Along (Barrier.move stops) KeepsTurn (Barrier.start events replaying) moves) :
    HandedOff events (moves.foldl (Barrier.move stops) (Barrier.start events replaying)) :=
  (hkeeps.invariant (handed_move stops) (handed_start events replaying)).handedOff

/-- **Along such runs there is no deadlock**, and the worker decides on the events in order. -/
theorem progress_of_run (stops : HookEvent T → Bool) (events : List (HookEvent T))
    (replaying : Bool) (moves : List (BarrierMove T))
    (hkeeps : Along (Barrier.move stops) KeepsTurn (Barrier.start events replaying) moves)
    {b : Barrier T} (hrun : moves.foldl (Barrier.move stops) (Barrier.start events replaying) = b) :
    ((∃ event answered, b.worker = .paused event answered) ∨ b.worker = .complete ∨
      b.stepForward.forward ≠ b.forward ∨
      ∀ choice, (b.stepWorker stops choice).worker ≠ b.worker) ∧
    ∀ item, b.worker = .decide item → item = (pendingItems events b).head? := by
  have hturn := hkeeps.invariant (handed_move stops) (handed_start events replaying)
  rw [hrun] at hturn
  exact ⟨hturn.progress stops, fun item => hturn.decides_head⟩

/-! ### Two calls

A replay that is to stop at the first of two calls stops there and has answered it.  The forward
thread runs on to the second call; the resuming step answers that call unseen, and the completion
overwrites it in the result mailbox.
-/

/-- The stop point of a replay, as the worker decides it on an event. -/
def stopsAt (st : WorkerState T) (stopAt : Option ReplayStopAt) (event : HookEvent T) : Bool :=
  let component := st.lookupComponent event.path event.callIndex
  shouldStop stopAt component.2 component.1

def twoCalls : List (HookEvent ℕ) :=
  [⟨"layers.0.o_proj", 0, some 1⟩, ⟨"layers.1.o_proj", 0, some 2⟩]

/-- The replay stops on the first call, the forward thread goes on to the second one, the step
resumes, the forward thread goes on to its end, and the worker receives. -/
def overtakingMoves : List (BarrierMove ℕ) :=
  let worker := .worker ⟨false, none⟩
  List.replicate 2 .forward ++ List.replicate 6 worker ++ List.replicate 5 .forward ++ [.step] ++
    List.replicate 2 worker ++ List.replicate 5 .forward ++ List.replicate 4 worker

theorem not_handedOff_overtaking :
    ¬ HandedOff twoCalls (overtakingMoves.foldl
      (Barrier.move (stopsAt twoLayerWorker (some ⟨0, "o_proj"⟩))) (Barrier.start twoCalls true)) := by
  intro hoff
  have hlost : (overtakingMoves.foldl
      (Barrier.move (stopsAt twoLayerWorker (some ⟨0, "o_proj"⟩)))
      (Barrier.start twoCalls true)).seen ≠ twoCalls := by decide
  exact hlost (hoff.complete (by decide))

/-- A pass started by a step, which pauses it on the first call, and resumed by a step. -/
theorem handedOff_stepTwice :
    HandedOff twoCalls ([.forward, .forward, .worker ⟨true, none⟩, .worker ⟨true, none⟩,
      .worker ⟨true, none⟩, .worker ⟨true, none⟩, .step].foldl
        (Barrier.move (stopsAt twoLayerWorker none)) (Barrier.start twoCalls false)) := by
  apply handedOff_of_run
  exact ⟨trivial, trivial, trivial, trivial, trivial, trivial, fun _ => nofun, trivial⟩

/-- The first call is put, and the worker receives it. -/
def receivingMoves : List (BarrierMove ℕ) :=
  List.replicate 2 .forward ++ List.replicate 3 (.worker ⟨true, none⟩)

theorem progress_of_run_decides :
    some (.hook ⟨"layers.0.o_proj", 0, some 1⟩) = (pendingItems twoCalls (receivingMoves.foldl
      (Barrier.move (stopsAt twoLayerWorker none)) (Barrier.start twoCalls false))).head? :=
  (progress_of_run (stopsAt twoLayerWorker none) twoCalls false receivingMoves
    ⟨trivial, trivial, trivial, trivial, trivial, trivial⟩ rfl).2 _ rfl

end RocketSurgeon.Worker
