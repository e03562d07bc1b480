import RocketSurgeon.Lib.Fallible
import RocketSurgeon.Lib.FiniteMap
import RocketSurgeon.Lib.Result
import RocketSurgeon.Protocol.Types

/-!
# The trace of a session

While a model is attached, the daemon draws the ticks it stops at and the probes that fire into a
trace file: slices and instants on a tree of tracks, with a process for every rank, a track for
every layer and one for every component of a layer.  A track is known by a number into which its
kind, rank, layer and component are packed.

A write that fails is only logged, and what was changed before it stays.  A rank or layer that does
not fit its bits is not: it fails an assertion, which ends the daemon.

Clock readings, and what an instant shows of its tensor, are left out.
-/

namespace RocketSurgeon.Daemon

open Lib Protocol

variable {α β : Type}

/-! ## Numbers of tracks and sequences -/

inductive TrackKind
  | process
  | layer
  | component
  | counter
  deriving DecidableEq, Repr

def TrackKind.code : TrackKind → ℕ
  | .process => 0x1
  | .layer => 0x2
  | .component => 0x3
  | .counter => 0x4

def daemonRank : ℕ := 0xFFF
def daemonSequence : ℕ := 999
def workerSequenceBase : ℕ := 1000
def maxWorkerRank : ℕ := 0xFFE

/-- `track_uuid`: four bits for the kind, twelve for the rank, sixteen for the layer and the rest
for the component.  The errors are those of its assertions. -/
def trackUuid (kind : TrackKind) (rank layer component : ℕ) : Except String ℕ :=
  if 0xFFF < rank then .error s!"rank overflow: {rank} exceeds 12 bits"
  else if 0xFFFF < layer then .error s!"layer overflow: {layer} exceeds 16 bits"
  else .ok (kind.code <<< 60 ||| rank <<< 48 ||| layer <<< 32 ||| component)

def processUuid (rank : ℕ) : Except String ℕ := trackUuid .process rank 0 0
def layerUuid (rank layer : ℕ) : Except String ℕ := trackUuid .layer rank layer 0
def componentUuid (rank layer component : ℕ) : Except String ℕ :=
  trackUuid .component rank layer component

/-- A sum of 32-bit numbers. -/
def checkedAdd (first second : ℕ) : Except String ℕ :=
  if first + second < 2 ^ 32 then .ok (first + second) else .error "attempt to add with overflow"

def sequenceId (rank : ℕ) : Except String ℕ :=
  if rank = daemonRank then .ok daemonSequence else checkedAdd workerSequenceBase rank

def saturatingI32 (value : ℕ) : ℕ := min value (2 ^ 31 - 1)

/-! ## The sink -/

inductive TracePacket
  | processTrack (uuid : ℕ) (name : String) (pid : ℕ) (processName : String)
  | track (uuid parentUuid : ℕ) (name : String) (order : ℕ)
  | internedNames (sequence : ℕ) (first : Bool) (names : List (ℕ × String))
  | sliceBegin (sequence trackUuid nameIid : ℕ)
  | sliceEnd (sequence trackUuid : ℕ)
  | instant (sequence trackUuid : ℕ) (name : String)
  deriving DecidableEq, Repr

structure InternTable where
  names : List (String × ℕ)
  nextIid : ℕ
  deriving DecidableEq, Repr

namespace InternTable

def new : InternTable := ⟨[], 1⟩

/-- The number of a name, which is given one if it has none. -/
def intern (table : InternTable) (name : String) : ℕ × InternTable :=
  match FMap.get table.names name with
  | some iid => (iid, table)
  | none => (table.nextIid, ⟨FMap.insert table.names name table.nextIid, table.nextIid + 1⟩)

end InternTable

structure RankState where
  sequence : ℕ
  intern : InternTable
  deriving DecidableEq, Repr

/-- The sink.  `packets` is what the file has, and `writes` how often it was written to. -/
structure PerfettoSink where
  packets : List TracePacket
  writes : ℕ
  componentUuids : List ((ℕ × ℕ × String) × ℕ)
  componentIndex : List ((ℕ × ℕ) × ℕ)
  ranks : List (ℕ × RankState)
  openSlices : List (ℕ × ℕ)
  seenSequences : List ℕ
  deriving DecidableEq, Repr

def PerfettoSink.empty : PerfettoSink := ⟨[], 0, [], [], [], [], []⟩

inductive SinkFailure
  | write
  | panicked (message : String)
  deriving DecidableEq, Repr

abbrev SinkM (α : Type) := Fallible SinkFailure PerfettoSink α

namespace PerfettoSink

variable {action : SinkM α}

/-- An assertion has failed if there is no value. -/
def asserted {α : Type} : Except String α → SinkM α
  | .ok value => pure value
  | .error message => throw (.panicked message)

-- Which writes succeed, by how many there were before.
variable (disk : ℕ → Bool)

def writePacket (packet : TracePacket) : SinkM Unit := do
  let sink ← get
  modify fun sink => { sink with writes := sink.writes + 1 }
  if disk sink.writes then modify fun sink => { sink with packets := sink.packets ++ [packet] }
  else throw .write

/-- The state of a rank, which is made if it is not there. -/
def ensureRank (rank : ℕ) : SinkM RankState := do
  let sequence ← asserted (sequenceId rank)
  let sink ← get
  let state := (FMap.get sink.ranks sequence).getD ⟨sequence, .new⟩
  modify fun sink => { sink with ranks := FMap.insert sink.ranks sequence state }
  return state

/-- Intern a name on the sequence of a rank. -/
def internName (rank : ℕ) (name : String) : SinkM ℕ := do
  let state ← ensureRank rank
  let (iid, intern) := state.intern.intern name
  modify fun sink =>
    { sink with ranks := FMap.insert sink.ranks state.sequence { state with intern } }
  return iid

/-- The part of `create` behind the opening of the file: the process of the daemon. -/
def declareDaemon (sessionId modelName : String) (daemonPid : ℕ) : SinkM Unit := do
  let uuid ← asserted (processUuid daemonRank)
  writePacket disk
    (.processTrack uuid s!"daemon:{sessionId}" (saturatingI32 daemonPid) modelName)

def declareProcess (rank workerPid : ℕ) (displayName : String) : SinkM Unit := do
  if maxWorkerRank < rank then
    throw (.panicked s!"worker rank {rank} exceeds MAX_WORKER_RANK ({maxWorkerRank})")
  let sequence ← asserted (sequenceId rank)
  let sink ← get
  if (FMap.get sink.ranks sequence).isSome then return ()
  let uuid ← asserted (processUuid rank)
  writePacket disk (.processTrack uuid displayName (saturatingI32 workerPid) displayName)
  modify fun sink => { sink with ranks := FMap.insert sink.ranks sequence ⟨sequence, .new⟩ }

def declareLayer (rank layer : ℕ) : SinkM Unit := do
  let uuid ← asserted (layerUuid rank layer)
  let parentUuid ← asserted (processUuid rank)
  writePacket disk (.track uuid parentUuid s!"L{layer}" (saturatingI32 layer))

/-- The index of the next component of a layer.  It is used up even if its track cannot be
written. -/
def nextComponentIndex (rank layer : ℕ) : SinkM ℕ := do
  let sink ← get
  let index ← asserted <|
    match FMap.get sink.componentIndex (rank, layer) with
    | some index => checkedAdd index 1
    | none => .ok 0
  modify fun sink =>
    { sink with componentIndex := FMap.insert sink.componentIndex (rank, layer) index }
  return index

/-- The part of `declare_component` behind the lookup. -/
def newComponent (rank layer : ℕ) (componentName : String) : SinkM ℕ := do
  let index ← nextComponentIndex rank layer
  let uuid ← asserted (componentUuid rank layer index)
  let parentUuid ← asserted (layerUuid rank layer)
  let displayName := s!"L{layer}::{componentName}"
  writePacket disk (.track uuid parentUuid displayName (saturatingI32 index))
  let _ ← internName rank displayName
  modify fun sink =>
    { sink with
      componentUuids := FMap.insert sink.componentUuids (rank, layer, componentName) uuid }
  return uuid

def declareComponent (rank layer : ℕ) (componentName : String) : SinkM ℕ := do
  let sink ← get
  match FMap.get sink.componentUuids (rank, layer, componentName) with
  | some uuid => pure uuid
  | none => newComponent disk rank layer componentName

/-- End the slice that is open on a track. -/
def endSlice (track : ℕ) : SinkM Unit := do
  let sink ← get
  match FMap.get sink.openSlices track with
  | none => pure ()
  | some sequence =>
      modify fun sink => { sink with openSlices := FMap.remove sink.openSlices track }
      writePacket disk (.sliceEnd sequence track)

/-- The part of `on_tick_stopped` on a track that is there. -/
def drawSlice (rank : ℕ) (displayName : String) (track : ℕ) : SinkM Unit := do
  let sequence ← asserted (sequenceId rank)
  endSlice disk track
  let nameIid ← internName rank displayName
  writePacket disk (.sliceBegin sequence track nameIid)
  modify fun sink => { sink with openSlices := FMap.insert sink.openSlices track sequence }

-- `resolve_or_create_component` looks the component up and declares it, which looks it up again.
def onTickStopped (position : TickPosition) : SinkM Unit := do
  let rank := position.rank.getD 0
  let track ← declareComponent disk rank position.layer position.component
  drawSlice disk rank s!"L{position.layer}::{position.component}" track

/-- `find_track_for_point`: the component of the rank with the longest name that the point contains,
the first one of them in the order in which the map is iterated. -/
def findTrackForPoint (rank : ℕ) (point : String) :
    List ((ℕ × ℕ × String) × ℕ) → Option (ℕ × ℕ) → Option (ℕ × ℕ)
  | [], best => best
  | ((entryRank, _, name), uuid) :: rest, best =>
      let better := entryRank = rank && name.toList <:+: point.toList &&
        match best with
        | none => true
        | some (score, _) => score < name.utf8ByteSize
      findTrackForPoint rank point rest (if better then some (name.utf8ByteSize, uuid) else best)

-- The order in which the map of components is iterated.
variable (hashOrder : List ((ℕ × ℕ × String) × ℕ) → List ((ℕ × ℕ × String) × ℕ))

def onProbeFired (event : ProbeFiredEvent) : SinkM Unit := do
  let sequence ← asserted (sequenceId event.rank)
  let _ ← ensureRank event.rank
  let sink ← get
  let track ← asserted <|
    match findTrackForPoint event.rank event.point (hashOrder sink.componentUuids) none with
    | some (_, uuid) => .ok uuid
    | none => processUuid event.rank
  writePacket disk (.instant sequence track s!"probe:{event.probeId}")

/-- `write_interned_names`: the packet clears what was interned on its sequence before. -/
def writeInternedNames (sequence : ℕ) (names : List (ℕ × String)) : SinkM Unit := do
  let sink ← get
  let first := sequence ∉ sink.seenSequences
  modify fun sink =>
    { sink with
      seenSequences := if first then sequence :: sink.seenSequences else sink.seenSequences }
  writePacket disk (.internedNames sequence first names)

-- The order in which the names of a sequence are iterated.
variable (nameOrder : List (String × ℕ) → List (String × ℕ))

def emitInternedNames (rank : ℕ) : SinkM Unit := do
  let sequence ← asserted (sequenceId rank)
  let state ← ensureRank rank
  let pairs := (nameOrder state.intern.names).map Prod.swap
  if pairs = [] then return () else writeInternedNames disk sequence pairs

/-- The loop of `close`. -/
def endSlices : List (ℕ × ℕ) → SinkM Unit
  | [] => return ()
  | (track, sequence) :: rest => do
      writePacket disk (.sliceEnd sequence track)
      endSlices rest

/-- Flushing is one more thing the disk does. -/
def flush : SinkM Unit := do
  let sink ← get
  modify fun sink => { sink with writes := sink.writes + 1 }
  if disk sink.writes then return () else throw .write

-- The order in which the open slices are drained.
variable (drainOrder : List (ℕ × ℕ) → List (ℕ × ℕ))

def close : SinkM Unit := do
  let sink ← get
  let opened := drainOrder sink.openSlices
  modify fun sink => { sink with openSlices := [] }
  endSlices disk opened
  flush disk

/-- Log a failing write; `error` is a panic. -/
def logged {α : Type} (action : SinkM α) (sink : PerfettoSink) : Except String PerfettoSink :=
  match action.outcome sink with
  | (.error (.panicked message), _) => .error message
  | (_, sink) => .ok sink

/-- What the main loop does with the sink once a model is attached.  There is none if the file
cannot be created. -/
def openTrace (created : Bool) (sessionId modelName : String) (daemonPid workerPid : ℕ) :
    Except String (Option PerfettoSink) :=
  if created then
    match (declareDaemon disk sessionId modelName daemonPid).outcome .empty with
    | (.error (.panicked message), _) => .error message
    | (.error .write, _) => .ok none
    | (.ok (), sink) => (logged (declareProcess disk 0 workerPid "rank:0") sink).map some
  else .ok none

/-- What the main loop draws once a step has been answered. -/
def traceStep (position : Option TickPosition) (events : List ProbeFiredEvent)
    (sink : PerfettoSink) : Except String PerfettoSink := do
  let sink ←
    match position with
    | some position => logged (onTickStopped disk position) sink
    | none => .ok sink
  events.foldlM (fun sink event => logged (onProbeFired disk hashOrder event) sink) sink

/-! ## Panics -/

def IsPanic (failure : SinkFailure) : Prop := ∃ message, failure = .panicked message

/-- No assertion fails. -/
abbrev Calm {α : Type} (action : SinkM α) : Prop := action.Never IsPanic

lemma isOk_logged_iff :
    (logged action sink).isOk = true ↔
      ∀ failure, (action.outcome sink).1 = .error failure → ¬ IsPanic failure := by
  unfold logged
  rcases action.outcome sink with ⟨(_ | msg) | value, sink'⟩
  · refine iff_of_true rfl fun failure hfail => ?_
    cases hfail
    exact fun ⟨_, hpanic⟩ => nomatch hpanic
  · exact iff_of_false nofun fun hcalm => hcalm _ rfl ⟨msg, rfl⟩
  · exact iff_of_true rfl nofun

lemma Calm.isOk_logged (hcalm : Calm action) (sink : PerfettoSink) :
    (logged action sink).isOk = true :=
  isOk_logged_iff.mpr (hcalm sink)

section Calm

variable {disk}

lemma calm_asserted {value : α} (hok : res = .ok value) :
    Calm (asserted res) := by
  rw [hok]
  exact .pure value

lemma calm_writePacket (packet : TracePacket) : Calm (writePacket disk packet) := by
  refine Fallible.Never.get.bind fun sink => (Fallible.Never.modify _).bind fun _ => ?_
  split
  · exact .modify _
  · exact .throw fun ⟨_, hpanic⟩ => nomatch hpanic

variable {rank : ℕ} (hrank : rank ≤ maxWorkerRank)

include hrank

lemma sequenceId_of_le : sequenceId rank = .ok (workerSequenceBase + rank) := by
  unfold maxWorkerRank at hrank
  unfold sequenceId daemonRank
  rw [if_neg (by omega), checkedAdd, workerSequenceBase, if_pos (by omega)]

lemma trackUuid_of_le (kind : TrackKind) (hlayer : layer ≤ 0xFFFF) (comp : ℕ) :
    ∃ uuid, trackUuid kind rank layer comp = .ok uuid := by
  unfold maxWorkerRank at hrank
  unfold trackUuid
  rw [if_neg (by omega), if_neg (by omega)]
  exact ⟨_, rfl⟩

lemma calm_ensureRank : Calm (ensureRank rank) := by
  refine (calm_asserted (sequenceId_of_le hrank)).bind fun seq => ?_
  refine Fallible.Never.get.bind fun sink => ?_
  exact (Fallible.Never.modify _).bind fun _ => .pure _

lemma calm_internName (name : String) : Calm (internName rank name) :=
  (calm_ensureRank hrank).bind fun _ => (Fallible.Never.modify _).bind fun _ => .pure _

lemma calm_drawSlice (displayName : String) (track : ℕ) :
    Calm (drawSlice disk rank displayName track) := by
  have hend : Calm (endSlice disk track) := by
    refine Fallible.Never.get.bind fun sink => ?_
    split
    · exact .pure ()
    · exact (Fallible.Never.modify _).bind fun _ => calm_writePacket _
  refine (calm_asserted (sequenceId_of_le hrank)).bind fun seq => hend.bind fun _ => ?_
  refine (calm_internName hrank displayName).bind fun iid => ?_
  exact (calm_writePacket _).bind fun _ => .modify _

lemma calm_declareProcess (workerPid : ℕ) (displayName : String) :
    Calm (declareProcess disk rank workerPid displayName) := by
  unfold declareProcess
  rw [if_neg (not_lt.mpr hrank)]
  refine (calm_asserted (sequenceId_of_le hrank)).bind fun seq => ?_
  refine Fallible.Never.get.bind fun sink => ?_
  split
  · exact .pure ()
  · obtain ⟨process, hprocess⟩ := trackUuid_of_le hrank .process (Nat.zero_le _) 0
    refine (calm_asserted hprocess).bind fun uuid => ?_
    exact (calm_writePacket _).bind fun _ => .modify _

lemma calm_onProbeFired (hevent : ev.rank = rank) :
    Calm (onProbeFired disk hashOrder ev) := by
  subst hevent
  refine (calm_asserted (sequenceId_of_le hrank)).bind fun seq => ?_
  refine (calm_ensureRank hrank).bind fun _ => Fallible.Never.get.bind fun sink => ?_
  refine Fallible.Never.bind ?_ fun track => calm_writePacket _
  obtain ⟨process, hprocess⟩ := trackUuid_of_le hrank .process (Nat.zero_le _) 0
  split
  · exact calm_asserted rfl
  · exact calm_asserted hprocess

end Calm

/-- A slice can be drawn for the component: it has a track, or its layer fits its bits and has room
for another component. -/
def CanTrack (sink : PerfettoSink) (rank layer : ℕ) (component : String) : Prop :=
  (FMap.get sink.componentUuids (rank, layer, component)).isSome = true ∨
    layer ≤ 0xFFFF ∧
      ∀ index, FMap.get sink.componentIndex (rank, layer) = some index → index + 1 < 2 ^ 32

lemma logged_get_bind (next : PerfettoSink → SinkM β) (sink : PerfettoSink) :
    logged (get >>= next) sink = logged (next sink) sink := by
  rw [logged, Fallible.outcome_get_bind, logged]

lemma logged_modify_bind (change : PerfettoSink → PerfettoSink) (next : PUnit → SinkM β)
    (sink : PerfettoSink) :
    logged (modify change >>= next) sink = logged (next ⟨⟩) (change sink) := by
  rw [logged, Fallible.outcome_modify_bind, logged]

lemma isOk_logged_bind_calm {next : α → SinkM β} (hnext : ∀ value, Calm (next value))
    (sink : PerfettoSink) :
    (logged (action >>= next) sink).isOk = (logged action sink).isOk := by
  unfold logged
  rw [Fallible.outcome_bind]
  rcases action.outcome sink with ⟨(_ | msg) | value, sink'⟩
  · rfl
  · rfl
  · exact (hnext value).isOk_logged sink'

lemma isOk_logged_asserted_bind {res : Except String α} {next : α → SinkM β}
    (sink : PerfettoSink) :
    (logged (asserted res >>= next) sink).isOk =
      match res with
      | .ok value => (logged (next value) sink).isOk
      | .error _ => false := by
  cases res with
  | error msg => rfl
  | ok value => rw [asserted, pure_bind]

lemma isOk_nextComponentIndex_bind_iff {next : ℕ → SinkM β}
    (hnext : ∀ idx sink, (logged (next idx) sink).isOk = true ↔ accepted) (rank layer : ℕ)
    (sink : PerfettoSink) :
    (logged (nextComponentIndex rank layer >>= next) sink).isOk = true ↔ accepted ∧
      ∀ idx, FMap.get sink.componentIndex (rank, layer) = some idx → idx + 1 < 2 ^ 32 := by
  simp only [nextComponentIndex, bind_assoc, pure_bind]
  rw [logged_get_bind, isOk_logged_asserted_bind]
  cases FMap.get sink.componentIndex (rank, layer) with
  | none =>
    dsimp only
    rw [logged_modify_bind, hnext]
    simp
  | some idx =>
    simp only [checkedAdd, Option.some.injEq, forall_eq']
    split_ifs with hroom
    · dsimp only
      rw [logged_modify_bind, hnext]
      exact (and_iff_left hroom).symm
    · exact iff_of_false not_false fun hall => hroom hall.2

section CanTrack

variable {disk} {rank : ℕ} (hrank : rank ≤ maxWorkerRank)

include hrank

/-- A new component is declared if its layer fits its bits and has room for it. -/
lemma isOk_newComponent_iff (layer : ℕ) (comp : String) (sink : PerfettoSink) :
    (logged (newComponent disk rank layer comp) sink).isOk = true ↔
      layer ≤ 0xFFFF ∧
        ∀ idx, FMap.get sink.componentIndex (rank, layer) = some idx → idx + 1 < 2 ^ 32 := by
  refine isOk_nextComponentIndex_bind_iff (fun idx sink' => ?_) rank layer sink
  by_cases hlayer : layer ≤ 0xFFFF
  · obtain ⟨uuid, huuid⟩ := trackUuid_of_le hrank .component hlayer idx
    obtain ⟨parent, hparent⟩ := trackUuid_of_le hrank .layer hlayer 0
    refine iff_of_true ?_ hlayer
    simp only [componentUuid, huuid]
    simp only [layerUuid, hparent]
    refine Calm.isOk_logged ?_ sink'
    refine (calm_writePacket _).bind fun _ => (calm_internName hrank _).bind fun _ => ?_
    exact (Fallible.Never.modify _).bind fun _ => .pure uuid
  · refine iff_of_false ?_ hlayer
    unfold maxWorkerRank at hrank
    simp only [componentUuid, trackUuid, if_neg (show ¬ 0xFFF < rank by omega),
      if_pos (not_le.mp hlayer)]
    exact nofun

lemma isOk_onTickStopped_iff (hpos : pos.rank.getD 0 = rank) (sink : PerfettoSink) :
    (logged (onTickStopped disk pos) sink).isOk = true ↔
      sink.CanTrack rank pos.layer pos.component := by
  unfold onTickStopped
  rw [hpos, isOk_logged_bind_calm fun track => calm_drawSlice hrank _ track]
  unfold declareComponent CanTrack
  rw [logged_get_bind]
  cases FMap.get sink.componentUuids (rank, pos.layer, pos.component) with
  | some uuid => exact iff_of_true rfl (.inl rfl)
  | none =>
    rw [isOk_newComponent_iff hrank, Option.isSome_none]
    simp

lemma isOk_traceStep_iff (hpos : pos.rank.getD 0 = rank)
    (hevents : ∀ ev ∈ events, ev.rank = rank) (sink : PerfettoSink) :
    (traceStep disk hashOrder (some pos) events sink).isOk = true ↔
      sink.CanTrack rank pos.layer pos.component := by
  rw [← isOk_onTickStopped_iff hrank hpos, traceStep]
  cases logged (onTickStopped disk pos) sink with
  | error msg => exact Iff.rfl
  | ok drawn =>
    refine iff_of_true ?_ rfl
    change (events.foldlM (fun sink ev => logged (onProbeFired disk hashOrder ev) sink)
      drawn).isOk = true
    induction events generalizing drawn with
    | nil => rfl
    | cons ev events ih =>
      obtain ⟨hevent, hevents⟩ := List.forall_mem_cons.mp hevents
      obtain ⟨fired, hfired⟩ := exists_ok_of_isOk
        ((calm_onProbeFired hashOrder hrank hevent).isOk_logged drawn)
      rw [List.foldlM_cons, hfired]
      exact ih hevents fired

end CanTrack

lemma openTrace_eq_ok (created : Bool) (sessionId modelName : String) (daemonPid workerPid : ℕ) :
    ∃ perfetto, openTrace disk created sessionId modelName daemonPid workerPid = .ok perfetto := by
  have hdaemon : Calm (declareDaemon disk sessionId modelName daemonPid) :=
    (calm_asserted rfl).bind fun uuid => calm_writePacket _
  unfold openTrace
  split
  · have hcalm := hdaemon .empty
    revert hcalm
    rcases (declareDaemon disk sessionId modelName daemonPid).outcome .empty with
      ⟨(_ | msg) | ⟨⟩, sink⟩
    · exact fun _ => ⟨none, rfl⟩
    · exact fun hcalm => absurd ⟨msg, rfl⟩ (hcalm _ rfl)
    · intro _
      obtain ⟨declared, hdeclared⟩ := exists_ok_of_isOk
        ((@calm_declareProcess disk 0 (Nat.zero_le _) workerPid "rank:0").isOk_logged sink)
      exact ⟨some declared, congrArg (Except.map some) hdeclared⟩
  · exact ⟨none, rfl⟩

end PerfettoSink

end RocketSurgeon.Daemon
