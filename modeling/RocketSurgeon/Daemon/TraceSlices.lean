import RocketSurgeon.Daemon.Perfetto

/-!
# Slices on the tracks

A slice begins on a track when the session stops at its component, and ends when the session stops
there again or the trace is closed.  The sink knows the open slice of every track; `Drawn` says that
this is what the packets say.

Every call of the sink keeps `Drawn` while the disk takes every write.  A write that fails would not:
a slice is forgotten before its end is written.
-/

namespace RocketSurgeon.Daemon

open Lib Protocol FMap

/-! ## Alternation -/

/-- The beginning or the end of a slice, with the sequence its packet is on. -/
inductive SliceEdge
  | opening (sequence : ℕ)
  | closing (sequence : ℕ)
  deriving DecidableEq, Repr

/-- Slices begin and end in turn, each end on the sequence of its beginning.  The option is the
sequence of the slice that is open at the end. -/
inductive Alternating : List SliceEdge → Option ℕ → Prop
  | nil : Alternating [] none
  | opening {edges : List SliceEdge} (hclosed : Alternating edges none) (sequence : ℕ) :
      Alternating (edges ++ [.opening sequence]) (some sequence)
  | closing {edges : List SliceEdge} {sequence : ℕ} (hopen : Alternating edges (some sequence)) :
      Alternating (edges ++ [.closing sequence]) none

lemma Alternating.of_front (halt : Alternating edges last) (hfront : earlier <+: edges) :
    ∃ between, Alternating earlier between := by
  induction halt with
  | nil => exact ⟨none, List.prefix_nil.mp hfront ▸ .nil⟩
  | @opening edges hclosed seq ih =>
    rcases List.prefix_concat_iff.mp hfront with rfl | hfront
    · exact ⟨_, hclosed.opening seq⟩
    · exact ih hfront
  | @closing edges seq hopen ih =>
    rcases List.prefix_concat_iff.mp hfront with rfl | hfront
    · exact ⟨_, hopen.closing⟩
    · exact ih hfront

/-- The edge of a packet on a track. -/
def TracePacket.edge (track : ℕ) : TracePacket → Option SliceEdge
  | .sliceBegin sequence uuid _ => if uuid = track then some (.opening sequence) else none
  | .sliceEnd sequence uuid => if uuid = track then some (.closing sequence) else none
  | _ => none

/-- The slices on a track. -/
def edgesOn (track : ℕ) (packets : List TracePacket) : List SliceEdge :=
  packets.filterMap (TracePacket.edge track)

/-- A packet that is not an edge of a slice. -/
def TracePacket.Still (packet : TracePacket) : Prop := ∀ track, packet.edge track = none

namespace PerfettoSink

open Fallible

/-! ## What the sink knows -/

/-- The open slices are those the packets leave open, with one entry for every track. -/
structure Drawn (sink : PerfettoSink) : Prop where
  keys : (sink.openSlices.map Prod.fst).Nodup
  edges : ∀ track, Alternating (edgesOn track sink.packets) (FMap.get sink.openSlices track)

lemma drawn_empty : Drawn .empty := ⟨List.nodup_nil, fun _ => .nil⟩

/-- The tracks of two sinks look alike. -/
structure SameSlices (sink sink' : PerfettoSink) : Prop where
  packets : sink'.packets = sink.packets
  openSlices : sink'.openSlices = sink.openSlices

lemma Drawn.congr (hdrawn : Drawn sink) (hsame : SameSlices sink sink') : Drawn sink' where
  keys := hsame.openSlices ▸ hdrawn.keys
  edges := fun track => by rw [hsame.packets, hsame.openSlices]; exact hdrawn.edges track

lemma Drawn.still (hdrawn : Drawn sink) (hstill : packet.Still) :
    Drawn { sink with packets := sink.packets ++ [packet] } where
  keys := hdrawn.keys
  edges := fun track => by
    have hedges : edgesOn track (sink.packets ++ [packet]) = edgesOn track sink.packets := by
      simp [edgesOn, hstill track]
    rw [hedges]
    exact hdrawn.edges track

lemma Drawn.begin (hdrawn : Drawn sink) (hclosed : FMap.get sink.openSlices track = none)
    (seq nameIid : ℕ) :
    Drawn { sink with
      packets := sink.packets ++ [.sliceBegin seq track nameIid]
      openSlices := insert sink.openSlices track seq } where
  keys := nodup_keys_insert hdrawn.keys track seq
  edges := fun other => by
    have halt := hdrawn.edges other
    by_cases hother : other = track
    · subst hother
      rw [hclosed] at halt
      simpa [edgesOn, TracePacket.edge] using halt.opening seq
    · rw [get_insert_of_ne _ _ hother]
      simpa [edgesOn, TracePacket.edge, Ne.symm hother] using halt

lemma Drawn.finish {seq : ℕ}
    (hdrawn : Drawn sink) (hopen : FMap.get sink.openSlices track = some seq) :
    Drawn { sink with
      packets := sink.packets ++ [.sliceEnd seq track]
      openSlices := remove sink.openSlices track } where
  keys := nodup_keys_retain hdrawn.keys (· ≠ track)
  edges := fun other => by
    have halt := hdrawn.edges other
    by_cases hother : other = track
    · subst hother
      rw [hopen] at halt
      simpa [edgesOn, TracePacket.edge] using halt.closing
    · rw [get_remove_of_ne _ hother]
      simpa [edgesOn, TracePacket.edge, Ne.symm hother] using halt

/-! ## The parts of a call -/

lemma keeps_asserted (res : Except String α) :
    Keeps inv (asserted res) := by
  cases res with
  | error msg => exact .throw _
  | ok value => exact .pure value

/-- Neither slices nor components are touched. -/
structure SameTracks (sink sink' : PerfettoSink) : Prop extends SameSlices sink sink' where
  componentUuids : sink'.componentUuids = sink.componentUuids
  componentIndex : sink'.componentIndex = sink.componentIndex

/-- What holds whatever else happens, as long as no component is declared and no slice begins or
ends. -/
structure Frame (inv : PerfettoSink → Prop) : Prop where
  congr : ∀ {sink sink'}, inv sink → SameTracks sink sink' → inv sink'
  still : ∀ {sink packet}, inv sink → packet.Still →
    inv { sink with packets := sink.packets ++ [packet] }

namespace Frame

variable {inv : PerfettoSink → Prop} (hframe : Frame inv) {disk : ℕ → Bool} (rank layer : ℕ)

include hframe

lemma modify_bind {next : PUnit → SinkM β} (hchange : ∀ sink, SameTracks sink (change sink))
    (hnext : Keeps inv (next ⟨⟩)) :
    Keeps inv (modify change >>= next) :=
  Keeps.bind (.modify fun sink hinv => hframe.congr hinv (hchange sink)) fun _ => hnext

lemma ensureRank : Keeps inv (ensureRank rank) :=
  (keeps_asserted _).bind fun _ => Keeps.get.bind fun _ =>
    hframe.modify_bind (fun _ => ⟨⟨rfl, rfl⟩, rfl, rfl⟩) (.pure _)

lemma internName (name : String) : Keeps inv (internName rank name) := by
  refine (hframe.ensureRank rank).bind fun state => ?_
  rcases state.intern.intern name with ⟨iid, intern⟩
  exact hframe.modify_bind (fun _ => ⟨⟨rfl, rfl⟩, rfl, rfl⟩) (.pure iid)

lemma writePacket (hstill : packet.Still) :
    Keeps inv (writePacket disk packet) := by
  refine Keeps.get.bind fun sink => hframe.modify_bind (fun _ => ⟨⟨rfl, rfl⟩, rfl, rfl⟩) ?_
  split
  · exact .modify fun state hinv => hframe.still hinv hstill
  · exact .throw _

lemma declareDaemon (sessionId modelName : String) (daemonPid : ℕ) :
    Keeps inv (declareDaemon disk sessionId modelName daemonPid) :=
  (keeps_asserted _).bind fun _ => hframe.writePacket fun _ => rfl

lemma declareProcess (workerPid : ℕ) (displayName : String) :
    Keeps inv (declareProcess disk rank workerPid displayName) := by
  unfold PerfettoSink.declareProcess
  split
  · exact .throw_bind _ _
  · refine (keeps_asserted _).bind fun seq => Keeps.get.bind fun sink => ?_
    split
    · exact .pure _
    · refine (keeps_asserted _).bind fun uuid => ?_
      refine (hframe.writePacket fun _ => rfl).bind fun _ => ?_
      exact .modify fun _ hinv => hframe.congr hinv ⟨⟨rfl, rfl⟩, rfl, rfl⟩

lemma declareLayer : Keeps inv (declareLayer disk rank layer) := by
  refine (keeps_asserted _).bind fun uuid => (keeps_asserted _).bind fun parentUuid => ?_
  exact hframe.writePacket fun _ => rfl

lemma emitInternedNames (nameOrder : List (String × ℕ) → List (String × ℕ)) (rank : ℕ) :
    Keeps inv (emitInternedNames disk nameOrder rank) := by
  refine (keeps_asserted _).bind fun seq => (hframe.ensureRank rank).bind fun state => ?_
  dsimp only
  split
  · exact .pure _
  · refine Keeps.get.bind fun sink => hframe.modify_bind (fun _ => ⟨⟨rfl, rfl⟩, rfl, rfl⟩) ?_
    exact hframe.writePacket fun _ => rfl

lemma onProbeFired (hashOrder : List ((ℕ × ℕ × String) × ℕ) → List ((ℕ × ℕ × String) × ℕ))
    (ev : ProbeFiredEvent) : Keeps inv (onProbeFired disk hashOrder ev) := by
  refine (keeps_asserted _).bind fun seq => (hframe.ensureRank _).bind fun _ => ?_
  refine Keeps.get.bind fun sink => (keeps_asserted _).bind fun track => ?_
  exact hframe.writePacket fun _ => rfl

end Frame

/-- What holds whatever else happens, as long as no slice begins or ends. -/
structure Stable (inv : PerfettoSink → Prop) : Prop where
  congr : ∀ {sink sink'}, inv sink → SameSlices sink sink' → inv sink'
  still : ∀ {sink packet}, inv sink → packet.Still →
    inv { sink with packets := sink.packets ++ [packet] }

lemma stable_drawn : Stable Drawn := ⟨Drawn.congr, fun hdrawn => hdrawn.still⟩

namespace Stable

variable {inv : PerfettoSink → Prop} (hstable : Stable inv) {disk : ℕ → Bool} (rank layer : ℕ)

include hstable

lemma frame : Frame inv := ⟨fun hinv hsame => hstable.congr hinv hsame.toSameSlices, hstable.still⟩

lemma modify_bind {next : PUnit → SinkM β} (hchange : ∀ sink, SameSlices sink (change sink))
    (hnext : Keeps inv (next ⟨⟩)) :
    Keeps inv (modify change >>= next) :=
  Keeps.bind (.modify fun sink hinv => hstable.congr hinv (hchange sink)) fun _ => hnext

lemma nextComponentIndex : Keeps inv (nextComponentIndex rank layer) := by
  refine Keeps.get.bind fun sink => (keeps_asserted _).bind fun idx => ?_
  exact hstable.modify_bind (fun _ => ⟨rfl, rfl⟩) (.pure idx)

lemma declareComponent (componentName : String) :
    Keeps inv (declareComponent disk rank layer componentName) := by
  refine Keeps.get.bind fun sink => ?_
  split
  · exact .pure _
  · refine (hstable.nextComponentIndex rank layer).bind fun idx => ?_
    refine (keeps_asserted _).bind fun uuid => (keeps_asserted _).bind fun parentUuid => ?_
    refine (hstable.frame.writePacket fun _ => rfl).bind fun _ => ?_
    refine (hstable.frame.internName _ _).bind fun _ => ?_
    exact hstable.modify_bind (fun _ => ⟨rfl, rfl⟩) (.pure uuid)

end Stable

/-! ## Slices -/

def sound : ℕ → Bool := fun _ => true

lemma triple_endSlice (track : ℕ) :
    Triple Drawn (endSlice sound track)
      (fun _ sink => Drawn sink ∧ FMap.get sink.openSlices track = none) Drawn := by
  intro sink hdrawn
  rw [endSlice, outcome_get_bind]
  cases hopen : FMap.get sink.openSlices track with
  | none => exact ⟨hdrawn, hopen⟩
  | some seq => exact ⟨(hdrawn.finish hopen).congr ⟨rfl, rfl⟩, get_remove_self _ _⟩

lemma drawn_drawSlice (rank : ℕ) (displayName : String) (track : ℕ) :
    Keeps Drawn (drawSlice sound rank displayName track) := by
  refine (keeps_asserted _).bind fun seq => ?_
  refine (triple_endSlice track).bind fun _ => ?_
  have hstable : Stable fun sink => Drawn sink ∧ FMap.get sink.openSlices track = none :=
    ⟨fun h hsame => ⟨h.1.congr hsame, hsame.openSlices ▸ h.2⟩,
      fun h hstill => ⟨h.1.still hstill, h.2⟩⟩
  have hintern := hstable.frame.internName rank displayName
  refine (hintern.imp (fun _ => id) (fun _ _ => id) fun _ h => h.1).bind fun nameIid => ?_
  -- the beginning is written and remembered at once
  rintro sink ⟨hdrawn, hclosed⟩
  exact (hdrawn.begin hclosed seq nameIid).congr ⟨rfl, rfl⟩

lemma drawn_onTickStopped (pos : TickPosition) :
    Keeps Drawn (onTickStopped sound pos) :=
  (stable_drawn.declareComponent _ _ _).bind fun track => drawn_drawSlice _ _ track

/-! ## Closing -/

lemma endSlices_closes {opened : List (ℕ × ℕ)} (hkeys : (opened.map Prod.fst).Nodup)
    {sink : PerfettoSink}
    (hedges : ∀ track, Alternating (edgesOn track sink.packets) (FMap.get opened track)) :
    ∃ closed, (endSlices sound opened).outcome sink = (.ok (), closed) ∧
      ∀ track, Alternating (edgesOn track closed.packets) none := by
  induction opened generalizing sink with
  | nil => exact ⟨sink, rfl, hedges⟩
  | cons entry opened ih =>
    obtain ⟨ended, seq⟩ := entry
    obtain ⟨hnew, hkeys⟩ := List.nodup_cons.mp hkeys
    have hnone : FMap.get opened ended = none := get_eq_none_iff.mpr hnew
    have hrest : ∀ track, Alternating
        (edgesOn track (sink.packets ++ [.sliceEnd seq ended])) (FMap.get opened track) := by
      intro track
      have halt := hedges track
      rw [FMap.get] at halt
      by_cases htrack : ended = track
      · subst htrack
        rw [if_pos rfl] at halt
        rw [hnone]
        simpa [edgesOn, TracePacket.edge] using halt.closing
      · rw [if_neg htrack] at halt
        simpa [edgesOn, TracePacket.edge, htrack] using halt
    exact @ih hkeys { sink with
      writes := sink.writes + 1
      packets := sink.packets ++ [.sliceEnd seq ended] } hrest

lemma Drawn.close (hdrawn : Drawn sink) (drain : HashOrder (ℕ × ℕ)) :
    ∃ closed, (close sound drain.order).outcome sink = (.ok (), closed) ∧
      ∀ track, Alternating (edgesOn track closed.packets) none := by
  have hperm := drain.perm sink.openSlices
  obtain ⟨closed, hended, hclosed⟩ := @endSlices_closes _
    ((hperm.map Prod.fst).nodup_iff.mpr hdrawn.keys) { sink with openSlices := [] } fun track => by
      rw [get_of_perm hperm hdrawn.keys]
      exact hdrawn.edges track
  refine ⟨{ closed with writes := closed.writes + 1 }, ?_, hclosed⟩
  rw [PerfettoSink.close, outcome_get_bind]
  rw [outcome_modify_bind, outcome_bind, hended]
  rfl

/-! ## Whole traces -/

/-- The calls on a sink that is open. -/
inductive SinkCall
  | declareProcess (rank workerPid : ℕ) (displayName : String)
  | declareLayer (rank layer : ℕ)
  | declareComponent (rank layer : ℕ) (componentName : String)
  | emitInternedNames (rank : ℕ)
  | onTickStopped (position : TickPosition)
  | onProbeFired (event : ProbeFiredEvent)

/-- The orders in which the maps of the sink are iterated during a call. -/
structure SinkOrders where
  tracks : List ((ℕ × ℕ × String) × ℕ) → List ((ℕ × ℕ × String) × ℕ)
  names : List (String × ℕ) → List (String × ℕ)

def SinkCall.perform (disk : ℕ → Bool) (orders : SinkOrders) : SinkCall → SinkM Unit
  | .declareProcess rank workerPid displayName =>
      PerfettoSink.declareProcess disk rank workerPid displayName
  | .declareLayer rank layer => PerfettoSink.declareLayer disk rank layer
  | .declareComponent rank layer componentName => do
      let _ ← PerfettoSink.declareComponent disk rank layer componentName
  | .emitInternedNames rank => PerfettoSink.emitInternedNames disk orders.names rank
  | .onTickStopped position => PerfettoSink.onTickStopped disk position
  | .onProbeFired event => PerfettoSink.onProbeFired disk orders.tracks event

/-- The sink after a call, which may have failed. -/
def performed (disk : ℕ → Bool) (sink : PerfettoSink) (call : SinkOrders × SinkCall) :
    PerfettoSink :=
  ((call.2.perform disk call.1).outcome sink).2

lemma drawn_perform (orders : SinkOrders) (call : SinkCall) :
    Keeps Drawn (call.perform sound orders) := by
  cases call with
  | declareProcess rank workerPid displayName => exact stable_drawn.frame.declareProcess _ _ _
  | declareLayer rank layer => exact stable_drawn.frame.declareLayer _ _
  | declareComponent rank layer componentName =>
    exact (stable_drawn.declareComponent _ _ _).bind fun _ => .pure ()
  | emitInternedNames rank => exact stable_drawn.frame.emitInternedNames _ _
  | onTickStopped pos => exact drawn_onTickStopped _
  | onProbeFired ev => exact stable_drawn.frame.onProbeFired _ _

lemma drawn_performed (hdrawn : Drawn sink) (calls : List (SinkOrders × SinkCall)) :
    Drawn (calls.foldl (performed sound) sink) := by
  induction calls generalizing sink with
  | nil => exact hdrawn
  | cons call calls ih => exact ih ((drawn_perform call.1 call.2).snd hdrawn)

/-- The sink of a session that has just been created. -/
def created (disk : ℕ → Bool) (sessionId modelName : String) (daemonPid : ℕ) : PerfettoSink :=
  ((declareDaemon disk sessionId modelName daemonPid).outcome .empty).2

/-- **Slices are balanced.**  Whatever is called on a sink whose writes succeed, closing it leaves a
trace in which the slices of every track begin and end in turn, each end on the sequence of its
beginning.  At every moment before there is at most one open slice on a track. -/
theorem alternating_closed (sessionId modelName : String) (daemonPid : ℕ)
    (calls : List (SinkOrders × SinkCall)) (drain : HashOrder (ℕ × ℕ)) :
    ∃ closed, (close sound drain.order).outcome
        (calls.foldl (performed sound) (created sound sessionId modelName daemonPid)) =
          (.ok (), closed) ∧
      ∀ track, Alternating (edgesOn track closed.packets) none ∧
        ∀ earlier, earlier <+: closed.packets →
          ∃ opened : Option ℕ, Alternating (edgesOn track earlier) opened := by
  have hcreated : Drawn (created sound sessionId modelName daemonPid) :=
    (stable_drawn.frame.declareDaemon _ _ _).snd drawn_empty
  obtain ⟨closed, hclose, hclosed⟩ := (drawn_performed hcreated calls).close drain
  refine ⟨closed, hclose, fun track => ⟨hclosed track, fun earlier hearlier => ?_⟩⟩
  exact (hclosed track).of_front (hearlier.filterMap _)

end PerfettoSink

end RocketSurgeon.Daemon
