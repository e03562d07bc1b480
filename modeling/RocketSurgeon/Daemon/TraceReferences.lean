import RocketSurgeon.Daemon.TraceSlices
import RocketSurgeon.Lib.Runs

/-!
# References of a trace

A track names its parent, a slice its track and the number of its name, an instant its track.  In a
closed trace all of them were written before.

The main loop opens a trace with the processes of the daemon and of rank 0.  It declares no layers and
writes no names.  So the first slice that reaches the disk leaves a trace that is not closed: its
component has a layer for a parent that was never described.  What is left are probes on the two
processes.
-/

namespace RocketSurgeon.Daemon

open Lib Protocol List

/-! ## Closed traces -/

/-- The track a packet describes. -/
def TracePacket.described : TracePacket → Option ℕ
  | .processTrack uuid _ _ _ => some uuid
  | .track uuid _ _ _ => some uuid
  | _ => none

def describedTracks (packets : List TracePacket) : List ℕ :=
  packets.filterMap TracePacket.described

lemma describedTracks_append (earlier later : List TracePacket) :
    describedTracks (earlier ++ later) = describedTracks earlier ++ describedTracks later :=
  filterMap_append

/-- The numbers of names on a sequence.  Names that are written clear those before. -/
def internedOn (sequence : ℕ) (packets : List TracePacket) : List ℕ :=
  packets.foldl (fun iids packet =>
    match packet with
    | .internedNames written _ names => if written = sequence then names.map Prod.fst else iids
    | _ => iids) []

/-- What a packet refers to was written before it. -/
def TracePacket.Resolved (earlier : List TracePacket) : TracePacket → Prop
  | .track _ parentUuid _ _ => parentUuid ∈ describedTracks earlier
  | .sliceBegin sequence uuid nameIid =>
      nameIid ∈ internedOn sequence earlier ∧ uuid ∈ describedTracks earlier
  | .sliceEnd _ uuid => uuid ∈ describedTracks earlier
  | .instant _ uuid _ => uuid ∈ describedTracks earlier
  | _ => True

def ClosedTrace (packets : List TracePacket) : Prop :=
  ∀ earlier packet, earlier ++ [packet] <+: packets → packet.Resolved earlier

lemma closedTrace_nil : ClosedTrace [] := by
  intro earlier packet hfront
  simp at hfront

lemma ClosedTrace.of_front (hclosed : ClosedTrace packets) (hfront : earlier <+: packets) :
    ClosedTrace earlier :=
  fun before packet hbefore => hclosed before packet (hbefore.trans hfront)

lemma closedTrace_concat_iff {packets : List TracePacket} {packet : TracePacket} :
    ClosedTrace (packets ++ [packet]) ↔ ClosedTrace packets ∧ packet.Resolved packets := by
  refine ⟨fun hclosed => ⟨hclosed.of_front (prefix_append _ _),
    hclosed packets packet prefix_rfl⟩, fun ⟨hclosed, hresolved⟩ earlier last hfront => ?_⟩
  rcases prefix_concat_iff.mp hfront with hwhole | hfront
  · obtain ⟨rfl, hlast⟩ := append_inj' hwhole rfl
    cases hlast
    exact hresolved
  · exact hclosed earlier last hfront

/-! ## Numbers of processes and layers -/

lemma packed_eq (kind : TrackKind) (hrank : rank ≤ 0xFFF) (hlayer : layer ≤ 0xFFFF)
    (hcomp : component < 2 ^ 32) :
    kind.code <<< 60 ||| rank <<< 48 ||| layer <<< 32 ||| component =
      kind.code * 2 ^ 60 + (rank * 2 ^ 48 + (layer * 2 ^ 32 + component)) := by
  have hlow : layer <<< 32 + component < 2 ^ 48 := by
    rw [Nat.shiftLeft_eq]
    omega
  have hmiddle : rank <<< 48 + (layer <<< 32 + component) < 2 ^ 60 := by
    rw [Nat.shiftLeft_eq]
    omega
  rw [Nat.or_assoc, Nat.or_assoc, ← Nat.shiftLeft_add_eq_or_of_lt hcomp,
    ← Nat.shiftLeft_add_eq_or_of_lt hlow, ← Nat.shiftLeft_add_eq_or_of_lt hmiddle]
  simp only [Nat.shiftLeft_eq]

lemma trackUuid_eq_ok (hok : trackUuid kind rank layer component = .ok uuid) :
    rank ≤ 0xFFF ∧ layer ≤ 0xFFFF ∧
      uuid = kind.code <<< 60 ||| rank <<< 48 ||| layer <<< 32 ||| component := by
  unfold trackUuid at hok
  split_ifs at hok with hrank hlayer
  exact ⟨not_lt.mp hrank, not_lt.mp hlayer, (Except.ok.inj hok).symm⟩

lemma trackUuid_eq_error (herror : trackUuid kind rank layer component = .error msg) :
    0xFFF < rank ∨ 0xFFFF < layer := by
  unfold trackUuid at herror
  split_ifs at herror with hrank hlayer
  · exact .inl hrank
  · exact .inr hlayer

lemma trackUuid_inj {kind kind' : TrackKind} (hok : trackUuid kind rank layer component = .ok uuid)
    (hok' : trackUuid kind' rank' layer' component' = .ok uuid) (hcomp : component < 2 ^ 32)
    (hcomp' : component' < 2 ^ 32) :
    kind = kind' ∧ rank = rank' ∧ layer = layer' ∧ component = component' := by
  obtain ⟨hrank, hlayer, huuid⟩ := trackUuid_eq_ok hok
  obtain ⟨hrank', hlayer', huuid'⟩ := trackUuid_eq_ok hok'
  rw [packed_eq _ hrank hlayer hcomp] at huuid
  rw [packed_eq _ hrank' hlayer' hcomp', huuid] at huuid'
  have hcode : kind.code = kind'.code := by omega
  refine ⟨?_, by omega, by omega, by omega⟩
  revert hcode
  cases kind <;> cases kind' <;> decide

lemma processUuid_inj (hrank : processUuid rank = .ok uuid)
    (hrank' : processUuid rank' = .ok uuid) : rank = rank' :=
  (trackUuid_inj hrank hrank' (by decide) (by decide)).2.1

lemma processUuid_ne_layerUuid (hprocess : processUuid rank = .ok uuid) :
    layerUuid rank' layer ≠ .ok uuid :=
  fun hlayer => nomatch (trackUuid_inj hprocess hlayer (by decide) (by decide)).1

lemma sequenceId_eq_error (herror : sequenceId rank = .error msg) :
    0xFFF < rank := by
  unfold sequenceId checkedAdd workerSequenceBase daemonRank at herror
  split_ifs at herror with hdaemon hfits
  omega

namespace PerfettoSink

open Fallible

variable {disk : ℕ → Bool} {sink : PerfettoSink}

/-! ## Packets stay -/

/-- Nothing that was written is lost. -/
def Extends (written : List TracePacket) (sink : PerfettoSink) : Prop := written <+: sink.packets

lemma stable_extends (written : List TracePacket) : Stable (Extends written) where
  congr := fun hextends hsame => by rw [Extends, hsame.packets]; exact hextends
  still := fun hextends _ => List.IsPrefix.trans hextends (prefix_append _ _)

variable {written : List TracePacket}

lemma extends_writePacket (packet : TracePacket) :
    Keeps (Extends written) (writePacket disk packet) := by
  refine Keeps.get.bind fun sink => (stable_extends written).modify_bind (fun _ => ⟨rfl, rfl⟩) ?_
  split
  · exact .modify fun state hextends => List.IsPrefix.trans hextends (prefix_append _ _)
  · exact .throw _

lemma extends_drawSlice (rank : ℕ) (displayName : String) (track : ℕ) :
    Keeps (Extends written) (drawSlice disk rank displayName track) := by
  refine (keeps_asserted _).bind fun seq => Keeps.bind ?_ fun _ => ?_
  · refine Keeps.get.bind fun sink => ?_
    split
    · exact .pure _
    · exact Keeps.bind (.modify fun _ => id) fun _ => extends_writePacket _
  · refine ((stable_extends written).frame.internName _ _).bind fun nameIid => ?_
    exact (extends_writePacket _).bind fun _ => .modify fun _ => id

lemma extends_endSlices (opened : List (ℕ × ℕ)) :
    Keeps (Extends written) (endSlices disk opened) := by
  induction opened with
  | nil => exact .pure _
  | cons entry opened ih => exact (extends_writePacket _).bind fun _ => ih

lemma extends_close (drainOrder : List (ℕ × ℕ) → List (ℕ × ℕ)) :
    Keeps (Extends written) (close disk drainOrder) := by
  refine Keeps.get.bind fun sink => Keeps.bind (.modify fun _ => id) fun _ => ?_
  refine (extends_endSlices _).bind fun _ => Keeps.get.bind fun _ => ?_
  refine Keeps.bind (.modify fun _ => id) fun _ => ?_
  split
  · exact .pure _
  · exact .throw _

/-! ## A trace of the main loop -/

/-- What the main loop draws. -/
inductive TraceCall
  | onTickStopped (position : TickPosition)
  | onProbeFired (event : ProbeFiredEvent)

/-- The sink after a call, which may have failed.  A call that has failed an assertion is the last. -/
def traced (disk : ℕ → Bool) (sink : PerfettoSink)
    (call : HashOrder ((ℕ × ℕ × String) × ℕ) × TraceCall) : PerfettoSink :=
  match call.2 with
  | .onTickStopped position => ((onTickStopped disk position).outcome sink).2
  | .onProbeFired event => ((onProbeFired disk call.1.order event).outcome sink).2

lemma extends_traced (hextends : Extends written sink)
    (call : HashOrder ((ℕ × ℕ × String) × ℕ) × TraceCall) :
    Extends written (traced disk sink call) := by
  obtain ⟨order, call⟩ := call
  cases call with
  | onTickStopped position =>
    have htick : Keeps (Extends written) (onTickStopped disk position) :=
      ((stable_extends written).declareComponent _ _ _).bind fun track =>
        extends_drawSlice _ _ track
    exact htick.snd hextends
  | onProbeFired event => exact ((stable_extends written).frame.onProbeFired _ _).snd hextends

lemma extends_foldl_traced (hextends : Extends written sink)
    (calls : List (HashOrder ((ℕ × ℕ × String) × ℕ) × TraceCall)) :
    Extends written (calls.foldl (traced disk) sink) := by
  induction calls generalizing sink with
  | nil => exact hextends
  | cons call calls ih => exact ih (extends_traced hextends call)

/-- The process of rank 0 was described: its packet is the second of the trace. -/
def HasWorker (disk : ℕ → Bool) : Prop := disk 1 = true

/-- There is an index left for another component of the layer. -/
def HasRoom (sink : PerfettoSink) (rank layer : ℕ) : Prop :=
  ∀ index, FMap.get sink.componentIndex (rank, layer) = some index → index + 1 < 2 ^ 32

/-- The track of the component can be described, and the disk takes its packet. -/
def Describes (disk : ℕ → Bool) (sink : PerfettoSink) (position : TickPosition) : Prop :=
  position.rank.getD 0 ≤ 0xFFF ∧ position.layer ≤ 0xFFFF ∧
    sink.HasRoom (position.rank.getD 0) position.layer ∧ disk sink.writes = true

/-- What can be drawn without referring to what is not there: no tick at all, and probes of the
daemon's rank, or of rank 0 if its process was described.  Everything else has to fail before it
is written. -/
def Harmless (disk : ℕ → Bool) (sink : PerfettoSink)
    (call : HashOrder ((ℕ × ℕ × String) × ℕ) × TraceCall) : Prop :=
  match call.2 with
  | .onTickStopped position => ¬ Describes disk sink position
  | .onProbeFired event =>
      event.rank ≤ 0xFFF ∧ disk sink.writes = true →
        event.rank = daemonRank ∨ event.rank = 0 ∧ HasWorker disk

/-- A closed trace of the main loop: no component has a track, and the processes are those of the
daemon and of rank 0. -/
structure Bare (disk : ℕ → Bool) (sink : PerfettoSink) : Prop where
  componentUuids : sink.componentUuids = []
  openSlices : sink.openSlices = []
  described : ∀ uuid, uuid ∈ describedTracks sink.packets ↔
    processUuid daemonRank = .ok uuid ∨ processUuid 0 = .ok uuid ∧ HasWorker disk
  closed : ClosedTrace sink.packets

lemma Bare.not_mem_described (hbare : Bare disk sink) (hlayer : layerUuid rank layer = .ok uuid) :
    uuid ∉ describedTracks sink.packets := by
  rw [hbare.described]
  rintro (hprocess | ⟨hprocess, -⟩) <;> exact processUuid_ne_layerUuid hprocess hlayer

lemma Bare.mem_described_iff (hbare : Bare disk sink) (hprocess : processUuid rank = .ok uuid) :
    uuid ∈ describedTracks sink.packets ↔ rank = daemonRank ∨ rank = 0 ∧ HasWorker disk := by
  rw [hbare.described]
  refine or_congr ?_ (and_congr_left' ?_)
  · exact ⟨fun hdaemon => processUuid_inj hprocess hdaemon, fun hdaemon => hdaemon ▸ hprocess⟩
  · exact ⟨fun hzero => processUuid_inj hprocess hzero, fun hzero => hzero ▸ hprocess⟩

/-- What a call may change without writing. -/
structure Alike (sink sink' : PerfettoSink) : Prop where
  packets : sink'.packets = sink.packets
  writes : sink'.writes = sink.writes
  componentUuids : sink'.componentUuids = sink.componentUuids
  openSlices : sink'.openSlices = sink.openSlices

lemma Bare.congr (hbare : Bare disk sink) (hpackets : sink'.packets = sink.packets)
    (huuids : sink'.componentUuids = sink.componentUuids)
    (hopenSlices : sink'.openSlices = sink.openSlices) : Bare disk sink' where
  componentUuids := huuids.trans hbare.componentUuids
  openSlices := hopenSlices.trans hbare.openSlices
  described := by rw [hpackets]; exact hbare.described
  closed := by rw [hpackets]; exact hbare.closed

/-! ## The parts of a call -/

lemma triple_asserted (res : Except String α) :
    Triple pre (asserted res) (fun value state => res = .ok value ∧ pre state)
      (fun state => (∃ msg, res = .error msg) ∧ pre state) := by
  cases res with
  | error msg => exact fun state hpre => ⟨⟨msg, rfl⟩, hpre⟩
  | ok value => exact fun state hpre => ⟨rfl, hpre⟩

lemma outcome_writePacket (packet : TracePacket) (sink : PerfettoSink) :
    (writePacket disk packet).outcome sink =
      if disk sink.writes then
        (.ok (), { sink with writes := sink.writes + 1, packets := sink.packets ++ [packet] })
      else (.error .write, { sink with writes := sink.writes + 1 }) := by
  rw [writePacket, outcome_get_bind, outcome_modify_bind]
  split <;> rfl

lemma triple_writePacket (packet : TracePacket) :
    Triple (Alike sink) (writePacket disk packet)
      (fun _ state => disk sink.writes = true ∧ state.packets = sink.packets ++ [packet] ∧
        state.componentUuids = sink.componentUuids ∧ state.openSlices = sink.openSlices)
      (fun state => ¬ disk sink.writes = true ∧ state.packets = sink.packets ∧
        state.componentUuids = sink.componentUuids ∧ state.openSlices = sink.openSlices) := by
  intro state halike
  rw [outcome_writePacket, ← halike.writes, ← halike.packets, ← halike.componentUuids,
    ← halike.openSlices]
  split_ifs with hdisk
  · exact ⟨hdisk, rfl, rfl, rfl⟩
  · exact ⟨hdisk, rfl, rfl, rfl⟩

lemma triple_sequenceId (rank : ℕ) :
    Triple (Alike sink) (asserted (sequenceId rank)) (fun _ => Alike sink)
      (fun state => 0xFFF < rank ∧ Alike sink state) :=
  (triple_asserted _).imp (fun _ => id) (fun _ _ hpost => hpost.2)
    fun _ ⟨⟨_, herror⟩, halike⟩ => ⟨sequenceId_eq_error herror, halike⟩

lemma triple_ensureRank (rank : ℕ) :
    Triple (Alike sink) (ensureRank rank) (fun _ => Alike sink)
      (fun state => 0xFFF < rank ∧ Alike sink state) := by
  refine (triple_sequenceId rank).bind fun seq => ?_
  rintro state ⟨hpackets, hwrites, huuids, hopenSlices⟩
  exact ⟨hpackets, hwrites, huuids, hopenSlices⟩

lemma triple_nextComponentIndex (rank layer : ℕ) :
    Triple (· = sink) (nextComponentIndex rank layer)
      (fun _ state => HasRoom sink rank layer ∧ Alike sink state)
      (fun state => ¬ HasRoom sink rank layer ∧ Alike sink state) := by
  refine Triple.get_bind ?_
  rintro state rfl
  unfold HasRoom
  cases hget : FMap.get state.componentIndex (rank, layer) with
  | none => exact ⟨nofun, ⟨rfl, rfl, rfl, rfl⟩⟩
  | some idx =>
    dsimp only
    rw [checkedAdd]
    split_ifs with hroom
    · exact ⟨fun _ hindex => Option.some.inj hindex ▸ hroom, ⟨rfl, rfl, rfl, rfl⟩⟩
    · exact ⟨fun hall => hroom (hall idx rfl), ⟨rfl, rfl, rfl, rfl⟩⟩

/-! ## Ticks -/

/-- The packet of a component is there, and its parent is a layer. -/
def Orphaned (disk : ℕ → Bool) (sink : PerfettoSink) (position : TickPosition)
    (state : PerfettoSink) : Prop :=
  Describes disk sink position ∧ ∃ uuid parentUuid name order,
    layerUuid (position.rank.getD 0) position.layer = .ok parentUuid ∧
      Extends (sink.packets ++ [.track uuid parentUuid name order]) state

/-- The call has failed before its first packet was there. -/
def Spared (disk : ℕ → Bool) (sink : PerfettoSink) (position : TickPosition)
    (state : PerfettoSink) : Prop :=
  ¬ Describes disk sink position ∧ Bare disk state

section Tick

variable {position : TickPosition}

lemma orphaned_keeps {α : Type} {action : SinkM α}
    (hextends : ∀ written, Keeps (Extends written) action) :
    Triple (Orphaned disk sink position) action (fun _ => Orphaned disk sink position)
      (fun state => Orphaned disk sink position state ∨ Spared disk sink position state) := by
  rintro state ⟨hdescribed, uuid, parentUuid, name, order, hparent, hstate⟩
  have horphaned : ∀ state', Extends (sink.packets ++ [.track uuid parentUuid name order]) state' →
      Orphaned disk sink position state' :=
    fun state' hstate' => ⟨hdescribed, uuid, parentUuid, name, order, hparent, hstate'⟩
  exact ((hextends _).imp (fun _ => id) (fun _ => horphaned)
    fun state' hstate' => .inl (horphaned state' hstate')) state hstate

section

variable (hbare : Bare disk sink)

include hbare

lemma Bare.spared (hnot : ¬ Describes disk sink position) (halike : Alike sink state) :
    Orphaned disk sink position state ∨ Spared disk sink position state :=
  .inr ⟨hnot, hbare.congr halike.packets halike.componentUuids halike.openSlices⟩

/-- An assertion on a track fails only if the rank or the layer do not fit. -/
lemma Bare.triple_trackUuid (kind : TrackKind) (component : ℕ) :
    Triple (Alike sink)
      (asserted (trackUuid kind (position.rank.getD 0) position.layer component))
      (fun uuid state =>
        trackUuid kind (position.rank.getD 0) position.layer component = .ok uuid ∧ Alike sink state)
      (fun state => Orphaned disk sink position state ∨ Spared disk sink position state) := by
  refine (triple_asserted _).imp (fun _ => id) (fun _ _ => id) ?_
  rintro state ⟨⟨msg, herror⟩, halike⟩
  refine hbare.spared ?_ halike
  rintro ⟨hrank, hlayer, -⟩
  rcases trackUuid_eq_error herror with hrank' | hlayer'
  · exact absurd hrank (not_le.mpr hrank')
  · exact absurd hlayer (not_le.mpr hlayer')

/-- The packet of the component is the first that is written. -/
lemma Bare.triple_track {uuid parentUuid : ℕ}
    (hroom : sink.HasRoom (position.rank.getD 0) position.layer)
    (hparent : layerUuid (position.rank.getD 0) position.layer = .ok parentUuid) (name : String)
    (order : ℕ) :
    Triple (Alike sink) (writePacket disk (.track uuid parentUuid name order))
      (fun _ => Orphaned disk sink position)
      (fun state => Orphaned disk sink position state ∨ Spared disk sink position state) := by
  obtain ⟨hrank, hlayer, -⟩ := trackUuid_eq_ok hparent
  refine (triple_writePacket _).imp (fun _ => id) ?_ ?_
  · rintro _ state ⟨hdisk, hpackets, -⟩
    exact ⟨⟨hrank, hlayer, hroom, hdisk⟩, uuid, parentUuid, name, order, hparent,
      hpackets ▸ prefix_rfl⟩
  · rintro state ⟨hdisk, hpackets, huuids, hopenSlices⟩
    exact .inr ⟨fun hdescribed => hdisk hdescribed.2.2.2,
      hbare.congr hpackets huuids hopenSlices⟩

lemma Bare.triple_newComponent :
    Triple (· = sink)
      (newComponent disk (position.rank.getD 0) position.layer position.component)
      (fun _ => Orphaned disk sink position)
      (fun state => Orphaned disk sink position state ∨ Spared disk sink position state) := by
  refine ((triple_nextComponentIndex _ _).imp (fun _ => id) (fun _ _ => id)
    fun state ⟨hfull, halike⟩ =>
      hbare.spared (fun hdescribed => hfull hdescribed.2.2.1) halike).bind fun idx => ?_
  refine Triple.of_and fun hroom => (hbare.triple_trackUuid _ _).bind fun uuid => ?_
  refine Triple.of_and fun _ => (hbare.triple_trackUuid _ _).bind fun parentUuid => ?_
  refine Triple.of_and fun hparent => (hbare.triple_track hroom hparent _ _).bind fun _ => ?_
  refine (orphaned_keeps fun written => (stable_extends written).frame.internName _ _).bind fun _ => ?_
  exact orphaned_keeps fun written => Keeps.bind (.modify fun _ => id) fun _ => .pure _

lemma Bare.triple_onTickStopped :
    Triple (· = sink) (onTickStopped disk position) (fun _ => Orphaned disk sink position)
      (fun state => Orphaned disk sink position state ∨ Spared disk sink position state) := by
  refine Triple.bind (Triple.get_bind ?_) fun track =>
    orphaned_keeps fun written => extends_drawSlice _ _ track
  rw [hbare.componentUuids]
  exact hbare.triple_newComponent

lemma Bare.not_closedTrace_of_orphaned (horphaned : Orphaned disk sink position state) :
    ¬ ClosedTrace state.packets := by
  obtain ⟨-, uuid, parentUuid, name, order, hparent, hextends⟩ := horphaned
  intro hclosed
  exact hbare.not_mem_described hparent (closedTrace_concat_iff.mp (hclosed.of_front hextends)).2

end

end Tick

/-! ## Probes -/

section Probe

variable {event : ProbeFiredEvent}

/-- The packet of a probe can be written. -/
def Shows (disk : ℕ → Bool) (sink : PerfettoSink) (event : ProbeFiredEvent) : Prop :=
  event.rank ≤ 0xFFF ∧ disk sink.writes = true

/-- There is one packet more, on the process of the rank, or none. -/
def Shown (disk : ℕ → Bool) (sink : PerfettoSink) (event : ProbeFiredEvent)
    (state : PerfettoSink) : Prop :=
  state.componentUuids = sink.componentUuids ∧ state.openSlices = sink.openSlices ∧
    (¬ Shows disk sink event ∧ state.packets = sink.packets ∨
      Shows disk sink event ∧ ∃ sequence uuid name, processUuid event.rank = .ok uuid ∧
        state.packets = sink.packets ++ [.instant sequence uuid name])

lemma Bare.triple_onProbeFired (hbare : Bare disk sink)
    (order : HashOrder ((ℕ × ℕ × String) × ℕ)) :
    Triple (· = sink) (onProbeFired disk order.order event) (fun _ => Shown disk sink event)
      (Shown disk sink event) := by
  have hmissed : ∀ state, 0xFFF < event.rank ∧ Alike sink state → Shown disk sink event state :=
    fun state ⟨hrank, halike⟩ => ⟨halike.componentUuids, halike.openSlices,
      .inl ⟨fun hshows => absurd hshows.1 (not_le.mpr hrank), halike.packets⟩⟩
  have halike : ∀ state, state = sink → Alike sink state := by
    rintro state rfl
    exact ⟨rfl, rfl, rfl, rfl⟩
  refine ((triple_sequenceId _).imp halike (fun _ _ => id) hmissed).bind fun seq => ?_
  refine ((triple_ensureRank _).imp (fun _ => id) (fun _ _ => id) hmissed).bind fun _ => ?_
  rintro state halike
  rw [outcome_get_bind, halike.componentUuids, hbare.componentUuids,
    perm_nil.mp (order.perm [])]
  revert state
  suffices htriple : Triple (Alike sink) (do
      let track ← asserted (processUuid event.rank)
      writePacket disk (.instant seq track s!"probe:{event.probeId}"))
      (fun _ => Shown disk sink event) (Shown disk sink event) from htriple
  refine ((triple_asserted _).imp (fun _ => id) (fun _ _ => id) ?_).bind fun uuid => ?_
  · rintro state ⟨⟨msg, herror⟩, halike⟩
    refine hmissed state ⟨(trackUuid_eq_error herror).resolve_right (by omega), halike⟩
  refine Triple.of_and fun huuid => (triple_writePacket _).imp (fun _ => id) ?_ ?_
  · rintro _ state ⟨hdisk, hpackets, huuids, hopenSlices⟩
    exact ⟨huuids, hopenSlices,
      .inr ⟨⟨(trackUuid_eq_ok huuid).1, hdisk⟩, seq, uuid, _, huuid, hpackets⟩⟩
  · rintro state ⟨hdisk, hpackets, huuids, hopenSlices⟩
    exact ⟨huuids, hopenSlices, .inl ⟨fun hshows => hdisk hshows.2, hpackets⟩⟩

end Probe

/-! ## Whole traces -/

lemma Bare.instant {seq : ℕ}
    (hbare : Bare disk sink) (hmem : uuid ∈ describedTracks sink.packets)
    (hpackets : state.packets = sink.packets ++ [.instant seq uuid name])
    (huuids : state.componentUuids = sink.componentUuids)
    (hopenSlices : state.openSlices = sink.openSlices) : Bare disk state where
  componentUuids := huuids.trans hbare.componentUuids
  openSlices := hopenSlices.trans hbare.openSlices
  described := fun other => by
    have hsame : describedTracks [.instant seq uuid name] = [] := rfl
    rw [hpackets, describedTracks_append, hsame, append_nil]
    exact hbare.described other
  closed := by
    rw [hpackets]
    exact closedTrace_concat_iff.mpr ⟨hbare.closed, hmem⟩

/-- A call leaves a closed trace closed exactly if it is harmless. -/
lemma Bare.traced_cases (hbare : Bare disk sink)
    (call : HashOrder ((ℕ × ℕ × String) × ℕ) × TraceCall) :
    Harmless disk sink call ∧ Bare disk (traced disk sink call) ∨
      ¬ Harmless disk sink call ∧ ¬ ClosedTrace (traced disk sink call).packets := by
  obtain ⟨order, call⟩ := call
  cases call with
  | onTickStopped position =>
    have htriple : Triple (· = sink) (onTickStopped disk position)
        (fun _ state => Orphaned disk sink position state ∨ Spared disk sink position state)
        (fun state => Orphaned disk sink position state ∨ Spared disk sink position state) :=
      hbare.triple_onTickStopped.imp (fun _ => id) (fun _ _ => .inl) fun _ => id
    rcases htriple.snd rfl with horphaned | hspared
    · exact .inr ⟨fun hnot => hnot horphaned.1, hbare.not_closedTrace_of_orphaned horphaned⟩
    · exact .inl hspared
  | onProbeFired event =>
    obtain ⟨huuids, hopenSlices, hpackets⟩ :=
      (@Bare.triple_onProbeFired disk sink event hbare order).snd rfl
    rcases hpackets with ⟨hnot, hpackets⟩ | ⟨hshows, seq, uuid, name, huuid, hpackets⟩
    · exact .inl ⟨fun hshows => absurd hshows hnot,
        hbare.congr hpackets huuids hopenSlices⟩
    · have hresolved := hbare.mem_described_iff huuid
      by_cases hmem : uuid ∈ describedTracks sink.packets
      · exact .inl ⟨fun _ => hresolved.mp hmem,
          hbare.instant hmem hpackets huuids hopenSlices⟩
      · refine .inr ⟨fun hharmless => hmem (hresolved.mpr (hharmless hshows)), fun hclosed => ?_⟩
        have hstate : (traced disk sink (order, .onProbeFired event)).packets =
            sink.packets ++ [.instant seq uuid name] := hpackets
        rw [hstate] at hclosed
        exact hmem (closedTrace_concat_iff.mp hclosed).2

lemma Bare.closedTrace_close (hbare : Bare disk sink) (drain : HashOrder (ℕ × ℕ)) :
    ClosedTrace ((close disk drain.order).outcome sink).2.packets := by
  have hflush : Keeps (fun state => ClosedTrace state.packets) (flush disk) := by
    refine Keeps.get.bind fun _ => Keeps.bind (.modify fun _ => id) fun _ => ?_
    split
    · exact .pure _
    · exact .throw _
  rw [PerfettoSink.close, outcome_get_bind, hbare.openSlices, perm_nil.mp (drain.perm [])]
  exact (Keeps.bind (.modify fun _ => id) fun _ => Keeps.bind (.pure _) fun _ => hflush).snd
    hbare.closed

lemma Bare.closedTrace_iff (hbare : Bare disk sink)
    (calls : List (HashOrder ((ℕ × ℕ × String) × ℕ) × TraceCall)) (drain : HashOrder (ℕ × ℕ)) :
    ClosedTrace ((close disk drain.order).outcome (calls.foldl (traced disk) sink)).2.packets ↔
      Along (traced disk) (Harmless disk) sink calls := by
  induction calls generalizing sink with
  | nil => exact iff_of_true (hbare.closedTrace_close drain) trivial
  | cons call calls ih =>
    rcases hbare.traced_cases call with ⟨hharmless, hbare'⟩ | ⟨hharmful, hopen⟩
    · exact (ih hbare').trans (and_iff_right hharmless).symm
    · refine iff_of_false (fun hclosed => hopen ?_) fun hrun => hharmful hrun.1
      -- a packet that refers to nothing stays
      have hextends := @extends_foldl_traced disk _
        (traced disk sink call).packets prefix_rfl calls
      exact hclosed.of_front ((extends_close drain.order).snd hextends)

lemma logged_declareProcess_zero (hranks : sink.ranks = []) (huuid : processUuid 0 = .ok uuid)
    (workerPid : ℕ) (displayName : String)
    (hlogged : logged (declareProcess disk 0 workerPid displayName) sink = .ok state) :
    state.componentUuids = sink.componentUuids ∧ state.openSlices = sink.openSlices ∧
      state.packets = sink.packets ++ if disk sink.writes then
        [.processTrack uuid displayName (saturatingI32 workerPid) displayName] else [] := by
  have hsequence : sequenceId 0 = .ok workerSequenceBase := rfl
  have hfresh : ¬ (FMap.get ([] : List (ℕ × RankState)) workerSequenceBase).isSome = true :=
    Bool.false_ne_true
  unfold logged declareProcess at hlogged
  rw [if_neg (Nat.not_lt_zero _), hsequence, asserted, pure_bind, outcome_get_bind, hranks,
    huuid, if_neg hfresh, asserted, pure_bind, outcome_bind, outcome_writePacket] at hlogged
  split_ifs at hlogged ⊢ with hdisk
  · cases hlogged
    exact ⟨rfl, rfl, rfl⟩
  · cases hlogged
    exact ⟨rfl, rfl, (append_nil _).symm⟩

lemma bare_openTrace {created : Bool}
    (hopen : openTrace disk created sessionId modelName daemonPid workerPid = .ok (some sink)) :
    Bare disk sink := by
  obtain ⟨daemonUuid, hdaemonUuid⟩ : ∃ uuid, processUuid daemonRank = .ok uuid := ⟨_, rfl⟩
  obtain ⟨workerUuid, hworkerUuid⟩ : ∃ uuid, processUuid 0 = .ok uuid := ⟨_, rfl⟩
  unfold openTrace declareDaemon at hopen
  rw [hdaemonUuid, asserted, pure_bind, outcome_writePacket] at hopen
  split_ifs at hopen with hcreate hdaemon
  · dsimp only at hopen
    rcases hlogged : logged _ _ with message | declared
    · rw [hlogged] at hopen
      cases hopen
    rw [hlogged] at hopen
    cases hopen
    obtain ⟨huuids, hopenSlices, hpackets⟩ :=
      logged_declareProcess_zero rfl hworkerUuid _ _ hlogged
    change sink.packets = .processTrack daemonUuid _ _ _ :: if disk 1 then _ else [] at hpackets
    refine ⟨huuids, hopenSlices, fun uuid => ?_, ?_⟩
    · rw [hpackets, hdaemonUuid, hworkerUuid, HasWorker]
      split_ifs with hworker
      · simp [describedTracks, TracePacket.described, hworker, eq_comm]
      · simp [describedTracks, TracePacket.described, hworker, eq_comm]
    · have hdaemonTrack : ∀ name pid processName,
          ClosedTrace [.processTrack daemonUuid name pid processName] :=
        fun _ _ _ => (@closedTrace_concat_iff [] _).mpr ⟨closedTrace_nil, trivial⟩
      rw [hpackets]
      split_ifs with hworker
      · exact (@closedTrace_concat_iff [_] _).mpr ⟨hdaemonTrack _ _ _, trivial⟩
      · exact hdaemonTrack _ _ _
  · cases hopen
  · cases hopen

/-- The trace of a session is closed exactly if everything that was drawn is harmless. -/
theorem closedTrace_openTrace_iff {created : Bool} {sessionId modelName : String}
    {daemonPid workerPid : ℕ}
    (hopen : openTrace disk created sessionId modelName daemonPid workerPid = .ok (some sink))
    (calls : List (HashOrder ((ℕ × ℕ × String) × ℕ) × TraceCall)) (drain : HashOrder (ℕ × ℕ)) :
    ClosedTrace ((close disk drain.order).outcome (calls.foldl (traced disk) sink)).2.packets ↔
      Along (traced disk) (Harmless disk) sink calls :=
  (bare_openTrace hopen).closedTrace_iff calls drain

/-- The sink of a session with one worker, on a disk that takes every write. -/
def sampleSink : PerfettoSink :=
  { PerfettoSink.empty with
    packets := [.processTrack 0x1FFF000000000000 "daemon:s" 1 "gpt2",
      .processTrack 0x1000000000000000 "rank:0" 2 "rank:0"]
    writes := 2
    ranks := [(1000, ⟨1000, .new⟩)] }

def rankZeroProbe : ProbeFiredEvent := ⟨"p", "model.layers.0", 1, .capture, 0⟩

def firstTick : TickPosition :=
  ⟨1, .forward, some 0, 0, "attn.q_proj", .output, none, .prefill, none, none⟩

/-- A probe of rank 0 alone. -/
theorem closedTrace_rankZeroProbe :
    ClosedTrace ((close sound (HashOrder.inserted _).order).outcome
      (traced sound sampleSink (.inserted _, .onProbeFired rankZeroProbe))).2.packets :=
  (closedTrace_openTrace_iff (show openTrace sound true "s" "gpt2" 1 2 = .ok (some sampleSink) by
    decide +kernel) [(.inserted _, .onProbeFired rankZeroProbe)] (.inserted _)).mpr
      ⟨fun _ => .inr ⟨rfl, rfl⟩, trivial⟩

/-- The first tick has a layer for a parent that nothing describes. -/
theorem not_closedTrace_firstTick :
    openTrace sound true "s" "gpt2" 1 2 = .ok (some sampleSink) ∧
      ¬ ClosedTrace ((close sound (HashOrder.inserted _).order).outcome
        (traced sound sampleSink (.inserted _, .onTickStopped firstTick))).2.packets := by
  refine ⟨by decide +kernel, fun hclosed => ?_⟩
  have hresolved := hclosed sampleSink.packets
    (.track 0x3000000000000000 0x2000000000000000 "L0::attn.q_proj" 0) (by decide +kernel)
  have hundescribed : 0x2000000000000000 ∉ describedTracks sampleSink.packets := by decide +kernel
  exact hundescribed hresolved

end PerfettoSink

end RocketSurgeon.Daemon
