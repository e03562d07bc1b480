import RocketSurgeon.Daemon.SessionCalls
import RocketSurgeon.Lib.Runs

/-!
# The session invariant

What holds of a session after any calls.  Most of it is about what has to be cleared or
updated together: the status with the model, the actions and the identifier of the session;
the checkpoints with the map of their positions; everything that belongs to a model with the
model.  Interventions stand in the order in which they were first set, which takes the
history of the requests to say.

The segments of the worldline are numbered by how many there are, cast to 32 bits.  The
numbering is right as long as the count fits.
-/

namespace RocketSurgeon.Daemon

open Lib Protocol List Session

/-! ## The invariant -/

/-- The status and the fields that go with it. -/
structure LifeCycle (state : SessionState) : Prop where
  status : state.status = .uninitialized ∨ state.status = .initialized ∨ state.status = .stopped
  modelId : state.modelId.isSome = true ↔ state.status = .stopped
  actions : state.availableActions = Session.actionsOf state.status
  sessionId : state.sessionId = "" ↔ state.status = .uninitialized

/-- Nothing is left of a model. -/
structure Idle (session : Session) : Prop where
  position : session.state.position = none
  tickId : session.state.tickId = none
  checkpoints : session.state.checkpoints = []
  checkpointPositions : session.checkpointPositions = []
  interventions : session.interventions = []
  catalog : session.catalog = []
  definedViews : session.definedViews = []

/-- Checkpoints have distinct identifiers, and only checkpoints have positions. -/
structure Registered (checkpoints : List CheckpointRef)
    (checkpointPositions : List (String × TickPosition)) : Prop where
  distinct : (checkpoints.map CheckpointRef.checkpointId).Nodup
  positions : ∀ id ∈ checkpointPositions.map Prod.fst,
    id ∈ checkpoints.map CheckpointRef.checkpointId

/-- The segments are numbered from zero, and every one but the first branches off an earlier one. -/
structure Numbered (worldline : WorldlineState) : Prop where
  ids : worldline.segments.map WorldlineSegment.id = List.range worldline.segments.length
  root : ∀ segment ∈ worldline.segments, segment.parentSegment = none ↔ segment.id = 0
  parents : ∀ segment ∈ worldline.segments, ∀ parent,
    segment.parentSegment = some parent → parent < segment.id
  current : worldline.segments ≠ [] → worldline.currentSegment < worldline.segments.length

/-- The invariant of a session, given what was done to its interventions. -/
structure Session.Invariant (log : InterventionLog) (session : Session) : Prop where
  lifeCycle : LifeCycle session.state
  idle : session.state.status ≠ .stopped → Idle session
  registered : Registered session.state.checkpoints session.checkpointPositions
  interventions : InPutOrder log (session.interventions.map InterventionRecipe.id)
  distinct : (session.interventions.map InterventionRecipe.id).Nodup
  worldline : Numbered session.state.worldline

/-! ## One change at a time -/

section Change

variable {drawn : List String} {session session' : Session} {events : InterventionLog}

lemma LifeCycle.change (hcycle : LifeCycle session.state) (hnonempty : ∀ id ∈ drawn, id ≠ "")
    (hchange : Change drawn session events session') : LifeCycle session'.state := by
  have hkept : ∀ {status : Status}, session.state.status = status → status ≠ .uninitialized →
      session.state.sessionId ≠ "" := by
    intro status hstatus hne hempty
    exact hne (hstatus.symm.trans (hcycle.sessionId.mp hempty))
  cases hchange with
  | opened huuid hstatus =>
    refine ⟨.inr (.inl rfl), iff_of_false (fun hmodel => ?_) nofun, rfl,
      iff_of_false (hnonempty _ huuid) nofun⟩
    have hstop := hcycle.modelId.mp hmodel
    rw [hstatus] at hstop
    cases hstop
  | attached hstatus =>
    exact ⟨.inr (.inr rfl), iff_of_true rfl rfl, rfl, iff_of_false (hkept hstatus nofun) nofun⟩
  | detached hstop =>
    exact ⟨.inr (.inl rfl), iff_of_false nofun nofun, rfl, iff_of_false (hkept hstop nofun) nofun⟩
  | moved => exact ⟨hcycle.status, hcycle.modelId, rfl, hcycle.sessionId⟩
  | _ => exact ⟨hcycle.status, hcycle.modelId, hcycle.actions, hcycle.sessionId⟩

lemma sessionId_change (hcycle : LifeCycle session.state) (hset : session.state.sessionId ≠ "")
    (hchange : Change drawn session events session') :
    session'.state.sessionId = session.state.sessionId := by
  cases hchange with
  | opened huuid hstatus => exact absurd (hcycle.sessionId.mpr hstatus) hset
  | _ => rfl

lemma Idle.change (hidle : session.state.status ≠ .stopped → Idle session)
    (hchange : Change drawn session events session') :
    session'.state.status ≠ .stopped → Idle session' := by
  intro hnot
  cases hchange with
  | unchanged => exact hidle hnot
  | opened huuid hstatus =>
    have hbefore : session.state.status ≠ .stopped := by
      rw [hstatus]
      exact nofun
    exact { hidle hbefore with }
  | attached => exact absurd rfl hnot
  | detached => exact ⟨rfl, rfl, rfl, rfl, rfl, rfl, rfl⟩
  | filtered | utilized | scheduled => exact { hidle hnot with }
  -- Every other change takes a stopped session and leaves it stopped.
  | moved hstop => exact absurd hstop hnot
  | created huuid hstop => exact absurd hstop hnot
  | restored hstop => exact absurd hstop hnot
  | deleted hstop => exact absurd hstop hnot
  | bookmarked huuid hstop => exact absurd hstop hnot
  | intervened hstop => exact absurd hstop hnot
  | cleared hstop => exact absurd hstop hnot
  | viewed hstop => exact absurd hstop hnot
  | branched hstop => exact absurd hstop hnot

/-! ### Checkpoints -/

lemma map_checkpointId_setBookmark (tickId : ℕ) (name : String) (checkpoints : List CheckpointRef) :
    (setBookmark tickId name checkpoints).map CheckpointRef.checkpointId =
      checkpoints.map CheckpointRef.checkpointId := by
  induction checkpoints with
  | nil => rfl
  | cons ref rest ih =>
    rw [setBookmark]
    split
    · rfl
    · rw [map_cons, ih, map_cons]

lemma Registered.append {positions : List (String × TickPosition)}
    (hregistered : Registered checkpoints positions)
    (hnew : ref.checkpointId ∉ checkpoints.map CheckpointRef.checkpointId)
    (hpositions : ∀ id ∈ positions'.map Prod.fst, id ∈ positions.map Prod.fst ∨ id = ref.checkpointId) :
    Registered (checkpoints ++ [ref]) positions' := by
  constructor
  · rw [map_append, map_singleton]
    refine hregistered.distinct.append (nodup_singleton _) ?_
    exact disjoint_singleton.mpr hnew
  · intro id hid
    rw [map_append, mem_append, map_singleton, mem_singleton]
    exact (hpositions id hid).imp (hregistered.positions id) fun h => h

lemma Registered.remove {positions : List (String × TickPosition)}
    (hregistered : Registered checkpoints positions) (id : String) :
    Registered (checkpoints.filter fun ref => ref.checkpointId ≠ id) (FMap.remove positions id) := by
  constructor
  · exact hregistered.distinct.sublist (filter_sublist.map _)
  · intro key hkey
    obtain ⟨entry, hentry, rfl⟩ := mem_map.mp hkey
    obtain ⟨hmem, hne⟩ := mem_filter.mp hentry
    obtain ⟨ref, href, hid⟩ :=
      mem_map.mp (hregistered.positions entry.1 (mem_map_of_mem hmem))
    refine mem_map.mpr ⟨ref, mem_filter.mpr ⟨href, ?_⟩, hid⟩
    rw [hid]
    exact hne

/-- The identifiers of the checkpoints were drawn. -/
def DrawnFrom (known : List String) (checkpoints : List CheckpointRef) : Prop :=
  ∀ id ∈ checkpoints.map CheckpointRef.checkpointId, id ∈ known

lemma DrawnFrom.change (hknown : DrawnFrom known session.state.checkpoints)
    (hchange : Change drawn session events session') :
    DrawnFrom (drawn ++ known) session'.state.checkpoints := by
  have hold : DrawnFrom (drawn ++ known) session.state.checkpoints :=
    fun id hid => mem_append_right _ (hknown id hid)
  have happend : ∀ ref : CheckpointRef, ref.checkpointId ∈ drawn →
      DrawnFrom (drawn ++ known) (session.state.checkpoints ++ [ref]) := by
    intro ref href id hid
    rw [map_append, mem_append, map_singleton, mem_singleton] at hid
    rcases hid with hid | rfl
    · exact hold id hid
    · exact mem_append_left _ href
  cases hchange with
  | detached => exact nofun
  | created huuid => exact happend _ huuid
  | deleted hstop id =>
    intro key hkey
    exact hold key ((filter_sublist.map _).subset hkey)
  | bookmarked huuid hstop tickId name =>
    dsimp only [checkpointBookmark]
    split
    · unfold DrawnFrom
      rw [map_checkpointId_setBookmark]
      exact hold
    · exact happend _ huuid
  | _ => exact hold

lemma Registered.change
    (hregistered : Registered session.state.checkpoints session.checkpointPositions)
    (hknown : DrawnFrom known session.state.checkpoints) (hfresh : ∀ id ∈ drawn, id ∉ known)
    (hchange : Change drawn session events session') :
    Registered session'.state.checkpoints session'.checkpointPositions := by
  have hnew : ∀ uuid ∈ drawn, uuid ∉ session.state.checkpoints.map CheckpointRef.checkpointId :=
    fun uuid huuid hmem => hfresh uuid huuid (hknown uuid hmem)
  cases hchange with
  | detached => exact ⟨nodup_nil, nofun⟩
  | @created uuid huuid hstop tier =>
    refine hregistered.append (hnew uuid huuid) fun id hid => ?_
    dsimp only [checkpointCreateWithId] at hid
    split at hid
    · rw [FMap.insert, map_cons, mem_cons] at hid
      exact hid.symm.imp_left fun h => (filter_sublist.map _).subset h
    · exact .inl hid
  | deleted hstop id => exact hregistered.remove id
  | @bookmarked uuid huuid hstop tickId name =>
    dsimp only [checkpointBookmark]
    split
    · constructor
      · rw [map_checkpointId_setBookmark]
        exact hregistered.distinct
      · rw [map_checkpointId_setBookmark]
        exact hregistered.positions
    · exact hregistered.append (hnew uuid huuid) fun id hid => .inl hid
  | _ => exact hregistered

/-! ### Interventions -/

lemma map_id_replaceRecipe (recipe : InterventionRecipe) (recipes : List InterventionRecipe) :
    (replaceRecipe recipe recipes).map InterventionRecipe.id =
      recipes.map InterventionRecipe.id := by
  induction recipes with
  | nil => rfl
  | cons old rest ih =>
    rw [replaceRecipe]
    split
    next hid => rw [map_cons, map_cons, hid]
    · rw [map_cons, ih, map_cons]

lemma inPutOrder_change {log : InterventionLog}
    (horder : InPutOrder log (session.interventions.map InterventionRecipe.id))
    (hchange : Change drawn session events session') :
    InPutOrder (events ++ log) (session'.interventions.map InterventionRecipe.id) := by
  cases hchange with
  | detached => exact .dropAll log
  | intervened hstop recipe =>
    have hany : session.interventions.any (fun old => old.id = recipe.id) = true ↔
        recipe.id ∈ session.interventions.map InterventionRecipe.id := by
      simp [any_eq_true]
    unfold setIntervention
    split
    next hset =>
      rw [map_id_replaceRecipe]
      exact horder.put_of_mem (hany.mp hset)
    next hset =>
      rw [map_append]
      exact horder.put_of_not_mem (mt hany.mpr hset)
  | cleared hstop id =>
    have hfiltered := horder.drop (some id)
    rw [filter_map] at hfiltered
    exact hfiltered
  | _ => exact horder

/-! ### The worldline -/

def link (segment : WorldlineSegment) : ℕ × Option ℕ := (segment.id, segment.parentSegment)

lemma map_link_extendSegment (worldline : WorldlineState) (tick : ℕ) :
    (extendSegment worldline tick).segments.map link = worldline.segments.map link := by
  unfold extendSegment
  generalize worldline.currentSegment = index
  induction worldline.segments generalizing index with
  | nil => rw [modify_nil]
  | cons segment rest ih =>
    cases index with
    | zero => rfl
    | succ index =>
      rw [modify_succ_cons, map_cons, ih, map_cons]

lemma Numbered.extend (hnum : Numbered worldline) (tick : ℕ) :
    Numbered (extendSegment worldline tick) := by
  have hlinks := map_link_extendSegment worldline tick
  have hlen : (extendSegment worldline tick).segments.length =
      worldline.segments.length := by
    exact length_modify ..
  have hold : ∀ segment ∈ (extendSegment worldline tick).segments,
      ∃ old ∈ worldline.segments, link old = link segment := by
    intro segment hseg
    have hlink := mem_map_of_mem (f := link) hseg
    rw [hlinks] at hlink
    exact mem_map.mp hlink
  constructor
  · have hids := congrArg (map Prod.fst) hlinks
    rw [map_map, map_map] at hids
    exact hids.trans (hnum.ids.trans (by rw [hlen]))
  · intro segment hseg
    obtain ⟨old, hmem, hlink⟩ := hold segment hseg
    obtain ⟨hid, hparent⟩ := Prod.mk.inj hlink
    rw [← hid, ← hparent]
    exact hnum.root old hmem
  · intro segment hseg parent hbranch
    obtain ⟨old, hmem, hlink⟩ := hold segment hseg
    obtain ⟨hid, hparent⟩ := Prod.mk.inj hlink
    rw [← hid]
    exact hnum.parents old hmem parent (hparent.trans hbranch)
  · intro hne
    rw [hlen]
    refine hnum.current fun hnil => hne ?_
    rw [← length_eq_zero_iff, hlen, hnil]
    rfl

lemma Numbered.advance (hnum : Numbered session.state.worldline)
    (hroom : session.state.worldline.segments.length < 2 ^ 32) (branchTick : ℕ) :
    Numbered (session.advanceWorldlineSegment branchTick).state.worldline := by
  have hextended := hnum.extend branchTick
  have hlen : (extendSegment session.state.worldline branchTick).segments.length =
      session.state.worldline.segments.length := by
    exact length_modify ..
  have hcurrent := hnum.current
  unfold advanceWorldlineSegment
  dsimp only
  rw [Nat.mod_eq_of_lt hroom]
  generalize session.state.worldline = worldline at *
  have hempty : worldline.segments.isEmpty = true ↔ worldline.segments.length = 0 := by
    rw [List.isEmpty_iff, length_eq_zero_iff]
  constructor
  · rw [map_append, hextended.ids, length_append, hlen]
    exact range_succ.symm
  · intro segment hseg
    rcases mem_append.mp hseg with hold | hnew
    · exact hextended.root segment hold
    · obtain rfl := mem_singleton.mp hnew
      rw [← hempty]
      split
      next hroot => exact iff_of_true rfl hroot
      next hroot => exact iff_of_false nofun hroot
  · intro segment hseg parent hparent
    rcases mem_append.mp hseg with hold | hnew
    · exact hextended.parents segment hold parent hparent
    · obtain rfl := mem_singleton.mp hnew
      split at hparent
      · cases hparent
      next hroot =>
        cases hparent
        exact hcurrent fun hnil => hroot (isEmpty_iff.mpr hnil)
  · intro _
    rw [length_append, hlen]
    exact Nat.lt_succ_self _

lemma Numbered.change (hnum : Numbered session.state.worldline)
    (hchange : Change drawn session events session') : Numbered session'.state.worldline := by
  cases hchange with
  | moved hstop position => exact hnum.extend position.tickId
  | branched hstop hroom branchTick => exact hnum.advance hroom branchTick
  | _ => exact hnum

end Change

/-! ## Runs -/

/-- A session with what was done to its interventions and the identifiers drawn so far. -/
structure Traced where
  session : Session
  log : InterventionLog
  known : List String

namespace Traced

def new : Traced := ⟨Session.new, [], []⟩

def call (t : Traced) (call : SessionCall) : Traced :=
  let performed := call.perform t.session
  ⟨performed.2, eventsOf call.events performed.1 ++ t.log, call.drawn ++ t.known⟩

/-- A segment is only added to the worldline while a model is attached. -/
def WhileAttached (t : Traced) : SessionCall → Prop
  | .advanceWorldlineSegment _ => t.session.state.status = .stopped
  | _ => True

/-- What is drawn is not empty, and was not drawn before. -/
def Fresh (t : Traced) (call : SessionCall) : Prop :=
  ∀ id ∈ call.drawn, id ≠ "" ∧ id ∉ t.known

/-- When a segment is added there are fewer than `2 ^ 32`. -/
def SegmentRoom (t : Traced) : SessionCall → Prop
  | .advanceWorldlineSegment _ => t.session.state.worldline.segments.length < 2 ^ 32
  | _ => True

structure Sound (t : Traced) : Prop where
  invariant : t.session.Invariant t.log
  drawn : DrawnFrom t.known t.session.state.checkpoints

lemma sound_new : Sound new where
  invariant := {
    lifeCycle := ⟨.inl rfl, iff_of_false nofun nofun, rfl, iff_of_true rfl rfl⟩
    idle := fun _ => ⟨rfl, rfl, rfl, rfl, rfl, rfl, rfl⟩
    registered := ⟨nodup_nil, nofun⟩
    interventions := .nil
    distinct := nodup_nil
    worldline := ⟨rfl, nofun, nofun, fun hne => absurd rfl hne⟩ }
  drawn := nofun

lemma Sound.change {t : Traced} (hsound : t.Sound) {drawn : List String}
    (hfresh : ∀ id ∈ drawn, id ≠ "" ∧ id ∉ t.known)
    (hchange : Change drawn t.session events session') :
    Sound ⟨session', events ++ t.log, drawn ++ t.known⟩ := by
  have hinv := hsound.invariant
  have horder := inPutOrder_change hinv.interventions hchange
  exact {
    invariant := {
      lifeCycle := hinv.lifeCycle.change (fun id hid => (hfresh id hid).1) hchange
      idle := Idle.change hinv.idle hchange
      registered := hinv.registered.change hsound.drawn (fun id hid => (hfresh id hid).2) hchange
      interventions := horder
      distinct := horder.nodup
      worldline := hinv.worldline.change hchange }
    drawn := hsound.drawn.change hchange }

lemma change_call {call : SessionCall} (hattached : WhileAttached t call)
    (hroom : SegmentRoom t call) :
    Change call.drawn t.session (eventsOf call.events (call.perform t.session).1)
      (call.perform t.session).2 := by
  refine change_perform t.session call ?_
  rintro branchTick rfl
  exact ⟨hattached, hroom⟩

/-- The conditions on one call of a run. -/
def Admissible (t : Traced) (call : SessionCall) : Prop :=
  (WhileAttached t call ∧ Fresh t call) ∧ SegmentRoom t call

lemma Sound.call {t : Traced} (hsound : t.Sound) {c : SessionCall} (hcall : Admissible t c) :
    (t.call c).Sound :=
  hsound.change hcall.1.2 (change_call hcall.1.1 hcall.2)

lemma sessionId_run (hsound : t.Sound) (hcalls : Along Traced.call Admissible t calls)
    (hset : t.session.state.sessionId ≠ "") :
    (calls.foldl Traced.call t).session.state.sessionId = t.session.state.sessionId := by
  induction calls generalizing t with
  | nil => rfl
  | cons c calls ih =>
    have hkept : (t.call c).session.state.sessionId = t.session.state.sessionId :=
      sessionId_change hsound.invariant.lifeCycle hset (change_call hcalls.1.1.1 hcalls.1.2)
    exact (ih (hsound.call hcalls.1) hcalls.2 (hkept ▸ hset)).trans hkept

/-- The invariant holds after any calls that never find `2 ^ 32` segments when they add one. -/
theorem invariant_of_segmentRoom (earlier later : List SessionCall)
    (hattached : Along Traced.call WhileAttached new (earlier ++ later))
    (hfresh : Along Traced.call Fresh new (earlier ++ later))
    (hroom : Along Traced.call SegmentRoom new (earlier ++ later)) :
    let before := earlier.foldl Traced.call new
    let after := later.foldl Traced.call before
    after.session.Invariant after.log ∧
      (before.session.state.sessionId ≠ "" →
        after.session.state.sessionId = before.session.state.sessionId) := by
  obtain ⟨hearlier, hlater⟩ := (along_append earlier later).mp ((hattached.and hfresh).and hroom)
  have hrun : ∀ {t : Traced} {calls : List SessionCall}, t.Sound →
      Along Traced.call Admissible t calls → (calls.foldl Traced.call t).Sound :=
    fun hsound hcalls => Along.invariant (fun _ _ hsound hcall => hsound.call hcall) hsound hcalls
  have hbefore := hrun sound_new hearlier
  have hafter := hrun hbefore hlater
  exact ⟨hafter.invariant, sessionId_run hbefore hlater⟩

/-- Initialize, and attach a model of two layers. -/
def openingCalls : List SessionCall :=
  [.dispatch initializeRequest "s" (.ok ⟨.none, .query ""⟩),
    .attach (.valid ⟨"model", "llama", 1, none⟩) (.ok ⟨1, "llama", 2, 2, 8⟩) "m"]

/-- Two interventions are set, the first one again, and the worldline branches twice. -/
def branchingCalls : List SessionCall :=
  [.intervene (.valid (.set ⟨some "b", .scale, "0:0:mlp:0:output", .scale 2, none, 0, .additive⟩)),
    .intervene (.valid (.set ⟨some "a", .scale, "0:0:mlp:0:output", .scale 3, none, 0, .additive⟩)),
    .intervene (.valid (.set ⟨some "b", .scale, "0:0:mlp:0:output", .scale 4, none, 0, .additive⟩)),
    .advanceWorldlineSegment 3, .advanceWorldlineSegment 5]

theorem invariant_branchingCalls :
    let before := openingCalls.foldl Traced.call new
    let after := branchingCalls.foldl Traced.call before
    after.session.Invariant after.log ∧
      (before.session.state.sessionId ≠ "" →
        after.session.state.sessionId = before.session.state.sessionId) := by
  refine invariant_of_segmentRoom openingCalls branchingCalls ?_ ?_ ?_
  · refine ⟨trivial, trivial, trivial, trivial, trivial, ?_, ?_, trivial⟩
    · show _ = Status.stopped
      decide
    · show _ = Status.stopped
      decide
  · refine ⟨?_, ?_, nofun, nofun, nofun, nofun, nofun, trivial⟩
    · simp [Fresh, SessionCall.drawn, new]
    · simp [Fresh, SessionCall.drawn, new, Traced.call]
  · refine ⟨trivial, trivial, trivial, trivial, trivial, ?_, ?_, trivial⟩
    · show length _ < 2 ^ 32
      decide
    · show length _ < 2 ^ 32
      decide

/-! ### More segments than 32 bits can number -/

section Advances

variable (t : Traced) (branchTick n : ℕ)

/-- The session after a segment has been added `n` times. -/
def advances : Traced :=
  (List.replicate n (SessionCall.advanceWorldlineSegment branchTick)).foldl Traced.call t

lemma advances_succ :
    advances t branchTick (n + 1) =
      (advances t branchTick n).call (.advanceWorldlineSegment branchTick) := by
  rw [advances, replicate_succ', foldl_append]
  rfl

lemma length_segments_advances :
    (advances t branchTick n).session.state.worldline.segments.length =
      t.session.state.worldline.segments.length + n := by
  induction n with
  | zero => rfl
  | succ n ih =>
    rw [advances_succ]
    show ((extendSegment _ branchTick).segments ++ [_]).length = _
    rw [length_append, extendSegment, length_modify, ih]
    rfl

/-- The last segment has the number of the segments before it, cast to 32 bits. -/
lemma getLast_segments_advances :
    ((advances t branchTick (n + 1)).session.state.worldline.segments.map
      WorldlineSegment.id).getLast? =
      some ((t.session.state.worldline.segments.length + n) % 2 ^ 32) := by
  rw [advances_succ]
  show (((extendSegment _ branchTick).segments ++ [_]).map WorldlineSegment.id).getLast? = _
  rw [map_append, map_singleton, getLast?_concat, length_segments_advances]

lemma whileAttached_advances {t : Traced} (hstop : t.session.state.status = .stopped) :
    Along Traced.call WhileAttached t
      (replicate n (SessionCall.advanceWorldlineSegment branchTick)) := by
  induction n generalizing t with
  | zero => trivial
  | succ n ih => exact ⟨hstop, ih hstop⟩

lemma fresh_advances :
    Along Traced.call Fresh t
      (replicate n (SessionCall.advanceWorldlineSegment branchTick)) := by
  induction n generalizing t with
  | zero => trivial
  | succ n ih => exact ⟨nofun, ih _⟩

/-- With `2 ^ 32 + 1` segments the last one is numbered zero again. -/
lemma not_numbered_advances
    (hempty : t.session.state.worldline.segments = []) (hcount : n = 2 ^ 32) :
    ¬ Numbered (advances t branchTick (n + 1)).session.state.worldline := by
  intro hnum
  have hlast := getLast_segments_advances t branchTick n
  rw [hnum.ids, length_segments_advances, hempty, length_nil, Nat.zero_add, Nat.zero_add,
    getLast?_range, hcount, Nat.mod_self] at hlast
  simp at hlast

end Advances

/-- Attach a model and branch the worldline `2 ^ 32 + 1` times. -/
def wrappingCalls : List SessionCall :=
  openingCalls ++ List.replicate (2 ^ 32 + 1) (.advanceWorldlineSegment 0)

lemma foldl_wrappingCalls :
    wrappingCalls.foldl Traced.call new =
      advances (openingCalls.foldl Traced.call new) 0 (2 ^ 32 + 1) := by
  rw [wrappingCalls, foldl_append, advances]

theorem not_invariant_wrappingCalls :
    Along Traced.call WhileAttached new wrappingCalls ∧ Along Traced.call Fresh new wrappingCalls ∧
      ¬ (wrappingCalls.foldl Traced.call new).session.Invariant
        (wrappingCalls.foldl Traced.call new).log := by
  refine ⟨?_, ?_, fun hinvariant => ?_⟩
  · refine (along_append openingCalls _).mpr ⟨⟨trivial, trivial, trivial⟩, ?_⟩
    exact whileAttached_advances 0 _ (by decide)
  · refine (along_append openingCalls _).mpr ⟨⟨?_, ?_, trivial⟩, fresh_advances _ 0 _⟩
    · simp [Fresh, SessionCall.drawn, new]
    · simp [Fresh, SessionCall.drawn, new, Traced.call]
  · have hnumbered := hinvariant.worldline
    rw [foldl_wrappingCalls] at hnumbered
    exact not_numbered_advances _ 0 _ (by decide) rfl
      hnumbered

end Traced

end RocketSurgeon.Daemon
