import RocketSurgeon.Lib.Result
import RocketSurgeon.Worker.ArenaInvariant
import RocketSurgeon.Worker.Checkpoint

/-!
# What creating a checkpoint keeps

Creating a checkpoint is a chain of arena operations for its id: a slot for every boundary
layer that has an activation, one for the random-number state, and the spilling of the oldest
checkpoint if the arena has become too full.  `extends_createCheckpoint` says what it keeps,
and `holds_createCheckpoint` that it stores something.

Two things can make a checkpoint lose its slots to another one.  The random-number state is
copied into its slot whatever its length, and an automatic checkpoint is spilled when less
than a fifth of the arena is free.
-/

namespace RocketSurgeon.Worker

open Lib Protocol CheckpointArena List

variable {T : Type}

lemma checkpointArena_attachModel
    (harena : (attachModel (WorkerState.new : WorkerState T) model).checkpointArena = some arena) :
    CheckpointArena.new model.slotSize model.numSlots = .ok arena := by
  unfold attachModel at harena
  split at harena
  next hnew =>
    cases harena
    exact hnew
  · cases harena

/-! ## Capturing layers -/

section Create

variable {bridge : Bridge T} {containers : List (ℕ × String)} {checkpointId : String}
  {arena : CheckpointArena} {layer : ℕ} {path : String}

lemma length_captureActivation
    (hok : captureActivation bridge path room = .ok (dtypeStr, shape, data)) :
    data.length ≤ room := by
  unfold captureActivation at hok
  split at hok
  · cases hok
  · split_ifs at hok with hlong
    cases hok
    exact not_lt.mp hlong

lemma extends_captureLayer (hsound : arena.WellFormed) (layer : ℕ) (path : String) :
    Extends checkpointId 1 ∅ arena (captureLayer bridge checkpointId layer path arena).2 := by
  unfold captureLayer
  split
  · exact (Extends.refl hsound).mono (Nat.zero_le 1) le_rfl
  next offset arena' halloc =>
    obtain ⟨slot, hoffset, htook⟩ := allocSlot_spec halloc
    rw [← htook.slotSize] at hoffset
    have htaken := htook.toExtends hsound
    split
    · exact htaken
    next hcap =>
      subst hoffset
      have hwritten := htaken.andThen (extends_writeData htaken.wellFormed slot
        (length_captureActivation hcap))
      split
      · exact hwritten.andThen (extends_updateHeader hwritten.wellFormed slot _)
      · exact hwritten

lemma holds_captureLayer (hsound : arena.WellFormed) {bytes : ℕ}
    (hok : (captureLayer bridge checkpointId layer path arena).1 = .ok bytes) :
    (captureLayer bridge checkpointId layer path arena).2.Holds checkpointId := by
  unfold captureLayer at hok ⊢
  split at hok
  · cases hok
  next offset arena' halloc =>
    obtain ⟨slot, hoffset, htook⟩ := allocSlot_spec halloc
    rw [← htook.slotSize] at hoffset
    have hsound := htook.wellFormed hsound
    split at hok
    · cases hok
    next hcap =>
      subst hoffset
      have hwritten := @extends_writeData arena' checkpointId hsound slot _
        (length_captureActivation hcap)
      split at hok
      next hshape =>
        rw [if_pos hshape]
        refine (hwritten.andThen (extends_updateHeader hwritten.wellFormed slot _)).holds
          checkpointId (Set.notMem_empty _) htook.holds_self
      · cases hok

lemma extends_captureLayers (hsound : arena.WellFormed) (layers : List ℕ) (totalBytes : ℕ) :
    Extends checkpointId layers.length ∅ arena
      (captureLayers bridge containers checkpointId layers arena totalBytes).2 := by
  induction layers generalizing arena totalBytes with
  | nil => exact Extends.refl hsound
  | cons layer layers ih =>
    -- A layer that is passed over takes no slot.
    have hpassed : ∀ totalBytes, Extends checkpointId (layers.length + 1) ∅ arena
        (captureLayers bridge containers checkpointId layers arena totalBytes).2 :=
      fun totalBytes => (ih hsound totalBytes).mono (Nat.le_succ _) le_rfl
    unfold captureLayers
    split
    · exact hpassed totalBytes
    next path _ =>
      split
      · exact (Extends.refl hsound).mono (Nat.zero_le _) le_rfl
      · exact hpassed totalBytes
      · have htaken := @extends_captureLayer T bridge checkpointId arena hsound layer path
        split
        next hfail =>
          rw [hfail] at htaken
          exact htaken.mono (Nat.le_add_left 1 _) le_rfl
        next hcap =>
          rw [hcap] at htaken
          rw [length_cons, Nat.add_comm]
          exact htaken.andThen (ih htaken.wellFormed _)

/-- The container of a layer has an activation to capture. -/
def HasActivation (bridge : Bridge T) (containers : List (ℕ × String)) (layer : ℕ) : Prop :=
  ∃ path, FMap.get containers layer = some path ∧ bridge.activationAvailable path = .ok true

/-- If one of the layers has an activation, capturing them leaves a slot that can be found. -/
lemma holds_captureLayers (hsound : arena.WellFormed) {bytes : ℕ}
    (hok : (captureLayers bridge containers checkpointId layers arena totalBytes).1 = .ok bytes)
    (hsome : ∃ layer ∈ layers, HasActivation bridge containers layer) :
    (captureLayers bridge containers checkpointId layers arena totalBytes).2.Holds checkpointId := by
  -- The first layer with an activation is captured, and the layers after it keep its slot.
  induction layers generalizing arena totalBytes with
  | nil =>
    obtain ⟨layer, hlayer, -⟩ := hsome
    cases hlayer
  | cons layer layers ih =>
    have hrest : (∀ path, FMap.get containers layer = some path →
        bridge.activationAvailable path ≠ .ok true) →
          ∃ layer ∈ layers, HasActivation bridge containers layer := by
      intro hnone
      obtain ⟨found, hfound, path, hpath, havailable⟩ := hsome
      rcases mem_cons.mp hfound with rfl | hfound
      · exact absurd havailable (hnone path hpath)
      · exact ⟨found, hfound, path, hpath, havailable⟩
    unfold captureLayers at hok ⊢
    split at hok
    next hcont =>
      exact ih hsound hok (hrest fun path hpath => nomatch hcont.symm.trans hpath)
    next path hcont =>
      split at hok
      · cases hok
      next havailable =>
        refine ih hsound hok (hrest fun path' hpath => ?_)
        obtain rfl : path = path' := Option.some.inj (hcont.symm.trans hpath)
        rw [havailable]
        decide
      · have htaken := @extends_captureLayer T bridge checkpointId arena hsound layer path
        split at hok
        · cases hok
        next hcap =>
          have hheld := holds_captureLayer hsound (congrArg Prod.fst hcap)
          rw [hcap] at htaken hheld
          exact (extends_captureLayers htaken.wellFormed layers _).holds checkpointId
            (Set.notMem_empty _) hheld

/-- A layer whose container, if it has an activation, can be captured into a slot. -/
def Capturable (bridge : Bridge T) (containers : List (ℕ × String)) (room layer : ℕ) : Prop :=
  ∀ path, FMap.get containers layer = some path →
    bridge.activationAvailable path = .ok false ∨
      bridge.activationAvailable path = .ok true ∧ ∃ dtypeStr shape data,
        bridge.lastOutput path = .ok (dtypeStr, shape, data) ∧ data.length = room ∧ 0 < room ∧
          shape.all (0 ≤ ·) = true

lemma isOk_captureLayer {dtypeStr : String} {shape : List ℤ} {data : List UInt8}
    (hfree : arena.freeList ≠ []) (houtput : bridge.lastOutput path = .ok (dtypeStr, shape, data))
    (hlen : data.length = arena.slotSize - slotHeaderSize) (hroom : 0 < data.length)
    (hshape : shape.all (0 ≤ ·) = true) :
    (captureLayer bridge checkpointId layer path arena).1.isOk = true := by
  obtain ⟨⟨offset, arena'⟩, halloc⟩ :=
    exists_ok_of_isOk (@isOk_allocSlot arena checkpointId layer hfree)
  obtain ⟨slot, -, hallocated⟩ := allocSlot_spec halloc
  have hcap : captureActivation bridge path (arena'.slotSize - slotHeaderSize) =
      .ok (dtypeStr, shape, data) := by
    rw [hallocated.slotSize, ← hlen]
    simp only [captureActivation, houtput]
    rw [if_neg (lt_irrefl _), if_neg (by omega)]
  simp only [captureLayer, halloc, hcap, hshape]
  rfl

lemma captureLayer_of_exhausted (hfree : arena.freeList = []) :
    (captureLayer bridge checkpointId layer path arena).1.isOk = false := by
  unfold captureLayer allocSlot
  rw [hfree]
  rfl

lemma available_captureLayer {bytes : ℕ}
    (hok : (captureLayer bridge checkpointId layer path arena).1 = .ok bytes) :
    arena.available = (captureLayer bridge checkpointId layer path arena).2.available + 1 ∧
      (captureLayer bridge checkpointId layer path arena).2.slotSize = arena.slotSize := by
  unfold captureLayer at hok ⊢
  split at hok
  · cases hok
  next offset arena' halloc =>
    obtain ⟨slot, -, htook⟩ := allocSlot_spec halloc
    have htaken : arena.available = arena'.available + 1 := by
      rw [available, htook.freeList, length_cons]
      rfl
    split at hok
    · cases hok
    · dsimp only at hok ⊢
      split at hok
      next hshape =>
        rw [if_pos hshape]
        exact ⟨htaken, htook.slotSize⟩
      · cases hok

/-- Whether a layer takes a slot. -/
def takesSlot (bridge : Bridge T) (containers : List (ℕ × String)) (layer : ℕ) : Bool :=
  match FMap.get containers layer with
  | none => false
  | some path =>
      match bridge.activationAvailable path with
      | .ok true => true
      | _ => false

lemma takesSlot_iff : takesSlot bridge containers layer = true ↔
    ∃ path, FMap.get containers layer = some path ∧ bridge.activationAvailable path = .ok true := by
  unfold takesSlot
  split
  next hcont => simp [hcont]
  next path hcont =>
    split
    next havailable => simp [hcont, havailable]
    next hother => simpa [hcont] using hother

lemma captureLayers_of_passed (layers : List ℕ) (totalBytes : ℕ)
    (hcapturable : Capturable bridge containers room layer)
    (hpassed : ¬ takesSlot bridge containers layer = true) :
    captureLayers bridge containers checkpointId (layer :: layers) arena totalBytes =
      captureLayers bridge containers checkpointId layers arena totalBytes := by
  rw [captureLayers]
  cases hcont : FMap.get containers layer with
  | none => rfl
  | some path =>
    rcases hcapturable path hcont with hnone | ⟨hsome, -⟩
    · simp only [hnone]
    · exact absurd (takesSlot_iff.mpr ⟨path, hcont, hsome⟩) hpassed

/-- One that takes a slot is captured if there is a free one, and then one slot less is free. -/
lemma captureLayers_of_taken (layers : List ℕ) (totalBytes : ℕ)
    (hcapturable : Capturable bridge containers (arena.slotSize - slotHeaderSize) layer)
    (htakes : takesSlot bridge containers layer = true) :
    arena.available = 0 ∧
        (captureLayers bridge containers checkpointId (layer :: layers) arena totalBytes).1.isOk =
          false ∨
      ∃ bytes arena', arena.available = arena'.available + 1 ∧ arena'.slotSize = arena.slotSize ∧
        captureLayers bridge containers checkpointId (layer :: layers) arena totalBytes =
          captureLayers bridge containers checkpointId layers arena' (totalBytes + bytes) := by
  obtain ⟨path, hcont, hsome⟩ := takesSlot_iff.mp htakes
  simp only [captureLayers, hcont, hsome]
  by_cases hfree : arena.freeList = []
  · left
    have hfails := @captureLayer_of_exhausted T bridge checkpointId arena layer path hfree
    refine ⟨by rw [available, hfree, length_nil], ?_⟩
    rcases hcap : captureLayer bridge checkpointId layer path arena with
      ⟨message | bytes, arena'⟩
    · rfl
    · rw [hcap] at hfails
      cases hfails
  · right
    rcases hcapturable path hcont with hnone | ⟨-, _, _, _, houtput, hlen, hroom, hshape⟩
    · cases hnone.symm.trans hsome
    · obtain ⟨bytes, hok⟩ := exists_ok_of_isOk (@isOk_captureLayer T bridge checkpointId arena layer
        path _ _ _ hfree houtput hlen (by omega) hshape)
      obtain ⟨hleft, hsize⟩ := available_captureLayer hok
      refine ⟨bytes, _, hleft, hsize, ?_⟩
      rcases hcap : captureLayer bridge checkpointId layer path arena with ⟨result, arena'⟩
      rw [hcap] at hok
      obtain rfl : result = .ok bytes := hok
      rfl

/-- **Capturing layers that are all capturable succeeds exactly if there are slots for those that
take one.** -/
theorem isOk_captureLayers_iff (totalBytes : ℕ)
    (hcapturable : ∀ layer ∈ layers,
      Capturable bridge containers (arena.slotSize - slotHeaderSize) layer) :
    (captureLayers bridge containers checkpointId layers arena totalBytes).1.isOk = true ↔
      layers.countP (takesSlot bridge containers) ≤ arena.available := by
  induction layers generalizing arena totalBytes with
  | nil => simp [captureLayers, Except.isOk, Except.toBool]
  | cons layer layers ih =>
    obtain ⟨hlayer, hlayers⟩ := forall_mem_cons.mp hcapturable
    by_cases htakes : takesSlot bridge containers layer = true
    · rw [countP_cons_of_pos htakes]
      rcases @captureLayers_of_taken T bridge containers checkpointId arena layer layers totalBytes
        hlayer htakes with ⟨hnone, hfails⟩ | ⟨bytes, arena', hleft, hsize, hnext⟩
      · rw [hfails, hnone]
        exact iff_of_false Bool.false_ne_true (Nat.not_succ_le_zero _)
      · rw [hnext, hleft, Nat.succ_le_succ_iff]
        exact ih _ (hsize ▸ hlayers)
    · rw [countP_cons_of_neg htakes, captureLayers_of_passed layers totalBytes hlayer htakes]
      exact ih totalBytes hlayers

lemma captureLayers_of_none (totalBytes : ℕ)
    (hnone : ∀ layer ∈ layers, ¬ HasActivation bridge containers layer) :
    (captureLayers bridge containers checkpointId layers arena totalBytes).2 = arena := by
  induction layers generalizing totalBytes with
  | nil => rfl
  | cons layer layers ih =>
    have hrest := fun totalBytes =>
      ih totalBytes fun other hother => hnone other (mem_cons_of_mem _ hother)
    unfold captureLayers
    split
    · exact hrest totalBytes
    next path hcont =>
      split
      · rfl
      · exact hrest totalBytes
      next havailable =>
        exact absurd ⟨path, hcont, havailable⟩ (hnone layer mem_cons_self)

/-! ## The random-number state -/

/-- The random-number state, if it can be captured, fits a slot. -/
def RngFits (bridge : Bridge T) (arena : CheckpointArena) : Prop :=
  ∀ rngBytes, bridge.captureRngState = .ok rngBytes →
    rngBytes.length ≤ arena.slotSize - slotHeaderSize

lemma RngFits.of_slotSize (hfits : RngFits bridge arena)
    (hsize : arena'.slotSize = arena.slotSize) : RngFits bridge arena' := by
  unfold RngFits
  rwa [hsize]

lemma extends_captureRng (hsound : arena.WellFormed) (hfits : RngFits bridge arena) :
    Extends checkpointId 1 ∅ arena (captureRng bridge checkpointId arena) := by
  unfold captureRng
  split
  · exact (Extends.refl hsound).mono (Nat.zero_le 1) le_rfl
  next rngBytes hrng =>
    split
    · exact (Extends.refl hsound).mono (Nat.zero_le 1) le_rfl
    next offset arena' halloc =>
      obtain ⟨slot, hoffset, htook⟩ := allocSlot_spec halloc
      rw [← htook.slotSize] at hoffset
      subst hoffset
      have htaken := htook.toExtends hsound
      have hheaded := htaken.andThen (extends_updateHeader htaken.wellFormed slot
        ⟨.float32, 1, rngBytes.length :: replicate 5 0, rngBytes.length⟩)
      refine hheaded.andThen (extends_writeData hheaded.wellFormed slot ?_)
      rw [hheaded.slotSize]
      exact hfits rngBytes hrng

lemma holds_captureRng (hsound : arena.WellFormed) (hfits : RngFits bridge arena)
    (hrng : bridge.captureRngState.isOk = true) (hfree : arena.freeList ≠ []) :
    (captureRng bridge checkpointId arena).Holds checkpointId := by
  obtain ⟨rngBytes, hrng⟩ := exists_ok_of_isOk hrng
  obtain ⟨⟨offset, arena'⟩, halloc⟩ :=
    exists_ok_of_isOk (@isOk_allocSlot arena checkpointId rngLayer hfree)
  obtain ⟨slot, hoffset, htook⟩ := allocSlot_spec halloc
  rw [← htook.slotSize] at hoffset
  subst hoffset
  have hheaded := @extends_updateHeader arena' checkpointId (htook.wellFormed hsound) slot
    ⟨.float32, 1, rngBytes.length :: replicate 5 0, rngBytes.length⟩
  have hwritten := hheaded.andThen (extends_writeData hheaded.wellFormed slot
    (show rngBytes.length ≤ _ by
      rw [hheaded.slotSize, htook.slotSize]
      exact hfits rngBytes hrng))
  simp only [captureRng, hrng, halloc]
  exact hwritten.holds checkpointId (Set.notMem_empty _) htook.holds_self

/-! ## Spilling -/

/-- A checkpoint that may be spilled when `slots` more slots are taken: an automatic one, in an
arena of which less than a fifth is free then. -/
def CheckpointArena.AtRisk (arena : CheckpointArena) (slots : ℕ) (id : String) : Prop :=
  isAutoId id = true ∧ id ∈ arena.checkpointOrder ∧
    5 * (arena.available - slots) < arena.numSlots

lemma spillCandidate_eq_some (hcandidate : spillCandidate arena checkpointId = some oldest) :
    oldest ≠ checkpointId ∧ arena.AtRisk 0 oldest := by
  unfold spillCandidate at hcandidate
  split_ifs at hcandidate with hfull
  rw [Option.filter_eq_some_iff, Bool.and_eq_true, decide_eq_true_eq] at hcandidate
  obtain ⟨holdest, hauto, hne⟩ := hcandidate
  refine ⟨hne, hauto, mem_of_mem_head? holdest, ?_⟩
  exact lt_of_lt_of_le hfull (Nat.mod_le _ _)

lemma spillOldest_cases (bridge : Bridge T) (checkpointId : String) (arena : CheckpointArena) :
    spillOldest bridge checkpointId arena = arena ∨
      ∃ oldest, spillCandidate arena checkpointId = some oldest ∧
        spillOldest bridge checkpointId arena = arena.freeCheckpoint oldest := by
  unfold spillOldest
  split
  · exact .inl rfl
  next oldest hcandidate =>
    split
    next hspilled => exact .inr ⟨oldest, hcandidate, (spillCheckpoint_spec hspilled).2⟩
    · exact .inl rfl

lemma extends_spillOldest (hsound : arena.WellFormed) :
    Extends checkpointId 0 {oldest | spillCandidate arena checkpointId = some oldest} arena
      (spillOldest bridge checkpointId arena) := by
  rcases spillOldest_cases bridge checkpointId arena with hsame | ⟨oldest, hcandidate, hfreed⟩
  · rw [hsame]
    exact (Extends.refl hsound).mono le_rfl (Set.empty_subset _)
  · rw [hfreed]
    refine (extends_freeCheckpoint hsound oldest).mono le_rfl ?_
    rintro _ rfl
    exact hcandidate

/-! ## Creating a checkpoint -/

/-- The slots creating a checkpoint may take: one for each boundary layer and one more. -/
def slotsNeeded (st : WorkerState T) : ℕ := (checkpointLayers st.numLayers).length + 1

/-- **Creating a checkpoint keeps every other one that is not at risk.** -/
theorem extends_createCheckpoint (st : WorkerState T) (hsound : arena.WellFormed)
    (hfits : RngFits bridge arena) :
    Extends checkpointId (slotsNeeded st) {id | id = checkpointId ∨ arena.AtRisk (slotsNeeded st) id}
      arena (createCheckpoint bridge st checkpointId arena).2 := by
  have hcap := @extends_captureLayers T bridge (buildLayerContainerMap st.containerPaths)
    checkpointId arena hsound (checkpointLayers st.numLayers) 0
  unfold createCheckpoint
  dsimp only
  split
  next hfail =>
    -- What was captured before the failure is given back.
    rw [hfail] at hcap
    refine (hcap.trans (extends_freeCheckpoint hcap.wellFormed checkpointId)).mono
      (Nat.le_succ _) ?_
    rw [Set.empty_union]
    rintro _ rfl
    exact .inl rfl
  next arena' hok =>
    rw [hok] at hcap
    have hfits' := hfits.of_slotSize hcap.slotSize
    have htaken := hcap.andThen (extends_captureRng hcap.wellFormed hfits')
    refine (htaken.trans (extends_spillOldest htaken.wellFormed)).mono le_rfl ?_
    rw [Set.empty_union]
    -- The spilled checkpoint was at risk before: it is not the new one, and no more slots
    -- have been taken than are needed.
    intro oldest hcandidate
    right
    obtain ⟨hne, hauto, horder, hfull⟩ := spillCandidate_eq_some hcandidate
    refine ⟨hauto, (htaken.order oldest horder).resolve_left hne, ?_⟩
    have hleft := htaken.available
    rw [htaken.numSlots] at hfull
    unfold slotsNeeded
    omega

/-- Something is there to be stored: a boundary layer with an activation, or the random-number
state and a slot for it once `taken` slots are gone. -/
def Storable (bridge : Bridge T) (st : WorkerState T) (arena : CheckpointArena) (taken : ℕ) :
    Prop :=
  (∃ layer ∈ checkpointLayers st.numLayers,
    HasActivation bridge (buildLayerContainerMap st.containerPaths) layer) ∨
  bridge.captureRngState.isOk = true ∧ taken < arena.available

/-- **A checkpoint that was created is held**, unless there was nothing to store. -/
theorem holds_createCheckpoint {bytes : ℕ} (hsound : arena.WellFormed)
    (hfits : RngFits bridge arena) (hstorable : Storable bridge st arena 0)
    (hok : (createCheckpoint bridge st checkpointId arena).1 = .ok bytes) :
    (createCheckpoint bridge st checkpointId arena).2.Holds checkpointId := by
  have hcap := @extends_captureLayers T bridge (buildLayerContainerMap st.containerPaths)
    checkpointId arena hsound (checkpointLayers st.numLayers) 0
  unfold createCheckpoint at hok ⊢
  dsimp only at hok ⊢
  split at hok
  · cases hok
  next arena' hlayers =>
    rw [hlayers] at hcap
    have hfits' := hfits.of_slotSize hcap.slotSize
    have hrng := @extends_captureRng T bridge checkpointId arena' hcap.wellFormed hfits'
    have hheld : (captureRng bridge checkpointId arena').Holds checkpointId := by
      by_cases hsome : ∃ layer ∈ checkpointLayers st.numLayers,
          HasActivation bridge (buildLayerContainerMap st.containerPaths) layer
      · have hheld := holds_captureLayers hsound (congrArg Prod.fst hlayers) hsome
        rw [hlayers] at hheld
        exact hrng.holds checkpointId (Set.notMem_empty _) hheld
      · -- No slot has been taken so far, so there is one for the random-number state.
        have hsame : (captureLayers bridge (buildLayerContainerMap st.containerPaths)
            checkpointId (checkpointLayers st.numLayers) arena 0).2 = arena :=
          captureLayers_of_none 0 fun layer hlayer hhas => hsome ⟨layer, hlayer, hhas⟩
        rw [hlayers] at hsame
        obtain rfl : arena' = arena := hsame
        obtain ⟨hcapture, hfree⟩ := hstorable.resolve_left hsome
        exact holds_captureRng hsound hfits hcapture (length_pos_iff.mp hfree)
    refine (extends_spillOldest hrng.wellFormed).holds checkpointId ?_ hheld
    intro hcandidate
    exact (spillCandidate_eq_some hcandidate).1 rfl

lemma isOk_createCheckpoint_eq (st : WorkerState T) :
    (createCheckpoint bridge st checkpointId arena).1.isOk =
      (captureLayers bridge (buildLayerContainerMap st.containerPaths) checkpointId
        (checkpointLayers st.numLayers) arena 0).1.isOk := by
  unfold createCheckpoint
  dsimp only
  split
  next hfail =>
    rw [hfail]
    rfl
  next hok => rw [hok]

/-- Creating a checkpoint succeeds if every boundary layer can be captured and has a slot. -/
lemma isOk_createCheckpoint {st : WorkerState T}
    (hcapturable : ∀ layer ∈ checkpointLayers st.numLayers,
      Capturable bridge (buildLayerContainerMap st.containerPaths)
        (arena.slotSize - slotHeaderSize) layer)
    (hroom : (checkpointLayers st.numLayers).length ≤ arena.available) :
    (createCheckpoint bridge st checkpointId arena).1.isOk = true := by
  rw [isOk_createCheckpoint_eq, isOk_captureLayers_iff 0 hcapturable]
  exact countP_le_length.trans hroom

end Create

end RocketSurgeon.Worker
