import RocketSurgeon.Shm.Filling
import RocketSurgeon.Worker.Inspect

/-!
# What an inspection hands over

`prepare` is what `collect_tensors` finds before anything fails, and `captureAll` hands it over; a
request does the one and then the other.  A tensor goes through the ring if it fits a slot and
a slot is free, and then its bytes stay in that slot until the consumer moves on.
-/

namespace RocketSurgeon.Worker

open Lib Protocol Probes Shm List

variable {T : Type} (hash : List UInt8 → String)

/-! ## Finding and handing over -/

/-- The tensors of some components up to the first failure, and that failure. -/
def prepare (bridge : InspectBridge T) (numHeads : ℕ) (headIndex : Option ℕ)
    (outputs : List ((String × ℕ) × T)) :
    List MappedComponent → List (MappedComponent × RawTensor) × Option String
  | [] => ([], none)
  | comp :: rest =>
      match FMap.get outputs (comp.modulePath, comp.callIndex) with
      | none => prepare bridge numHeads headIndex outputs rest
      | some tensor =>
          match tensorToUse bridge numHeads headIndex comp tensor >>= readTensor bridge with
          | .error message => ([], some message)
          | .ok raw =>
              let later := prepare bridge numHeads headIndex outputs rest
              ((comp, raw) :: later.1, later.2)

/-- Hand over one tensor after the other. -/
def captureAll : List (MappedComponent × RawTensor) → SharedRing → List CapturedTensor × SharedRing
  | [], shared => ([], shared)
  | (comp, raw) :: rest, shared =>
      let captured := captureTensor hash comp raw shared
      let later := captureAll rest captured.2
      (captured.1 :: later.1, later.2)

lemma collectTensorsFrom_eq (bridge : InspectBridge T) (numHeads : ℕ) (headIndex : Option ℕ)
    (outputs : List ((String × ℕ) × T)) (comps : List MappedComponent) (shared : SharedRing) :
    collectTensorsFrom hash bridge numHeads headIndex outputs comps shared =
      let prepared := prepare bridge numHeads headIndex outputs comps
      let captured := captureAll hash prepared.1 shared
      (match prepared.2 with
        | none => .ok captured.1
        | some msg => .error msg, captured.2) := by
  induction comps generalizing shared with
  | nil => rfl
  | cons comp rest ih =>
    rw [collectTensorsFrom, prepare]
    cases FMap.get outputs (comp.modulePath, comp.callIndex) with
    | none => exact ih shared
    | some tensor =>
      dsimp only
      cases tensorToUse bridge numHeads headIndex comp tensor >>= readTensor bridge with
      | error msg => rfl
      | ok raw =>
        dsimp only
        rw [ih]
        dsimp only [captureAll]
        cases (prepare bridge numHeads headIndex outputs rest).2 with
        | none | some msg => rfl

lemma collectTensors_eq (bridge : InspectBridge T) (st : WorkerState T)
    (comps : List MappedComponent) (headIndex : Option ℕ) (shared : SharedRing) :
    collectTensors hash bridge st comps headIndex shared =
      let prepared := prepare bridge st.numHeads headIndex (st.lastOutputs.getD []) comps
      let captured := captureAll hash prepared.1 shared
      (match prepared.2 with
        | none => .ok captured.1
        | some msg => .error msg, captured.2) := by
  rw [collectTensors]
  cases st.lastOutputs with
  | none =>
    have hnothing : prepare bridge st.numHeads headIndex [] comps = ([], none) := by
      induction comps with
      | nil => rfl
      | cons comp rest ih => exact ih
    rw [Option.getD_none, hnothing]
    rfl
  | some outputs => exact collectTensorsFrom_eq hash bridge _ _ outputs comps shared

/-- The components that have an output, with that output. -/
def heldTensors (outputs : List ((String × ℕ) × T)) (comps : List MappedComponent) :
    List (MappedComponent × T) :=
  comps.filterMap fun comp =>
    (FMap.get outputs (comp.modulePath, comp.callIndex)).map fun tensor => (comp, tensor)

lemma forall₂_prepare {outputs : List ((String × ℕ) × T)}
    (hcomplete : (prepare bridge numHeads headIndex outputs comps).2 = none) :
    List.Forall₂ (fun held capture => ∃ used, tensorToUse bridge numHeads headIndex held.1 held.2 =
        .ok used ∧ readTensor bridge used = .ok capture.2)
      (heldTensors outputs comps) (prepare bridge numHeads headIndex outputs comps).1 := by
  induction comps with
  | nil => exact .nil
  | cons comp rest ih =>
    rw [heldTensors, filterMap_cons]
    rw [prepare] at hcomplete ⊢
    cases hget : FMap.get outputs (comp.modulePath, comp.callIndex) with
    | none =>
      rw [hget] at hcomplete
      exact ih hcomplete
    | some tensor =>
      rw [hget] at hcomplete
      dsimp only at hcomplete ⊢
      cases hraw : tensorToUse bridge numHeads headIndex comp tensor >>= readTensor bridge with
      | error msg =>
        rw [hraw] at hcomplete
        cases hcomplete
      | ok raw =>
        rw [hraw] at hcomplete
        exact .cons (bind_eq_ok hraw) (ih hcomplete)

/-- What a request hands over, and whether it then succeeds. -/
def inspectCaptures (bridge : InspectBridge T) (st : WorkerState T) (req : HostInspectRequest) :
    List (MappedComponent × RawTensor) × Bool :=
  match st.modelHandle with
  | none => ([], false)
  | some handle =>
      if req.modelHandle ≠ handle then ([], false)
      else
        match st.componentMap with
        | none => ([], false)
        | some map =>
            if matchedComponents map req.target = [] then ([], false)
            else
              match extractHeadIndex req.target with
              | .error _ => ([], false)
              | .ok found =>
                  match st.lastOutputs with
                  | none => ([], true)
                  | some outputs =>
                      let prepared := prepare bridge st.numHeads (found.map Prod.snd) outputs
                        (matchedComponents map req.target)
                      (prepared.1, prepared.2.isNone)

lemma handleHostInspect_cases (bridge : InspectBridge T) (st : WorkerState T)
    (req : HostInspectRequest) (shared : SharedRing) :
    let captures := inspectCaptures bridge st req
    let captured := captureAll hash captures.1 shared
    (handleHostInspect hash bridge st req shared).2 = captured.2 ∧
      (captures.2 = true ∧ (handleHostInspect hash bridge st req shared).1 = .ok ⟨captured.1⟩ ∨
        captures.2 = false ∧
          ∃ error, (handleHostInspect hash bridge st req shared).1 = .error error) := by
  unfold handleHostInspect inspectCaptures
  cases st.modelHandle with
  | none => exact ⟨rfl, .inr ⟨rfl, _, rfl⟩⟩
  | some handle =>
    dsimp only
    split_ifs
    · exact ⟨rfl, .inr ⟨rfl, _, rfl⟩⟩
    · cases st.componentMap with
      | none => exact ⟨rfl, .inr ⟨rfl, _, rfl⟩⟩
      | some map =>
        dsimp only
        split_ifs
        · exact ⟨rfl, .inr ⟨rfl, _, rfl⟩⟩
        · cases extractHeadIndex req.target with
          | error msg => exact ⟨rfl, .inr ⟨rfl, _, rfl⟩⟩
          | ok found =>
            dsimp only
            rw [collectTensors]
            cases st.lastOutputs with
            | none => exact ⟨rfl, .inl ⟨rfl, rfl⟩⟩
            | some outputs =>
              dsimp only
              rw [collectTensorsFrom_eq]
              dsimp only
              cases (prepare bridge st.numHeads (found.map Prod.snd) outputs
                (matchedComponents map req.target)).2 with
              | none => exact ⟨rfl, .inl ⟨rfl, rfl⟩⟩
              | some msg => exact ⟨rfl, .inr ⟨rfl, _, rfl⟩⟩

/-! ## Tensors that can be summarised -/

/-- A tensor that has bytes has no dimension of zero. -/
def RawTensor.Sized (raw : RawTensor) : Prop := raw.bytes ≠ [] → ∀ dim ∈ raw.shape, 0 < dim

lemma sized_readTensor {tensor : T} (hread : readTensor bridge tensor = .ok raw) : raw.Sized := by
  obtain ⟨bytes, hbytes, hread⟩ := bind_eq_ok hread
  obtain ⟨shape, hshape, hread⟩ := bind_eq_ok hread
  obtain ⟨dtype, -, hread⟩ := bind_eq_ok hread
  obtain ⟨device, -, hread⟩ := bind_eq_ok hread
  cases hread
  exact bridge.dims_pos tensor bytes shape hbytes hshape

lemma sized_prepare (bridge : InspectBridge T) (numHeads : ℕ) (headIndex : Option ℕ)
    (outputs : List ((String × ℕ) × T)) (comps : List MappedComponent) :
    ∀ capture ∈ (prepare bridge numHeads headIndex outputs comps).1, capture.2.Sized := by
  induction comps with
  | nil => exact forall_mem_nil _
  | cons comp rest ih =>
    rw [prepare]
    cases FMap.get outputs (comp.modulePath, comp.callIndex) with
    | none => exact ih
    | some tensor =>
      dsimp only
      cases hraw : tensorToUse bridge numHeads headIndex comp tensor >>= readTensor bridge with
      | error msg => exact forall_mem_nil _
      | ok raw =>
        obtain ⟨used, -, hread⟩ := bind_eq_ok hraw
        exact forall_mem_cons.mpr ⟨sized_readTensor hread, ih⟩

lemma sized_inspectCaptures (bridge : InspectBridge T) (st : WorkerState T)
    (req : HostInspectRequest) :
    ∀ capture ∈ (inspectCaptures bridge st req).1, capture.2.Sized := by
  unfold inspectCaptures
  split
  · exact forall_mem_nil _
  · split_ifs
    · exact forall_mem_nil _
    · split
      · exact forall_mem_nil _
      · split_ifs
        · exact forall_mem_nil _
        · split
          · exact forall_mem_nil _
          · split
            · exact forall_mem_nil _
            · exact sized_prepare _ _ _ _ _

/-! ## Through the ring or in the reply -/

/-- What is handed over for a tensor: what is said about it, and where its bytes are. -/
structure Carries (region : ShmRegion) (capture : MappedComponent × RawTensor)
    (ct : CapturedTensor) : Prop where
  tensorId : ct.tensorId = hash capture.2.bytes
  shape : ct.shape = capture.2.shape
  dtype : ct.dtype = capture.2.dtype
  device : ct.device = capture.2.device
  data : (∃ offset, ct.shmOffset = some offset ∧ ct.byteLength = some capture.2.bytes.length ∧
      region.readBytes (offset + probeFrameHeaderSize) capture.2.bytes.length =
        .ok capture.2.bytes) ∨
    ct.shmOffset = none ∧ ct.byteLength = none ∧
      ct.dataBase64 = some (Base64.encodeText capture.2.bytes)

lemma exists_capture (hcarried : List.Forall₂ (Carries hash region) caps captured)
    (hct : ct ∈ captured) :
    ∃ capture ∈ caps, Carries hash region capture ct := by
  induction hcarried with
  | nil => cases hct
  | @cons capture _ caps _ hfirst _ ih =>
    rcases mem_cons.mp hct with rfl | hrest
    · exact ⟨capture, mem_cons_self, hfirst⟩
    · obtain ⟨found, hfound, hcarried⟩ := ih hrest
      exact ⟨found, mem_cons_of_mem _ hfound, hcarried⟩

/-- Whether a tensor has been handed over in a slot. -/
def hasShm (ct : CapturedTensor) : Bool := ct.shmOffset.isSome && ct.byteLength.isSome

variable {config : RingConfig} {ring : ShmRing} {region : ShmRegion} {nettics count : ℕ}
  {comp : MappedComponent} {raw : RawTensor}

/-- The frame a tensor is published in. -/
def frameOf (ring : ShmRing) (comp : MappedComponent) (raw : RawTensor) : ConsumedFrame :=
  ⟨tryShmPublishHeader (comp.layerIndex.getD 0) raw.shape raw.bytes ring.producer.maketic,
    raw.bytes⟩

lemma length_header_frameOf (ring : ShmRing) (comp : MappedComponent) (raw : RawTensor) :
    (frameOf ring comp raw).header.length = probeFrameHeaderSize := by
  simp [frameOf, tryShmPublishHeader, serializeProbeFrame, length_serializeProbeFrameFront,
    frameOffsetSize, probeFrameHeaderSize]

/-- The ring after a tensor has been published. -/
def publishedRing (config : RingConfig) (nettics count : ℕ) (ring : ShmRing) (region : ShmRegion)
    (comp : MappedComponent) (raw : RawTensor) : ShmRing × ShmRegion :=
  ({ ring with producer := ⟨ring.producer.config, (nettics + (count + 1)) % 2 ^ 64⟩ },
    ⟨publishedBytes region.bytes (config.slotOffset (nettics + count))
      ((nettics + (count + 1)) % 2 ^ 64) (frameOf ring comp raw), region.len⟩)

lemma filling_publishedRing (comp : MappedComponent) (raw : RawTensor)
    (hfill : Filling config region ring.producer nettics count)
    (hroom : count < config.backuptics) :
    Filling config (publishedRing config nettics count ring region comp raw).2
      (publishedRing config nettics count ring region comp raw).1.producer nettics (count + 1) :=
  hfill.published hroom

/-- A tensor goes through the ring if there is a free slot that it fits. -/
lemma captureTensor_of_room (hconfig : config.WellFormed)
    (hfill : Filling config region ring.producer nettics count)
    (hroom : count < config.backuptics) (hfits : raw.bytes.length ≤ config.slotDataCapacity) :
    captureTensor hash comp raw ⟨some ring, region⟩ =
      ({ describe comp raw (hash raw.bytes) with
          shmName := some ring.shmName
          shmOffset := some (config.slotOffset (nettics + count))
          byteLength := some raw.bytes.length },
        ⟨some (publishedRing config nettics count ring region comp raw).1,
          (publishedRing config nettics count ring region comp raw).2⟩) := by
  have hpublished :=
    hfill.publish_of_room hconfig hroom (length_header_frameOf ring comp raw) hfits
  have hoffset := hfill.slotOffset_maketic hconfig
  simp only [captureTensor, tryShmPublish]
  rw [frameOf] at hpublished
  simp only [hpublished, hoffset]
  rfl

lemma captureTensor_of_noRoom (hconfig : config.WellFormed)
    (hfill : Filling config region ring.producer nettics count)
    (hrejected : count = config.backuptics ∨ config.slotDataCapacity < raw.bytes.length) :
    captureTensor hash comp raw ⟨some ring, region⟩ =
      ({ describe comp raw (hash raw.bytes) with
          dataBase64 := some (Base64.encodeText raw.bytes) }, ⟨some ring, region⟩) := by
  obtain ⟨error, herror⟩ : ∃ error,
      ring.producer.publish region (frameOf ring comp raw) = .error error := by
    by_cases hlarge : config.slotDataCapacity < raw.bytes.length
    · exact ⟨_, hfill.publish_of_tooLarge hlarge⟩
    · obtain rfl := hrejected.resolve_right hlarge
      exact ⟨_, hfill.publish_of_full hconfig (Nat.le_of_not_lt hlarge)⟩
  rw [frameOf] at herror
  simp only [captureTensor, tryShmPublish, herror]

/-- What handing over some tensors does to a ring with `count` filled slots. -/
structure HandedOver (config : RingConfig) (nettics count : ℕ) (region : ShmRegion)
    (captures : List (MappedComponent × RawTensor)) (captured : List CapturedTensor)
    (ring' : ShmRing) (region' : ShmRegion) : Prop where
  filling : Filling config region' ring'.producer nettics (count + captured.countP hasShm)
  kept : ∀ i < count, ∀ frame : ConsumedFrame, frame.data.length ≤ config.slotDataCapacity →
    SlotHolds config region.bytes (nettics + i) frame →
    SlotHolds config region'.bytes (nettics + i) frame
  carries : List.Forall₂ (Carries hash region') captures captured
  idle : count < config.backuptics → (captured.countP hasShm = 0 ↔
    ∀ capture ∈ captures, config.slotDataCapacity < capture.2.bytes.length)

lemma HandedOver.nil (hfill : Filling config region ring.producer nettics count) :
    HandedOver hash config nettics count region [] [] ring region where
  filling := hfill
  kept := fun _ _ _ _ hholds => hholds
  carries := .nil
  idle := fun _ => ⟨fun _ => forall_mem_nil _, fun _ => rfl⟩

variable {rest : List (MappedComponent × RawTensor)} {captured : List CapturedTensor}
  {ring' : ShmRing} {region' : ShmRegion}

lemma HandedOver.cons_of_room (hconfig : config.WellFormed)
    (hroom : count < config.backuptics) (hfits : raw.bytes.length ≤ config.slotDataCapacity)
    (hrest : HandedOver hash config nettics (count + 1)
      (publishedRing config nettics count ring region comp raw).2 rest captured ring' region') :
    HandedOver hash config nettics count region ((comp, raw) :: rest)
      ({ describe comp raw (hash raw.bytes) with
          shmName := some ring.shmName
          shmOffset := some (config.slotOffset (nettics + count))
          byteLength := some raw.bytes.length } :: captured) ring' region' := by
  have hheader := length_header_frameOf ring comp raw
  refine ⟨?_, ?_, .cons ⟨rfl, rfl, rfl, rfl, .inl ⟨_, rfl, rfl, ?_⟩⟩ hrest.carries, ?_⟩
  · rw [countP_cons_of_pos rfl, ← Nat.add_assoc, Nat.add_right_comm]
    exact hrest.filling
  · intro i hi frame hframe hholds
    exact hrest.kept i (by omega) frame hframe
      (hholds.published hconfig hframe (by omega) (by omega) hheader hfits)
  · -- The slot is not written again before the consumer moves on.
    have hslot := hrest.kept count (Nat.lt_succ_self count) (frameOf ring comp raw) hfits
      (slotHolds_publishedBytes hheader)
    exact hrest.filling.readBytes_slot hconfig hfits hslot
  · intro _
    rw [countP_cons_of_pos rfl]
    exact ⟨fun hzero => absurd hzero (Nat.succ_ne_zero _), fun hlarge =>
      absurd (hlarge _ mem_cons_self) (Nat.not_lt.mpr hfits)⟩

lemma HandedOver.cons_of_noRoom
    (hrejected : count = config.backuptics ∨ config.slotDataCapacity < raw.bytes.length)
    (hrest : HandedOver hash config nettics count region rest captured ring' region') :
    HandedOver hash config nettics count region ((comp, raw) :: rest)
      ({ describe comp raw (hash raw.bytes) with
          dataBase64 := some (Base64.encodeText raw.bytes) } :: captured) ring' region' := by
  have hcount : ({ describe comp raw (hash raw.bytes) with
      dataBase64 := some (Base64.encodeText raw.bytes) } :: captured).countP hasShm =
      captured.countP hasShm := countP_cons_of_neg (by simp [hasShm, describe])
  refine ⟨?_, hrest.kept, .cons ⟨rfl, rfl, rfl, rfl, .inr ⟨rfl, rfl, rfl⟩⟩ hrest.carries, ?_⟩
  · rw [hcount]
    exact hrest.filling
  · intro hroom
    rw [hcount, hrest.idle hroom, forall_mem_cons]
    exact ⟨fun hlarge => ⟨hrejected.resolve_left hroom.ne, hlarge⟩, And.right⟩

/-- Handing over tensors fills slots behind those that are filled already. -/
lemma captureAll_handedOver (hconfig : config.WellFormed)
    (caps : List (MappedComponent × RawTensor))
    (hfill : Filling config region ring.producer nettics count) :
    ∃ ring' region', (captureAll hash caps ⟨some ring, region⟩).2 = ⟨some ring', region'⟩ ∧
      HandedOver hash config nettics count region caps
        (captureAll hash caps ⟨some ring, region⟩).1 ring' region' := by
  induction caps generalizing ring region count with
  | nil => exact ⟨ring, region, rfl, .nil hash hfill⟩
  | cons capture rest ih =>
    obtain ⟨comp, raw⟩ := capture
    by_cases hrejected : count = config.backuptics ∨ config.slotDataCapacity < raw.bytes.length
    · obtain ⟨ring', region', hshared, hrest⟩ := ih hfill
      rw [captureAll, captureTensor_of_noRoom hash hconfig hfill hrejected]
      exact ⟨ring', region', hshared, hrest.cons_of_noRoom hash hrejected⟩
    · push Not at hrejected
      have hroom : count < config.backuptics := lt_of_le_of_ne hfill.count_le hrejected.1
      obtain ⟨ring', region', hshared, hrest⟩ :=
        ih (filling_publishedRing comp raw hfill hroom)
      rw [captureAll, captureTensor_of_room hash hconfig hfill hroom hrejected.2]
      exact ⟨ring', region', hshared, hrest.cons_of_room hash hconfig hroom hrejected.2⟩

lemma captureAll_of_none (caps : List (MappedComponent × RawTensor)) (region : ShmRegion) :
    (captureAll hash caps ⟨none, region⟩).2 = ⟨none, region⟩ ∧
      (captureAll hash caps ⟨none, region⟩).1.countP hasShm = 0 ∧
      List.Forall₂ (Carries hash region) caps (captureAll hash caps ⟨none, region⟩).1 := by
  induction caps with
  | nil => exact ⟨rfl, rfl, .nil⟩
  | cons capture rest ih =>
    obtain ⟨hshared, hcount, hcarried⟩ := ih
    refine ⟨hshared, ?_, .cons ⟨rfl, rfl, rfl, rfl, .inr ⟨rfl, rfl, rfl⟩⟩ hcarried⟩
    rw [← hcount]
    exact countP_cons_of_neg (by simp [hasShm, describe, captureTensor, tryShmPublish])

end RocketSurgeon.Worker
