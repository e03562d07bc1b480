import RocketSurgeon.Worker.ArenaHistory
import RocketSurgeon.Worker.CheckpointInvariant

/-!
# What creating a checkpoint writes

The writes of a create into the arena, in order: the stamp of each slot it takes, the data of an
activation and its header, and the header and the data of the random-number state.  Applied to the
memory of the arena they give the memory it has afterwards.

Activations are written within their slots, whose size the Python side is told.  The random-number
state is copied whatever its length.  The length in a header is computed from the shape and the
dtype, and a dtype without a tag counts as four bytes an element; so the header of a tensor of
smaller elements says more than its slot has.
-/

namespace RocketSurgeon.Worker

open Lib Protocol CheckpointArena List

variable {T : Type}

/-! ## Writes -/

/-- A write into the slot at an offset: its header, or data behind the header. -/
inductive SlotWrite
  | header (offset : ℕ) (header : SlotHeader)
  | data (offset : ℕ) (bytes : List UInt8)
  deriving DecidableEq

namespace SlotWrite

def start : SlotWrite → ℕ
  | .header offset _ => offset
  | .data offset _ => offset + slotHeaderSize

def bytes : SlotWrite → List UInt8
  | .header _ written => written.writeTo
  | .data _ written => written

def apply (mem : Memory) (write : SlotWrite) : Memory := writeBytes mem write.start write.bytes

/-- Every byte of the write is a byte of the slot. -/
def Inside (slotSize slot : ℕ) (write : SlotWrite) : Prop :=
  slot * slotSize ≤ write.start ∧
    write.start + write.bytes.length ≤ slot * slotSize + slotSize

/-- A header that is written says no more than `room` bytes. -/
def Records (room : ℕ) : SlotWrite → Prop
  | .header _ written => written.byteLen ≤ room
  | .data _ _ => True

lemma inside_header {slotSize : ℕ} (hheader : slotHeaderSize ≤ slotSize) (slot : ℕ)
    (hdr : SlotHeader) : (SlotWrite.header (slot * slotSize) hdr).Inside slotSize slot :=
  ⟨le_rfl, by simpa [start, bytes] using hheader⟩

lemma inside_data {slotSize : ℕ} (hheader : slotHeaderSize ≤ slotSize) (slot : ℕ)
    {bytes : List UInt8} (hfits : bytes.length ≤ slotSize - slotHeaderSize) :
    (SlotWrite.data (slot * slotSize) bytes).Inside slotSize slot := by
  refine ⟨Nat.le_add_right _ _, ?_⟩
  show slot * slotSize + slotHeaderSize + bytes.length ≤ slot * slotSize + slotSize
  omega

end SlotWrite

/-- The header `alloc_slot` stamps. -/
def stampedHeader (slotSize : ℕ) : SlotHeader :=
  ⟨.float32, 0, List.replicate 6 0, slotSize - slotHeaderSize⟩

def captureLayerWrites (bridge : Bridge T) (checkpointId : String) (layer : ℕ) (path : String)
    (arena : CheckpointArena) : List SlotWrite :=
  match arena.allocSlot checkpointId layer with
  | .error _ => []
  | .ok (offset, arena') =>
      .header offset (stampedHeader arena.slotSize) ::
        match captureActivation bridge path (arena'.slotSize - slotHeaderSize) with
        | .error _ => []
        | .ok (dtypeStr, shape, data) =>
            .data offset data ::
              if shape.all (0 ≤ ·) then [.header offset (activationHeader dtypeStr shape)] else []

def captureLayersWrites (bridge : Bridge T) (containers : List (ℕ × String))
    (checkpointId : String) : List ℕ → CheckpointArena → List SlotWrite
  | [], _ => []
  | layer :: layers, arena =>
      match FMap.get containers layer with
      | none => captureLayersWrites bridge containers checkpointId layers arena
      | some path =>
          match bridge.activationAvailable path with
          | .error _ => []
          | .ok false => captureLayersWrites bridge containers checkpointId layers arena
          | .ok true =>
              captureLayerWrites bridge checkpointId layer path arena ++
                match captureLayer bridge checkpointId layer path arena with
                | (.error _, _) => []
                | (.ok _, arena) => captureLayersWrites bridge containers checkpointId layers arena

def captureRngWrites (bridge : Bridge T) (checkpointId : String) (arena : CheckpointArena) :
    List SlotWrite :=
  match bridge.captureRngState with
  | .error _ => []
  | .ok rngBytes =>
      match arena.allocSlot checkpointId rngLayer with
      | .error _ => []
      | .ok (offset, _) =>
          [.header offset (stampedHeader arena.slotSize),
            .header offset ⟨.float32, 1, rngBytes.length :: List.replicate 5 0, rngBytes.length⟩,
            .data offset rngBytes]

section Create

variable (bridge : Bridge T) (st : WorkerState T) (checkpointId : String) (arena : CheckpointArena)

/-- The layers of a create, captured one after the other. -/
def capturedLayers : Except String ℕ × CheckpointArena :=
  captureLayers bridge (buildLayerContainerMap st.containerPaths) checkpointId
    (checkpointLayers st.numLayers) arena 0

/-- The arena with everything a create has put into it, before it rolls back or spills. -/
def filledArena : CheckpointArena :=
  match capturedLayers bridge st checkpointId arena with
  | (.error _, arena) => arena
  | (.ok _, arena) => captureRng bridge checkpointId arena

def createWrites : List SlotWrite :=
  captureLayersWrites bridge (buildLayerContainerMap st.containerPaths) checkpointId
      (checkpointLayers st.numLayers) arena ++
    match capturedLayers bridge st checkpointId arena with
    | (.error _, _) => []
    | (.ok _, arena) => captureRngWrites bridge checkpointId arena

end Create

variable {bridge : Bridge T} {containers : List (ℕ × String)} {checkpointId : String}
  {arena arena' : CheckpointArena}

/-! ### The writes are all there is -/

lemma bytes_allocSlot (hok : arena.allocSlot checkpointId layer = .ok (off, arena')) :
    arena'.bytes = (SlotWrite.header off (stampedHeader arena.slotSize)).apply arena.bytes := by
  unfold allocSlot at hok
  split at hok
  · cases hok
  · cases hok
    rfl

lemma bytes_captureLayer (layer : ℕ) (path : String) (arena : CheckpointArena) :
    (captureLayer bridge checkpointId layer path arena).2.bytes =
      (captureLayerWrites bridge checkpointId layer path arena).foldl SlotWrite.apply
        arena.bytes := by
  unfold captureLayer captureLayerWrites
  cases halloc : arena.allocSlot checkpointId layer with
  | error msg => rfl
  | ok allocated =>
    obtain ⟨off, arena₁⟩ := allocated
    dsimp only
    rw [foldl_cons, ← bytes_allocSlot halloc]
    cases captureActivation bridge path (arena₁.slotSize - slotHeaderSize) with
    | error msg => rfl
    | ok caps =>
      dsimp only
      split_ifs
      · rfl
      · rfl

lemma bytes_captureLayers (layers : List ℕ) (arena : CheckpointArena) (totalBytes : ℕ) :
    (captureLayers bridge containers checkpointId layers arena totalBytes).2.bytes =
      (captureLayersWrites bridge containers checkpointId layers arena).foldl SlotWrite.apply
        arena.bytes := by
  induction layers generalizing arena totalBytes with
  | nil => rfl
  | cons layer layers ih =>
    rw [captureLayers, captureLayersWrites]
    cases FMap.get containers layer with
    | none => exact ih arena totalBytes
    | some path =>
      dsimp only
      cases bridge.activationAvailable path with
      | error msg => rfl
      | ok available =>
        cases available with
        | false => exact ih arena totalBytes
        | true =>
          have hfirst := @bytes_captureLayer T bridge checkpointId layer path arena
          rw [foldl_append, ← hfirst]
          rcases captureLayer bridge checkpointId layer path arena with
            ⟨msg | bytes, arena'⟩
          · rfl
          · exact ih arena' (totalBytes + bytes)

lemma bytes_captureRng (arena : CheckpointArena) :
    (captureRng bridge checkpointId arena).bytes =
      (captureRngWrites bridge checkpointId arena).foldl SlotWrite.apply arena.bytes := by
  unfold captureRng captureRngWrites
  cases bridge.captureRngState with
  | error msg => rfl
  | ok rngBytes =>
    cases halloc : arena.allocSlot checkpointId rngLayer with
    | error msg => rfl
    | ok allocated =>
      rw [foldl_cons, ← bytes_allocSlot halloc]
      rfl

lemma bytes_spillOldest (arena : CheckpointArena) :
    (spillOldest bridge checkpointId arena).bytes = arena.bytes := by
  rcases spillOldest_cases bridge checkpointId arena with hsame | ⟨oldest, -, hfreed⟩
  · rw [hsame]
  · rw [hfreed, bytes_freeCheckpoint]

/-- The memory after a create is the memory before with the writes applied. -/
theorem bytes_createCheckpoint (st : WorkerState T) (arena : CheckpointArena) :
    (createCheckpoint bridge st checkpointId arena).2.bytes =
      (createWrites bridge st checkpointId arena).foldl SlotWrite.apply arena.bytes := by
  have hlayers := @bytes_captureLayers T bridge (buildLayerContainerMap st.containerPaths)
    checkpointId (checkpointLayers st.numLayers) arena 0
  unfold createCheckpoint createWrites capturedLayers
  rw [foldl_append, ← hlayers]
  dsimp only
  rcases captureLayers bridge (buildLayerContainerMap st.containerPaths) checkpointId
    (checkpointLayers st.numLayers) arena 0 with ⟨msg | bytes, arena'⟩
  · exact bytes_freeCheckpoint arena' checkpointId
  · show (spillOldest bridge checkpointId (captureRng bridge checkpointId arena')).bytes = _
    rw [bytes_spillOldest, bytes_captureRng]

/-! ## Writes and slots -/

/-- The slots taken for a checkpoint between two arenas. -/
structure Taken (id : String) (slots : List ℕ) (arena arena' : CheckpointArena) : Prop where
  freeList : arena.freeList = slots ++ arena'.freeList
  slotsOf : arena'.slotsOf id = arena.slotsOf id ++ slots
  slotSize : arena'.slotSize = arena.slotSize

lemma Taken.refl (id : String) (arena : CheckpointArena) : Taken id [] arena arena :=
  ⟨rfl, (append_nil _).symm, rfl⟩

lemma Taken.trans {id : String} {slots : List ℕ} (hfirst : Taken id slots arena arena')
    (hsecond : Taken id slots' arena' arena'') :
    Taken id (slots ++ slots') arena arena'' where
  freeList := by rw [hfirst.freeList, hsecond.freeList, append_assoc]
  slotsOf := by rw [hsecond.slotsOf, hfirst.slotsOf, append_assoc]
  slotSize := hsecond.slotSize.trans hfirst.slotSize

lemma CheckpointArena.Allocated.taken {id : String} {layer slot : ℕ}
    (halloc : Allocated arena id layer slot arena') : Taken id [slot] arena arena' :=
  ⟨halloc.freeList, halloc.slotsOf_self, halloc.slotSize⟩

/-- The writes of an operation go into the slots it takes. -/
def WritesInto (id : String) (arena arena' : CheckpointArena) (writes : List SlotWrite) : Prop :=
  ∃ slots, Taken id slots arena arena' ∧
    ∀ write ∈ writes, ∃ slot ∈ slots, write.Inside arena.slotSize slot

lemma WritesInto.nil (id : String) (arena : CheckpointArena) : WritesInto id arena arena [] :=
  ⟨[], .refl id arena, by simp⟩

lemma WritesInto.append {id : String} (hfirst : WritesInto id arena arena' first)
    (hsecond : WritesInto id arena' arena'' second) :
    WritesInto id arena arena'' (first ++ second) := by
  obtain ⟨slots, htaken, hinside⟩ := hfirst
  obtain ⟨slots', htaken', hinside'⟩ := hsecond
  refine ⟨slots ++ slots', htaken.trans htaken', fun write hwrite => ?_⟩
  rcases mem_append.mp hwrite with hmem | hmem
  · obtain ⟨slot, hslot, hin⟩ := hinside write hmem
    exact ⟨slot, mem_append_left _ hslot, hin⟩
  · obtain ⟨slot, hslot, hin⟩ := hinside' write hmem
    exact ⟨slot, mem_append_right _ hslot, htaken.slotSize ▸ hin⟩

lemma writesInto_captureLayer (hheader : slotHeaderSize ≤ arena.slotSize) (layer : ℕ)
    (path : String) :
    WritesInto checkpointId arena (captureLayer bridge checkpointId layer path arena).2
      (captureLayerWrites bridge checkpointId layer path arena) := by
  unfold captureLayer captureLayerWrites
  cases halloc : arena.allocSlot checkpointId layer with
  | error msg => exact .nil _ _
  | ok allocated =>
    obtain ⟨off, arena₁⟩ := allocated
    obtain ⟨slot, rfl, hslot⟩ := allocSlot_spec halloc
    have hstamp := SlotWrite.inside_header hheader slot (stampedHeader arena.slotSize)
    dsimp only
    cases hcapture : captureActivation bridge path (arena₁.slotSize - slotHeaderSize) with
    | error msg =>
      refine ⟨[slot], hslot.taken, fun write hwrite => ?_⟩
      obtain rfl := mem_singleton.mp hwrite
      exact ⟨slot, mem_singleton_self slot, hstamp⟩
    | ok caps =>
      have hfits := length_captureActivation hcapture
      rw [hslot.slotSize] at hfits
      have hdata := SlotWrite.inside_data hheader slot hfits
      dsimp only
      split_ifs
      · refine ⟨[slot], ⟨hslot.taken.freeList, hslot.taken.slotsOf, hslot.taken.slotSize⟩,
          fun write hwrite => ⟨slot, mem_singleton_self slot, ?_⟩⟩
        simp only [mem_cons, not_mem_nil, or_false] at hwrite
        rcases hwrite with rfl | rfl | rfl
        · exact hstamp
        · exact hdata
        · exact SlotWrite.inside_header hheader slot _
      · refine ⟨[slot], ⟨hslot.taken.freeList, hslot.taken.slotsOf, hslot.taken.slotSize⟩,
          fun write hwrite => ⟨slot, mem_singleton_self slot, ?_⟩⟩
        simp only [mem_cons, not_mem_nil, or_false] at hwrite
        rcases hwrite with rfl | rfl
        · exact hstamp
        · exact hdata

lemma writesInto_captureLayers (hheader : slotHeaderSize ≤ arena.slotSize) (layers : List ℕ)
    (totalBytes : ℕ) :
    WritesInto checkpointId arena
      (captureLayers bridge containers checkpointId layers arena totalBytes).2
      (captureLayersWrites bridge containers checkpointId layers arena) := by
  induction layers generalizing arena totalBytes with
  | nil => exact .nil _ _
  | cons layer layers ih =>
    rw [captureLayers, captureLayersWrites]
    cases FMap.get containers layer with
    | none => exact ih hheader totalBytes
    | some path =>
      dsimp only
      cases bridge.activationAvailable path with
      | error msg => exact .nil _ _
      | ok available =>
        cases available with
        | false => exact ih hheader totalBytes
        | true =>
          have hfirst := @writesInto_captureLayer T bridge checkpointId arena hheader layer
            path
          rcases hcap : captureLayer bridge checkpointId layer path arena with
            ⟨msg | bytes, arena'⟩
          · rw [hcap] at hfirst
            exact hfirst.append (.nil _ _)
          · rw [hcap] at hfirst
            obtain ⟨slots, htaken, hinside⟩ := hfirst
            refine WritesInto.append ⟨slots, htaken, hinside⟩ (ih ?_ (totalBytes + bytes))
            exact htaken.slotSize ▸ hheader

/-- The random-number state, if it is stored, fits its slot. -/
def RngStored (bridge : Bridge T) (arena : CheckpointArena) : Prop :=
  ∀ rngBytes, bridge.captureRngState = .ok rngBytes → arena.freeList ≠ [] →
    rngBytes.length ≤ arena.slotSize - slotHeaderSize

lemma writesInto_captureRng (hheader : slotHeaderSize ≤ arena.slotSize)
    (hfits : RngStored bridge arena) :
    WritesInto checkpointId arena (captureRng bridge checkpointId arena)
      (captureRngWrites bridge checkpointId arena) := by
  unfold captureRng captureRngWrites
  cases hrng : bridge.captureRngState with
  | error msg => exact .nil _ _
  | ok rngBytes =>
    cases halloc : arena.allocSlot checkpointId rngLayer with
    | error msg => exact .nil _ _
    | ok allocated =>
      obtain ⟨off, arena₁⟩ := allocated
      obtain ⟨slot, rfl, hslot⟩ := allocSlot_spec halloc
      have hroom := hfits rngBytes hrng (hslot.freeList ▸ cons_ne_nil _ _)
      refine ⟨[slot], ⟨hslot.taken.freeList, hslot.taken.slotsOf, hslot.taken.slotSize⟩,
        fun write hwrite => ⟨slot, mem_singleton_self slot, ?_⟩⟩
      simp only [mem_cons, not_mem_nil, or_false] at hwrite
      rcases hwrite with rfl | rfl | rfl
      · exact SlotWrite.inside_header hheader slot _
      · exact SlotWrite.inside_header hheader slot _
      · exact SlotWrite.inside_data hheader slot hroom

/-! ## Lengths in headers -/

/-- Dtype and shape of the activations a create captures into `free` slots with `room` for data: those
of the layers that have put something out, up to the first that cannot be captured. -/
def capturedOutputs (bridge : Bridge T) (containers : List (ℕ × String)) (room : ℕ) :
    List ℕ → ℕ → List (String × List ℤ)
  | [], _ => []
  | layer :: layers, free =>
      match FMap.get containers layer with
      | none => capturedOutputs bridge containers room layers free
      | some path =>
          match bridge.activationAvailable path, free, captureActivation bridge path room with
          | .ok false, _, _ => capturedOutputs bridge containers room layers free
          | .ok true, free + 1, .ok (dtypeStr, shape, _) =>
              if shape.all (0 ≤ ·) then
                (dtypeStr, shape) :: capturedOutputs bridge containers room layers free
              else []
          | _, _, _ => []

/-- The tag under which a dtype is stored. -/
def storedTag (dtypeStr : String) : DtypeTag := (DtypeTag.fromTorchStr dtypeStr).getD .float32

lemma byteLen_activationHeader {dtypeStr : String} {shape : List ℤ}
    (hsmall : shape.prod.toNat * (storedTag dtypeStr).elemSize < 2 ^ 64)
    (hshape : shape.all (0 ≤ ·) = true) :
    (activationHeader dtypeStr shape).byteLen =
      shape.prod.toNat * (storedTag dtypeStr).elemSize := by
  have hnonneg : 0 ≤ shape.prod := by
    refine prod_nonneg fun dim hdim => ?_
    simpa using all_eq_true.mp hshape dim hdim
  have hpos : 0 < (storedTag dtypeStr).elemSize := by
    cases storedTag dtypeStr <;> decide
  have hprod : shape.prod.toNat < 2 ^ 64 :=
    lt_of_le_of_lt (Nat.le_mul_of_pos_right _ hpos) hsmall
  have hword : (shape.prod % 2 ^ 64).toNat = shape.prod.toNat := by
    rw [Int.emod_eq_of_lt hnonneg (by omega)]
  show (shape.prod % 2 ^ 64).toNat * (storedTag dtypeStr).elemSize % 2 ^ 64 = _
  rw [hword, Nat.mod_eq_of_lt hsmall]

/-- Sixty-four bytes as numbers of one byte are counted as 256. -/
example : (activationHeader "torch.int8" [1, 8, 8]).byteLen = 256 := by decide

/-- The elements of a dtype are counted with no more bytes than they have: it has a tag, or they have
the four bytes of the tag it is stored under. -/
def CountedWithin (itemSize : String → ℕ) (dtypeStr : String) : Prop :=
  (DtypeTag.fromTorchStr dtypeStr).isSome = true ∨ 4 ≤ itemSize dtypeStr

/-- What torch says of the outputs: the bytes of a tensor are those of its elements, of which every
dtype has its own size, and there are fewer than `2 ^ 62` of them. -/
structure Bridge.Sized (bridge : Bridge T) (itemSize : String → ℕ) : Prop where
  tagged : ∀ dtypeStr tag, DtypeTag.fromTorchStr dtypeStr = some tag →
    itemSize dtypeStr = tag.elemSize
  length : ∀ path dtypeStr shape data, bridge.lastOutput path = .ok (dtypeStr, shape, data) →
    (data.length : ℤ) = shape.prod * itemSize dtypeStr
  small : ∀ path dtypeStr shape data, bridge.lastOutput path = .ok (dtypeStr, shape, data) →
    data.length < 2 ^ 62

lemma captureActivation_eq_ok
    (hok : captureActivation bridge path room = .ok (dtypeStr, shape, data)) :
    bridge.lastOutput path = .ok (dtypeStr, shape, data) ∧ data.length = room ∧ 0 < room := by
  unfold captureActivation at hok
  split at hok
  · cases hok
  next houtput =>
    split_ifs at hok with hlong hfilled
    cases hok
    exact ⟨houtput, by omega, by omega⟩

lemma byteLen_le_iff {itemSize : String → ℕ} (hsized : bridge.Sized itemSize)
    (hok : captureActivation bridge path room = .ok (dtypeStr, shape, data))
    (hshape : shape.all (0 ≤ ·) = true) :
    (activationHeader dtypeStr shape).byteLen ≤ room ↔ CountedWithin itemSize dtypeStr := by
  obtain ⟨houtput, hlength, hroom⟩ := captureActivation_eq_ok hok
  have hsmall := hsized.small _ _ _ _ houtput
  have hnonneg : 0 ≤ shape.prod := by
    refine prod_nonneg fun dim hdim => ?_
    simpa using all_eq_true.mp hshape dim hdim
  have hbytes : shape.prod.toNat * itemSize dtypeStr = room := by
    have hbytes := hsized.length _ _ _ _ houtput
    rw [hlength, ← Int.toNat_of_nonneg hnonneg] at hbytes
    exact_mod_cast hbytes.symm
  have hpos : 0 < itemSize dtypeStr := Nat.pos_of_mul_pos_left (hbytes ▸ hroom)
  have hcount : 0 < shape.prod.toNat := Nat.pos_of_mul_pos_right (hbytes ▸ hroom)
  unfold CountedWithin
  cases htag : DtypeTag.fromTorchStr dtypeStr with
  | some tag =>
    have hstored : storedTag dtypeStr = tag := by rw [storedTag, htag, Option.getD_some]
    rw [hsized.tagged _ _ htag, ← hstored] at hbytes
    rw [byteLen_activationHeader (by omega) hshape, hbytes]
    exact iff_of_true le_rfl (.inl rfl)
  | none =>
    have hstored : (storedTag dtypeStr).elemSize = 4 := by rw [storedTag, htag]; rfl
    have hle : shape.prod.toNat ≤ room := hbytes ▸ Nat.le_mul_of_pos_right _ hpos
    rw [byteLen_activationHeader (by rw [hstored]; omega) hshape, hstored, ← hbytes,
      Nat.mul_le_mul_left_iff hcount]
    simp

lemma records_captureLayersWrites_iff {itemSize : String → ℕ} (hsized : bridge.Sized itemSize)
    (layers : List ℕ) (arena : CheckpointArena) :
    (∀ write ∈ captureLayersWrites bridge containers checkpointId layers arena,
        write.Records (arena.slotSize - slotHeaderSize)) ↔
      ∀ output ∈ capturedOutputs bridge containers (arena.slotSize - slotHeaderSize) layers
        arena.available, CountedWithin itemSize output.1 := by
  induction layers generalizing arena with
  | nil => simp [captureLayersWrites, capturedOutputs]
  | cons layer layers ih =>
    rw [captureLayersWrites, capturedOutputs]
    cases FMap.get containers layer with
    | none => exact ih arena
    | some path =>
      dsimp only
      cases bridge.activationAvailable path with
      | error message => simp
      | ok available =>
        cases available with
        | false => exact ih arena
        | true =>
          unfold captureLayerWrites captureLayer
          cases hfree : arena.freeList with
          | nil => simp [allocSlot, available, hfree]
          | cons slot rest =>
            obtain ⟨⟨offset, arena₁⟩, halloc⟩ :=
              exists_ok_of_isOk (@isOk_allocSlot arena checkpointId layer (by simp [hfree]))
            obtain ⟨_, -, hslot⟩ := allocSlot_spec halloc
            have hleft : arena.available = arena₁.available + 1 := by
              rw [available, hslot.freeList]
              rfl
            rw [halloc, hleft]
            dsimp only
            rw [hslot.slotSize]
            cases hcapture : captureActivation bridge path (arena.slotSize - slotHeaderSize) with
            | error message => simp [SlotWrite.Records, stampedHeader]
            | ok captured =>
              obtain ⟨dtypeStr, shape, data⟩ := captured
              dsimp only
              split_ifs with hshape
              · -- The header of this layer, and those of the layers behind it.
                have hrest := ih ((arena₁.writeData offset data).updateHeader offset
                  (activationHeader dtypeStr shape))
                rw [show ((arena₁.writeData offset data).updateHeader offset
                  (activationHeader dtypeStr shape)).slotSize = arena.slotSize from
                    hslot.slotSize] at hrest
                rw [forall_mem_append, hrest]
                refine (and_congr_left' ?_).trans (forall_mem_cons).symm
                rw [← byteLen_le_iff hsized hcapture hshape]
                simp [SlotWrite.Records, stampedHeader]
              · simp [SlotWrite.Records, stampedHeader]

lemma records_captureRngWrites_iff (arena : CheckpointArena) :
    (∀ write ∈ captureRngWrites bridge checkpointId arena,
        write.Records (arena.slotSize - slotHeaderSize)) ↔ RngStored bridge arena := by
  unfold captureRngWrites RngStored
  cases bridge.captureRngState with
  | error msg => simp
  | ok rngBytes =>
    cases halloc : arena.allocSlot checkpointId rngLayer with
    | error msg =>
      have hexhausted : arena.freeList = [] := by
        by_contra hfree
        have hok := @isOk_allocSlot arena checkpointId rngLayer hfree
        rw [halloc] at hok
        cases hok
      simp [hexhausted]
    | ok allocated =>
      obtain ⟨slot, -, hslot⟩ := allocSlot_spec halloc
      simp [SlotWrite.Records, stampedHeader, hslot.freeList]

/-! ## Creating a checkpoint -/

/-- Every byte a create writes is in a slot that it takes, and no header says more than its slot
has. -/
structure WritesContained (bridge : Bridge T) (st : WorkerState T) (checkpointId : String)
    (arena : CheckpointArena) : Prop where
  inside : ∀ write ∈ createWrites bridge st checkpointId arena, ∃ slot,
    slot ∈ (filledArena bridge st checkpointId arena).slotsOf checkpointId ∧
      slot ∉ arena.slotsOf checkpointId ∧ write.Inside arena.slotSize slot
  recorded : ∀ write ∈ createWrites bridge st checkpointId arena,
    write.Records (arena.slotSize - slotHeaderSize)

/-- The random-number state, if it is captured and there is a slot for it behind the layers, fits a
slot. -/
def RngStateFits (bridge : Bridge T) (st : WorkerState T) (checkpointId : String)
    (arena : CheckpointArena) : Prop :=
  ∀ total captured, capturedLayers bridge st checkpointId arena = (.ok total, captured) →
    RngStored bridge captured

lemma writesInto_capturedLayers (hheader : slotHeaderSize ≤ arena.slotSize)
    (st : WorkerState T) :
    WritesInto checkpointId arena (capturedLayers bridge st checkpointId arena).2
      (captureLayersWrites bridge (buildLayerContainerMap st.containerPaths) checkpointId
        (checkpointLayers st.numLayers) arena) :=
  writesInto_captureLayers hheader _ 0

lemma writesInto_createWrites (hheader : slotHeaderSize ≤ arena.slotSize)
    (hrng : RngStateFits bridge st checkpointId arena) :
    WritesInto checkpointId arena (filledArena bridge st checkpointId arena)
      (createWrites bridge st checkpointId arena) := by
  have hlayers := @writesInto_capturedLayers T bridge checkpointId arena hheader st
  unfold filledArena createWrites
  rcases hcap : capturedLayers bridge st checkpointId arena with ⟨msg | total, caps⟩
  · rw [hcap] at hlayers
    exact hlayers.append (.nil _ _)
  · rw [hcap] at hlayers
    obtain ⟨slots, htaken, hinside⟩ := hlayers
    refine WritesInto.append ⟨slots, htaken, hinside⟩
      (writesInto_captureRng ?_ (hrng total caps hcap))
    exact htaken.slotSize ▸ hheader

/-- The activations a create captures are counted with no more bytes than they have. -/
def OutputsCounted (itemSize : String → ℕ) (bridge : Bridge T) (st : WorkerState T)
    (arena : CheckpointArena) : Prop :=
  ∀ output ∈ capturedOutputs bridge (buildLayerContainerMap st.containerPaths)
    (arena.slotSize - slotHeaderSize) (checkpointLayers st.numLayers) arena.available,
    CountedWithin itemSize output.1

lemma records_createWrites_iff {itemSize : String → ℕ} (hsized : bridge.Sized itemSize)
    (hheader : slotHeaderSize ≤ arena.slotSize) (st : WorkerState T) :
    (∀ write ∈ createWrites bridge st checkpointId arena,
        write.Records (arena.slotSize - slotHeaderSize)) ↔
      OutputsCounted itemSize bridge st arena ∧ RngStateFits bridge st checkpointId arena := by
  obtain ⟨slots, htaken, -⟩ := @writesInto_capturedLayers T bridge checkpointId arena hheader st
  unfold RngStateFits createWrites
  rw [forall_mem_append, records_captureLayersWrites_iff hsized]
  refine and_congr_right fun _ => ?_
  rcases hcap : capturedLayers bridge st checkpointId arena with ⟨msg | total, caps⟩
  · simp
  · have hrng := @records_captureRngWrites_iff T bridge checkpointId caps
    rw [hcap] at htaken
    rw [htaken.slotSize] at hrng
    rw [hrng]
    simp

/-- **Creating a checkpoint writes only into its slots, and records no more than they have, exactly if
no activation has a dtype without a tag and elements of less than four bytes, and the random-number
state fits a slot.** -/
theorem writesContained_iff (hsound : arena.WellFormed) {itemSize : String → ℕ}
    (hsized : bridge.Sized itemSize) (st : WorkerState T) :
    WritesContained bridge st checkpointId arena ↔
      OutputsCounted itemSize bridge st arena ∧ RngStateFits bridge st checkpointId arena := by
  constructor
  · intro hcontained
    exact (records_createWrites_iff hsized hsound.header st).mp hcontained.recorded
  · intro hfits
    refine ⟨fun write hwrite => ?_, (records_createWrites_iff hsized hsound.header st).mpr hfits⟩
    obtain ⟨slots, htaken, hinside⟩ := writesInto_createWrites hsound.header hfits.2
    obtain ⟨slot, hslot, hin⟩ := hinside write hwrite
    refine ⟨slot, ?_, fun howned => ?_, hin⟩
    · rw [htaken.slotsOf]
      exact mem_append_right _ hslot
    · refine hsound.taken checkpointId slot howned ?_
      rw [htaken.freeList]
      exact mem_append_left _ hslot

/-- A Python side with an output of 64 bytes for every layer, and a random-number state. -/
def withOutputs (rngBytes : List UInt8) : Bridge Unit :=
  { Bridge.quiet fun _ => [] with
    activationAvailable := fun _ => .ok true
    captureRngState := .ok rngBytes }

lemma sized_withOutputs (rngBytes : List UInt8) :
    (withOutputs rngBytes).Sized fun dtypeStr => (storedTag dtypeStr).elemSize where
  tagged dtypeStr tag htag := by rw [storedTag, htag, Option.getD_some]
  length path dtypeStr shape data houtput := by
    cases houtput
    decide
  small path dtypeStr shape data houtput := by
    cases houtput
    decide

/-- Without a device the random-number state has four bytes. -/
theorem writesContained_without_device :
    WritesContained (withOutputs [0, 0, 0, 0]) twoLayerWorker "c1" twoSlots := by
  refine (writesContained_iff (wellFormed_new new_twoSlots) (sized_withOutputs _)
    twoLayerWorker).mpr ⟨?_, ?_⟩
  · unfold OutputsCounted CountedWithin
    decide +kernel
  · intro total captured hcaptured rngBytes hrng _
    have hsize : (capturedLayers (withOutputs [0, 0, 0, 0]) twoLayerWorker "c1"
      twoSlots).2.slotSize = 128 := by decide +kernel
    rw [hcaptured] at hsize
    obtain rfl : [0, 0, 0, 0] = rngBytes := Except.ok.inj hrng
    rw [hsize]
    decide

/-- With three devices it has 76 bytes; written to the last slot of the arena, it ends behind the
arena. -/
theorem not_writesContained_three_devices :
    ¬ WritesContained (withOutputs (List.replicate 76 0)) twoLayerWorker "c1" twoSlots ∧
      ∃ write ∈ createWrites (withOutputs (List.replicate 76 0)) twoLayerWorker "c1" twoSlots,
        twoSlots.slotSize * twoSlots.numSlots < write.start + write.bytes.length := by
  have hwritten : SlotWrite.data 128 (replicate 76 0) ∈
      createWrites (withOutputs (replicate 76 0)) twoLayerWorker "c1" twoSlots := by
    decide +kernel
  have hheader : SlotWrite.header 128 ⟨.float32, 1, 76 :: replicate 5 0, 76⟩ ∈
      createWrites (withOutputs (replicate 76 0)) twoLayerWorker "c1" twoSlots := by
    decide +kernel
  refine ⟨fun hcontained => ?_, _, hwritten, by decide⟩
  exact absurd (hcontained.recorded _ hheader) (by unfold SlotWrite.Records; decide)

end RocketSurgeon.Worker
