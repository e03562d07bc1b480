import RocketSurgeon.Lib.BoundedFifo
import RocketSurgeon.Lib.ByteMemory

/-!
# The shared-memory ring

`DoomRing` is a single-producer, single-consumer ring of fixed-size slots in a
shared region.  The first page holds a magic, the geometry and two cursors:
`maketic`, the number of frames published, and `nettics`, the number consumed.
Slot `tic` of the ring starts at `slotOffset tic` and holds a 128-byte frame
header followed by the tensor bytes.

The operations are those of `region.rs` and `ring.rs`.  `publish` and
`tryConsume` are written as the sequence of their accesses to the region, one
definition for each access, so that the interleaved machine in
`RocketSurgeon.Shm.Interleaving` runs the very same pieces.
-/

namespace RocketSurgeon.Shm

open Lib List

variable {backuptics : UInt32} {slotSize : UInt64}

/-! ## Layout -/

def controlSize : ℕ := 4096
def magic : List UInt8 := [68, 79, 79, 77, 82, 73, 78, 71]
def version : ℕ := 1
def magicOffset : ℕ := 0
def versionOffset : ℕ := 8
def slotCountOffset : ℕ := 12
def slotSizeOffset : ℕ := 16
def regionSizeOffset : ℕ := 24
def maketicOffset : ℕ := 128
def netticsOffset : ℕ := 256
def probeFrameHeaderSize : ℕ := 128
def frameOffsetSize : ℕ := 64
def frameOffsetGeneration : ℕ := 76

/-- The failures of the ring, apart from those of the operating system. -/
inductive ShmError
  | notPowerOfTwo (backuptics : ℕ)
  | invalidConfig (message : String)
  | outOfBounds (offset length regionSize : ℕ)
  | readOutOfBounds (offset length capacity : ℕ)
  | unaligned (offset alignment : ℕ)
  | badMagic (got : List UInt8)
  | badVersion (expected got : ℕ)
  | ringFull (maketic nettics capacity : ℕ)
  | tensorTooLarge (tensorSize slotCapacity : ℕ)
  | regionTooSmall (expected actual : ℕ)
  | staleSlot (expected actual : ℕ)
  deriving DecidableEq, Repr

/-- The text of an error. -/
def ShmError.display : ShmError → String
  | .notPowerOfTwo backuptics => s!"backuptics ({backuptics}) must be a power of two and > 0"
  | .invalidConfig message => s!"invalid configuration: {message}"
  | .outOfBounds offset length regionSize =>
      s!"offset {offset} + length {length} exceeds region size {regionSize}"
  | .readOutOfBounds offset length capacity =>
      s!"read out of bounds: offset {offset} + length {length} exceeds capacity {capacity}"
  | .unaligned offset alignment => s!"offset {offset} is not {alignment}-byte aligned"
  | .badMagic got =>
      let bytes := got.map UInt8.toNat
      s!"magic mismatch: expected DOOMRING, got {bytes}"
  | .badVersion expected got => s!"version mismatch: expected {expected}, got {got}"
  | .ringFull maketic nettics capacity =>
      s!"ring full: maketic={maketic}, nettics={nettics}, capacity={capacity}"
  | .tensorTooLarge tensorSize slotCapacity =>
      s!"tensor size {tensorSize} exceeds slot data capacity {slotCapacity}"
  | .regionTooSmall expected actual =>
      s!"region size mismatch: expected at least {expected}, got {actual}"
  | .staleSlot expected actual => s!"stale slot: expected generation {expected}, got {actual}"

structure RingConfig where
  backuptics : ℕ
  slotSize : ℕ
  deriving DecidableEq, Repr

namespace RingConfig

/-- `RingConfig::new`: a power-of-two slot count, room for a header in each slot
and a region whose size fits a machine word. -/
def new (backuptics : UInt32) (slotSize : UInt64) : Except ShmError RingConfig :=
  if backuptics.toNat = 0 ∨ backuptics.toNat &&& (backuptics.toNat - 1) ≠ 0 then
    .error (.notPowerOfTwo backuptics.toNat)
  else if slotSize.toNat < probeFrameHeaderSize then
    .error (.invalidConfig (s!"slot_size ({slotSize.toNat}) must be >= " ++
      s!"PROBE_FRAME_HEADER_SIZE ({probeFrameHeaderSize})"))
  else if 2 ^ 64 ≤ backuptics.toNat * slotSize.toNat + controlSize then
    .error (.invalidConfig "region_size overflows u64")
  else
    .ok ⟨backuptics.toNat, slotSize.toNat⟩

def regionSize (config : RingConfig) : ℕ := controlSize + config.backuptics * config.slotSize

def slotOffset (config : RingConfig) (maketic : ℕ) : ℕ :=
  controlSize + (maketic &&& (config.backuptics - 1)) * config.slotSize

def slotDataCapacity (config : RingConfig) : ℕ := config.slotSize - probeFrameHeaderSize

/-- What `new` guarantees about the configurations it returns. -/
structure WellFormed (config : RingConfig) : Prop where
  backuptics_pow : ∃ k, config.backuptics = 2 ^ k
  backuptics_lt : config.backuptics < 2 ^ 32
  header_le : probeFrameHeaderSize ≤ config.slotSize
  regionSize_lt : config.regionSize < 2 ^ 64

variable {config : RingConfig}

lemma new_eq_ok (hnew : new backuptics slotSize = .ok config) :
    backuptics.toNat ≠ 0 ∧ backuptics.toNat &&& (backuptics.toNat - 1) = 0 ∧
      probeFrameHeaderSize ≤ slotSize.toNat ∧
      backuptics.toNat * slotSize.toNat + controlSize < 2 ^ 64 ∧
      config = ⟨backuptics.toNat, slotSize.toNat⟩ := by
  unfold new at hnew
  split at hnew
  · cases hnew
  next hpow =>
    split at hnew
    · cases hnew
    next hheader =>
      split at hnew
      · cases hnew
      next hsize =>
        cases hnew
        push Not at hpow hheader hsize
        exact ⟨hpow.1, hpow.2, hheader, hsize, rfl⟩

lemma toNat_of_new (hnew : new backuptics slotSize = .ok config) :
    config.backuptics = backuptics.toNat ∧ config.slotSize = slotSize.toNat := by
  obtain ⟨-, -, -, -, rfl⟩ := new_eq_ok hnew
  exact ⟨rfl, rfl⟩

lemma wellFormed_of_new (hnew : new backuptics slotSize = .ok config) : config.WellFormed := by
  obtain ⟨hpos, hand, hheader, hsize, rfl⟩ := new_eq_ok hnew
  exact ⟨exists_two_pow_of_and_sub_one_eq_zero hpos hand, backuptics.toNat_lt, hheader,
    by simpa [regionSize, Nat.add_comm] using hsize⟩

namespace WellFormed

lemma controlSize_le_slotOffset (config : RingConfig) (tic : ℕ) :
    controlSize ≤ config.slotOffset tic :=
  Nat.le_add_right _ _

section

variable (hconfig : config.WellFormed)

include hconfig

lemma backuptics_pos : 0 < config.backuptics := by
  obtain ⟨k, hk⟩ := hconfig.backuptics_pow
  rw [hk]
  exact Nat.two_pow_pos k

lemma slotOffset_eq (tic : ℕ) :
    config.slotOffset tic = controlSize + tic % config.backuptics * config.slotSize := by
  obtain ⟨k, hk⟩ := hconfig.backuptics_pow
  rw [slotOffset, hk, Nat.and_two_pow_sub_one_eq_mod]

lemma slotOffset_add_le (tic : ℕ) :
    config.slotOffset tic + config.slotSize ≤ config.regionSize := by
  have hindex : tic % config.backuptics + 1 ≤ config.backuptics :=
    Nat.mod_lt _ hconfig.backuptics_pos
  have hmul := Nat.mul_le_mul_right config.slotSize hindex
  rw [Nat.succ_mul] at hmul
  rw [hconfig.slotOffset_eq, regionSize]
  omega

/-- Two tics less than one turn of the ring apart use disjoint slots. -/
lemma slotOffset_disjoint (hlt : i < j) (hwindow : j < i + config.backuptics) :
    config.slotOffset i + config.slotSize ≤ config.slotOffset j ∨
      config.slotOffset j + config.slotSize ≤ config.slotOffset i := by
  rw [hconfig.slotOffset_eq, hconfig.slotOffset_eq]
  have hcells := cell_disjoint config.slotSize (mod_ne_mod_of_lt_window hlt hwindow)
  omega

lemma header_add_capacity :
    probeFrameHeaderSize + config.slotDataCapacity = config.slotSize :=
  Nat.add_sub_cancel' hconfig.header_le

end

end WellFormed

end RingConfig

/-! ## The mapped region -/

/-- A mapped region: its bytes and its length. -/
structure ShmRegion where
  bytes : Memory
  len : ℕ

namespace ShmRegion

/-- `bounds_check`, with the overflow of `offset + length` among its failures. -/
def boundsCheck (region : ShmRegion) (offset length : ℕ) : Except ShmError Unit :=
  if 2 ^ 64 ≤ offset + length ∨ region.len < offset + length then
    .error (.outOfBounds offset length region.len)
  else
    .ok ()

def alignmentCheck (offset alignment : ℕ) : Except ShmError Unit :=
  if offset % alignment ≠ 0 then .error (.unaligned offset alignment) else .ok ()

def writeBytes (region : ShmRegion) (offset : ℕ) (data : List UInt8) :
    Except ShmError ShmRegion := do
  region.boundsCheck offset data.length
  return { region with bytes := Lib.writeBytes region.bytes offset data }

def readBytes (region : ShmRegion) (offset length : ℕ) : Except ShmError (List UInt8) := do
  region.boundsCheck offset length
  return Lib.readBytes region.bytes offset length

def atomicStoreU64 (region : ShmRegion) (offset value : ℕ) : Except ShmError ShmRegion := do
  alignmentCheck offset 8
  region.boundsCheck offset 8
  return { region with bytes := storeLE region.bytes offset 8 value }

def atomicLoadU64 (region : ShmRegion) (offset : ℕ) : Except ShmError ℕ := do
  alignmentCheck offset 8
  region.boundsCheck offset 8
  return loadLE region.bytes offset 8

def writeMagic (region : ShmRegion) : Except ShmError ShmRegion := do
  region.boundsCheck magicOffset magic.length
  return { region with bytes := Lib.writeBytes region.bytes magicOffset magic }

variable {region : ShmRegion} {offset length : ℕ}

section

variable (hword : region.len < 2 ^ 64)

include hword

lemma boundsCheck_eq_ok (hend : offset + length ≤ region.len) :
    region.boundsCheck offset length = .ok () := by
  have hin : ¬ (2 ^ 64 ≤ offset + length ∨ region.len < offset + length) := by omega
  rw [boundsCheck, if_neg hin]

lemma writeBytes_eq_ok (hend : offset + data.length ≤ region.len) :
    region.writeBytes offset data =
      .ok { region with bytes := Lib.writeBytes region.bytes offset data } := by
  rw [writeBytes, boundsCheck_eq_ok hword hend]
  rfl

lemma readBytes_eq_ok (hend : offset + length ≤ region.len) :
    region.readBytes offset length = .ok (Lib.readBytes region.bytes offset length) := by
  rw [readBytes, boundsCheck_eq_ok hword hend]
  rfl

lemma atomicStoreU64_eq_ok (haligned : offset % 8 = 0) (hend : offset + 8 ≤ region.len)
    (value : ℕ) :
    region.atomicStoreU64 offset value =
      .ok { region with bytes := storeLE region.bytes offset 8 value } := by
  rw [atomicStoreU64, boundsCheck_eq_ok hword hend, alignmentCheck, if_neg (by omega)]
  rfl

lemma atomicLoadU64_eq_ok (haligned : offset % 8 = 0) (hend : offset + 8 ≤ region.len) :
    region.atomicLoadU64 offset = .ok (loadLE region.bytes offset 8) := by
  rw [atomicLoadU64, boundsCheck_eq_ok hword hend, alignmentCheck, if_neg (by omega)]
  rfl

end

end ShmRegion

/-! ## Frames -/

/-- A frame as it is handed to `publish` and returned by `try_consume`. -/
structure ConsumedFrame where
  header : List UInt8
  data : List UInt8
  deriving DecidableEq, Repr

/-- The `size` field of a frame header. -/
def headerSize (header : List UInt8) : ℕ := leNat ((header.drop frameOffsetSize).take 8)

/-- The `generation` field of a frame header. -/
def headerGeneration (header : List UInt8) : ℕ :=
  leNat ((header.drop frameOffsetGeneration).take 4)

/-- The header fields in front of `size`. -/
def serializeProbeFrameFront (rank layer compId dtype ndim : ℕ) (shape : List ℕ)
    (tickId dataOff : ℕ) : List UInt8 :=
  leBytes 4 rank ++ leBytes 4 layer ++ leBytes 2 compId ++ leBytes 1 dtype ++ leBytes 1 ndim ++
    (List.range 8).flatMap (fun i => leBytes 4 (shape.getD i 0)) ++ List.replicate 4 0 ++
    leBytes 8 tickId ++ leBytes 8 dataOff

/-- `serialize_probe_frame`: the 128-byte header, field by field. -/
def serializeProbeFrame (rank layer compId dtype ndim : ℕ) (shape : List ℕ)
    (tickId dataOff size flags generation : ℕ) : List UInt8 :=
  serializeProbeFrameFront rank layer compId dtype ndim shape tickId dataOff ++
    (leBytes 8 size ++ (leBytes 4 flags ++ (leBytes 4 generation ++ List.replicate 48 0)))

/-- The header `try_shm_publish` builds for `bytes` when the producer stands at `maketic`. -/
def tryShmPublishHeader (layer : ℕ) (shape : List ℕ) (bytes : List UInt8) (maketic : ℕ) :
    List UInt8 :=
  serializeProbeFrame 0 layer 0 0 (min shape.length 8) shape 0 0 bytes.length 0
    (maketic &&& 0xFFFFFFFF)

/-- The frames the publisher hands over when the producer stands at `maketic`: a full
header that states the length of the data and the low 32 bits of the tic. -/
def FrameFor (maketic : ℕ) (frame : ConsumedFrame) : Prop :=
  frame.header.length = probeFrameHeaderSize ∧ headerSize frame.header = frame.data.length ∧
    headerGeneration frame.header = maketic &&& 0xFFFFFFFF

instance (maketic : ℕ) (frame : ConsumedFrame) : Decidable (FrameFor maketic frame) :=
  inferInstanceAs (Decidable (_ ∧ _ ∧ _))

section

variable (rank layer compId dtype : ℕ)

section

variable (ndim : ℕ) (shape : List ℕ) (tickId dataOff : ℕ)

lemma length_serializeProbeFrameFront :
    (serializeProbeFrameFront rank layer compId dtype ndim shape tickId dataOff).length =
      frameOffsetSize := by
  simp [serializeProbeFrameFront, length_flatMap, frameOffsetSize]

lemma headerSize_serializeProbeFrame (flags generation : ℕ) (hsize : size < 2 ^ 64) :
    headerSize (serializeProbeFrame rank layer compId dtype ndim shape tickId dataOff size flags
      generation) = size := by
  rw [headerSize, serializeProbeFrame, drop_left' (length_serializeProbeFrameFront ..),
    take_left' (length_leBytes 8 size), leNat_leBytes (by omega)]

lemma headerGeneration_serializeProbeFrame (size flags : ℕ) (hgeneration : generation < 2 ^ 32) :
    headerGeneration (serializeProbeFrame rank layer compId dtype ndim shape tickId dataOff size
      flags generation) = generation := by
  have hskip : (serializeProbeFrame rank layer compId dtype ndim shape tickId dataOff size flags
      generation).drop frameOffsetGeneration = leBytes 4 generation ++ replicate 48 0 := by
    have hoffset : frameOffsetGeneration = frameOffsetSize + (8 + 4) := rfl
    rw [serializeProbeFrame, hoffset, ← drop_drop,
      drop_left' (length_serializeProbeFrameFront ..), ← drop_drop,
      drop_left' (length_leBytes 8 size), drop_left' (length_leBytes 4 flags)]
  rw [headerGeneration, hskip, take_left' (length_leBytes 4 generation),
    leNat_leBytes (by omega)]

end

end

/-- The frames `try_shm_publish` hands to the ring carry the fields the consumer checks. -/
theorem frameFor_tryShmPublishHeader (layer : ℕ) (shape : List ℕ) (hbytes : bytes.length < 2 ^ 64)
    (maketic : ℕ) :
    FrameFor maketic ⟨tryShmPublishHeader layer shape bytes maketic, bytes⟩ := by
  refine ⟨?_, headerSize_serializeProbeFrame _ _ _ _ _ _ _ _ _ _ hbytes,
    headerGeneration_serializeProbeFrame _ _ _ _ _ _ _ _ _ _ ?_⟩
  · simp [tryShmPublishHeader, serializeProbeFrame, length_serializeProbeFrameFront,
      frameOffsetSize, probeFrameHeaderSize]
  · exact Nat.lt_succ_of_le Nat.and_le_right

theorem frameFor_tryShmPublishHeader_four_bytes :
    FrameFor 5 ⟨tryShmPublishHeader 1 [4] [1, 2, 3, 4] 5, [1, 2, 3, 4]⟩ :=
  frameFor_tryShmPublishHeader 1 [4] (by decide) 5

/-! ## The two ends of the ring -/

structure DoomRingProducer where
  config : RingConfig
  maketic : ℕ
  deriving DecidableEq, Repr

structure DoomRingConsumer where
  config : RingConfig
  nettics : ℕ
  deriving DecidableEq, Repr

namespace DoomRingProducer

/-- `DoomRingProducer::create` on the zeroed region the system hands out. -/
def create (config : RingConfig) : Except ShmError (ShmRegion × DoomRingProducer) := do
  let region : ShmRegion := ⟨fun _ => 0, config.regionSize⟩
  let region ← region.writeBytes versionOffset (leBytes 4 version)
  let region ← region.writeBytes slotCountOffset (leBytes 4 config.backuptics)
  let region ← region.writeBytes slotSizeOffset (leBytes 8 config.slotSize)
  let region ← region.writeBytes regionSizeOffset (leBytes 8 config.regionSize)
  let region ← region.atomicStoreU64 maketicOffset 0
  let region ← region.atomicStoreU64 netticsOffset 0
  -- The magic goes last: it is what a consumer waits for.
  let region ← region.writeMagic
  return (region, ⟨config, 0⟩)

/-- The size check `publish` makes before it touches the region. -/
def publishCheck (producer : DoomRingProducer) (data : List UInt8) : Except ShmError Unit :=
  if producer.config.slotDataCapacity < data.length then
    .error (.tensorTooLarge data.length producer.config.slotDataCapacity)
  else
    .ok ()

/-- First access of `publish`: load `nettics` and refuse a full ring. -/
def publishLoad (producer : DoomRingProducer) (region : ShmRegion) : Except ShmError Unit := do
  let nettics ← region.atomicLoadU64 netticsOffset
  if producer.config.backuptics ≤ (producer.maketic + 2 ^ 64 - nettics) % 2 ^ 64 then
    .error (.ringFull producer.maketic nettics producer.config.backuptics)
  else
    .ok ()

/-- Second access of `publish`. -/
def publishHeader (producer : DoomRingProducer) (region : ShmRegion) (header : List UInt8) :
    Except ShmError ShmRegion :=
  region.writeBytes (producer.config.slotOffset producer.maketic) header

/-- Third access of `publish`. -/
def publishData (producer : DoomRingProducer) (region : ShmRegion) (data : List UInt8) :
    Except ShmError ShmRegion :=
  region.writeBytes (producer.config.slotOffset producer.maketic + probeFrameHeaderSize) data

/-- Last access of `publish`: the frame becomes visible when `maketic` is stored. -/
def publishStore (producer : DoomRingProducer) (region : ShmRegion) :
    Except ShmError (ShmRegion × DoomRingProducer) := do
  let maketic := (producer.maketic + 1) % 2 ^ 64
  let region ← region.atomicStoreU64 maketicOffset maketic
  return (region, { producer with maketic })

/-- `DoomRingProducer::publish`, run without interruption. -/
def publish (producer : DoomRingProducer) (region : ShmRegion) (frame : ConsumedFrame) :
    Except ShmError (ShmRegion × DoomRingProducer) := do
  producer.publishCheck frame.data
  producer.publishLoad region
  let region ← producer.publishHeader region frame.header
  let region ← producer.publishData region frame.data
  producer.publishStore region

end DoomRingProducer

namespace DoomRingConsumer

/-- `DoomRingConsumer::open`: check the magic and the version, rebuild the geometry and
start from the stored `nettics`. -/
def openRing (region : ShmRegion) : Except ShmError DoomRingConsumer := do
  let found ← region.readBytes magicOffset magic.length
  if found ≠ magic then .error (.badMagic found)
  let versionBytes ← region.readBytes versionOffset 4
  if leNat versionBytes ≠ version then .error (.badVersion version (leNat versionBytes))
  let slotCount ← region.readBytes slotCountOffset 4
  let slotSize ← region.readBytes slotSizeOffset 8
  let config ← RingConfig.new (UInt32.ofNat (leNat slotCount)) (UInt64.ofNat (leNat slotSize))
  if region.len < config.regionSize then
    .error (.regionTooSmall config.regionSize region.len)
  let nettics ← region.atomicLoadU64 netticsOffset
  return ⟨config, nettics⟩

/-- First access of `try_consume`: is there a frame at `nettics`? -/
def consumeLoad (consumer : DoomRingConsumer) (region : ShmRegion) : Except ShmError Bool := do
  let maketic ← region.atomicLoadU64 maketicOffset
  return maketic ≠ consumer.nettics

/-- Second access of `try_consume`: read the header and check its size and generation. -/
def consumeHeader (consumer : DoomRingConsumer) (region : ShmRegion) :
    Except ShmError (List UInt8) := do
  let header ← region.readBytes (consumer.config.slotOffset consumer.nettics) probeFrameHeaderSize
  if consumer.config.slotDataCapacity < headerSize header then
    .error (.readOutOfBounds probeFrameHeaderSize (headerSize header)
      consumer.config.slotDataCapacity)
  if headerGeneration header ≠ consumer.nettics &&& 0xFFFFFFFF then
    .error (.staleSlot (consumer.nettics &&& 0xFFFFFFFF) (headerGeneration header))
  return header

/-- Last access of `try_consume`: read as many bytes as the header states. -/
def consumeData (consumer : DoomRingConsumer) (region : ShmRegion) (header : List UInt8) :
    Except ShmError ConsumedFrame := do
  let data ← region.readBytes
    (consumer.config.slotOffset consumer.nettics + probeFrameHeaderSize) (headerSize header)
  return ⟨header, data⟩

/-- `DoomRingConsumer::try_consume`, run without interruption. -/
def tryConsume (consumer : DoomRingConsumer) (region : ShmRegion) :
    Except ShmError (Option ConsumedFrame) := do
  if ← consumer.consumeLoad region then
    let header ← consumer.consumeHeader region
    let frame ← consumer.consumeData region header
    return some frame
  else
    return none

/-- `advance`: move on by one frame and store `nettics`. -/
def advance (consumer : DoomRingConsumer) (region : ShmRegion) :
    Except ShmError (ShmRegion × DoomRingConsumer) := do
  let nettics := (consumer.nettics + 1) % 2 ^ 64
  let region ← region.atomicStoreU64 netticsOffset nettics
  return (region, { consumer with nettics })

/-- `advance_by`: move on by several frames.  The consumer has moved on even if its new position
cannot be stored. -/
def advanceBy (consumer : DoomRingConsumer) (region : ShmRegion) (count : ℕ) :
    Except ShmError ShmRegion × DoomRingConsumer :=
  let consumer := { consumer with nettics := (consumer.nettics + count) % 2 ^ 64 }
  (region.atomicStoreU64 netticsOffset consumer.nettics, consumer)

/-- `read_absolute`. -/
def readAbsolute (_consumer : DoomRingConsumer) (region : ShmRegion) (offset len : ℕ) :
    Except ShmError (List UInt8) :=
  region.readBytes offset len

end DoomRingConsumer

end RocketSurgeon.Shm
