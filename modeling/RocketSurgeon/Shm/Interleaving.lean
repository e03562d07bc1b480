import RocketSurgeon.Lib.Result
import RocketSurgeon.Shm.Ring

/-!
# The ring under interleaving

Producer and consumer as two processes over one region.  A schedule says which
of them moves next; a move is one access of `publish`, `try_consume` or
`advance`, and the program counter of a process says which access that is.
Memory is sequentially consistent: a move sees every earlier one.

The abstract view is a `Lib.Fifo` of capacity `backuptics`.  Every move is a
step of that queue: storing `maketic` enqueues, storing `nettics` dequeues, all
others leave it alone.  `RingInv` is the coupling between the queue and the
bytes of the region.
-/

namespace RocketSurgeon.Shm

open Lib List

variable {frame : ConsumedFrame} {backuptics : UInt32} {slotSize : UInt64}

/-- Where the producer stands in a call of `publish`. -/
inductive ProducerPc
  | idle
  | loadNettics (frame : ConsumedFrame)
  | writeHeader (frame : ConsumedFrame)
  | writeData (frame : ConsumedFrame)
  | storeMaketic (frame : ConsumedFrame)

/-- Where the consumer stands in a call of `try_consume` and the `advance` after it. -/
inductive ConsumerPc
  | idle
  | readHeader
  | readData (header : List UInt8)
  | advance

/-- The region, both processes, and the log of what their calls returned. -/
structure RingState where
  region : ShmRegion
  producer : DoomRingProducer
  producerPc : ProducerPc
  consumer : DoomRingConsumer
  consumerPc : ConsumerPc
  /-- Frames whose `publish` returned `Ok`, in order. -/
  published : List ConsumedFrame
  /-- Frames `try_consume` returned, in order. -/
  consumed : List ConsumedFrame
  /-- Errors `try_consume` returned. -/
  consumeErrors : List ShmError

/-- A scheduling decision. -/
inductive RingMove
  | publish (frame : ConsumedFrame)
  | producer
  | consumer

namespace RingState

/-- Call `publish` on a frame that fits the tic the producer stands at. -/
def callPublish (st : RingState) (frame : ConsumedFrame) : RingState :=
  match st.producerPc with
  | .idle =>
      if FrameFor st.producer.maketic frame then
        match st.producer.publishCheck frame.data with
        | .error _ => st
        | .ok () => { st with producerPc := .loadNettics frame }
      else st
  | _ => st

/-- The producer's next access; a failing one ends the call. -/
def stepProducer (st : RingState) : RingState :=
  match st.producerPc with
  | .idle => st
  | .loadNettics frame =>
      match st.producer.publishLoad st.region with
      | .error _ => { st with producerPc := .idle }
      | .ok () => { st with producerPc := .writeHeader frame }
  | .writeHeader frame =>
      match st.producer.publishHeader st.region frame.header with
      | .error _ => { st with producerPc := .idle }
      | .ok region => { st with region, producerPc := .writeData frame }
  | .writeData frame =>
      match st.producer.publishData st.region frame.data with
      | .error _ => { st with producerPc := .idle }
      | .ok region => { st with region, producerPc := .storeMaketic frame }
  | .storeMaketic frame =>
      match st.producer.publishStore st.region with
      | .error _ => { st with producerPc := .idle }
      | .ok (region, producer) =>
          { st with region, producer, producerPc := .idle, published := st.published ++ [frame] }

/-- The consumer's next access; it calls `advance` after each frame it obtains. -/
def stepConsumer (st : RingState) : RingState :=
  match st.consumerPc with
  | .idle =>
      match st.consumer.consumeLoad st.region with
      | .error error => { st with consumeErrors := st.consumeErrors ++ [error] }
      | .ok true => { st with consumerPc := .readHeader }
      | .ok false => st
  | .readHeader =>
      match st.consumer.consumeHeader st.region with
      | .error error =>
          { st with consumerPc := .idle, consumeErrors := st.consumeErrors ++ [error] }
      | .ok header => { st with consumerPc := .readData header }
  | .readData header =>
      match st.consumer.consumeData st.region header with
      | .error error =>
          { st with consumerPc := .idle, consumeErrors := st.consumeErrors ++ [error] }
      | .ok frame => { st with consumerPc := .advance, consumed := st.consumed ++ [frame] }
  | .advance =>
      match st.consumer.advance st.region with
      | .error _ => { st with consumerPc := .idle }
      | .ok (region, consumer) => { st with region, consumer, consumerPc := .idle }

def step (st : RingState) : RingMove → RingState
  | .publish frame => st.callPublish frame
  | .producer => st.stepProducer
  | .consumer => st.stepConsumer

def run (st : RingState) (moves : List RingMove) : RingState := moves.foldl step st

/-- A producer that has created the ring and a consumer that has opened it. -/
def start (config : RingConfig) : Except ShmError RingState := do
  let (region, producer) ← DoomRingProducer.create config
  let consumer ← DoomRingConsumer.openRing region
  return {
    region, producer, consumer, producerPc := .idle, consumerPc := .idle
    published := [], consumed := [], consumeErrors := [] }

/-- How many calls of `publish` a schedule makes. -/
def publishCalls (moves : List RingMove) : ℕ :=
  moves.countP fun | .publish _ => true | _ => false

/-- The queue a state stands for. -/
def fifo (st : RingState) : Fifo ConsumedFrame := ⟨st.published, st.consumer.nettics⟩

end RingState

/-! ## Uninterrupted calls

Without interruption the moves of a process are the calls `publish` and `tryConsume`.
-/

lemma run_publish {st : RingState} (hpc : st.producerPc = .idle)
    (hframe : FrameFor st.producer.maketic frame)
    (hpublished : st.producer.publish st.region frame = .ok (region, producer)) :
    st.run [.publish frame, .producer, .producer, .producer, .producer] =
      { st with region, producer, producerPc := .idle, published := st.published ++ [frame] } := by
  obtain ⟨⟨⟩, hcheck, hpublished⟩ := Lib.bind_eq_ok hpublished
  obtain ⟨⟨⟩, hload, hpublished⟩ := Lib.bind_eq_ok hpublished
  obtain ⟨region₁, hheader, hpublished⟩ := Lib.bind_eq_ok hpublished
  obtain ⟨region₂, hdata, hstore⟩ := Lib.bind_eq_ok hpublished
  have hcall : st.callPublish frame = { st with producerPc := .loadNettics frame } := by
    simp only [RingState.callPublish, hpc, if_pos hframe, hcheck]
  simp only [RingState.run, foldl_cons, foldl_nil, RingState.step, hcall]
  simp only [RingState.stepProducer, hload, hheader, hdata, hstore]

lemma run_tryConsume {st : RingState} (hpc : st.consumerPc = .idle)
    (hconsume : st.consumer.tryConsume st.region = .ok (some frame)) :
    st.run [.consumer, .consumer, .consumer] =
      { st with consumerPc := .advance, consumed := st.consumed ++ [frame] } := by
  obtain ⟨pending, hload, hconsume⟩ := Lib.bind_eq_ok hconsume
  cases pending with
  | false => cases hconsume
  | true =>
    obtain ⟨hdr, hheader, hconsume⟩ := Lib.bind_eq_ok hconsume
    obtain ⟨found, hdata, hfound⟩ := Lib.bind_eq_ok hconsume
    obtain rfl : found = frame := by cases hfound; rfl
    have hstart : st.stepConsumer = { st with consumerPc := .readHeader } := by
      simp only [RingState.stepConsumer, hpc, hload]
    simp only [RingState.run, foldl_cons, foldl_nil, RingState.step, hstart]
    simp only [RingState.stepConsumer, hheader, hdata]

/-! ## The coupling invariant -/

/-- The slot of `tic` holds `frame`. -/
def SlotHolds (config : RingConfig) (mem : Memory) (tic : ℕ) (frame : ConsumedFrame) : Prop :=
  readBytes mem (config.slotOffset tic) probeFrameHeaderSize = frame.header ∧
    readBytes mem (config.slotOffset tic + probeFrameHeaderSize) frame.data.length = frame.data

/-- A frame the ring can hold at `tic`. -/
def FrameFits (config : RingConfig) (tic : ℕ) (frame : ConsumedFrame) : Prop :=
  FrameFor tic frame ∧ frame.data.length ≤ config.slotDataCapacity

/-- What the producer knows at each point of `publish`. -/
def ProducerOk (config : RingConfig) (st : RingState) : Prop :=
  let room := st.producer.maketic < st.consumer.nettics + config.backuptics
  let header := readBytes st.region.bytes (config.slotOffset st.producer.maketic)
    probeFrameHeaderSize
  match st.producerPc with
  | .idle => True
  | .loadNettics frame => FrameFits config st.producer.maketic frame
  | .writeHeader frame => FrameFits config st.producer.maketic frame ∧ room
  | .writeData frame =>
      FrameFits config st.producer.maketic frame ∧ room ∧ header = frame.header
  | .storeMaketic frame =>
      FrameFits config st.producer.maketic frame ∧ room ∧
        SlotHolds config st.region.bytes st.producer.maketic frame

/-- What the consumer knows at each point of `try_consume`, and how much it has logged. -/
def ConsumerOk (st : RingState) : Prop :=
  match st.consumerPc with
  | .idle => st.consumed = st.published.take st.consumer.nettics
  | .readHeader =>
      st.consumed = st.published.take st.consumer.nettics ∧
        st.consumer.nettics < st.producer.maketic
  | .readData header =>
      st.consumed = st.published.take st.consumer.nettics ∧
        st.consumer.nettics < st.producer.maketic ∧
        ∀ frame, st.published[st.consumer.nettics]? = some frame → header = frame.header
  | .advance =>
      st.consumed = st.published.take (st.consumer.nettics + 1) ∧
        st.consumer.nettics < st.producer.maketic

/-- The coupling between the two processes, the region and the queue. -/
structure RingInv (config : RingConfig) (calls : ℕ) (st : RingState) : Prop where
  producer_config : st.producer.config = config
  consumer_config : st.consumer.config = config
  region_len : st.region.len = config.regionSize
  maketic_cell : loadLE st.region.bytes maketicOffset 8 = st.producer.maketic
  nettics_cell : loadLE st.region.bytes netticsOffset 8 = st.consumer.nettics
  published_length : st.published.length = st.producer.maketic
  nettics_le : st.consumer.nettics ≤ st.producer.maketic
  maketic_le : st.producer.maketic ≤ st.consumer.nettics + config.backuptics
  calls_le : st.producer.maketic + (match st.producerPc with | .idle => 0 | _ => 1) ≤ calls
  slots : ∀ tic frame, st.consumer.nettics ≤ tic → st.published[tic]? = some frame →
    FrameFits config tic frame ∧ SlotHolds config st.region.bytes tic frame
  producer_ok : ProducerOk config st
  consumer_ok : ConsumerOk st
  no_errors : st.consumeErrors = []

/-! ## Frame facts

Slots lie behind the control page, and slots of tics less than a turn apart are
disjoint, so every write of either process leaves alone what the other relies on.
-/

section Frames

variable {config : RingConfig} {mem : Memory} {tic tic' off : ℕ} {frame : ConsumedFrame}
  {data : List UInt8}

lemma SlotHolds.storeLE_cursor (hholds : SlotHolds config mem tic frame)
    (hoffset : off + 8 ≤ controlSize) (value : ℕ) :
    SlotHolds config (storeLE mem off 8 value) tic frame := by
  have hslot := RingConfig.WellFormed.controlSize_le_slotOffset config tic
  constructor
  · rw [readBytes_storeLE_of_disjoint mem (.inr (by omega)), hholds.1]
  · rw [readBytes_storeLE_of_disjoint mem (.inr (by omega)), hholds.2]

/-- A write into the slot of a later tic of the same turn leaves a slot alone. -/
lemma SlotHolds.writeBytes_later (hconfig : config.WellFormed)
    (hholds : SlotHolds config mem tic frame)
    (hfits : frame.data.length ≤ config.slotDataCapacity) (hlt : tic < tic')
    (hwindow : tic' < tic + config.backuptics) (hlow : config.slotOffset tic' ≤ off)
    (hhigh : off + data.length ≤ config.slotOffset tic' + config.slotSize) :
    SlotHolds config (writeBytes mem off data) tic frame := by
  have hdisjoint := hconfig.slotOffset_disjoint hlt hwindow
  have hcapacity := hconfig.header_add_capacity
  constructor
  · rw [readBytes_writeBytes_of_disjoint mem (by omega), hholds.1]
  · rw [readBytes_writeBytes_of_disjoint mem (by omega), hholds.2]

lemma loadLE_cursor_writeBytes (hcursor : tic' + 8 ≤ controlSize)
    (hlow : config.slotOffset tic ≤ off) :
    loadLE (writeBytes mem off data) tic' 8 = loadLE mem tic' 8 := by
  have hslot := RingConfig.WellFormed.controlSize_le_slotOffset config tic
  exact loadLE_writeBytes_of_disjoint mem (.inl (by omega))

end Frames

namespace RingInv

variable {config : RingConfig} {calls : ℕ} {st : RingState}

lemma cursor_inside (config : RingConfig) (hoffset : off + 8 ≤ controlSize) :
    off + 8 ≤ config.regionSize :=
  hoffset.trans (Nat.le_add_right _ _)

/-- Only the store of `maketic` changes the queue. -/
lemma fifo_stepProducer (hstore : ∀ frame, st.producerPc ≠ .storeMaketic frame) :
    st.stepProducer.fifo = st.fifo := by
  unfold RingState.stepProducer
  split
  · rfl
  · split <;> rfl
  · split <;> rfl
  · split <;> rfl
  next frame hpc => exact absurd hpc (hstore frame)

/-- Accesses the consumer still has to make before it has caught up. -/
def drainMeasure (st : RingState) : ℕ :=
  4 * (st.producer.maketic - st.consumer.nettics) -
    match st.consumerPc with
    | .idle => 0
    | .readHeader => 1
    | .readData _ => 2
    | .advance => 3

variable (hconfig : config.WellFormed) (hinv : RingInv config calls st)

include hinv

lemma maketic_lt (hcalls : calls < 2 ^ 64) :
    st.producer.maketic < 2 ^ 64 := by
  have := hinv.calls_le
  omega

lemma callPublish (frame : ConsumedFrame) :
    RingInv config (calls + 1) (st.callPublish frame) := by
  have hmore : RingInv config (calls + 1) st :=
    { hinv with calls_le := hinv.calls_le.trans (Nat.le_succ calls) }
  unfold RingState.callPublish
  split
  next hpc =>
    split
    next hframe =>
      have hle := hinv.calls_le
      simp only [hpc, Nat.add_zero] at hle
      unfold DoomRingProducer.publishCheck
      split
      · exact hmore
      next hcheck =>
        split at hcheck
        · cases hcheck
        next hsize =>
          rw [hinv.producer_config] at hsize
          exact { hmore with
            calls_le := Nat.succ_le_succ hle
            producer_ok := ⟨hframe, Nat.le_of_not_lt hsize⟩ }
    · exact hmore
  · exact hmore

lemma endPublish :
    RingInv config calls { st with producerPc := .idle } :=
  { hinv with
    calls_le := (Nat.le_add_right _ _).trans hinv.calls_le
    producer_ok := trivial }

/-- The slots after a frame has become visible: the old ones and the new one. -/
lemma slots_publish (hfits : FrameFits config st.producer.maketic frame)
    (hholds : SlotHolds config st.region.bytes st.producer.maketic frame) (value : ℕ)
    (hnettics : st.consumer.nettics ≤ tic) (hfound : (st.published ++ [frame])[tic]? = some found) :
    FrameFits config tic found ∧
      SlotHolds config (storeLE st.region.bytes maketicOffset 8 value) tic found := by
  suffices FrameFits config tic found ∧ SlotHolds config st.region.bytes tic found from
    ⟨this.1, this.2.storeLE_cursor (by decide) value⟩
  rcases Nat.lt_or_ge tic st.published.length with hold | hnew
  · rw [getElem?_append_left hold] at hfound
    exact hinv.slots tic found hnettics hfound
  · rw [getElem?_append_right hnew, getElem?_singleton] at hfound
    split at hfound
    next htic =>
      obtain rfl : frame = found := Option.some.inj hfound
      obtain rfl : tic = st.producer.maketic := by
        rw [← hinv.published_length]
        omega
      exact ⟨hfits, hholds⟩
    · cases hfound

/-- Publishing a frame does not disturb a consumer in the middle of a call. -/
lemma consumerOk_publish (frame : ConsumedFrame) (region : ShmRegion) (producerPc : ProducerPc) :
    ConsumerOk { st with
      region, producerPc
      producer := { st.producer with maketic := st.producer.maketic + 1 }
      published := st.published ++ [frame] } := by
  have hlen := hinv.published_length
  have hle := hinv.nettics_le
  have hok := hinv.consumer_ok
  have htake : ∀ count, count ≤ st.producer.maketic →
      (st.published ++ [frame]).take count = st.published.take count := fun count hcount =>
    take_append_of_le_length (hlen ▸ hcount)
  unfold ConsumerOk at hok ⊢
  split at hok
  next hpc => simpa only [hpc, htake _ hle] using hok
  next hpc =>
    simp only [hpc, htake _ hle]
    exact ⟨hok.1, hok.2.trans (Nat.lt_succ_self _)⟩
  next hpc =>
    simp only [hpc, htake _ hle]
    refine ⟨hok.1, hok.2.1.trans (Nat.lt_succ_self _), fun found hfound => ?_⟩
    rw [getElem?_append_left (hlen ▸ hok.2.1)] at hfound
    exact hok.2.2 found hfound
  next hpc =>
    simp only [hpc, htake _ hok.2]
    exact ⟨hok.1, hok.2.trans (Nat.lt_succ_self _)⟩

lemma exists_pending (hlt : st.consumer.nettics < st.producer.maketic) :
    ∃ frame, st.published[st.consumer.nettics]? = some frame ∧
      FrameFits config st.consumer.nettics frame ∧
      SlotHolds config st.region.bytes st.consumer.nettics frame := by
  have hindex : st.consumer.nettics < st.published.length := hinv.published_length ▸ hlt
  have hframe := getElem?_eq_getElem hindex
  exact ⟨_, hframe, hinv.slots _ _ le_rfl hframe⟩

/-- Freeing a slot gives a producer in the middle of a call more room, never less. -/
lemma producerOk_advance (value : ℕ) (consumerPc : ConsumerPc) :
    ProducerOk config { st with
      consumerPc
      region := { st.region with bytes := storeLE st.region.bytes netticsOffset 8 value }
      consumer := { st.consumer with nettics := st.consumer.nettics + 1 } } := by
  have hok := hinv.producer_ok
  have hmore : ∀ {tic : ℕ}, tic < st.consumer.nettics + config.backuptics →
      tic < st.consumer.nettics + 1 + config.backuptics := by
    intro tic htic
    omega
  unfold ProducerOk at hok ⊢
  -- At every point of `publish` the room can only have grown, and slots lie behind the cursor.
  split at hok
  next hpc => simp only [hpc]
  next hpc => simpa only [hpc] using hok
  next hpc =>
    simp only [hpc]
    exact ⟨hok.1, hmore hok.2⟩
  next hpc =>
    simp only [hpc]
    refine ⟨hok.1, hmore hok.2.1, ?_⟩
    rw [← hok.2.2]
    have hslot := RingConfig.WellFormed.controlSize_le_slotOffset config st.producer.maketic
    exact readBytes_storeLE_of_disjoint _
      (.inr ((by decide : netticsOffset + 8 ≤ controlSize).trans hslot))
  next hpc =>
    simp only [hpc]
    exact ⟨hok.1, hmore hok.2.1, hok.2.2.storeLE_cursor (by decide) value⟩

lemma consumed_isPrefix : st.consumed <+: st.published := by
  have hok := hinv.consumer_ok
  unfold ConsumerOk at hok
  split at hok
  · exact hok ▸ take_prefix _ _
  · exact hok.1 ▸ take_prefix _ _
  · exact hok.1 ▸ take_prefix _ _
  · exact hok.1 ▸ take_prefix _ _

lemma consumed_of_drainMeasure_eq_zero
    (hdone : drainMeasure st = 0) : st.consumed = st.published := by
  have hok := hinv.consumer_ok
  have hlen := hinv.published_length
  cases hpc : st.consumerPc with
  | idle =>
    simp only [ConsumerOk, drainMeasure, hpc] at hok hdone
    rw [hok, take_of_length_le (by omega)]
  | readHeader | readData hdr | advance =>
    simp only [ConsumerOk, drainMeasure, hpc] at hok hdone
    omega

include hconfig

lemma region_len_lt :
    st.region.len < 2 ^ 64 := by
  rw [hinv.region_len]
  exact hconfig.regionSize_lt

lemma atomicLoad_maketic :
    st.region.atomicLoadU64 maketicOffset = .ok st.producer.maketic := by
  rw [ShmRegion.atomicLoadU64_eq_ok (hinv.region_len_lt hconfig) rfl, hinv.maketic_cell]
  rw [hinv.region_len]
  exact cursor_inside config (by decide)

lemma atomicLoad_nettics :
    st.region.atomicLoadU64 netticsOffset = .ok st.consumer.nettics := by
  rw [ShmRegion.atomicLoadU64_eq_ok (hinv.region_len_lt hconfig) rfl, hinv.nettics_cell]
  rw [hinv.region_len]
  exact cursor_inside config (by decide)

lemma atomicStore_cursor
    (off : ℕ) (haligned : off % 8 = 0) (hoffset : off + 8 ≤ controlSize) (value : ℕ) :
    st.region.atomicStoreU64 off value =
      .ok { st.region with bytes := storeLE st.region.bytes off 8 value } := by
  refine ShmRegion.atomicStoreU64_eq_ok (hinv.region_len_lt hconfig) haligned ?_ value
  rw [hinv.region_len]
  exact cursor_inside config hoffset

/-! ## Moves of the producer -/

lemma publishLoad_eq (hcalls : calls < 2 ^ 64) :
    st.producer.publishLoad st.region =
      if config.backuptics ≤ st.producer.maketic - st.consumer.nettics then
        .error (.ringFull st.producer.maketic st.consumer.nettics config.backuptics)
      else .ok () := by
  have hlt := hinv.maketic_lt hcalls
  have hle := hinv.nettics_le
  have hsub : (st.producer.maketic + 2 ^ 64 - st.consumer.nettics) % 2 ^ 64 =
      st.producer.maketic - st.consumer.nettics := by omega
  rw [DoomRingProducer.publishLoad, hinv.atomicLoad_nettics hconfig, hinv.producer_config]
  simp only [bind, Except.bind, hsub]

lemma stepProducer_loadNettics
    (hcalls : calls < 2 ^ 64) (hpc : st.producerPc = .loadNettics frame) :
    RingInv config calls st.stepProducer := by
  have hfits := hinv.producer_ok
  have hle := hinv.calls_le
  simp only [ProducerOk, hpc] at hfits hle
  simp only [RingState.stepProducer, hpc, hinv.publishLoad_eq hconfig hcalls]
  split
  · exact hinv.endPublish
  next hload =>
    split at hload
    · cases hload
    next hroom =>
      exact { hinv with calls_le := hle, producer_ok := ⟨hfits, by simp only; omega⟩ }

lemma writeSlot (hroom : st.producer.maketic < st.consumer.nettics + config.backuptics)
    {off : ℕ} {data : List UInt8} (hlow : config.slotOffset st.producer.maketic ≤ off)
    (hhigh : off + data.length ≤
      config.slotOffset st.producer.maketic + config.slotSize)
    {producerPc : ProducerPc} (hbusy : ∃ frame, producerPc = .writeData frame ∨
      producerPc = .storeMaketic frame) (hcalls : st.producer.maketic + 1 ≤ calls)
    (hok : ProducerOk config { st with
      region := { st.region with bytes := writeBytes st.region.bytes off data }, producerPc }) :
    RingInv config calls { st with
      region := { st.region with bytes := writeBytes st.region.bytes off data }, producerPc } := by
  refine { hinv with
    maketic_cell := ?_, nettics_cell := ?_, calls_le := ?_, slots := ?_, producer_ok := hok }
  · rw [← hinv.maketic_cell]
    exact loadLE_cursor_writeBytes (by decide) hlow
  · rw [← hinv.nettics_cell]
    exact loadLE_cursor_writeBytes (by decide) hlow
  · obtain ⟨frame, rfl | rfl⟩ := hbusy <;> exact hcalls
  · intro tic frame hnettics hframe
    obtain ⟨hfits, hholds⟩ := hinv.slots tic frame hnettics hframe
    have htic : tic < st.producer.maketic := by
      rw [← hinv.published_length]
      exact (List.getElem?_eq_some_iff.mp hframe).1
    exact ⟨hfits, hholds.writeBytes_later hconfig hfits.2 htic
      (hroom.trans_le (Nat.add_le_add_right hnettics _)) hlow hhigh⟩

lemma slot_inside
    (hstop : stop ≤ config.slotOffset tic + config.slotSize) : stop ≤ st.region.len := by
  rw [hinv.region_len]
  exact hstop.trans (hconfig.slotOffset_add_le tic)

lemma stepProducer_writeHeader (hpc : st.producerPc = .writeHeader frame) :
    RingInv config calls st.stepProducer := by
  have hok := hinv.producer_ok
  have hle := hinv.calls_le
  simp only [ProducerOk, hpc] at hok hle
  obtain ⟨hfits, hroom⟩ := hok
  have hhigh : config.slotOffset st.producer.maketic + frame.header.length ≤
      config.slotOffset st.producer.maketic + config.slotSize := by
    rw [hfits.1.1]
    exact Nat.add_le_add_left hconfig.header_le _
  have hwrite := ShmRegion.writeBytes_eq_ok (hinv.region_len_lt hconfig)
    (hinv.slot_inside hconfig hhigh)
  simp only [RingState.stepProducer, hpc, DoomRingProducer.publishHeader, hinv.producer_config,
    hwrite]
  refine hinv.writeSlot hconfig hroom le_rfl hhigh ⟨frame, .inl rfl⟩ hle ⟨hfits, hroom, ?_⟩
  rw [← hfits.1.1]
  exact readBytes_writeBytes _ _ _

lemma stepProducer_writeData (hpc : st.producerPc = .writeData frame) :
    RingInv config calls st.stepProducer := by
  have hok := hinv.producer_ok
  have hle := hinv.calls_le
  simp only [ProducerOk, hpc] at hok hle
  obtain ⟨hfits, hroom, hheader⟩ := hok
  have hhigh : config.slotOffset st.producer.maketic + probeFrameHeaderSize + frame.data.length ≤
      config.slotOffset st.producer.maketic + config.slotSize := by
    have hcapacity := hconfig.header_add_capacity
    have hsize := hfits.2
    omega
  have hwrite := ShmRegion.writeBytes_eq_ok (hinv.region_len_lt hconfig)
    (hinv.slot_inside hconfig hhigh)
  simp only [RingState.stepProducer, hpc, DoomRingProducer.publishData, hinv.producer_config,
    hwrite]
  refine hinv.writeSlot hconfig hroom (Nat.le_add_right _ _) hhigh ⟨frame, .inr rfl⟩ hle
    ⟨hfits, hroom, ?_, readBytes_writeBytes _ _ _⟩
  rw [← hheader]
  exact readBytes_writeBytes_of_disjoint _ (.inl le_rfl)

lemma publishStore_eq (hlt : st.producer.maketic + 1 < 2 ^ 64) :
    st.producer.publishStore st.region =
      .ok ({ st.region with
          bytes := storeLE st.region.bytes maketicOffset 8 (st.producer.maketic + 1) },
        { st.producer with maketic := st.producer.maketic + 1 }) := by
  simp only [DoomRingProducer.publishStore, Nat.mod_eq_of_lt hlt]
  rw [hinv.atomicStore_cursor hconfig maketicOffset rfl (by decide)]
  rfl

lemma stepProducer_storeMaketic
    (hcalls : calls < 2 ^ 64) (hpc : st.producerPc = .storeMaketic frame) :
    RingInv config calls st.stepProducer ∧
      Fifo.Step config.backuptics st.fifo st.stepProducer.fifo := by
  have hok := hinv.producer_ok
  have hle := hinv.calls_le
  simp only [ProducerOk, hpc] at hok hle
  obtain ⟨hfits, hroom, hholds⟩ := hok
  have hlt : st.producer.maketic + 1 < 2 ^ 64 := by omega
  simp only [RingState.stepProducer, hpc, hinv.publishStore_eq hconfig hlt]
  refine ⟨{ hinv with
    maketic_cell := loadLE_storeLE _ _ hlt
    nettics_cell := ?_
    published_length := by simp [hinv.published_length]
    nettics_le := hinv.nettics_le.trans (Nat.le_succ _)
    maketic_le := hroom
    calls_le := hle
    slots := fun tic found hnettics hfound =>
      hinv.slots_publish hfits hholds _ hnettics hfound
    producer_ok := trivial
    consumer_ok := hinv.consumerOk_publish frame _ _ }, .enqueue _ frame ?_⟩
  · rw [← hinv.nettics_cell]
    exact loadLE_storeLE_of_disjoint _ (.inr (by decide))
  · simpa [RingState.fifo, hinv.published_length] using hroom

/-- Every access of the producer keeps the coupling and is a step of the queue. -/
lemma stepProducer (hcalls : calls < 2 ^ 64) :
    RingInv config calls st.stepProducer ∧
      Fifo.Step config.backuptics st.fifo st.stepProducer.fifo := by
  have hstutter : (∀ frame, st.producerPc ≠ .storeMaketic frame) →
      Fifo.Step config.backuptics st.fifo st.stepProducer.fifo := by
    intro hstore
    rw [fifo_stepProducer hstore]
    exact .stutter _
  cases hpc : st.producerPc with
  | idle =>
    have hstay : st.stepProducer = st := by simp only [RingState.stepProducer, hpc]
    rw [hstay]
    exact ⟨hinv, .stutter _⟩
  | loadNettics frame =>
    exact ⟨hinv.stepProducer_loadNettics hconfig hcalls hpc, hstutter (by simp [hpc])⟩
  | writeHeader frame =>
    exact ⟨hinv.stepProducer_writeHeader hconfig hpc, hstutter (by simp [hpc])⟩
  | writeData frame =>
    exact ⟨hinv.stepProducer_writeData hconfig hpc, hstutter (by simp [hpc])⟩
  | storeMaketic frame => exact hinv.stepProducer_storeMaketic hconfig hcalls hpc

/-! ## Moves of the consumer -/

lemma consumeLoad_eq :
    st.consumer.consumeLoad st.region =
      .ok (decide (st.producer.maketic ≠ st.consumer.nettics)) := by
  rw [DoomRingConsumer.consumeLoad, hinv.atomicLoad_maketic hconfig]
  rfl

lemma consumeHeader_eq (hfits : FrameFits config st.consumer.nettics frame)
    (hholds : SlotHolds config st.region.bytes st.consumer.nettics frame) :
    st.consumer.consumeHeader st.region = .ok frame.header := by
  obtain ⟨⟨-, hsize, hgeneration⟩, hcapacity⟩ := hfits
  have hread := ShmRegion.readBytes_eq_ok (hinv.region_len_lt hconfig)
    (hinv.slot_inside hconfig (Nat.add_le_add_left hconfig.header_le
      (config.slotOffset st.consumer.nettics)))
  rw [hholds.1] at hread
  have hroom : ¬ config.slotDataCapacity < headerSize frame.header := by omega
  simp [DoomRingConsumer.consumeHeader, hinv.consumer_config, hread, hroom, hgeneration,
    bind, Except.bind, pure, Except.pure]

lemma consumeData_eq (hfits : FrameFits config st.consumer.nettics frame)
    (hholds : SlotHolds config st.region.bytes st.consumer.nettics frame) :
    st.consumer.consumeData st.region frame.header = .ok frame := by
  have hsize := hfits.1.2.1
  have hstop : config.slotOffset st.consumer.nettics + probeFrameHeaderSize + frame.data.length ≤
      config.slotOffset st.consumer.nettics + config.slotSize := by
    have hcapacity := hconfig.header_add_capacity
    have hdata := hfits.2
    omega
  have hread := ShmRegion.readBytes_eq_ok (hinv.region_len_lt hconfig)
    (hinv.slot_inside hconfig hstop)
  rw [hholds.2] at hread
  rw [DoomRingConsumer.consumeData, hsize, hinv.consumer_config, hread]
  rfl

lemma advance_eq (hlt : st.consumer.nettics + 1 < 2 ^ 64) :
    st.consumer.advance st.region =
      .ok ({ st.region with
          bytes := storeLE st.region.bytes netticsOffset 8 (st.consumer.nettics + 1) },
        { st.consumer with nettics := st.consumer.nettics + 1 }) := by
  simp only [DoomRingConsumer.advance, Nat.mod_eq_of_lt hlt]
  rw [hinv.atomicStore_cursor hconfig netticsOffset rfl (by decide)]
  rfl

/-- The consumer's load: it goes on exactly when a frame is pending. -/
lemma stepConsumer_idle (hpc : st.consumerPc = .idle) :
    st.stepConsumer =
      if st.consumer.nettics < st.producer.maketic then { st with consumerPc := .readHeader }
      else st := by
  have hle := hinv.nettics_le
  simp only [RingState.stepConsumer, hpc, hinv.consumeLoad_eq hconfig]
  split_ifs with hlt
  · have hne : decide (st.producer.maketic ≠ st.consumer.nettics) = true := by
      simpa using (by omega : st.producer.maketic ≠ st.consumer.nettics)
    rw [hne]
  · have heq : decide (st.producer.maketic ≠ st.consumer.nettics) = false := by
      simpa using (by omega : st.producer.maketic = st.consumer.nettics)
    rw [heq]

lemma stepConsumer_readHeader
    (hpc : st.consumerPc = .readHeader) (hframe : st.published[st.consumer.nettics]? = some frame) :
    st.stepConsumer = { st with consumerPc := .readData frame.header } := by
  obtain ⟨hfits, hholds⟩ := hinv.slots _ _ le_rfl hframe
  simp only [RingState.stepConsumer, hpc, hinv.consumeHeader_eq hconfig hfits hholds]

lemma stepConsumer_readData (hpc : st.consumerPc = .readData hdr)
    (hframe : st.published[st.consumer.nettics]? = some frame) :
    st.stepConsumer =
      { st with consumerPc := .advance, consumed := st.consumed ++ [frame] } := by
  obtain ⟨hfits, hholds⟩ := hinv.slots _ _ le_rfl hframe
  have hok := hinv.consumer_ok
  simp only [ConsumerOk, hpc] at hok
  obtain rfl := hok.2.2 frame hframe
  simp only [RingState.stepConsumer, hpc, hinv.consumeData_eq hconfig hfits hholds]

lemma stepConsumer_advance (hcalls : calls < 2 ^ 64) (hpc : st.consumerPc = .advance) :
    st.stepConsumer = { st with
      consumerPc := .idle
      region := { st.region with
        bytes := storeLE st.region.bytes netticsOffset 8 (st.consumer.nettics + 1) }
      consumer := { st.consumer with nettics := st.consumer.nettics + 1 } } := by
  have hok := hinv.consumer_ok
  have hlt := hinv.maketic_lt hcalls
  simp only [ConsumerOk, hpc] at hok
  simp only [RingState.stepConsumer, hpc,
    hinv.advance_eq hconfig (Nat.lt_of_le_of_lt hok.2 hlt)]

/-- Every access of the consumer keeps the coupling and is a step of the queue. -/
lemma stepConsumer (hcalls : calls < 2 ^ 64) :
    RingInv config calls st.stepConsumer ∧
      Fifo.Step config.backuptics st.fifo st.stepConsumer.fifo := by
  have hok := hinv.consumer_ok
  cases hpc : st.consumerPc with
  | idle =>
    simp only [ConsumerOk, hpc] at hok
    rw [hinv.stepConsumer_idle hconfig hpc]
    split_ifs with hlt
    · exact ⟨{ hinv with consumer_ok := ⟨hok, hlt⟩ }, .stutter _⟩
    · exact ⟨hinv, .stutter _⟩
  | readHeader =>
    simp only [ConsumerOk, hpc] at hok
    obtain ⟨frame, hframe, -, -⟩ := hinv.exists_pending hok.2
    rw [hinv.stepConsumer_readHeader hconfig hpc hframe]
    refine ⟨{ hinv with consumer_ok := ⟨hok.1, hok.2, fun found hfound => ?_⟩ }, .stutter _⟩
    rw [Option.some.inj (hframe.symm.trans hfound)]
  | readData hdr =>
    simp only [ConsumerOk, hpc] at hok
    obtain ⟨frame, hframe, -, -⟩ := hinv.exists_pending hok.2.1
    rw [hinv.stepConsumer_readData hconfig hpc hframe]
    refine ⟨{ hinv with consumer_ok := ⟨?_, hok.2.1⟩ }, .stutter _⟩
    simp only [take_add_one, hframe, Option.toList_some, hok.1]
  | advance =>
    -- The slot is given up: the frame leaves the queue, and the other slots stay.
    simp only [ConsumerOk, hpc] at hok
    have hindex : st.consumer.nettics < st.published.length := hinv.published_length ▸ hok.2
    have hlt := hinv.maketic_lt hcalls
    rw [hinv.stepConsumer_advance hconfig hcalls hpc]
    refine ⟨{ hinv with
      maketic_cell := ?_
      nettics_cell := loadLE_storeLE _ _ (Nat.lt_of_le_of_lt hok.2 hlt)
      nettics_le := hok.2
      maketic_le := hinv.maketic_le.trans (by simp only; omega)
      slots := fun tic frame hnettics hframe => ?_
      producer_ok := hinv.producerOk_advance _ _
      consumer_ok := hok.1 }, .dequeue _ hindex⟩
    · rw [← hinv.maketic_cell]
      exact loadLE_storeLE_of_disjoint _ (.inl (by decide))
    · obtain ⟨hfits, hholds⟩ := hinv.slots tic frame ((Nat.le_succ _).trans hnettics) hframe
      exact ⟨hfits, hholds.storeLE_cursor (by decide) _⟩

/-! ## Runs -/

lemma step (move : RingMove) (hcalls : calls + RingState.publishCalls [move] < 2 ^ 64) :
    RingInv config (calls + RingState.publishCalls [move]) (st.step move) ∧
      Fifo.Step config.backuptics st.fifo (st.step move).fifo := by
  cases move with
  | publish frame =>
    refine ⟨hinv.callPublish frame, ?_⟩
    have hstay : (st.callPublish frame).fifo = st.fifo := by
      unfold RingState.callPublish
      split
      · split
        · split <;> rfl
        · rfl
      · rfl
    exact hstay ▸ .stutter _
  | producer => exact hinv.stepProducer hconfig hcalls
  | consumer => exact hinv.stepConsumer hconfig hcalls

lemma run (hreach : Fifo.Reachable config.backuptics st.fifo) (moves : List RingMove)
    (hcalls : calls + RingState.publishCalls moves < 2 ^ 64) :
    RingInv config (calls + RingState.publishCalls moves) (st.run moves) ∧
      Fifo.Reachable config.backuptics (st.run moves).fifo := by
  induction moves generalizing st calls with
  | nil => exact ⟨hinv, hreach⟩
  | cons move rest ih =>
    have hsplit : RingState.publishCalls (move :: rest) =
        RingState.publishCalls [move] + RingState.publishCalls rest := by
      rw [RingState.publishCalls, ← singleton_append, countP_append]
      rfl
    rw [hsplit, ← Nat.add_assoc] at hcalls ⊢
    obtain ⟨hnext, hstep⟩ := hinv.step hconfig move (by omega)
    exact ih hnext (hreach.step hstep) hcalls

/-- A consumer that has not caught up makes progress with every access. -/
lemma drainMeasure_stepConsumer (hcalls : calls < 2 ^ 64) (hbusy : drainMeasure st ≠ 0) :
    drainMeasure st.stepConsumer < drainMeasure st ∧ st.stepConsumer.published = st.published := by
  have hok := hinv.consumer_ok
  cases hpc : st.consumerPc with
  | idle =>
    have hlt : st.consumer.nettics < st.producer.maketic := by
      simp only [drainMeasure, hpc] at hbusy
      omega
    rw [hinv.stepConsumer_idle hconfig hpc, if_pos hlt]
    refine ⟨?_, rfl⟩
    simp only [drainMeasure, hpc]
    omega
  | readHeader =>
    simp only [ConsumerOk, hpc] at hok
    obtain ⟨frame, hframe, -, -⟩ := hinv.exists_pending hok.2
    rw [hinv.stepConsumer_readHeader hconfig hpc hframe]
    refine ⟨?_, rfl⟩
    simp only [drainMeasure, hpc]
    omega
  | readData hdr =>
    simp only [ConsumerOk, hpc] at hok
    obtain ⟨frame, hframe, -, -⟩ := hinv.exists_pending hok.2.1
    rw [hinv.stepConsumer_readData hconfig hpc hframe]
    refine ⟨?_, rfl⟩
    simp only [drainMeasure, hpc]
    omega
  | advance =>
    simp only [ConsumerOk, hpc] at hok
    rw [hinv.stepConsumer_advance hconfig hcalls hpc]
    refine ⟨?_, rfl⟩
    simp only [drainMeasure, hpc]
    omega

lemma exists_drained (hcalls : calls < 2 ^ 64) :
    ∃ count, (st.run (replicate count .consumer)).consumed = st.published := by
  generalize hmeasure : drainMeasure st = measure
  induction measure using Nat.strong_induction_on generalizing st with
  | h measure ih =>
    by_cases hdone : drainMeasure st = 0
    · exact ⟨0, hinv.consumed_of_drainMeasure_eq_zero hdone⟩
    · obtain ⟨hless, hpublished⟩ := hinv.drainMeasure_stepConsumer hconfig hcalls hdone
      obtain ⟨count, hcount⟩ :=
        ih _ (hmeasure ▸ hless) (hinv.stepConsumer hconfig hcalls).1 rfl
      exact ⟨count + 1, hcount.trans hpublished⟩

end RingInv

/-! ## The start of a session -/

/-- The control page `create` leaves behind. -/
def createdBytes (config : RingConfig) : Memory :=
  let mem := writeBytes (fun _ => 0) versionOffset (leBytes 4 version)
  let mem := writeBytes mem slotCountOffset (leBytes 4 config.backuptics)
  let mem := writeBytes mem slotSizeOffset (leBytes 8 config.slotSize)
  let mem := writeBytes mem regionSizeOffset (leBytes 8 config.regionSize)
  let mem := storeLE mem maketicOffset 8 0
  let mem := storeLE mem netticsOffset 8 0
  writeBytes mem magicOffset magic

section Start

variable {config : RingConfig}

lemma create_eq (hconfig : config.WellFormed) :
    DoomRingProducer.create config =
      .ok (⟨createdBytes config, config.regionSize⟩, ⟨config, 0⟩) := by
  -- Everything `create` writes lies in the control page.
  have hword := hconfig.regionSize_lt
  have hpage : controlSize ≤ config.regionSize := Nat.le_add_right _ _
  have hwrite : ∀ (mem : Memory) (off : ℕ) (data : List UInt8),
      off + data.length ≤ controlSize →
      ShmRegion.writeBytes ⟨mem, config.regionSize⟩ off data =
        .ok ⟨writeBytes mem off data, config.regionSize⟩ := fun mem off data hend =>
    ShmRegion.writeBytes_eq_ok hword (hend.trans hpage)
  have hstore : ∀ (mem : Memory) (off value : ℕ), off % 8 = 0 → off + 8 ≤ controlSize →
      ShmRegion.atomicStoreU64 ⟨mem, config.regionSize⟩ off value =
        .ok ⟨storeLE mem off 8 value, config.regionSize⟩ := fun mem off value haligned hend =>
    ShmRegion.atomicStoreU64_eq_ok hword haligned (hend.trans hpage) value
  have hmagic : ∀ mem : Memory, ShmRegion.writeMagic ⟨mem, config.regionSize⟩ =
      .ok ⟨writeBytes mem magicOffset magic, config.regionSize⟩ := fun mem => by
    rw [ShmRegion.writeMagic, ShmRegion.boundsCheck_eq_ok hword
      ((by decide : magicOffset + magic.length ≤ controlSize).trans hpage)]
    rfl
  simp only [DoomRingProducer.create, createdBytes]
  rw [hwrite _ _ _ (by simp [versionOffset, controlSize])]
  simp only [bind, Except.bind]
  rw [hwrite _ _ _ (by simp [slotCountOffset, controlSize])]
  simp only
  rw [hwrite _ _ _ (by simp [slotSizeOffset, controlSize])]
  simp only
  rw [hwrite _ _ _ (by simp [regionSizeOffset, controlSize])]
  simp only
  rw [hstore _ _ _ rfl (by decide)]
  simp only
  rw [hstore _ _ _ rfl (by decide)]
  simp only [hmagic]
  rfl

section

variable (config : RingConfig)

lemma createdBytes_magic :
    readBytes (createdBytes config) magicOffset magic.length = magic :=
  readBytes_writeBytes _ _ _

lemma createdBytes_version :
    readBytes (createdBytes config) versionOffset 4 = leBytes 4 version := by
  rw [createdBytes, readBytes_writeBytes_of_disjoint _ (.inr (by decide)),
    readBytes_storeLE_of_disjoint _ (.inl (by decide)),
    readBytes_storeLE_of_disjoint _ (.inl (by decide)),
    readBytes_writeBytes_of_disjoint _ (.inl (by decide)),
    readBytes_writeBytes_of_disjoint _ (.inl (by decide)),
    readBytes_writeBytes_of_disjoint _ (.inl (by decide))]
  exact readBytes_writeBytes _ _ _

lemma createdBytes_slotCount :
    readBytes (createdBytes config) slotCountOffset 4 = leBytes 4 config.backuptics := by
  rw [createdBytes, readBytes_writeBytes_of_disjoint _ (.inr (by decide)),
    readBytes_storeLE_of_disjoint _ (.inl (by decide)),
    readBytes_storeLE_of_disjoint _ (.inl (by decide)),
    readBytes_writeBytes_of_disjoint _ (.inl (by decide)),
    readBytes_writeBytes_of_disjoint _ (.inl (by decide))]
  exact readBytes_writeBytes _ slotCountOffset _

lemma createdBytes_slotSize :
    readBytes (createdBytes config) slotSizeOffset 8 = leBytes 8 config.slotSize := by
  rw [createdBytes, readBytes_writeBytes_of_disjoint _ (.inr (by decide)),
    readBytes_storeLE_of_disjoint _ (.inl (by decide)),
    readBytes_storeLE_of_disjoint _ (.inl (by decide)),
    readBytes_writeBytes_of_disjoint _ (.inl (by decide))]
  exact readBytes_writeBytes _ slotSizeOffset _

lemma createdBytes_maketic :
    loadLE (createdBytes config) maketicOffset 8 = 0 := by
  rw [createdBytes, loadLE_writeBytes_of_disjoint _ (.inr (by decide)),
    loadLE_storeLE_of_disjoint _ (.inl (by decide))]
  exact loadLE_storeLE _ _ (by decide)

lemma createdBytes_nettics :
    loadLE (createdBytes config) netticsOffset 8 = 0 := by
  rw [createdBytes, loadLE_writeBytes_of_disjoint _ (.inr (by decide))]
  exact loadLE_storeLE _ _ (by decide)

end

lemma openRing_created (hnew : RingConfig.new backuptics slotSize = .ok config) :
    DoomRingConsumer.openRing ⟨createdBytes config, config.regionSize⟩ = .ok ⟨config, 0⟩ := by
  have hconfig := RingConfig.wellFormed_of_new hnew
  obtain ⟨hcount, hsize⟩ := RingConfig.toNat_of_new hnew
  have hread : ∀ off length : ℕ, off + length ≤ controlSize →
      ShmRegion.readBytes ⟨createdBytes config, config.regionSize⟩ off length =
        .ok (readBytes (createdBytes config) off length) := fun _ _ hend =>
    ShmRegion.readBytes_eq_ok hconfig.regionSize_lt (hend.trans (Nat.le_add_right _ _))
  have hnettics : ShmRegion.atomicLoadU64 ⟨createdBytes config, config.regionSize⟩ netticsOffset =
      .ok 0 := by
    rw [ShmRegion.atomicLoadU64_eq_ok hconfig.regionSize_lt rfl
      (RingInv.cursor_inside config (by decide))]
    exact congrArg _ (createdBytes_nettics config)
  have hversion : leNat (leBytes 4 version) = version := by decide
  have hcountBytes : UInt32.ofNat (leNat (leBytes 4 config.backuptics)) = backuptics := by
    rw [leNat_leBytes (hcount ▸ backuptics.toNat_lt), hcount, UInt32.ofNat_toNat]
  have hsizeBytes : UInt64.ofNat (leNat (leBytes 8 config.slotSize)) = slotSize := by
    rw [leNat_leBytes (hsize ▸ slotSize.toNat_lt), hsize, UInt64.ofNat_toNat]
  simp [DoomRingConsumer.openRing, bind, Except.bind, pure, Except.pure,
    hread magicOffset magic.length (by decide), createdBytes_magic,
    hread versionOffset 4 (by decide), createdBytes_version, hversion,
    hread slotCountOffset 4 (by decide), createdBytes_slotCount,
    hread slotSizeOffset 8 (by decide), createdBytes_slotSize,
    hcountBytes, hsizeBytes, hnew, hnettics]

lemma exists_start (hnew : RingConfig.new backuptics slotSize = .ok config) :
    ∃ st, RingState.start config = .ok st ∧ RingInv config 0 st ∧ st.fifo = Fifo.empty := by
  have hconfig := RingConfig.wellFormed_of_new hnew
  refine ⟨⟨⟨createdBytes config, config.regionSize⟩, ⟨config, 0⟩, .idle, ⟨config, 0⟩, .idle, [], [],
    []⟩, ?_, ?_, rfl⟩
  · simp only [RingState.start, create_eq hconfig, bind, Except.bind, openRing_created hnew]
    rfl
  · exact {
      producer_config := rfl
      consumer_config := rfl
      region_len := rfl
      maketic_cell := createdBytes_maketic config
      nettics_cell := createdBytes_nettics config
      published_length := rfl
      nettics_le := le_rfl
      maketic_le := Nat.zero_le _
      calls_le := le_rfl
      slots := by
        intro tic frame _ hframe
        simp at hframe
      producer_ok := trivial
      consumer_ok := rfl
      no_errors := rfl }

end Start

/-- **The ring is a lossless FIFO.**  On every configuration `new` accepts and along every
interleaving with fewer than `2 ^ 64` calls of `publish`, the frames obtained so far are the first
frames published, byte for byte; the consumer alone can always obtain the rest; `try_consume`
never fails; and the cursors stay within one turn of each other. -/
theorem ring_lossless_fifo {config : RingConfig}
    (hnew : RingConfig.new backuptics slotSize = .ok config) :
    ∃ initial, RingState.start config = .ok initial ∧
      ∀ moves, RingState.publishCalls moves < 2 ^ 64 →
        (initial.run moves).consumed <+: (initial.run moves).published ∧
        (∃ count, ((initial.run moves).run (List.replicate count .consumer)).consumed =
          (initial.run moves).published) ∧
        (initial.run moves).consumeErrors = [] ∧
        (initial.run moves).consumer.nettics ≤ (initial.run moves).producer.maketic ∧
        (initial.run moves).producer.maketic - (initial.run moves).consumer.nettics ≤
          config.backuptics := by
  have hconfig := RingConfig.wellFormed_of_new hnew
  obtain ⟨initial, hstart, hinv, hempty⟩ := exists_start hnew
  refine ⟨initial, hstart, fun moves hcalls => ?_⟩
  rw [← Nat.zero_add (RingState.publishCalls moves)] at hcalls
  obtain ⟨hrun, hreach⟩ := hinv.run hconfig (hempty ▸ Fifo.Reachable.empty) moves hcalls
  obtain ⟨hlow, hhigh⟩ := hreach.bounds
  simp only [RingState.fifo, hrun.published_length] at hlow hhigh
  exact ⟨hrun.consumed_isPrefix, hrun.exists_drained hconfig hcalls, hrun.no_errors, hlow,
    by omega⟩

/-- A frame of one byte for the given tic. -/
def byteFrame (tic : ℕ) : ConsumedFrame :=
  ⟨tryShmPublishHeader 0 [1] [UInt8.ofNat (tic + 1)] tic, [UInt8.ofNat (tic + 1)]⟩

def publishing (tic : ℕ) : List RingMove :=
  [.publish (byteFrame tic), .producer, .producer, .producer, .producer]

def consuming : List RingMove := replicate 4 .consumer

/-- Three frames through two slots: the third is where the first was. -/
def pastOneTurn : List RingMove :=
  publishing 0 ++ consuming ++ publishing 1 ++ publishing 2 ++ consuming

theorem ring_lossless_fifo_two_slots :
    ∃ initial, RingState.start ⟨2, 256⟩ = .ok initial ∧
      (initial.run pastOneTurn).published = [byteFrame 0, byteFrame 1, byteFrame 2] ∧
      (initial.run pastOneTurn).consumed = [byteFrame 0, byteFrame 1] ∧
      ∃ count, ((initial.run pastOneTurn).run (replicate count .consumer)).consumed =
        [byteFrame 0, byteFrame 1, byteFrame 2] := by
  have hnew : RingConfig.new 2 256 = .ok ⟨2, 256⟩ := by decide
  obtain ⟨initial, hstart, hrun⟩ := ring_lossless_fifo hnew
  have hframes : (RingState.start ⟨2, 256⟩).map (fun st =>
      ((st.run pastOneTurn).published, (st.run pastOneTurn).consumed)) =
      .ok ([byteFrame 0, byteFrame 1, byteFrame 2], [byteFrame 0, byteFrame 1]) := by
    decide +kernel
  rw [hstart] at hframes
  obtain ⟨hpublished, hconsumed⟩ := Prod.mk.inj (Except.ok.inj hframes)
  obtain ⟨-, ⟨count, hdrained⟩, -⟩ := hrun pastOneTurn (by decide)
  exact ⟨initial, hstart, hpublished, hconsumed, count, hdrained.trans hpublished⟩

end RocketSurgeon.Shm
