import RocketSurgeon.Shm.Interleaving

/-!
# Filling the ring

The producer publishes frame after frame while the consumer looks on.  `Filling` says how
many slots are filled since the consumer stood still; a frame is refused if it does not fit a slot
or if every slot is filled, and a slot that is filled keeps its frame.

The cursors are words and may wrap around.  A turn of the ring divides the range of a word, so the
slot of a tic does not depend on that.
-/

namespace RocketSurgeon.Shm

open Lib

variable {config : RingConfig} {region : ShmRegion} {producer : DoomRingProducer}
  {nettics count : ℕ} {frame : ConsumedFrame}

lemma RingConfig.WellFormed.slotOffset_mod (hconfig : config.WellFormed) (tic : ℕ) :
    config.slotOffset (tic % 2 ^ 64) = config.slotOffset tic := by
  have hdvd : config.backuptics ∣ 2 ^ 64 := by
    obtain ⟨k, hk⟩ := hconfig.backuptics_pow
    have hlt := hconfig.backuptics_lt
    rw [hk] at hlt ⊢
    exact pow_dvd_pow 2 ((Nat.pow_lt_pow_iff_right (by decide)).mp hlt |>.le.trans (by decide))
  rw [hconfig.slotOffset_eq, hconfig.slotOffset_eq, Nat.mod_mod_of_dvd _ hdvd]

/-- The memory after a frame is published into the slot at `start`. -/
def publishedBytes (mem : Memory) (start maketic : ℕ) (frame : ConsumedFrame) : Memory :=
  let headed := writeBytes mem start frame.header
  let filled := writeBytes headed (start + probeFrameHeaderSize) frame.data
  storeLE filled maketicOffset 8 maketic

section Published

variable {mem : Memory} {maketic tic tic' : ℕ} {earlier : ConsumedFrame}

lemma slotHolds_publishedBytes (hheader : frame.header.length = probeFrameHeaderSize) :
    SlotHolds config (publishedBytes mem (config.slotOffset tic) maketic frame) tic frame := by
  refine SlotHolds.storeLE_cursor ⟨?_, readBytes_writeBytes _ _ _⟩ (by decide) _
  rw [readBytes_writeBytes_of_disjoint _ (.inl le_rfl), ← hheader]
  exact readBytes_writeBytes _ _ _

lemma SlotHolds.published (hconfig : config.WellFormed)
    (hholds : SlotHolds config mem tic earlier)
    (hearlier : earlier.data.length ≤ config.slotDataCapacity) (hlt : tic < tic')
    (hwindow : tic' < tic + config.backuptics)
    (hheader : frame.header.length = probeFrameHeaderSize)
    (hfits : frame.data.length ≤ config.slotDataCapacity) :
    SlotHolds config (publishedBytes mem (config.slotOffset tic') maketic frame) tic earlier := by
  have hcapacity := hconfig.header_add_capacity
  have hheaded := hholds.writeBytes_later hconfig hearlier hlt hwindow le_rfl
    (by omega : config.slotOffset tic' + frame.header.length ≤ _)
  have hfilled := hheaded.writeBytes_later hconfig hearlier hlt hwindow (Nat.le_add_right _ _)
    (by omega : config.slotOffset tic' + probeFrameHeaderSize + frame.data.length ≤ _)
  exact hfilled.storeLE_cursor (by decide) _

end Published

/-- The consumer stands at `nettics` and `count` frames have been published behind it. -/
structure Filling (config : RingConfig) (region : ShmRegion) (producer : DoomRingProducer)
    (nettics count : ℕ) : Prop where
  producer_config : producer.config = config
  region_len : region.len = config.regionSize
  maketic_cell : loadLE region.bytes maketicOffset 8 = producer.maketic
  nettics_cell : loadLE region.bytes netticsOffset 8 = nettics
  nettics_lt : nettics < 2 ^ 64
  maketic_eq : producer.maketic = (nettics + count) % 2 ^ 64
  count_le : count ≤ config.backuptics

namespace Filling

section

variable (hfill : Filling config region producer nettics count)

include hfill

lemma publishCheck_eq (data : List UInt8) :
    producer.publishCheck data =
      if config.slotDataCapacity < data.length then
        .error (.tensorTooLarge data.length config.slotDataCapacity)
      else .ok () := by
  rw [DoomRingProducer.publishCheck, hfill.producer_config]

lemma publish_of_tooLarge (hlarge : config.slotDataCapacity < frame.data.length) :
    producer.publish region frame =
      .error (.tensorTooLarge frame.data.length config.slotDataCapacity) := by
  rw [DoomRingProducer.publish, hfill.publishCheck_eq, if_pos hlarge]
  rfl

lemma published (hroom : count < config.backuptics) :
    Filling config
      ⟨publishedBytes region.bytes (config.slotOffset (nettics + count))
        ((nettics + (count + 1)) % 2 ^ 64) frame, region.len⟩
      ⟨producer.config, (nettics + (count + 1)) % 2 ^ 64⟩ nettics (count + 1) where
  producer_config := hfill.producer_config
  region_len := hfill.region_len
  maketic_cell := loadLE_storeLE _ _ (Nat.mod_lt _ (by decide))
  nettics_cell := by
    rw [publishedBytes, loadLE_storeLE_of_disjoint _ (.inr (by decide)),
      loadLE_cursor_writeBytes (by decide) (Nat.le_add_right _ _),
      loadLE_cursor_writeBytes (by decide) le_rfl, hfill.nettics_cell]
  nettics_lt := hfill.nettics_lt
  maketic_eq := rfl
  count_le := hroom

end

section

variable (hconfig : config.WellFormed) (hfill : Filling config region producer nettics count)

include hconfig hfill

lemma region_len_lt : region.len < 2 ^ 64 := by
  rw [hfill.region_len]
  exact hconfig.regionSize_lt

lemma publishLoad_eq :
    producer.publishLoad region =
      if count = config.backuptics then
        .error (.ringFull producer.maketic nettics config.backuptics)
      else .ok () := by
  have hcell : netticsOffset + 8 ≤ region.len := by
    rw [hfill.region_len]
    exact RingInv.cursor_inside config (by decide)
  have hload : region.atomicLoadU64 netticsOffset = .ok nettics := by
    rw [ShmRegion.atomicLoadU64_eq_ok (hfill.region_len_lt hconfig) rfl hcell,
      hfill.nettics_cell]
  -- The difference of the cursors is the number of filled slots, also after a wrap.
  have hdistance : (producer.maketic + 2 ^ 64 - nettics) % 2 ^ 64 = count := by
    have hbound := hconfig.backuptics_lt
    have hcount := hfill.count_le
    have hnettics := hfill.nettics_lt
    rw [hfill.maketic_eq]
    omega
  have hfull : (config.backuptics ≤ count) = (count = config.backuptics) :=
    propext ⟨fun hle => le_antisymm hfill.count_le hle, fun heq => heq.ge⟩
  unfold DoomRingProducer.publishLoad
  rw [hload]
  simp only [bind, Except.bind]
  rw [hdistance, hfill.producer_config]
  simp only [hfull]

lemma slotOffset_maketic :
    producer.config.slotOffset producer.maketic = config.slotOffset (nettics + count) := by
  rw [hfill.producer_config, hfill.maketic_eq, hconfig.slotOffset_mod]

lemma publish_of_room (hroom : count < config.backuptics)
    (hheader : frame.header.length = probeFrameHeaderSize)
    (hfits : frame.data.length ≤ config.slotDataCapacity) :
    producer.publish region frame =
      .ok (⟨publishedBytes region.bytes (config.slotOffset (nettics + count))
          ((nettics + (count + 1)) % 2 ^ 64) frame, region.len⟩,
        ⟨producer.config, (nettics + (count + 1)) % 2 ^ 64⟩) := by
  obtain ⟨mem, len⟩ := region
  obtain rfl : len = config.regionSize := hfill.region_len
  have hword := hconfig.regionSize_lt
  have hslot := hconfig.slotOffset_add_le (nettics + count)
  have hcapacity := hconfig.header_add_capacity
  have hoffset := hfill.slotOffset_maketic hconfig
  have hmaketic : (producer.maketic + 1) % 2 ^ 64 = (nettics + (count + 1)) % 2 ^ 64 := by
    rw [hfill.maketic_eq]
    omega
  have hwrite : ∀ (mem : Memory) (off : ℕ) (data : List UInt8),
      off + data.length ≤ config.regionSize →
      ShmRegion.writeBytes ⟨mem, config.regionSize⟩ off data =
        .ok ⟨Lib.writeBytes mem off data, config.regionSize⟩ := fun _ _ _ hend =>
    ShmRegion.writeBytes_eq_ok hword hend
  have hstore : ∀ (mem : Memory) (value : ℕ),
      ShmRegion.atomicStoreU64 ⟨mem, config.regionSize⟩ maketicOffset value =
        .ok ⟨storeLE mem maketicOffset 8 value, config.regionSize⟩ := fun _ value =>
    ShmRegion.atomicStoreU64_eq_ok hword rfl (RingInv.cursor_inside config (by decide)) value
  simp only [DoomRingProducer.publish, hfill.publishCheck_eq, if_neg (Nat.not_lt.mpr hfits),
    hfill.publishLoad_eq hconfig, if_neg hroom.ne, DoomRingProducer.publishHeader,
    DoomRingProducer.publishData, DoomRingProducer.publishStore, hoffset, hmaketic, bind,
    Except.bind]
  rw [hwrite _ _ _ (by omega)]
  simp only
  rw [hwrite _ _ _ (by omega)]
  simp only [hstore]
  rfl

lemma readBytes_slot {tic : ℕ} (hfits : frame.data.length ≤ config.slotDataCapacity)
    (hholds : SlotHolds config region.bytes tic frame) :
    region.readBytes (config.slotOffset tic + probeFrameHeaderSize) frame.data.length =
      .ok frame.data := by
  have hslot := hconfig.slotOffset_add_le tic
  have hcapacity := hconfig.header_add_capacity
  have hend : config.slotOffset tic + probeFrameHeaderSize + frame.data.length ≤ region.len := by
    rw [hfill.region_len]
    omega
  rw [ShmRegion.readBytes_eq_ok (hfill.region_len_lt hconfig) hend, hholds.2]

lemma cursors_eq_iff :
    loadLE region.bytes netticsOffset 8 = loadLE region.bytes maketicOffset 8 ↔ count = 0 := by
  have hbound := hconfig.backuptics_lt
  have hcount := hfill.count_le
  have hnettics := hfill.nettics_lt
  rw [hfill.nettics_cell, hfill.maketic_cell, hfill.maketic_eq]
  omega

end

lemma publish_of_full (hconfig : config.WellFormed)
    (hfill : Filling config region producer nettics config.backuptics)
    (hfits : frame.data.length ≤ config.slotDataCapacity) :
    producer.publish region frame =
      .error (.ringFull producer.maketic nettics config.backuptics) := by
  rw [DoomRingProducer.publish, hfill.publishCheck_eq, if_neg (Nat.not_lt.mpr hfits),
    hfill.publishLoad_eq hconfig, if_pos rfl]
  rfl

/-- When the consumer moves on, the slots it leaves are free again. -/
lemma advanceBy (hconfig : config.WellFormed) {released : ℕ}
    (hfill : Filling config region producer nettics (released + count))
    {consumer : DoomRingConsumer} (hnettics : consumer.nettics = nettics) :
    ∃ region', consumer.advanceBy region released =
        (.ok region', { consumer with nettics := (nettics + released) % 2 ^ 64 }) ∧
      Filling config region' producer ((nettics + released) % 2 ^ 64) count := by
  have hcell : netticsOffset + 8 ≤ region.len := by
    rw [hfill.region_len]
    exact RingInv.cursor_inside config (by decide)
  have hstore := ShmRegion.atomicStoreU64_eq_ok (hfill.region_len_lt hconfig)
    (by decide : netticsOffset % 8 = 0) hcell ((nettics + released) % 2 ^ 64)
  have hlt : (nettics + released) % 2 ^ 64 < 2 ^ 64 := Nat.mod_lt _ (by decide)
  refine ⟨⟨storeLE region.bytes netticsOffset 8 ((nettics + released) % 2 ^ 64), region.len⟩, ?_,
    ⟨hfill.producer_config, hfill.region_len, ?_, ?_, hlt, ?_,
      (Nat.le_add_left _ _).trans hfill.count_le⟩⟩
  · rw [DoomRingConsumer.advanceBy, hnettics]
    simp only [hstore]
  · show loadLE (storeLE _ netticsOffset 8 _) maketicOffset 8 = _
    rw [loadLE_storeLE_of_disjoint _ (.inl (by decide)), hfill.maketic_cell]
  · exact loadLE_storeLE _ _ (Nat.mod_lt _ (by decide))
  · rw [hfill.maketic_eq, Nat.mod_add_mod, Nat.add_assoc]

end Filling

lemma filling_created (config : RingConfig) :
    Filling config ⟨createdBytes config, config.regionSize⟩ ⟨config, 0⟩ 0 0 where
  producer_config := rfl
  region_len := rfl
  maketic_cell := createdBytes_maketic config
  nettics_cell := createdBytes_nettics config
  nettics_lt := by decide
  maketic_eq := rfl
  count_le := Nat.zero_le _

end RocketSurgeon.Shm
