import RocketSurgeon.Worker.ArenaHistory

/-!
# Spilled checkpoints come back

A spilled checkpoint is loaded from its file under any id that is not in use, and every layer
is then as it was: the file names the layers of the index, the writer and the reader agree on
where the data of a layer stand, and the slots that the spill has freed are enough to load
them again.

The writer computes the offset of a piece of data from the lengths of those before, and the
reader finds each piece by its own entry.  `spillEntries_slices` says that the two agree, for
any file in front; the load is then an induction over the entries in which every step adds one
layer to the contents of the new checkpoint.
-/

namespace RocketSurgeon.Worker

open Lib Option

namespace CheckpointArena

variable {arena arena' : CheckpointArena} {log : List ArenaEvent} {id : String}
  {crc32 : List UInt8 → UInt32}

/-! ## Reading a file that was written -/

/-- What an entry of a file has to say of the slot it was written for. -/
structure EntryFor (crc32 : List UInt8 → UInt32) (arena : CheckpointArena) (file : List UInt8)
    (entry : SpillIndexEntry) (info : ℕ × ℕ × SlotHeader) : Prop where
  layerIdx : entry.layerIdx = info.1
  header : entry.header = { info.2.2 with byteLen := (arena.spillData info).length }
  dataLen : entry.dataLen = (arena.spillData info).length
  checksum : entry.crc32 = (crc32 (arena.spillData info)).toNat
  inside : entry.dataOffset + entry.dataLen ≤ file.length
  data : (file.drop entry.dataOffset).take entry.dataLen = arena.spillData info

lemma length_spillEntries (dataOffset : ℕ) (infos : List (ℕ × ℕ × SlotHeader)) :
    (arena.spillEntries crc32 dataOffset infos).length = infos.length := by
  induction infos generalizing dataOffset with
  | nil => rfl
  | cons info infos ih => rw [spillEntries, List.length_cons, List.length_cons, ih]

/-- Behind any front, the writer's offsets lead to the data. -/
lemma spillEntries_slices (crc32 : List UInt8 → UInt32) (arena : CheckpointArena)
    (front : List UInt8) (infos : List (ℕ × ℕ × SlotHeader)) :
    List.Forall₂ (EntryFor crc32 arena
        (front ++ infos.flatMap fun info => padded (arena.spillData info)))
      (arena.spillEntries crc32 front.length infos) infos := by
  induction infos generalizing front with
  | nil => exact .nil
  | cons info infos ih =>
    set data := arena.spillData info with hdata
    have hfile : front ++ (info :: infos).flatMap (fun info => padded (arena.spillData info)) =
        (front ++ padded data) ++ infos.flatMap fun info => padded (arena.spillData info) := by
      rw [List.flatMap_cons, List.append_assoc]
    have hlength : (front ++ padded data).length = front.length + alignUp data.length 64 := by
      rw [List.length_append, length_padded]
    have hrest := ih (front ++ padded data)
    rw [← hfile, hlength] at hrest
    refine .cons ?_ hrest
    refine ⟨rfl, rfl, rfl, rfl, ?_, ?_⟩
    · have hle := le_alignUp data.length
      rw [hfile, List.length_append, hlength]
      show front.length + data.length ≤ _
      omega
    · rw [List.flatMap_cons, padded, List.append_assoc]
      exact take_drop_append rfl rfl

lemma EntryFor.readSpillData (hentry : EntryFor crc32 arena file entry info)
    (hfile : file.length < 2 ^ 63) :
    readSpillData crc32 (arena.slotSize - slotHeaderSize) file entry =
      .ok (arena.spillData info) := by
  have hin := hentry.inside
  have hstop : (entry.dataOffset + entry.dataLen) % 2 ^ 64 = entry.dataOffset + entry.dataLen :=
    Nat.mod_eq_of_lt (by omega)
  have hfits : entry.dataLen ≤ arena.slotSize - slotHeaderSize := by
    rw [hentry.dataLen, spillData, dataAt, length_readBytes]
    exact min_le_right _ _
  unfold Worker.readSpillData
  rw [hstop, hentry.data, if_neg (by omega), if_neg (by omega), if_neg (by omega),
    if_neg (not_not.mpr hentry.checksum.symm)]

/-- Behind sixteen bytes and the entries before, the index is read back. -/
lemma readSpillEntries_flatMap (hbound : ∀ entry ∈ entries, entry.Bounded)
    (hfront : front.length = 16 + i * spillIndexEntrySize) (rest : List UInt8) :
    readSpillEntries (front ++ (entries.flatMap SpillIndexEntry.writeTo ++ rest)) i
      entries.length = .ok entries := by
  induction entries generalizing front i with
  | nil => rfl
  | cons entry entries ih =>
    rw [List.forall_mem_cons] at hbound
    have hfile : front ++ ((entry :: entries).flatMap SpillIndexEntry.writeTo ++ rest) =
        (front ++ entry.writeTo) ++ (entries.flatMap SpillIndexEntry.writeTo ++ rest) := by
      rw [List.flatMap_cons, List.append_assoc, List.append_assoc]
    have hnext : (front ++ entry.writeTo).length = 16 + (i + 1) * spillIndexEntrySize := by
      rw [List.length_append, hfront, SpillIndexEntry.length_writeTo, Nat.succ_mul, Nat.add_assoc]
    have hentry : ((front ++ ((entry :: entries).flatMap SpillIndexEntry.writeTo ++ rest)).drop
        (16 + i * spillIndexEntrySize)).take spillIndexEntrySize = entry.writeTo := by
      exact take_drop_append hfront entry.length_writeTo
    rw [List.length_cons, readSpillEntries, hentry,
      SpillIndexEntry.readFrom_writeTo hbound.1, hfile, ih hbound.2 hnext]

lemma length_spillIndex (entries : List SpillIndexEntry) :
    (spillIndex entries).length = 16 + entries.length * spillIndexEntrySize := by
  have htable : (entries.flatMap SpillIndexEntry.writeTo).length =
      entries.length * spillIndexEntrySize :=
    length_flatMap_of_width fun entry _ => entry.length_writeTo
  simp only [spillIndex, List.length_append, length_leBytes, htable, spillMagic, List.length_cons,
    List.length_nil]
  omega

lemma readSpillIndex_spillIndex (hbound : ∀ entry ∈ entries, entry.Bounded)
    (hcount : entries.length < 2 ^ 32) (rest : List UInt8) :
    readSpillIndex (spillIndex entries ++ rest) = .ok entries := by
  have hlength : (spillIndex entries ++ rest).length =
      16 + entries.length * spillIndexEntrySize + rest.length := by
    rw [List.length_append, length_spillIndex]
  have hmagic : (spillIndex entries ++ rest).take 8 = spillMagic := rfl
  have hversion : leNat (((spillIndex entries ++ rest).drop 8).take 4) = spillVersion := by
    have hbytes : ((spillIndex entries ++ rest).drop 8).take 4 = leBytes 4 spillVersion := rfl
    rw [hbytes]
    exact leNat_leBytes (by decide)
  have hnumSlots : leNat (((spillIndex entries ++ rest).drop 12).take 4) = entries.length := by
    have hbytes : ((spillIndex entries ++ rest).drop 12).take 4 = leBytes 4 entries.length := rfl
    rw [hbytes]
    exact leNat_leBytes hcount
  have hentries : readSpillEntries (spillIndex entries ++ rest) 0 entries.length = .ok entries := by
    have hfront : (spillMagic ++ (leBytes 4 spillVersion ++ leBytes 4 entries.length)).length =
      16 + 0 * spillIndexEntrySize := rfl
    have hread := readSpillEntries_flatMap hbound hfront rest
    simpa only [spillIndex, List.append_assoc] using hread
  unfold readSpillIndex
  rw [hnumSlots, hversion, if_neg (by omega), if_neg (not_not.mpr hmagic), if_neg (not_not.mpr rfl),
    if_neg (by omega), hentries]

/-! ## The contents of a checkpoint -/

/-- The header of a layer and the data it describes. -/
def contents (arena : CheckpointArena) (id : String) (layer : ℕ) :
    Option (SlotHeader × List UInt8) :=
  (arena.getSlot id layer).map fun slot => (slot.2, arena.dataAt slot.1 slot.2.byteLen)

/-- The contents of a layer are in its slot, if its header says no more than that. -/
lemma contents_congr (hrep : arena.Represents log)
    (hoffset : arena'.offsetOf id layer = arena.offsetOf id layer)
    (hbytes : ∀ slot ∈ arena.slotsOf id, arena.offsetOf id layer = some (slot * arena.slotSize) →
      readBytes arena'.bytes (slot * arena.slotSize) arena.slotSize =
      readBytes arena.bytes (slot * arena.slotSize) arena.slotSize)
    (hfits : ∀ hdr data, arena.contents id layer = some (hdr, data) →
      hdr.byteLen ≤ arena.slotSize - slotHeaderSize) :
    arena'.contents id layer = arena.contents id layer := by
  unfold contents at hfits ⊢
  rw [getSlot_eq] at hfits ⊢
  rw [getSlot_eq, hoffset]
  cases hfound : arena.offsetOf id layer with
  | none => rfl
  | some off =>
    obtain ⟨slot, hslot, rfl⟩ := hrep.owned hfound
    have hsame := hbytes slot hslot hfound
    have hroom := hrep.wellFormed.header
    have hheader : arena'.headerAt (slot * arena.slotSize) =
        arena.headerAt (slot * arena.slotSize) := by
      have hin : 0 + slotHeaderSize ≤ arena.slotSize := by simpa using hroom
      have hread := readBytes_inside hsame hin
      rw [Nat.add_zero] at hread
      simp only [headerAt, hread]
    simp only [bind_some, hheader]
    cases hread : arena.headerAt (slot * arena.slotSize) with
    | none => rfl
    | some hdr =>
      have hlen := hfits hdr _ (by rw [hfound, bind_some, hread]; rfl)
      have hin : slotHeaderSize + hdr.byteLen ≤ arena.slotSize := by omega
      simp only [map_some, dataAt, readBytes_inside hsame hin]

/-- One more layer is loaded, and the others stay as they are. -/
lemma contents_loadEntry (hrep : arena.Represents log)
    (hdata : readSpillData crc32 (arena.slotSize - slotHeaderSize) file entry = .ok data)
    (hlen : entry.dataLen = data.length) (hbound : entry.header.Bounded)
    (hok : arena.loadEntry crc32 file id entry = .ok arena')
    (hfits : ∀ layer hdr data, arena.contents id layer = some (hdr, data) →
      hdr.byteLen ≤ arena.slotSize - slotHeaderSize) (layer : ℕ) :
    arena'.contents id layer =
      if entry.layerIdx = layer then some (entry.header, data) else arena.contents id layer := by
  obtain ⟨read, slot, arena₁, hread, -, hslot, rfl⟩ := loadEntry_spec hok
  obtain rfl := Except.ok.inj (hread.symm.trans hdata)
  have hroom := hrep.wellFormed.header
  have hdataFits := length_of_readSpillData hread
  split_ifs with hlayer
  · -- The data are behind the header, so that it is still the one that was written.
    have hoffset : ((arena₁.updateHeader (slot * arena.slotSize) entry.header).writeData
        (slot * arena.slotSize) read).offsetOf id layer = some (slot * arena.slotSize) := by
      have hnew := hslot.offsetOf hrep id layer
      rw [if_pos ⟨rfl, hlayer⟩] at hnew
      exact hnew
    have hheader : ((arena₁.updateHeader (slot * arena.slotSize) entry.header).writeData
        (slot * arena.slotSize) read).headerAt (slot * arena.slotSize) = some entry.header := by
      unfold headerAt updateHeader writeData
      rw [readBytes_writeBytes_of_disjoint _ (.inl le_rfl)]
      have hwritten := readBytes_writeBytes arena₁.bytes (slot * arena.slotSize)
        entry.header.writeTo
      rw [SlotHeader.length_writeTo] at hwritten
      rw [hwritten]
      exact SlotHeader.readFrom_writeTo hbound
    have hpayload : ((arena₁.updateHeader (slot * arena.slotSize) entry.header).writeData
        (slot * arena.slotSize) read).dataAt (slot * arena.slotSize) entry.header.byteLen = read := by
      have hbyteLen : entry.header.byteLen = read.length := hlen
      rw [hbyteLen]
      exact readBytes_writeBytes _ _ read
    rw [contents, getSlot_eq, hoffset, bind_some, hheader, map_some, map_some,
      hpayload]
  · refine contents_congr hrep ?_ (fun owned howned _ => ?_) (hfits layer)
    · have hold := hslot.offsetOf hrep id layer
      rw [if_neg fun hsame => hlayer hsame.2] at hold
      exact hold
    · have hne : owned ≠ slot := fun heq =>
        hslot.not_mem_slotsOf hrep.wellFormed id (heq ▸ howned)
      obtain ⟨hdr, hbytes⟩ := hslot.bytes
      have hlength : ∀ hdr : SlotHeader, 0 + hdr.writeTo.length ≤ arena.slotSize := by
        intro hdr
        simpa using hroom
      unfold updateHeader writeData
      rw [readBytes_other_slot hne (by omega)]
      have hstamped := @readBytes_other_slot arena₁.bytes _ 0 _ _ _ hne (hlength entry.header)
      have hfresh := @readBytes_other_slot arena.bytes _ 0 _ _ _ hne (hlength hdr)
      rw [Nat.add_zero] at hstamped hfresh
      rw [hstamped, hbytes, hfresh]

/-! ## Loading a file -/

/-- An entry whose layer, header and data are those of a piece. -/
structure Loadable (crc32 : List UInt8 → UInt32) (maxDataSize : ℕ) (file : List UInt8)
    (entry : SpillIndexEntry) (piece : ℕ × SlotHeader × List UInt8) : Prop where
  layerIdx : entry.layerIdx = piece.1
  header : entry.header = piece.2.1
  bounded : piece.2.1.Bounded
  byteLen : piece.2.1.byteLen = piece.2.2.length
  data : readSpillData crc32 maxDataSize file entry = .ok piece.2.2

lemma exists_loadEntry {file data : List UInt8} {entry : SpillIndexEntry}
    (hdata : readSpillData crc32 (arena.slotSize - slotHeaderSize) file entry = .ok data)
    (hfree : arena.freeList ≠ []) :
    ∃ arena', arena.loadEntry crc32 file id entry = .ok arena' ∧
      arena'.slotSize = arena.slotSize ∧ arena.freeList.length = arena'.freeList.length + 1 := by
  have hisOk : (arena.allocSlot id entry.layerIdx).isOk = true := isOk_allocSlot _ hfree
  obtain ⟨⟨off, arena₁⟩, halloc⟩ := exists_ok_of_isOk hisOk
  obtain ⟨slot, -, hslot⟩ := allocSlot_spec halloc
  refine ⟨(arena₁.updateHeader off entry.header).writeData off data, ?_, hslot.slotSize, ?_⟩
  · rw [loadEntry, hdata]
    simp only [bind, Except.bind, halloc]
    rfl
  · rw [hslot.freeList]
    rfl

/-- With room for all of them, the pieces of a file become the contents of the checkpoint. -/
lemma loadEntries_contents
    (hpieces : List.Forall₂ (Loadable crc32 maxDataSize file) entries pieces)
    (hlayers : (pieces.map Prod.fst).Nodup) (hrep : arena.Represents log)
    (hmax : arena.slotSize - slotHeaderSize = maxDataSize)
    (hroom : entries.length ≤ arena.freeList.length)
    (hfits : ∀ layer hdr data, arena.contents id layer = some (hdr, data) →
      hdr.byteLen ≤ maxDataSize) :
    ∃ arena', loadEntries crc32 file id arena entries = (.ok (), arena') ∧
      ∀ layer, arena'.contents id layer =
        (FMap.get pieces layer).or (arena.contents id layer) := by
  induction hpieces generalizing arena log with
  | nil => exact ⟨arena, rfl, fun _ => rfl⟩
  | @cons entry piece entries pieces hpiece hpieces ih =>
    subst hmax
    rw [List.map_cons, List.nodup_cons] at hlayers
    rw [List.length_cons] at hroom
    have hfree : arena.freeList ≠ [] := List.ne_nil_of_length_pos (by omega)
    obtain ⟨arena₁, hload, hsize, hcount⟩ := @exists_loadEntry _ id _ _ _ _ hpiece.data hfree
    have hlen : entry.dataLen = piece.2.2.length := by
      rw [← hpiece.byteLen, ← hpiece.header]
      rfl
    have hfirst := contents_loadEntry hrep hpiece.data hlen (hpiece.header ▸ hpiece.bounded)
      hload hfits
    have hdataFits := length_of_readSpillData hpiece.data
    obtain ⟨arena', hrest, hcontents⟩ := ih hlayers.2 (Represents.arenaRule.loadEntry hrep hload)
      (by rw [hsize]) (by omega) (by
        intro layer hdr data hsome
        rw [hfirst] at hsome
        split_ifs at hsome
        · cases hsome
          rw [hpiece.header, hpiece.byteLen]
          exact hdataFits
        · exact hfits layer hdr data hsome)
    refine ⟨arena', by rw [loadEntries, hload]; exact hrest, fun layer => ?_⟩
    rw [hcontents, hfirst, hpiece.layerIdx, FMap.get]
    split_ifs with hlayer
    · -- No later piece is of this layer.
      rw [FMap.get_eq_none_iff.mpr (hlayer ▸ hlayers.1), none_or, hpiece.header]
      rfl
    · rfl

/-! ## Layers are words -/

/-- Every layer in a history is a 32-bit number. -/
def WordLayers (log : List ArenaEvent) : Prop :=
  ∀ id layer offset, .allocated id layer offset ∈ log → layer < 2 ^ 32

lemma mem_of_latest (hlatest : latest id layer log = some off) :
    .allocated id layer off ∈ log := by
  induction log with
  | nil => cases hlatest
  | cons ev earlier ih =>
    cases ev with
    | allocated owner ownerLayer found =>
      rw [latest] at hlatest
      split_ifs at hlatest with hsame
      · obtain ⟨rfl, rfl⟩ := hsame
        cases hlatest
        exact List.mem_cons_self
      · exact List.mem_cons_of_mem _ (ih hlatest)
    | freed owner =>
      rw [latest] at hlatest
      split_ifs at hlatest
      exact List.mem_cons_of_mem _ (ih hlatest)

lemma layerIdx_lt_of_readSpillEntries (hread : readSpillEntries file i count = .ok entries) :
    ∀ entry ∈ entries, entry.layerIdx < 2 ^ 32 := by
  induction count generalizing i entries with
  | zero =>
    cases hread
    exact fun _ hentry => absurd hentry List.not_mem_nil
  | succ count ih =>
    rw [readSpillEntries] at hread
    split at hread
    · cases hread
    next entry hentry =>
      split at hread
      · cases hread
      next rest hrest =>
        cases hread
        refine List.forall_mem_cons.mpr ⟨?_, ih hrest⟩
        obtain ⟨dtype, -, rfl⟩ := map_eq_some_iff.mp hentry
        exact leNat_take_lt _ 4

lemma layer_of_mem_allocEvents
    (hevent : .allocated owner found off ∈ arena.allocEvents id layer) : found = layer := by
  unfold allocEvents at hevent
  split at hevent
  · cases hevent
  · cases List.mem_singleton.mp hevent
    rfl

lemma wordLayers_loadEvents (hentries : ∀ entry ∈ entries, entry.layerIdx < 2 ^ 32) :
    WordLayers (loadEvents crc32 file id arena entries) := by
  induction entries generalizing arena with
  | nil => exact fun _ _ _ hevent => absurd hevent List.not_mem_nil
  | cons entry entries ih =>
    rw [List.forall_mem_cons] at hentries
    intro owner layer off hevent
    rw [loadEvents] at hevent
    split at hevent
    · cases hevent
    · rcases List.mem_append.mp hevent with hlater | hnow
      · exact ih hentries.2 owner layer off hlater
      · exact layer_of_mem_allocEvents hnow ▸ hentries.1

lemma wordLayers_events (op : ArenaOp) : WordLayers (op.events crc32 arena) := by
  intro owner layer off hevent
  cases op with
  | allocSlot id word => exact layer_of_mem_allocEvents hevent ▸ word.toNat_lt
  | freeCheckpoint id => simp [ArenaOp.events] at hevent
  | spillCheckpoint id written =>
    rw [ArenaOp.events] at hevent
    split at hevent
    · cases hevent
    · simp at hevent
  | loadSpilledCheckpoint id read =>
    cases read with
    | error msg => cases hevent
    | ok file =>
      rw [ArenaOp.events] at hevent
      cases hindex : readSpillIndex file with
      | error msg =>
        rw [hindex] at hevent
        cases hevent
      | ok entries =>
        rw [hindex] at hevent
        refine wordLayers_loadEvents ?_ owner layer off hevent
        unfold readSpillIndex at hindex
        dsimp only at hindex
        split_ifs at hindex
        exact layerIdx_lt_of_readSpillEntries hindex
  | updateHeader slot hdr | writeData slot data => cases hevent

lemma wordLayers_run (ops : List ArenaOp) (hlog : WordLayers log) :
    WordLayers (arena.run crc32 log ops).2 := by
  induction ops generalizing arena log with
  | nil => exact hlog
  | cons op ops ih =>
    refine ih fun owner layer off hevent => ?_
    rcases List.mem_append.mp hevent with hnow | hearlier
    · exact wordLayers_events op owner layer off hnow
    · exact hlog owner layer off hearlier

/-! ## Round trip -/

/-- A file system, with what it returns when a file is written.  File offsets are signed 64-bit
numbers. -/
structure Disk where
  write : List UInt8 → Except String Unit
  fits : ∀ bytes, write bytes = .ok () → bytes.length < 2 ^ 63

/-- The slots of a checkpoint that are written to its file, as pieces of the file. -/
def spillPieces (arena : CheckpointArena) (id : String) : List (ℕ × SlotHeader × List UInt8) :=
  (arena.slotInfoForCheckpoint id).map fun info => (info.1, info.2.2, arena.spillData info)

lemma spillData_eq (hlen : info.2.2.byteLen ≤ arena.slotSize - slotHeaderSize) :
    arena.spillData info = arena.dataAt info.2.1 info.2.2.byteLen := by
  rw [spillData, min_eq_left hlen]

lemma get_spillPieces (hrep : arena.Represents log)
    (hlens : ∀ info ∈ arena.slotInfoForCheckpoint id,
      info.2.2.byteLen ≤ arena.slotSize - slotHeaderSize) (layer : ℕ) :
    FMap.get (arena.spillPieces id) layer = arena.contents id layer := by
  have hkeys : ((arena.spillPieces id).map Prod.fst).Nodup := by
    rw [spillPieces, List.map_map]
    exact nodup_slotInfo_layers hrep id
  rw [contents]
  cases hget : arena.getSlot id layer with
  | none =>
    rw [map_none, FMap.get_eq_none_iff]
    intro hmem
    simp only [spillPieces, List.map_map, List.mem_map, Function.comp_apply] at hmem
    obtain ⟨⟨found, off, hdr⟩, hinfo, rfl⟩ := hmem
    rw [(mem_slotInfoForCheckpoint hrep).mp hinfo] at hget
    cases hget
  | some slot =>
    have hinfo := (mem_slotInfoForCheckpoint hrep).mpr hget
    have hpiece := List.mem_map_of_mem (f := fun info : ℕ × ℕ × SlotHeader =>
      (info.1, info.2.2, arena.spillData info)) hinfo
    rw [spillData_eq (hlens _ hinfo)] at hpiece
    exact FMap.get_of_mem hkeys hpiece

/-- What is known of a slot that is written: its layer and its header fit their fields. -/
structure Spillable (arena : CheckpointArena) (info : ℕ × ℕ × SlotHeader) : Prop where
  layer : info.1 < 2 ^ 32
  header : info.2.2.Bounded
  byteLen : info.2.2.byteLen ≤ arena.slotSize - slotHeaderSize

lemma Represents.spillable (hrep : arena.Represents log) (hlayers : WordLayers log)
    (hinfo : info ∈ arena.slotInfoForCheckpoint id)
    (hlen : info.2.2.byteLen ≤ arena.slotSize - slotHeaderSize) : arena.Spillable info := by
  obtain ⟨layer, off, hdr⟩ := info
  have hget := (mem_slotInfoForCheckpoint hrep).mp hinfo
  refine ⟨?_, ?_, hlen⟩
  · have hlatest := hrep.getSlot_offset id layer
    rw [hget] at hlatest
    exact hlayers id layer off (mem_of_latest hlatest.symm)
  · rw [getSlot_eq] at hget
    obtain ⟨found, -, hheader⟩ := bind_eq_some_iff.mp hget
    obtain ⟨read, hread, hpair⟩ := map_eq_some_iff.mp hheader
    cases hpair
    exact SlotHeader.bounded_of_readFrom hread

section Entry

variable {file : List UInt8} {entry : SpillIndexEntry} {info : ℕ × ℕ × SlotHeader}

lemma length_spillData (hinfo : arena.Spillable info) :
    (arena.spillData info).length = info.2.2.byteLen := by
  rw [spillData, dataAt, length_readBytes, min_eq_left hinfo.byteLen]

lemma EntryFor.loadable (hentry : EntryFor crc32 arena file entry info)
    (hinfo : arena.Spillable info) (hfile : file.length < 2 ^ 63) :
    Loadable crc32 (arena.slotSize - slotHeaderSize) file entry
      (info.1, info.2.2, arena.spillData info) where
  layerIdx := hentry.layerIdx
  header := by rw [hentry.header, length_spillData hinfo]
  bounded := hinfo.header
  byteLen := (length_spillData hinfo).symm
  data := hentry.readSpillData hfile

lemma EntryFor.bounded (hentry : EntryFor crc32 arena file entry info)
    (hinfo : arena.Spillable info) (hfile : file.length < 2 ^ 63) : entry.Bounded := by
  have hheader : entry.header = info.2.2 := by rw [hentry.header, length_spillData hinfo]
  have hin := hentry.inside
  have hbound := hinfo.header
  rw [← hheader] at hbound
  refine ⟨?_, hbound.ndim, hbound.shape, by omega, by omega, ?_⟩
  · rw [hentry.layerIdx]
    exact hinfo.layer
  · rw [hentry.checksum]
    exact UInt32.toNat_lt _

end Entry

/-- The entries of a file can be loaded as the pieces of the checkpoint. -/
lemma loadable_spillEntries (hfile : file.length < 2 ^ 63)
    (hentries : List.Forall₂ (EntryFor crc32 arena file) entries infos)
    (hinfos : ∀ info ∈ infos, arena.Spillable info) :
    (∀ entry ∈ entries, entry.Bounded) ∧
      List.Forall₂ (Loadable crc32 (arena.slotSize - slotHeaderSize) file) entries
        (infos.map fun info => (info.1, info.2.2, arena.spillData info)) := by
  induction hentries with
  | nil => exact ⟨fun _ hentry => absurd hentry List.not_mem_nil, .nil⟩
  | cons hentry _ ih =>
    rw [List.forall_mem_cons] at hinfos
    obtain ⟨hbound, hloadable⟩ := ih hinfos.2
    exact ⟨List.forall_mem_cons.mpr ⟨hentry.bounded hinfos.1 hfile, hbound⟩,
      .cons (hentry.loadable hinfos.1 hfile) hloadable⟩

/-- A file that was written is loaded into every arena with room for it, as the contents of a
checkpoint that had none. -/
lemma loadSpilledCheckpoint_spillFile (hrep : arena.Represents log) (hlayers : WordLayers log)
    (hlens : ∀ info ∈ arena.slotInfoForCheckpoint id,
      info.2.2.byteLen ≤ arena.slotSize - slotHeaderSize)
    (hfile : (arena.spillFile crc32 id).length < 2 ^ 63)
    (hcount : (arena.slotInfoForCheckpoint id).length < 2 ^ 32) (hrep' : arena'.Represents log')
    (hsize : arena'.slotSize = arena.slotSize)
    (hroom : (arena.slotInfoForCheckpoint id).length ≤ arena'.freeList.length)
    (hfresh : ∀ layer, arena'.contents target layer = none) :
    ∃ loaded,
      arena'.loadSpilledCheckpoint crc32 (.ok (arena.spillFile crc32 id)) target =
        (.ok (), loaded) ∧
      ∀ layer, loaded.contents target layer = arena.contents id layer := by
  set infos := arena.slotInfoForCheckpoint id with hinfosDef
  set file := arena.spillFile crc32 id with hfileDef
  obtain ⟨entries, hentriesDef⟩ : ∃ entries, entries = arena.spillEntries crc32
    (alignUp (16 + infos.length * spillIndexEntrySize) 64) infos := ⟨_, rfl⟩
  have hsplit : file = padded (spillIndex entries) ++
      infos.flatMap fun info => padded (arena.spillData info) := by
    rw [hfileDef, hentriesDef]
    rfl
  have hlength : entries.length = infos.length := hentriesDef ▸ length_spillEntries _ _
  have hfront : (padded (spillIndex entries)).length =
      alignUp (16 + infos.length * spillIndexEntrySize) 64 := by
    rw [length_padded, length_spillIndex, hlength]
  have hentries : List.Forall₂ (EntryFor crc32 arena file) entries infos := by
    rw [hsplit]
    conv =>
      arg 2
      rw [hentriesDef, ← hfront]
    exact spillEntries_slices crc32 arena _ infos
  have hspillable : ∀ info ∈ infos, arena.Spillable info := fun info hinfo =>
    hrep.spillable hlayers hinfo (hlens info hinfo)
  obtain ⟨hbound, hloadable⟩ := loadable_spillEntries hfile hentries hspillable
  have hindex : readSpillIndex file = .ok entries := by
    rw [hsplit, padded, List.append_assoc]
    exact readSpillIndex_spillIndex hbound (by omega) _
  have hkeys : ((arena.spillPieces id).map Prod.fst).Nodup := by
    rw [spillPieces, List.map_map]
    exact nodup_slotInfo_layers hrep id
  obtain ⟨loaded, hload, hcontents⟩ := loadEntries_contents hloadable hkeys hrep' (by rw [hsize])
    (by omega) (by
      intro layer hdr data hsome
      rw [hfresh] at hsome
      cases hsome)
  refine ⟨loaded, ?_, fun layer => ?_⟩
  · rw [loadSpilledCheckpoint, hindex]
    exact hload
  · rw [hcontents, hfresh, or_none]
    exact get_spillPieces hrep hlens layer

/-- What a spill of `id` and a load under `target` come to. -/
structure Restored (arena spilled loaded : CheckpointArena) (id target : String) : Prop where
  contents : ∀ layer, loaded.contents target layer = arena.contents id layer
  freed : ∀ slot ∈ arena.slotsOf id, slot ∈ spilled.freeList
  kept : ∀ other, other ≠ id → Untouched other arena spilled ∧
    ∀ layer, spilled.getSlot other layer = arena.getSlot other layer
  others : ∀ other, other ≠ id → other ≠ target → Untouched other arena loaded ∧
    ∀ layer, loaded.getSlot other layer = arena.getSlot other layer

lemma contents_eq_none_of_not_listed (hrep : arena.Represents log)
    (hid : id ∉ arena.checkpointOrder) (layer : ℕ) : arena.contents id layer = none := by
  have hunowned : arena.offsetOf id layer = none := by
    rw [eq_none_iff_forall_not_mem]
    intro off hoffset
    obtain ⟨slot, hslot, -⟩ := hrep.owned hoffset
    rw [hrep.listed, ← hrep.live, not_isSome_iff_eq_none] at hid
    rw [slotsOf, hid] at hslot
    exact List.not_mem_nil hslot
  rw [contents, getSlot_eq, hunowned]
  rfl

/-- **In every state the arena can be in, a checkpoint that was spilled is loaded as it was.** -/
theorem restored_of_spill (crc32 : List UInt8 → UInt32) (disk : Disk) {slotSize numSlots : ℕ}
    {start spilled : CheckpointArena} (hnew : CheckpointArena.new slotSize numSlots = .ok start)
    (ops : List ArenaOp) (id target : String)
    (hlens : ∀ info ∈ (start.run crc32 [] ops).1.slotInfoForCheckpoint id,
      info.2.2.byteLen ≤ (start.run crc32 [] ops).1.slotSize - slotHeaderSize)
    (hspill : (start.run crc32 [] ops).1.spillCheckpoint id
      (disk.write ((start.run crc32 [] ops).1.spillFile crc32 id)) = .ok spilled)
    (htarget : target ∉ spilled.checkpointOrder) :
    ∃ loaded,
      spilled.loadSpilledCheckpoint crc32
        (.ok ((start.run crc32 [] ops).1.spillFile crc32 id)) target = (.ok (), loaded) ∧
      Restored (start.run crc32 [] ops).1 spilled loaded id target := by
  have hrep := (represents_new hnew).run crc32 ops
  have hlayers : WordLayers (start.run crc32 [] ops).2 :=
    wordLayers_run ops fun _ _ _ hevent => absurd hevent List.not_mem_nil
  revert hrep hlayers hlens hspill
  generalize (start.run crc32 [] ops).1 = arena
  intro hlens hspill hrep hlayers
  obtain ⟨hwritten, rfl⟩ := spillCheckpoint_spec hspill
  have hspilled := represents_freeCheckpoint hrep id
  have hcount : (arena.slotInfoForCheckpoint id).length < 2 ^ 32 := by
    unfold spillCheckpoint at hspill
    split_ifs at hspill with _ hcount
    exact not_le.mp hcount
  -- The slots that were written are among those that are free now.
  have hroom : (arena.slotInfoForCheckpoint id).length ≤
      (arena.freeCheckpoint id).freeList.length := by
    rw [freeList_freeCheckpoint, List.length_append, List.length_reverse]
    exact (List.length_filterMap_le _ _).trans (Nat.le_add_right _ _)
  obtain ⟨loaded, hload, hcontents⟩ := loadSpilledCheckpoint_spillFile hrep hlayers hlens
    (disk.fits _ hwritten) hcount hspilled (slotSize_freeCheckpoint arena id) hroom
    (contents_eq_none_of_not_listed hspilled htarget)
  have hkept : ∀ other, other ≠ id → Untouched other arena (arena.freeCheckpoint id) :=
    fun other hother => untouched_freeCheckpoint hrep hother
  refine ⟨loaded, hload, hcontents, ?_, ?_, ?_⟩
  · intro slot hslot
    rw [freeList_freeCheckpoint]
    exact List.mem_append_left _ (List.mem_reverse.mpr hslot)
  · intro other hother
    exact ⟨hkept other hother, (hkept other hother).getSlot hrep⟩
  · intro other hother htarget
    have hloaded : Untouched other (arena.freeCheckpoint id) loaded := by
      have hstep := @ArenaOp.untouched_step crc32 _ _ hspilled
        (.loadSpilledCheckpoint target (.ok (arena.spillFile crc32 id))) other htarget
      rw [ArenaOp.step, hload] at hstep
      exact hstep
    have hsame := (hkept other hother).trans hloaded
    exact ⟨hsame, hsame.getSlot hrep⟩

/-- A disk that takes every file it can. -/
def Disk.roomy : Disk where
  write bytes := if bytes.length < 2 ^ 63 then .ok () else .error "file too large"
  fits bytes hwritten := by
    by_contra hlarge
    rw [if_neg hlarge] at hwritten
    cases hwritten

lemma Disk.roomy_write {bytes : List UInt8} (hlength : bytes.length < 2 ^ 63) :
    Disk.roomy.write bytes = .ok () :=
  if_pos hlength

/-- The second slot of a layer hides the first one; both are free after the spill, and the layer
comes back under another id. -/
theorem restored_of_spill_shadowed :
    ∃ spilled loaded,
      Restored (twoSlots.run (fun _ => 0) [] [.allocSlot "c1" 7, .allocSlot "c1" 7]).1
        spilled loaded "c1" "c2" := by
  have hwritten : Disk.roomy.write ((twoSlots.run (fun _ => 0) []
      [.allocSlot "c1" 7, .allocSlot "c1" 7]).1.spillFile (fun _ => 0) "c1") = .ok () :=
    Disk.roomy_write (by decide +kernel)
  have hspill := @ArenaOp.spillCheckpoint_ok (twoSlots.run (fun _ => 0) []
    [.allocSlot "c1" 7, .allocSlot "c1" 7]).1 "c1" (by decide +kernel) (by decide +kernel)
  rw [← hwritten] at hspill
  obtain ⟨loaded, -, hrestored⟩ := restored_of_spill (fun _ => 0) Disk.roomy new_twoSlots
    [.allocSlot "c1" 7, .allocSlot "c1" 7] "c1" "c2" (by decide +kernel) hspill (by decide +kernel)
  exact ⟨_, loaded, hrestored⟩

end CheckpointArena

end RocketSurgeon.Worker
