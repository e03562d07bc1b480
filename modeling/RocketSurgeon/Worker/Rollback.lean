import RocketSurgeon.Worker.ArenaHistory

/-!
# Rolling a create back

Before it captures anything, a create takes a snapshot of the arena, and when a layer fails it rolls
back.  The snapshot is the number of free slots; what the rollback frees is every slot under the id
of the checkpoint.  So the arena is as it was if the id was new.  A create under the id of a
checkpoint that is there, such as that of an eager sub-checkpoint of a repeated step back, takes
this checkpoint with it.
-/

namespace RocketSurgeon.Worker

open Lib FMap

namespace CheckpointArena

variable {arena arena' : CheckpointArena} {id other : String} {log log' : List ArenaEvent}

/-- `snapshot`: the number of free slots. -/
def snapshot (arena : CheckpointArena) : ℕ := arena.available

/-- Calls of `alloc_slot` under one id; a call that fails changes nothing. -/
def allocLayers (id : String) : List UInt32 → CheckpointArena → CheckpointArena
  | [], arena => arena
  | layer :: layers, arena =>
      match arena.allocSlot id layer.toNat with
      | .error _ => allocLayers id layers arena
      | .ok (_, arena) => allocLayers id layers arena

/-- The live checkpoints, their slots and the contents of these are the same in two arenas. -/
structure SameCheckpoints (arena arena' : CheckpointArena) : Prop where
  live : ∀ id, (FMap.get arena'.checkpointSlots id).isSome =
    (FMap.get arena.checkpointSlots id).isSome
  untouched : ∀ id, Untouched id arena arena'

/-! ## Allocating under one id -/

lemma allocLayers_rule {P : CheckpointArena → Prop}
    (hstep : ∀ {arena arena' : CheckpointArena} {layer off : ℕ}, P arena →
      arena.allocSlot id layer = .ok (off, arena') → P arena')
    (hP : P arena) (layers : List UInt32) : P (allocLayers id layers arena) := by
  induction layers generalizing arena with
  | nil => exact hP
  | cons layer layers ih =>
    rw [allocLayers]
    cases halloc : arena.allocSlot id layer.toNat with
    | error msg => exact ih hP
    | ok allocated => exact ih (hstep hP halloc)

lemma represents_allocLayers (hrep : arena.Represents log) (layers : List UInt32) :
    ∃ log', (allocLayers id layers arena).Represents log' := by
  refine @allocLayers_rule arena id (fun arena' => ∃ log', arena'.Represents log') ?_ ⟨log, hrep⟩
    layers
  rintro arena arena' layer off ⟨log, hrep⟩ halloc
  exact ⟨_, represents_allocSlot hrep halloc⟩

lemma untouched_allocLayers (hrep : arena.Represents log) (hne : other ≠ id)
    (layers : List UInt32) :
    get (allocLayers id layers arena).checkpointSlots other =
        get arena.checkpointSlots other ∧
      Untouched other arena (allocLayers id layers arena) := by
  have hkept := @allocLayers_rule arena id (fun arena' => (∃ log', arena'.Represents log') ∧
    get arena'.checkpointSlots other = get arena.checkpointSlots other ∧
      Untouched other arena arena') ?_ ⟨⟨log, hrep⟩, rfl, .refl arena⟩ layers
  · exact hkept.2
  · rintro arena₁ arena₂ layer off ⟨⟨log₁, hrep₁⟩, hlive, hsame⟩ halloc
    obtain ⟨slot, -, hslot, hslots, -⟩ := allocSlot_registers halloc
    refine ⟨⟨_, represents_allocSlot hrep₁ halloc⟩, ?_, hsame.trans (hslot.untouched hrep₁ hne)⟩
    rw [hslots, get_insert_of_ne _ _ hne, hlive]

lemma slotSize_allocLayers (layers : List UInt32) (arena : CheckpointArena) :
    (allocLayers id layers arena).slotSize = arena.slotSize := by
  refine @allocLayers_rule arena id (fun arena' => arena'.slotSize = arena.slotSize) ?_ rfl layers
  intro arena₁ arena₂ layer off hsize halloc
  obtain ⟨slot, -, hslot⟩ := allocSlot_spec halloc
  exact hslot.slotSize.trans hsize

/-- A slot that is no longer free belongs to the id. -/
lemma available_allocLayers (layers : List UInt32) (arena : CheckpointArena) :
    (allocLayers id layers arena).available + ((allocLayers id layers arena).slotsOf id).length =
      arena.available + (arena.slotsOf id).length := by
  refine @allocLayers_rule arena id (fun arena' => arena'.available + (arena'.slotsOf id).length =
    arena.available + (arena.slotsOf id).length) ?_ rfl layers
  intro arena₁ arena₂ layer off hcount halloc
  obtain ⟨slot, -, hslot⟩ := allocSlot_spec halloc
  have hfree : arena₁.available = arena₂.available + 1 := by
    rw [available, hslot.freeList, List.length_cons, available]
  rw [hslot.slotsOf_self, List.length_append, List.length_singleton]
  omega

/-! ## Rolling back -/

lemma get_rollback_self (arena : CheckpointArena) (id : String) :
    get (arena.rollback id).checkpointSlots id = none := by
  rw [rollback, checkpointSlots_freeCheckpoint, get_remove_self]

lemma get_rollback_of_ne (arena : CheckpointArena) (hne : other ≠ id) :
    get (arena.rollback id).checkpointSlots other = get arena.checkpointSlots other := by
  rw [rollback, checkpointSlots_freeCheckpoint, get_remove_of_ne _ hne]

lemma untouched_rollback_self (hrep : arena.Represents log) (hrep' : arena'.Represents log')
    (hsize : arena'.slotSize = arena.slotSize) (hnew : get arena.checkpointSlots id = none) :
    Untouched id arena (arena'.rollback id) where
  slotSize := (slotSize_freeCheckpoint arena' id).trans hsize
  slotsOf := by
    rw [rollback, slotsOf_freeCheckpoint_self, slotsOf, hnew]
    rfl
  offsetOf := by
    intro layer
    have hnone : arena.offsetOf id layer = none := by
      rw [Option.eq_none_iff_forall_ne_some]
      intro off hoffset
      obtain ⟨slot, hslot, -⟩ := hrep.owned hoffset
      rw [slotsOf, hnew] at hslot
      cases hslot
    rw [rollback, offsetOf_freeCheckpoint hrep', if_pos rfl, hnone]
  bytes := by
    intro slot hslot
    rw [slotsOf, hnew] at hslot
    cases hslot

/-- The assertion of `rollback`: no fewer slots are free than at the snapshot. -/
theorem snapshot_le_rollback (layers : List UInt32) (arena : CheckpointArena) :
    arena.snapshot ≤ ((allocLayers id layers arena).rollback id).available := by
  have hcount := @available_allocLayers id layers arena
  have hfreed : ((allocLayers id layers arena).rollback id).available =
      ((allocLayers id layers arena).slotsOf id).length + (allocLayers id layers arena).available := by
    rw [rollback, available, freeList_freeCheckpoint, List.length_append, List.length_reverse,
      available]
  rw [snapshot, hfreed]
  omega

/-- **A rollback restores the arena exactly if the id was not live at the snapshot.** -/
theorem rollback_restores_iff (crc32 : List UInt8 → UInt32) {start : CheckpointArena}
    {slotSize numSlots : ℕ} (hnew : CheckpointArena.new slotSize numSlots = .ok start)
    (ops : List ArenaOp) (id : String) (layers : List UInt32) :
    SameCheckpoints (start.run crc32 [] ops).1
        ((allocLayers id layers (start.run crc32 [] ops).1).rollback id) ↔
      FMap.get (start.run crc32 [] ops).1.checkpointSlots id = none := by
  have hrep := (represents_new hnew).run crc32 ops
  generalize (start.run crc32 [] ops).1 = arena at hrep ⊢
  obtain ⟨log', hrep'⟩ := @represents_allocLayers arena id _ hrep layers
  constructor
  · intro hsame
    have hlive := hsame.live id
    rw [get_rollback_self] at hlive
    exact Option.not_isSome_iff_eq_none.mp (by rw [← hlive]; decide)
  · intro hfresh
    refine ⟨fun other => ?_, fun other => ?_⟩
    · by_cases hother : other = id
      · rw [hother, get_rollback_self, hfresh]
      · rw [get_rollback_of_ne _ hother, (untouched_allocLayers hrep hother layers).1]
    · by_cases hother : other = id
      · subst hother
        exact untouched_rollback_self hrep hrep' (slotSize_allocLayers layers arena) hfresh
      · exact (untouched_allocLayers hrep hother layers).2.trans
          (untouched_freeCheckpoint hrep' hother)

/-- A new checkpoint that fails after its first layer. -/
theorem rollback_restores_fresh :
    SameCheckpoints (twoSlots.run (fun _ => 0) [] [.allocSlot "c1" 0]).1
      ((allocLayers "sub-0-1" [0]
        (twoSlots.run (fun _ => 0) [] [.allocSlot "c1" 0]).1).rollback "sub-0-1") :=
  (rollback_restores_iff (fun _ => 0) new_twoSlots [.allocSlot "c1" 0] "sub-0-1" [0]).mpr
    (by decide)

/-- A sub-checkpoint that is made again and fails is lost. -/
theorem not_rollback_restores_again :
    ¬ SameCheckpoints (twoSlots.run (fun _ => 0) [] [.allocSlot "sub-0-1" 0]).1
      ((allocLayers "sub-0-1" [0]
        (twoSlots.run (fun _ => 0) [] [.allocSlot "sub-0-1" 0]).1).rollback "sub-0-1") :=
  fun hsame => absurd (hsame.live "sub-0-1") (by decide)

end CheckpointArena

end RocketSurgeon.Worker
