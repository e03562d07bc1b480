import RocketSurgeon.Lib.Runs
import RocketSurgeon.Worker.CheckpointWrites
import RocketSurgeon.Worker.CreateRule
import RocketSurgeon.Worker.Requests

/-!
# Checkpoints that are in the way

Creates reach the worker from a user, from automatic checkpointing and from backward steps, and it
knows them by their ids only.  Room is made behind a create, never for it: if less than a fifth of
the arena is free afterwards, the oldest checkpoint is spilled, unless it is the new one or not an
automatic one.  So what the others own at the time of a create is not there for it.
-/

namespace RocketSurgeon.Worker

open Lib Protocol CheckpointArena List

variable {T : Type} {arena : CheckpointArena}

/-! ## Who owns the slots -/

/-- The number of slots that checkpoints of one kind own. -/
def CheckpointArena.slotsOwned (arena : CheckpointArena) (kind : String → Bool) : ℕ :=
  ((arena.checkpointSlots.filter fun entry => kind entry.1).map fun entry => entry.2.length).sum

lemma length_owned (owned : List (String × List ℕ)) (kind : String → Bool) :
    (owned.flatMap Prod.snd).length =
      ((owned.filter fun entry => kind entry.1).map fun entry => entry.2.length).sum +
        ((owned.filter fun entry => !kind entry.1).map fun entry => entry.2.length).sum := by
  induction owned with
  | nil => rfl
  | cons entry owned ih =>
    rw [flatMap_cons, length_append, ih, filter_cons, filter_cons]
    cases kind entry.1 with
    | true =>
      simp only [if_true, map_cons, sum_cons, Bool.not_true, Bool.false_eq_true, if_false]
      omega
    | false =>
      simp only [if_true, map_cons, sum_cons, Bool.not_false, Bool.false_eq_true, if_false]
      omega

/-- The slots are the free ones, those of one kind of checkpoints and those of the others. -/
lemma CheckpointArena.Partitioned.count (hpart : arena.Partitioned) (kind : String → Bool) :
    arena.available + (arena.slotsOwned kind + arena.slotsOwned fun id => !kind id) =
      arena.numSlots := by
  have hlen := hpart.slots.length_eq
  rw [length_append, length_range, length_owned _ kind] at hlen
  exact hlen

/-! ## Creates on the worker -/

/-- A create as it reaches the worker, with the Python side as it is then. -/
structure CreateAction (T : Type) where
  bridge : Bridge T
  modelHandle : ℕ
  checkpointId : String
  tier : CreateCheckpointTier
  tickId : ℕ
  layerIdx : ℕ

namespace CreateAction

def answer (st : WorkerState T) (action : CreateAction T) :
    Except String HostCheckpointResponse × WorkerState T :=
  handleHostCheckpoint action.bridge st
    (.create action.modelHandle action.checkpointId action.tier action.tickId action.layerIdx)

def perform (st : WorkerState T) (action : CreateAction T) : WorkerState T := (action.answer st).2

/-- The slots the activations of a create take. -/
def slotsTaken (st : WorkerState T) (action : CreateAction T) : ℕ :=
  (checkpointLayers st.numLayers).countP
    (takesSlot action.bridge (buildLayerContainerMap st.containerPaths))

/-- A create of a user that could be done if the slots of all other kinds of checkpoints were free:
it is admitted, its activations can be captured, and there are enough slots that are not owned by
checkpoints of users. -/
structure Entitled (isUser : String → Bool) (st : WorkerState T) (action : CreateAction T)
    (arena : CheckpointArena) : Prop where
  user : isUser action.checkpointId = true
  admitted : CreateAdmitted st action.modelHandle action.checkpointId arena
  capturable : ∀ layer ∈ checkpointLayers st.numLayers,
    Capturable action.bridge (buildLayerContainerMap st.containerPaths)
      (arena.slotSize - slotHeaderSize) layer
  enough : action.slotsTaken st + arena.slotsOwned isUser ≤ arena.numSlots

/-- Then it succeeds. -/
def NotBlocked (isUser : String → Bool) (st : WorkerState T) (action : CreateAction T) : Prop :=
  ∀ arena, action.Entitled isUser st arena → (action.answer st).1.isOk = true

/-- Then the checkpoints that are not a user's leave it the slots it takes. -/
def LeftRoom (isUser : String → Bool) (st : WorkerState T) (action : CreateAction T) : Prop :=
  ∀ arena, action.Entitled isUser st arena →
    action.slotsTaken st + (arena.slotsOwned isUser + arena.slotsOwned fun id => !isUser id) ≤
      arena.numSlots

variable {st : WorkerState T} {action : CreateAction T}

/-- A create that is admitted and can be captured succeeds exactly if there are slots for it. -/
lemma isOk_answer_iff (hadmitted : CreateAdmitted st action.modelHandle action.checkpointId arena)
    (hcapturable : ∀ layer ∈ checkpointLayers st.numLayers,
      Capturable action.bridge (buildLayerContainerMap st.containerPaths)
      (arena.slotSize - slotHeaderSize) layer) :
    (action.answer st).1.isOk = true ↔ action.slotsTaken st ≤ arena.available := by
  unfold answer slotsTaken
  rcases handleHostCheckpoint_create_cases action.bridge st action.modelHandle action.checkpointId
    action.tier action.tickId action.layerIdx with ⟨hrejected, -⟩ | ⟨other, hother, hcreate⟩
  · exact absurd hadmitted (hrejected arena)
  · obtain rfl : other = arena := Option.some.inj (hother.stored.symm.trans hadmitted.stored)
    rw [hcreate, isOk_map, isOk_createCheckpoint_eq, isOk_captureLayers_iff 0 hcapturable]

lemma notBlocked_iff_leftRoom
    (hpart : ∀ arena, st.checkpointArena = some arena → arena.Partitioned)
    (isUser : String → Bool) :
    action.NotBlocked isUser st ↔ action.LeftRoom isUser st := by
  refine forall_congr' fun arena => imp_congr_right fun hentitled => ?_
  have hcount := (hpart arena hentitled.admitted.stored).count isUser
  rw [isOk_answer_iff hentitled.admitted hentitled.capturable]
  omega

lemma partitioned_perform
    (hpart : ∀ arena, st.checkpointArena = some arena → arena.Partitioned) (action : CreateAction T) :
    ∀ arena, (action.perform st).checkpointArena = some arena → arena.Partitioned := by
  unfold perform answer
  rcases handleHostCheckpoint_create_cases action.bridge st action.modelHandle action.checkpointId
    action.tier action.tickId action.layerIdx with ⟨-, msg, hrejected⟩ | ⟨arena, hadmitted, hcreate⟩
  · rw [hrejected]
    exact hpart
  · rw [hcreate]
    intro created hstored
    obtain rfl : (createCheckpoint action.bridge st action.checkpointId arena).2 = created :=
      Option.some.inj hstored
    -- Who owns which slot does not depend on what is copied where.
    obtain ⟨_, hcreate⟩ : ∃ log' : List ArenaEvent,
        (createCheckpoint action.bridge st action.checkpointId arena).2.Partitioned :=
      @ArenaRule.createCheckpoint T action.bridge action.checkpointId arena [] _
        Partitioned.arenaRule (hpart arena hadmitted.stored) st
        fun _ _ hfilled _ _ => ⟨hfilled.ids, hfilled.slots⟩
    exact hcreate

/-- **Along every run of creates, those of users are not blocked exactly if the other checkpoints
leave them room.** -/
theorem along_notBlocked_iff {start : CheckpointArena} {slotSize numSlots : ℕ}
    (hnew : CheckpointArena.new slotSize numSlots = .ok start)
    (harena : st.checkpointArena = some start) (isUser : String → Bool)
    (actions : List (CreateAction T)) :
    Along perform (fun st action => action.NotBlocked isUser st) st actions ↔
      Along perform (fun st action => action.LeftRoom isUser st) st actions := by
  refine along_iff_of_invariant
    (fun st action hpart => @notBlocked_iff_leftRoom T st action hpart isUser)
    (fun st action hpart _ => partitioned_perform hpart action) (fun arena hstored => ?_) actions
  obtain rfl : start = arena := Option.some.inj (harena.symm.trans hstored)
  exact (represents_new hnew).partitioned

lemma leftRoom_of_all
    (hall : st.checkpointArena.all (fun arena => action.slotsTaken st +
      (arena.slotsOwned isUser + arena.slotsOwned fun id => !isUser id) ≤ arena.numSlots) = true) :
    action.LeftRoom isUser st := by
  intro arena hentitled
  rw [hentitled.admitted.stored] at hall
  exact of_decide_eq_true hall

/-- The ids that are not made up for automatic checkpoints and backward steps. -/
def isUserId (id : String) : Bool := !isAutoId id && !"sub-".toList.isPrefixOf id.toList

/-- A worker that has run a step, with an arena. -/
def withArena (arena : CheckpointArena) : WorkerState Unit :=
  { twoLayerWorker with lastOutputs := some [], checkpointArena := some arena }

def createOf (checkpointId : String) : CreateAction Unit :=
  ⟨withOutputs [0, 0, 0, 0], 1, checkpointId, .activation, 0, 0⟩

def fourSlots : CheckpointArena := { twoSlots with numSlots := 4, freeList := [0, 1, 2, 3] }

/-- The create of a user is done while an automatic checkpoint has slots. -/
theorem along_notBlocked_first :
    Along perform (fun st action => action.NotBlocked isUserId st) (withArena fourSlots)
        [createOf "auto-1", createOf "c1"] ∧
      ((createOf "auto-1").perform (withArena fourSlots)).checkpointArena.map
        (fun arena => arena.slotsOwned fun id => !isUserId id) = some 2 := by
  have hnew : CheckpointArena.new 128 4 = .ok fourSlots := rfl
  refine ⟨(along_notBlocked_iff hnew rfl isUserId _).mpr
    ⟨fun arena hentitled => ?_, leftRoom_of_all (by decide +kernel), trivial⟩, by decide +kernel⟩
  exact absurd hentitled.user (by decide +kernel)

/-- An automatic checkpoint that fills the arena stays in it: a create that comes after it fails,
though nothing of the arena is a user's. -/
theorem not_along_notBlocked_automatic :
    slotsNeeded (withArena twoSlots) = twoSlots.numSlots ∧
      ¬ Along perform (fun st action => action.NotBlocked isUserId st) (withArena twoSlots)
        [createOf "auto-1", createOf "c1"] := by
  refine ⟨by decide +kernel, fun hrun => ?_⟩
  obtain ⟨arena, hstored⟩ := Option.isSome_iff_exists.mp
    (show ((createOf "auto-1").perform (withArena twoSlots)).checkpointArena.isSome = true by
      decide +kernel)
  have hfacts : ((createOf "auto-1").perform (withArena twoSlots)).checkpointArena.all (fun arena =>
      arena.slotSize = 128 ∧ (createOf "c1").slotsTaken ((createOf "auto-1").perform
        (withArena twoSlots)) + arena.slotsOwned isUserId ≤ arena.numSlots) = true := by
    decide +kernel
  rw [hstored] at hfacts
  obtain ⟨hsize, henough⟩ := of_decide_eq_true hfacts
  have hfails : ((createOf "c1").answer ((createOf "auto-1").perform (withArena twoSlots))).1.isOk =
      false := by decide +kernel
  have hentitled : (createOf "c1").Entitled isUserId
      ((createOf "auto-1").perform (withArena twoSlots)) arena := by
    refine ⟨by decide +kernel, ⟨by decide +kernel, by decide +kernel, hstored, by decide +kernel⟩, ?_,
      henough⟩
    intro layer _ path _
    right
    rw [hsize]
    exact ⟨rfl, _, _, _, rfl, rfl, by decide, rfl⟩
  have hsucceeds := hrun.2.1 arena hentitled
  rw [hfails] at hsucceeds
  cases hsucceeds

end CreateAction

end RocketSurgeon.Worker
