import RocketSurgeon.Worker.ArenaHistory
import RocketSurgeon.Worker.CheckpointInvariant

/-!
# A create as calls of the arena

Creating a checkpoint takes slots, fills them, and may give a checkpoint back.  So what these parts
keep (`ArenaRule`), a create keeps; apart from the copy of the random-number state, which nothing
bounds.
-/

namespace RocketSurgeon.Worker

open Lib Protocol CheckpointArena

variable {T : Type} {bridge : Bridge T} {conts : List (ℕ × String)} {ckpt : String}
  {arena : CheckpointArena} {log : List ArenaEvent}

namespace CheckpointArena.ArenaRule

variable {P : CheckpointArena → List ArenaEvent → Prop} (rule : ArenaRule P)

include rule

lemma captureLayer (hP : P arena log) (layer : ℕ) (path : String) :
    ∃ log', P (Worker.captureLayer bridge ckpt layer path arena).2 log' := by
  unfold Worker.captureLayer
  split
  · exact ⟨log, hP⟩
  next off arena₁ halloc =>
    obtain ⟨slot, hoffset, htook⟩ := allocSlot_spec halloc
    rw [← htook.slotSize] at hoffset
    subst hoffset
    have htaken := rule.allocSlot hP halloc
    split
    · exact ⟨_, htaken⟩
    next hcap =>
      have hwritten := rule.writeData htaken slot (length_captureActivation hcap)
      split
      · exact ⟨_, rule.updateHeader hwritten slot _⟩
      · exact ⟨_, hwritten⟩

lemma captureLayers (hP : P arena log) (layers : List ℕ) (total : ℕ) :
    ∃ log', P (Worker.captureLayers bridge conts ckpt layers arena total).2
      log' := by
  induction layers generalizing arena log total with
  | nil => exact ⟨log, hP⟩
  | cons layer layers ih =>
    unfold Worker.captureLayers
    split
    · exact ih hP total
    next path _ =>
      split
      · exact ⟨log, hP⟩
      · exact ih hP total
      · obtain ⟨log', htaken⟩ := @captureLayer T bridge ckpt arena log P rule hP layer path
        split
        next hfail =>
          rw [hfail] at htaken
          exact ⟨log', htaken⟩
        next hcap =>
          rw [hcap] at htaken
          exact ih htaken _

/-- Storing the random-number state keeps what its copy into the slot keeps. -/
lemma captureRng (hP : P arena log)
    (hcopied : ∀ {filled log'} slot rngBytes, P filled log' → filled.slotSize = arena.slotSize →
      bridge.captureRngState = .ok rngBytes →
        P (filled.writeData (slot * filled.slotSize) rngBytes) log') :
    ∃ log', P (Worker.captureRng bridge ckpt arena) log' := by
  unfold Worker.captureRng
  split
  · exact ⟨log, hP⟩
  next rngBytes hrng =>
    split
    · exact ⟨log, hP⟩
    next off arena₁ halloc =>
      obtain ⟨slot, hoffset, htook⟩ := allocSlot_spec halloc
      rw [← htook.slotSize] at hoffset
      subst hoffset
      have hheaded := rule.updateHeader (rule.allocSlot hP halloc) slot
        ⟨.float32, 1, rngBytes.length :: List.replicate 5 0, rngBytes.length⟩
      exact ⟨_, hcopied slot rngBytes hheaded htook.slotSize hrng⟩

lemma spillOldest (hP : P arena log) :
    ∃ log', P (Worker.spillOldest bridge ckpt arena) log' := by
  rcases spillOldest_cases bridge ckpt arena with hsame | ⟨oldest, -, hfreed⟩
  · rw [hsame]
    exact ⟨log, hP⟩
  · rw [hfreed]
    exact ⟨_, rule.freeCheckpoint hP oldest⟩

end CheckpointArena.ArenaRule

lemma slotSize_captureLayers (bridge : Bridge T) (conts : List (ℕ × String))
    (ckpt : String) (layers : List ℕ) (arena : CheckpointArena) (total : ℕ) :
    (captureLayers bridge conts ckpt layers arena total).2.slotSize =
      arena.slotSize := by
  obtain ⟨_, hsize, -⟩ := @ArenaRule.captureLayers T bridge conts ckpt arena [] _
    (geometryRule arena.slotSize arena.numSlots) ⟨rfl, rfl⟩ layers total
  exact hsize

namespace CheckpointArena.ArenaRule

variable {P : CheckpointArena → List ArenaEvent → Prop} (rule : ArenaRule P)

include rule

/-- **A create keeps what the parts of every call keep**, if the copy of the random-number state
does. -/
theorem createCheckpoint (hP : P arena log) (st : WorkerState T)
    (hcopied : ∀ {filled log'} slot rngBytes, P filled log' → filled.slotSize = arena.slotSize →
      bridge.captureRngState = .ok rngBytes →
        P (filled.writeData (slot * filled.slotSize) rngBytes) log') :
    ∃ log', P (Worker.createCheckpoint bridge st ckpt arena).2 log' := by
  obtain ⟨log₁, hcap⟩ : ∃ log', P (Worker.captureLayers bridge
      (buildLayerContainerMap st.containerPaths) ckpt (checkpointLayers st.numLayers) arena
      0).2 log' := rule.captureLayers hP _ 0
  have hsize := slotSize_captureLayers bridge (buildLayerContainerMap st.containerPaths) ckpt
    (checkpointLayers st.numLayers) arena 0
  unfold Worker.createCheckpoint
  dsimp only
  split
  next hfail =>
    rw [hfail] at hcap
    exact ⟨_, rule.freeCheckpoint hcap ckpt⟩
  next hok =>
    rw [hok] at hcap hsize
    obtain ⟨log₂, hrng⟩ := rule.captureRng hcap fun slot rngBytes hfilled hsame hrng =>
      hcopied slot rngBytes hfilled (hsame.trans hsize) hrng
    exact rule.spillOldest hrng

end CheckpointArena.ArenaRule

end RocketSurgeon.Worker
