import RocketSurgeon.Worker.Adapter
import RocketSurgeon.Worker.Step

/-!
# Module calls and their components

The index from module calls to components is built when a model is attached, and every component
is entered with call index zero.  A hook counts the calls of its module during a pass, so that the
first call of a module is found in the index and a repeated one never is: it counts as a raw
module of layer zero.
-/

namespace RocketSurgeon.Worker

open Lib List

variable {T : Type} {st : WorkerState T} {map : ComponentMap} {path : String} {callIndex : ℕ}

/-! ## The index -/

lemma exists_lookupComponent (hmap : st.componentMap = some map)
    (hindex : st.componentIndex = WorkerState.buildComponentIndex map)
    (hmem : ∃ comp ∈ map.components, comp.modulePath = path ∧ comp.callIndex = callIndex) :
    ∃ comp ∈ map.components, comp.modulePath = path ∧ comp.callIndex = callIndex ∧
      st.lookupComponent path callIndex = (comp.canonical, comp.layerIndex.getD 0) := by
  have hentry : ∃ entry ∈ map.components.zipIdx,
      (entry.1.modulePath, entry.1.callIndex) = (path, callIndex) := by
    obtain ⟨comp, hcomp, hpath, hcall⟩ := hmem
    obtain ⟨idx, hidx, hget⟩ := getElem_of_mem hcomp
    refine ⟨(comp, idx), mem_zipIdx_iff_getElem?.mpr ?_, by rw [hpath, hcall]⟩
    rw [getElem?_eq_getElem hidx, hget]
  obtain ⟨⟨comp, idx⟩, hmem, hkey, hget⟩ := FMap.exists_get_foldl_insert
    (fun entry : MappedComponent × ℕ => (entry.1.modulePath, entry.1.callIndex)) Prod.snd hentry []
  have hidx : map.components[idx]? = some comp := mem_zipIdx_iff_getElem?.mp hmem
  obtain ⟨hpath, hcall⟩ := Prod.mk.inj hkey
  refine ⟨comp, mem_of_getElem? hidx, hpath, hcall, ?_⟩
  unfold WorkerState.lookupComponent
  rw [hindex, hmap, WorkerState.buildComponentIndex, hget]
  simp [hidx]

lemma lookupComponent_of_forall_ne
    (hindex : st.componentIndex = WorkerState.buildComponentIndex map)
    (hnone : ∀ comp ∈ map.components, comp.modulePath = path → comp.callIndex ≠ callIndex) :
    st.lookupComponent path callIndex = ("_raw." ++ path, 0) := by
  have hget : FMap.get st.componentIndex (path, callIndex) = none := by
    rw [hindex, WorkerState.buildComponentIndex, FMap.get_foldl_insert_of_ne]
    · rfl
    · rintro ⟨comp, idx⟩ hmem hkey
      obtain ⟨hpath, hcall⟩ := Prod.mk.inj hkey
      have hidx : map.components[idx]? = some comp := mem_zipIdx_iff_getElem?.mp hmem
      exact hnone comp (mem_of_getElem? hidx) hpath hcall
  unfold WorkerState.lookupComponent
  rw [hget]
  rfl

/-- Every component is entered with call index zero, and its layer is read from its path. -/
lemma component_of_resolve
    (hresolve : resolveWithContainers modules config rank = .ok (map, containers))
    (hcomp : comp ∈ map.components) :
    comp.callIndex = 0 ∧ comp.layerIndex = extractLayerIndex comp.modulePath := by
  obtain ⟨decl, -, -, hcomponents⟩ := resolveWithContainers_eq_ok hresolve
  rw [hcomponents] at hcomp
  obtain ⟨module, -, hmodule⟩ := mem_filterMap.mp hcomp
  obtain ⟨canon, rfl, -⟩ := resolveModule_eq_some hmodule
  exact ⟨rfl, rfl⟩

/-! ## Ticks of module calls -/

/-- The tick of a call has the name and the layer of every component of its module, and the index
of the call. -/
def KeepsComponent (map : ComponentMap) (st : WorkerState T) (progress : PassProgress T)
    (event : HookEvent T) : Prop :=
  ∀ comp ∈ map.components, comp.modulePath = event.path →
    (progress.receive st event).tick.component = comp.canonical ∧
      (progress.receive st event).tick.layer = comp.layerIndex.getD 0 ∧
      (progress.receive st event).tick.callIndex = event.callIndex

/-- The components of a module have one name. -/
def OneName (map : ComponentMap) (path : String) : Prop :=
  ∀ comp ∈ map.components, comp.modulePath = path →
    ∀ other ∈ map.components, other.modulePath = path → comp.canonical = other.canonical

/-- The components of a module are raw ones of layer zero. -/
def RawInLayerZero (map : ComponentMap) (path : String) : Prop :=
  ∀ comp ∈ map.components, comp.modulePath = path →
    comp.canonical = "_raw." ++ path ∧ comp.layerIndex.getD 0 = 0

section Attached

variable {modules : List RawModule} {config : ModelConfig} {rank : ℕ} {containers : List String}
  {executionOrder : List (String × ℕ)} {event : HookEvent T}

section Calls

variable (hresolve : resolveWithContainers modules config rank = .ok (map, containers))
  (hindex : st.componentIndex =
    WorkerState.buildComponentIndex (applyExecutionOrder map executionOrder))
  (progress : PassProgress T)

include hresolve hindex

/-- A first call is found under one of the components of its module. -/
lemma keepsComponent_first_iff
    (hmap : st.componentMap = some (applyExecutionOrder map executionOrder))
    (hmapped : ∃ comp ∈ map.components, comp.modulePath = event.path)
    (hfirst : event.callIndex = 0) :
    KeepsComponent map st progress event ↔ OneName map event.path := by
  have hlayers : ∀ comp ∈ map.components, comp.layerIndex = extractLayerIndex comp.modulePath :=
    fun comp hcomp => (component_of_resolve hresolve hcomp).2
  obtain ⟨found, hfound, hpath, -, hlookup⟩ := exists_lookupComponent hmap hindex
    (by
      obtain ⟨comp, hcomp, hpath⟩ := hmapped
      exact ⟨comp, mem_applyExecutionOrder.mpr hcomp, hpath,
        (component_of_resolve hresolve hcomp).1.trans hfirst.symm⟩)
  rw [mem_applyExecutionOrder] at hfound
  have hname : (progress.receive st event).tick.component = found.canonical :=
    congrArg Prod.fst hlookup
  have hlayer : (progress.receive st event).tick.layer = found.layerIndex.getD 0 :=
    congrArg Prod.snd hlookup
  constructor
  · intro hkeeps comp hcomp hcompPath other hother hotherPath
    exact (hkeeps comp hcomp hcompPath).1.symm.trans (hkeeps other hother hotherPath).1
  · intro hone comp hcomp hcompPath
    refine ⟨hname.trans (hone found hfound hpath comp hcomp hcompPath), ?_, rfl⟩
    rw [hlayer, hlayers found hfound, hlayers comp hcomp, hpath, hcompPath]

/-- A later call is found under no component, as all of them are first calls. -/
lemma keepsComponent_repeated_iff (hrepeated : event.callIndex ≠ 0) :
    KeepsComponent map st progress event ↔ RawInLayerZero map event.path := by
  have hlookup := @lookupComponent_of_forall_ne T st _ event.path event.callIndex hindex
    (by
      intro comp hcomp _ hcall
      rw [mem_applyExecutionOrder] at hcomp
      exact hrepeated (hcall.symm.trans (component_of_resolve hresolve hcomp).1))
  have hname : (progress.receive st event).tick.component = "_raw." ++ event.path :=
    congrArg Prod.fst hlookup
  have hlayer : (progress.receive st event).tick.layer = 0 := congrArg Prod.snd hlookup
  refine forall_congr' fun comp => imp_congr_right fun _ => imp_congr_right fun _ => ?_
  rw [hname, hlayer]
  constructor
  · rintro ⟨hcanonical, hzero, -⟩
    exact ⟨hcanonical.symm, hzero.symm⟩
  · rintro ⟨hcanonical, hzero⟩
    exact ⟨hcanonical.symm, hzero.symm, rfl⟩

end Calls

/-- **The tick of a call has the component of its module exactly if it is the first call and the
components of the module have one name, or the module is a raw one of layer zero anyway.** -/
theorem keepsComponent_iff
    (hresolve : resolveWithContainers modules config rank = .ok (map, containers))
    (hmap : st.componentMap = some (applyExecutionOrder map executionOrder))
    (hindex : st.componentIndex =
      WorkerState.buildComponentIndex (applyExecutionOrder map executionOrder))
    (hmapped : ∃ comp ∈ map.components, comp.modulePath = event.path)
    (progress : PassProgress T) :
    KeepsComponent map st progress event ↔
      (event.callIndex = 0 → OneName map event.path) ∧
        (event.callIndex ≠ 0 → RawInLayerZero map event.path) := by
  by_cases hfirst : event.callIndex = 0
  · rw [keepsComponent_first_iff hresolve hindex progress hmap hmapped hfirst]
    simp [hfirst]
  · rw [keepsComponent_repeated_iff hresolve hindex progress hfirst]
    simp [hfirst]

end Attached

/-! ### A projection of the second layer -/

def secondLayerQuery : RawModule := ⟨"model.layers.1.self_attn.q_proj", "Linear", "q_proj"⟩

def queryMap : ComponentMap where
  components := [mappedComponent "llama" 0 secondLayerQuery "q_proj"]
  modelFamily := "llama"

lemma resolve_secondLayerQuery :
    resolveWithContainers [secondLayerQuery] ⟨"llama", 2, 1, 8, none⟩ 0 =
      .ok (queryMap, []) := by
  decide

def queryWorker : WorkerState Unit :=
  attachModel WorkerState.new { twoLayerModel with
    componentMap := applyExecutionOrder queryMap [] }

def queryCall (callIndex : ℕ) : HookEvent Unit :=
  { path := "model.layers.1.self_attn.q_proj", callIndex, output := none }

theorem keepsComponent_first_call :
    KeepsComponent queryMap queryWorker ⟨TickState.new 0, none, [], []⟩
      (queryCall 0) := by
  have hmap : queryWorker.componentMap = some (applyExecutionOrder queryMap []) := rfl
  refine (keepsComponent_iff resolve_secondLayerQuery hmap rfl ?_ _).mpr ⟨fun _ => ?_, ?_⟩
  · exact ⟨_, mem_singleton_self _, rfl⟩
  · intro comp hcomp _ other hother _
    rw [mem_singleton.mp hcomp, mem_singleton.mp hother]
  · intro hrepeated
    exact absurd rfl hrepeated

/-- The second call of the module counts for layer zero, under another name. -/
theorem not_keepsComponent_second_call :
    ¬ KeepsComponent queryMap queryWorker ⟨TickState.new 0, none, [], []⟩
        (queryCall 1) ∧
      (PassProgress.receive queryWorker ⟨TickState.new 0, none, [], []⟩
        (queryCall 1)).tick.component = "_raw.model.layers.1.self_attn.q_proj" ∧
      (PassProgress.receive queryWorker ⟨TickState.new 0, none, [], []⟩
        (queryCall 1)).tick.layer = 0 := by
  have htick : (PassProgress.receive queryWorker ⟨TickState.new 0, none, [], []⟩
        (queryCall 1)).tick.component = "_raw.model.layers.1.self_attn.q_proj" ∧
      (PassProgress.receive queryWorker ⟨TickState.new 0, none, [], []⟩
        (queryCall 1)).tick.layer = 0 := by
    decide +kernel
  refine ⟨fun hkeeps => ?_, htick⟩
  obtain ⟨-, hlayer, -⟩ := hkeeps _ (mem_singleton_self _) rfl
  exact absurd hlayer (by decide +kernel)

end RocketSurgeon.Worker
