import RocketSurgeon.Lib.FiniteMap
import RocketSurgeon.Probes.Grammar
import RocketSurgeon.Protocol.Types

/-!
# The probe registry

Probe definitions by id, each with its parsed point and the sequence number of the
`define` that created it.  `list` orders them by priority and sequence number.
-/

namespace RocketSurgeon.Probes

open Lib Protocol

variable {registry : ProbeRegistry} {failure : RegistryError}

inductive RegistryError
  | notFound (id : String)
  | duplicateId (id : String)
  | invalidPoint (point : String)
  deriving DecidableEq, Repr

structure StoredProbe where
  definition : ProbeDefinition
  parsedPoint : ProbePoint
  seq : ℕ
  deriving DecidableEq, Repr

structure ProbeRegistry where
  probes : List (String × StoredProbe)
  nextSeq : ℕ
  deriving DecidableEq, Repr

namespace ProbeRegistry

def new : ProbeRegistry := ⟨[], 0⟩

/-- The order of `list`: priority, then sequence number. -/
def before (a b : StoredProbe) : Bool :=
  a.definition.priority < b.definition.priority ||
    a.definition.priority = b.definition.priority && a.seq ≤ b.seq

def list (registry : ProbeRegistry) : List ProbeDefinition :=
  ((registry.probes.map Prod.snd).insertionSort (before · · = true)).map StoredProbe.definition

def define (registry : ProbeRegistry) (probe : ProbeDefinition) :
    Except RegistryError String × ProbeRegistry :=
  if (FMap.get registry.probes probe.id).isSome then (.error (.duplicateId probe.id), registry)
  else
    match ProbePoint.parse probe.point with
    | none => (.error (.invalidPoint probe.point), registry)
    | some point =>
        (.ok probe.id, {
          probes := FMap.insert registry.probes probe.id ⟨probe, point, registry.nextSeq⟩
          nextSeq := registry.nextSeq + 1 })

/-- `enable` and `disable`. -/
def setEnabled (registry : ProbeRegistry) (id : String) (enabled : Bool) :
    Except RegistryError ProbeDefinition × ProbeRegistry :=
  match FMap.get registry.probes id with
  | none => (.error (.notFound id), registry)
  | some stored =>
      let definition := { stored.definition with enabled }
      (.ok definition,
        { registry with probes := FMap.insert registry.probes id { stored with definition } })

def enable (registry : ProbeRegistry) (id : String) :
    Except RegistryError ProbeDefinition × ProbeRegistry :=
  registry.setEnabled id true

def disable (registry : ProbeRegistry) (id : String) :
    Except RegistryError ProbeDefinition × ProbeRegistry :=
  registry.setEnabled id false

def remove (registry : ProbeRegistry) (id : String) :
    Except RegistryError ProbeDefinition × ProbeRegistry :=
  match FMap.get registry.probes id with
  | none => (.error (.notFound id), registry)
  | some stored => (.ok stored.definition,
      { registry with probes := FMap.remove registry.probes id })

/-- The ids of the enabled probes, in no particular order. -/
def activeProbeIds (registry : ProbeRegistry) : List String :=
  ((registry.probes.map Prod.snd).filter fun stored => stored.definition.enabled).map fun stored =>
    stored.definition.id

/-! A failed call leaves the registry as it was. -/

lemma define_of_error (hfail : (registry.define probe).1 = .error failure) :
    (registry.define probe).2 = registry := by
  unfold define at hfail ⊢
  split
  · rfl
  next hnew =>
    rw [if_neg hnew] at hfail
    split
    · rfl
    next hpoint =>
      rw [hpoint] at hfail
      cases hfail

lemma setEnabled_of_error {id : String}
    (hfail : (registry.setEnabled id enabled).1 = .error failure) :
    (registry.setEnabled id enabled).2 = registry := by
  unfold setEnabled at hfail ⊢
  split
  · rfl
  next hfound =>
    rw [hfound] at hfail
    cases hfail

lemma remove_of_error {id : String} (hfail : (registry.remove id).1 = .error failure) :
    (registry.remove id).2 = registry := by
  unfold remove at hfail ⊢
  split
  · rfl
  next hfound =>
    rw [hfound] at hfail
    cases hfail

end ProbeRegistry

end RocketSurgeon.Probes
