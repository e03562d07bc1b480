import RocketSurgeon.Lib.StableSort
import RocketSurgeon.Probes.Registry

/-!
# The definitions of a registry

A registry stands for the list of probe definitions in the order they were made.  `define` puts
one at its end, `enable` and `disable` change one in its place and `remove` takes one out; `list`
is that list sorted by priority, where probes of one priority keep their order.

For the registry that the code keeps, with its sequence numbers, this rests on `Sound`.
-/

namespace RocketSurgeon.Probes

open Lib Protocol List FMap

variable {id : String}

namespace ProbeRegistry

variable {registry : ProbeRegistry}

/-- A registry built by its operations: one entry for an id, numbered by its `define`. -/
structure Sound (registry : ProbeRegistry) : Prop where
  keys : (registry.probes.map Prod.fst).Nodup
  seqs : ((registry.probes.map Prod.snd).map StoredProbe.seq).Nodup
  fresh : ∀ entry ∈ registry.probes, entry.2.seq < registry.nextSeq
  ids : ∀ entry ∈ registry.probes, entry.2.definition.id = entry.1
  points : ∀ entry ∈ registry.probes,
    ProbePoint.parse entry.2.definition.point = some entry.2.parsedPoint

/-- The definitions in the order they were made. -/
def defined (registry : ProbeRegistry) : List ProbeDefinition :=
  (sortOn StoredProbe.seq (registry.probes.map Prod.snd)).map StoredProbe.definition

lemma mem_defined :
    probe ∈ registry.defined ↔ ∃ entry ∈ registry.probes, entry.2.definition = probe := by
  unfold defined
  rw [mem_map]
  constructor
  · rintro ⟨stored, hstored, hprobe⟩
    obtain ⟨entry, hentry, rfl⟩ := mem_map.mp (mem_sortOn.mp hstored)
    exact ⟨entry, hentry, hprobe⟩
  · rintro ⟨entry, hentry, hprobe⟩
    exact ⟨entry.2, mem_sortOn.mpr (mem_map_of_mem hentry), hprobe⟩

lemma sound_new : Sound new where
  keys := nodup_nil
  seqs := nodup_nil
  fresh := forall_mem_nil _
  ids := forall_mem_nil _
  points := forall_mem_nil _

/-! ## The operations -/

lemma define_cases (registry : ProbeRegistry) (probe : ProbeDefinition) :
    (∃ failure, registry.define probe = (.error failure, registry)) ∨
    ∃ point, FMap.get registry.probes probe.id = none ∧
      ProbePoint.parse probe.point = some point ∧
      registry.define probe = (.ok probe.id,
        ⟨(probe.id, ⟨probe, point, registry.nextSeq⟩) :: registry.probes, registry.nextSeq + 1⟩) := by
  unfold define
  split
  · exact .inl ⟨_, rfl⟩
  next hnew =>
    have hnew : FMap.get registry.probes probe.id = none := by simpa using hnew
    split
    · exact .inl ⟨_, rfl⟩
    next point hpoint =>
      refine .inr ⟨point, hnew, hpoint, ?_⟩
      rw [FMap.insert, remove_eq_self hnew]

lemma setEnabled_cases (registry : ProbeRegistry) (id : String) (enabled : Bool) :
    (∃ failure, registry.setEnabled id enabled = (.error failure, registry)) ∨
    ∃ stored, FMap.get registry.probes id = some stored ∧
      registry.setEnabled id enabled = (.ok { stored.definition with enabled }, { registry with
        probes := FMap.insert registry.probes id
          { stored with definition := { stored.definition with enabled } } }) := by
  unfold setEnabled
  split
  · exact .inl ⟨_, rfl⟩
  next stored hstored => exact .inr ⟨stored, hstored, rfl⟩

lemma remove_cases (registry : ProbeRegistry) (id : String) :
    (∃ failure, registry.remove id = (.error failure, registry)) ∨
    ∃ stored, FMap.get registry.probes id = some stored ∧
      registry.remove id = (.ok stored.definition,
        { registry with probes := FMap.remove registry.probes id }) := by
  unfold remove
  split
  · exact .inl ⟨_, rfl⟩
  next stored hstored => exact .inr ⟨stored, hstored, rfl⟩

lemma Sound.define (hwf : registry.Sound) (probe : ProbeDefinition) :
    (registry.define probe).2.Sound := by
  rcases define_cases registry probe with ⟨failure, hfail⟩ | ⟨point, hnew, hpoint, hdefined⟩
  · rw [hfail]
    exact hwf
  · rw [hdefined]
    refine ⟨nodup_cons.mpr ⟨get_eq_none_iff.mp hnew, hwf.keys⟩,
      nodup_cons.mpr ⟨?_, hwf.seqs⟩, ?_, ?_, ?_⟩
    · intro hmem
      obtain ⟨stored, hstored, hseq⟩ := mem_map.mp hmem
      obtain ⟨entry, hentry, rfl⟩ := mem_map.mp hstored
      exact (hwf.fresh entry hentry).ne hseq
    · exact forall_mem_cons.mpr ⟨Nat.lt_succ_self _,
        fun entry hentry => Nat.lt_succ_of_lt (hwf.fresh entry hentry)⟩
    · exact forall_mem_cons.mpr ⟨rfl, hwf.ids⟩
    · exact forall_mem_cons.mpr ⟨hpoint, hwf.points⟩

lemma perm_stored (hwf : registry.Sound) (hget : FMap.get registry.probes id = some stored) :
    (registry.probes.map Prod.snd).Perm
      (stored :: (FMap.remove registry.probes id).map Prod.snd) :=
  (perm_remove hwf.keys hget).map Prod.snd

lemma mem_of_mem_remove (hmem : entry ∈ FMap.remove registry.probes id) :
    entry ∈ registry.probes :=
  (mem_filter.mp hmem).1

lemma Sound.setEnabled (hwf : registry.Sound) (id : String) (enabled : Bool) :
    (registry.setEnabled id enabled).2.Sound := by
  rcases setEnabled_cases registry id enabled with ⟨failure, hfail⟩ | ⟨stored, hget, hset⟩
  · rw [hfail]
    exact hwf
  · rw [hset]
    have hstored := mem_of_get hget
    refine ⟨nodup_keys_insert hwf.keys _ _, ?_, ?_, ?_, ?_⟩
    · exact (((perm_stored hwf hget).map StoredProbe.seq).nodup_iff.mp hwf.seqs)
    · exact forall_mem_cons.mpr ⟨hwf.fresh (id, stored) hstored,
        fun entry hentry => hwf.fresh entry (mem_of_mem_remove hentry)⟩
    · exact forall_mem_cons.mpr ⟨hwf.ids (id, stored) hstored,
        fun entry hentry => hwf.ids entry (mem_of_mem_remove hentry)⟩
    · exact forall_mem_cons.mpr ⟨hwf.points (id, stored) hstored,
        fun entry hentry => hwf.points entry (mem_of_mem_remove hentry)⟩

lemma Sound.remove (hwf : registry.Sound) (id : String) : (registry.remove id).2.Sound := by
  rcases remove_cases registry id with ⟨failure, hfail⟩ | ⟨stored, hget, hremoved⟩
  · rw [hfail]
    exact hwf
  · rw [hremoved]
    have hseqs := ((perm_stored hwf hget).map StoredProbe.seq).nodup_iff.mp hwf.seqs
    exact ⟨nodup_keys_retain hwf.keys (· ≠ id), (nodup_cons.mp hseqs).2,
      fun entry hentry => hwf.fresh entry (mem_of_mem_remove hentry),
      fun entry hentry => hwf.ids entry (mem_of_mem_remove hentry),
      fun entry hentry => hwf.points entry (mem_of_mem_remove hentry)⟩

/-! ## What they do to the definitions -/

lemma nodup_stored (hwf : registry.Sound) : (registry.probes.map Prod.snd).Nodup :=
  hwf.seqs.of_map

/-! ## Listing -/

lemma nodup_ids_defined (hwf : registry.Sound) :
    (registry.defined.map ProbeDefinition.id).Nodup := by
  have hids : (registry.defined.map ProbeDefinition.id).Perm (registry.probes.map Prod.fst) := by
    have hsame : (registry.probes.map Prod.snd).map (fun stored => stored.definition.id) =
        registry.probes.map Prod.fst := by
      rw [map_map]
      exact map_congr_left fun entry hentry => hwf.ids entry hentry
    unfold defined
    rw [map_map, ← hsame]
    exact (perm_sortOn _ _).map _
  exact hids.nodup_iff.mpr hwf.keys

lemma before_iff :
    before a b = true ↔ a.definition.priority < b.definition.priority ∨
      a.definition.priority = b.definition.priority ∧ a.seq ≤ b.seq := by
  simp [before]

instance transBefore : IsTrans StoredProbe (before · · = true) where
  trans a b c hab hbc := by
    rw [before_iff] at hab hbc ⊢
    omega

instance totalBefore : Std.Total (before · · = true : StoredProbe → StoredProbe → Prop) where
  total a b := by
    rw [before_iff, before_iff]
    omega

/-- `list` sorts by priority, and probes of one priority in the order they were defined. -/
lemma list_eq_sortOn (hwf : registry.Sound) :
    registry.list = sortOn ProbeDefinition.priority registry.defined := by
  let placed := sortOn StoredProbe.seq (registry.probes.map Prod.snd)
  have hplaced : placed.Nodup := (perm_sortOn _ _).nodup_iff.mpr (nodup_stored hwf)
  have hsorted : (registry.probes.map Prod.snd).insertionSort (before · · = true) =
      sortOn (fun stored => stored.definition.priority) placed := by
    have hperm := perm_insertionSort (before · · = true) (registry.probes.map Prod.snd)
    refine (eq_sortOn_iff hplaced (hperm.trans (perm_sortOn _ _).symm)).mpr ?_
    have hsorted := pairwise_insertionSort (before · · = true) (registry.probes.map Prod.snd)
    have hnodup := hperm.nodup_iff.mpr (nodup_stored hwf)
    refine (hsorted.and hnodup).imp_of_mem fun {a b} ha hb hab => ?_
    refine (before_iff.mp hab.1).imp id fun h => ⟨h.1, ?_⟩
    -- The sequence numbers are distinct, so the smaller one has the earlier place.
    have hmem : ∀ {stored}, stored ∈ _ → stored ∈ placed := fun h => mem_sortOn.mpr (hperm.mem_iff.mp h)
    refine (pair_sublist_or (hmem ha) (hmem hb) hab.2).resolve_right fun hba => ?_
    have hlt := pairwise_iff_forall_sublist.mp (pairwise_lt_sortOn hwf.seqs) hba
    exact h.2.not_gt hlt
  unfold list defined
  rw [hsorted, map_sortOn StoredProbe.definition]

lemma filter_list (hwf : registry.Sound) (keep : ProbeDefinition → Bool) :
    registry.list.filter keep = sortOn ProbeDefinition.priority (registry.defined.filter keep) := by
  rw [list_eq_sortOn hwf, filter_sortOn keep (nodup_ids_defined hwf).of_map]

end ProbeRegistry

end RocketSurgeon.Probes
