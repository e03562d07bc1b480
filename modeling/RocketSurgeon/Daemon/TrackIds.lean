import RocketSurgeon.Daemon.TraceReferences

/-!
# Identifiers of tracks

A layer numbers its components in the order they are declared in, so two components share no index,
and tracks of different kinds or places differ in the other bits of their numbers.  An index is used
up even if its track cannot be written; then the component gets another one with its next declaration.
-/

namespace RocketSurgeon.Daemon.PerfettoSink

open Lib Protocol Fallible FMap

variable {disk : ℕ → Bool}

/-! ## What leaves the components alone -/

/-- An invariant about the components only. -/
def Framed (inv : PerfettoSink → Prop) : Prop :=
  ∀ ⦃sink sink'⦄, inv sink → sink'.componentUuids = sink.componentUuids →
    sink'.componentIndex = sink.componentIndex → inv sink'

section Framed

variable {inv : PerfettoSink → Prop} (hframed : Framed inv)

include hframed

lemma Framed.frame : Frame inv where
  congr hinv hsame := hframed hinv hsame.componentUuids hsame.componentIndex
  still hinv _ := hframed hinv rfl rfl

lemma Framed.writePacket (packet : TracePacket) : Keeps inv (writePacket disk packet) := by
  refine Keeps.get.bind fun sink => hframed.frame.modify_bind (fun _ => ⟨⟨rfl, rfl⟩, rfl, rfl⟩) ?_
  split
  · exact .modify fun _ hinv => hframed hinv rfl rfl
  · exact .throw _

lemma Framed.drawSlice (rank : ℕ) (displayName : String) (track : ℕ) :
    Keeps inv (drawSlice disk rank displayName track) := by
  refine (keeps_asserted _).bind fun seq => Keeps.bind ?_ fun _ => ?_
  · refine Keeps.get.bind fun sink => ?_
    split
    · exact .pure _
    · refine Keeps.bind (.modify fun _ hinv => hframed hinv rfl rfl) fun _ => ?_
      exact hframed.writePacket _
  · refine (hframed.frame.internName rank displayName).bind fun nameIid => ?_
    exact (hframed.writePacket _).bind fun _ => .modify fun _ hinv => hframed hinv rfl rfl

end Framed

/-! ## Numbers of components -/

/-- The components have numbers of their own, made of indices up to the last one of their layer, and
those of `before` have the same as there. -/
structure Numbered (before sink : PerfettoSink) : Prop where
  kept : ∀ {key uuid}, FMap.get before.componentUuids key = some uuid →
    FMap.get sink.componentUuids key = some uuid
  indexed : ∀ {rank layer name uuid}, FMap.get sink.componentUuids (rank, layer, name) = some uuid →
    ∃ index last, componentUuid rank layer index = .ok uuid ∧
      FMap.get sink.componentIndex (rank, layer) = some last ∧ index ≤ last ∧ last < 2 ^ 32
  distinct : ∀ {key key' uuid}, FMap.get sink.componentUuids key = some uuid →
    FMap.get sink.componentUuids key' = some uuid → key = key'

lemma framed_numbered (before : PerfettoSink) : Framed (Numbered before) := by
  intro sink sink' hnum huuids hindex
  constructor
  · rw [huuids]
    exact hnum.kept
  · rw [huuids, hindex]
    exact hnum.indexed
  · rw [huuids]
    exact hnum.distinct

/-- The component has no track, and neither has the last index of its layer. -/
structure HasNext (before : PerfettoSink) (rank layer : ℕ) (name : String) (index : ℕ)
    (sink : PerfettoSink) : Prop where
  numbered : Numbered before sink
  absent : FMap.get sink.componentUuids (rank, layer, name) = none
  last : FMap.get sink.componentIndex (rank, layer) = some index
  fits : index < 2 ^ 32
  fresh : ∀ {key uuid}, componentUuid rank layer index = .ok uuid →
    FMap.get sink.componentUuids key ≠ some uuid

lemma Numbered.next (hnum : Numbered before sink)
    (habsent : FMap.get sink.componentUuids (rank, layer, name) = none) (hfits : index < 2 ^ 32)
    (hlast : ∀ last, FMap.get sink.componentIndex (rank, layer) = some last → last < index) :
    HasNext before rank layer name index
      { sink with componentIndex := FMap.insert sink.componentIndex (rank, layer) index } where
  numbered := by
    refine ⟨hnum.kept, fun {rank' layer' name' uuid} hget => ?_, hnum.distinct⟩
    obtain ⟨index', last, huuid, hold, hle, hlt⟩ := hnum.indexed hget
    by_cases hplace : (rank', layer') = (rank, layer)
    · obtain ⟨rfl, rfl⟩ := Prod.mk.inj hplace
      exact ⟨index', index, huuid, get_insert_self .., hle.trans (hlast last hold).le, hfits⟩
    · exact ⟨index', last, huuid, (get_insert_of_ne _ _ hplace).trans hold, hle, hlt⟩
  absent := habsent
  last := get_insert_self ..
  fits := hfits
  fresh := by
    rintro ⟨rank', layer', name'⟩ uuid hfresh hget
    obtain ⟨index', last, huuid, hold, hle, hlt⟩ := hnum.indexed hget
    obtain ⟨-, rfl, rfl, rfl⟩ := trackUuid_inj huuid hfresh (hle.trans_lt hlt) hfits
    exact (hlast last hold).not_ge hle

lemma HasNext.insert (hnext : HasNext before rank layer name idx sink)
    (huuid : componentUuid rank layer idx = .ok uuid) :
    Numbered before
      { sink with componentUuids := FMap.insert sink.componentUuids (rank, layer, name) uuid } := by
  have hget : ∀ {key found},
      FMap.get (FMap.insert sink.componentUuids (rank, layer, name) uuid) key = some found →
        key = (rank, layer, name) ∧ found = uuid ∨
          key ≠ (rank, layer, name) ∧ FMap.get sink.componentUuids key = some found := by
    intro key found hfound
    by_cases hkey : key = (rank, layer, name)
    · rw [hkey, get_insert_self] at hfound
      exact .inl ⟨hkey, (Option.some.inj hfound).symm⟩
    · exact .inr ⟨hkey, (get_insert_of_ne _ _ hkey).symm.trans hfound⟩
  refine ⟨fun {key found} hbefore => ?_, fun hfound => ?_,
    fun {key key' found} hfound hfound' => ?_⟩
  · have hold := hnext.numbered.kept hbefore
    refine (get_insert_of_ne _ _ ?_).trans hold
    rintro rfl
    rw [hnext.absent] at hold
    cases hold
  · obtain ⟨hkey, rfl⟩ | ⟨-, hfound⟩ := hget hfound
    · cases hkey
      exact ⟨idx, idx, huuid, hnext.last, le_rfl, hnext.fits⟩
    · exact hnext.numbered.indexed hfound
  · obtain ⟨rfl, rfl⟩ | ⟨-, hold⟩ := hget hfound
    · obtain ⟨rfl, -⟩ | ⟨-, hold'⟩ := hget hfound'
      · rfl
      · exact absurd hold' (hnext.fresh huuid)
    · obtain ⟨-, rfl⟩ | ⟨-, hold'⟩ := hget hfound'
      · exact absurd hold (hnext.fresh huuid)
      · exact hnext.numbered.distinct hold hold'

section

variable (before : PerfettoSink) (rank layer : ℕ) (name : String)

lemma framed_hasNext (idx : ℕ) :
    Framed (HasNext before rank layer name idx) := by
  intro sink sink' hnext huuids hindex
  refine ⟨framed_numbered before hnext.numbered huuids hindex, ?_, ?_, hnext.fits, ?_⟩
  · rw [huuids, hnext.absent]
  · rw [hindex, hnext.last]
  · rw [huuids]
    exact hnext.fresh

lemma triple_newComponent :
    Triple (fun sink => Numbered before sink ∧
        FMap.get sink.componentUuids (rank, layer, name) = none)
      (newComponent disk rank layer name) (fun _ => Numbered before) (Numbered before) := by
  have hnext : Triple (fun sink => Numbered before sink ∧
        FMap.get sink.componentUuids (rank, layer, name) = none)
      (nextComponentIndex rank layer) (HasNext before rank layer name) (Numbered before) := by
    rintro sink ⟨hnum, habsent⟩
    rw [nextComponentIndex, outcome_get_bind]
    cases hget : FMap.get sink.componentIndex (rank, layer) with
    | none => exact hnum.next habsent (by decide) (by simp [hget])
    | some last =>
      dsimp only
      rw [checkedAdd]
      split_ifs with hroom
      · exact hnum.next habsent hroom (by simp [hget])
      · exact hnum
  refine hnext.bind fun idx => ?_
  have hframed := framed_hasNext before rank layer name idx
  have hkept : ∀ {α : Type} {action : SinkM α}, Keeps (HasNext before rank layer name idx) action →
      Triple (HasNext before rank layer name idx) action
        (fun _ => HasNext before rank layer name idx) (Numbered before) :=
    fun hkeeps => hkeeps.imp (fun _ => id) (fun _ _ => id) fun _ hnext => hnext.numbered
  cases huuid : componentUuid rank layer idx with
  | error msg => exact fun sink hnext => hnext.numbered
  | ok uuid =>
    rw [asserted, pure_bind]
    refine (hkept (keeps_asserted _)).bind fun parentUuid => ?_
    refine (hkept (hframed.writePacket _)).bind fun _ => ?_
    refine (hkept (hframed.frame.internName rank _)).bind fun _ => ?_
    exact Triple.bind (.modify fun sink hnext => hnext.insert huuid) fun _ => .pure fun _ => id

end

/-! ## Calls of a sink -/

end RocketSurgeon.Daemon.PerfettoSink
