import AetherMesh.Core.Data
import Mathlib.Algebra.GroupWithZero.Nat
import Mathlib.Data.Finset.Basic

/-! Which node holds which dataset, as the controller believes it. -/

namespace AetherMesh

structure CatalogEntry where
  descriptor : DataDescriptor
  locations : Finset NodeId
deriving DecidableEq

/-- The source's map from data ids to entries; an entry's key is the id it describes. -/
structure DataCatalog where
  entries : List CatalogEntry
  distinct : (entries.map fun entry => entry.descriptor.id).Nodup
deriving DecidableEq

namespace DataCatalog

def new : DataCatalog := ⟨[], by simp⟩

def get (catalog : DataCatalog) (dataId : DataId) : Option CatalogEntry :=
  catalog.entries.find? fun entry => entry.descriptor.id = dataId

def insertLocation (dataId : DataId) (nodeId : NodeId) (entry : CatalogEntry) : CatalogEntry :=
  if entry.descriptor.id = dataId then { entry with locations := insert nodeId entry.locations }
  else entry

def removeLocation (nodeId : NodeId) (entry : CatalogEntry) : CatalogEntry :=
  { entry with locations := entry.locations.erase nodeId }

theorem insertLocation_id (dataId : DataId) (nodeId : NodeId) (entry : CatalogEntry) :
    (insertLocation dataId nodeId entry).descriptor.id = entry.descriptor.id := by
  unfold insertLocation
  split <;> rfl

theorem get_none {catalog : DataCatalog} {dataId : DataId} (missing : catalog.get dataId = none) :
    dataId ∉ catalog.entries.map fun entry => entry.descriptor.id := by
  intro member
  obtain ⟨entry, present, same⟩ := List.mem_map.mp member
  have rejected := List.find?_eq_none.mp missing entry present
  simp [same] at rejected

def record (catalog : DataCatalog) (descriptor : DataDescriptor) (nodeId : NodeId) : DataCatalog :=
  match found : catalog.get descriptor.id with
  | some _ =>
      ⟨catalog.entries.map (insertLocation descriptor.id nodeId), by
        simpa [Function.comp_def, insertLocation_id] using catalog.distinct⟩
  | none =>
      ⟨catalog.entries ++ [⟨descriptor, {nodeId}⟩], by
        have absent := get_none found
        have distinct := catalog.distinct
        simp only [List.map_append, List.map_cons, List.map_nil]
        rw [List.nodup_append]
        refine ⟨distinct, by simp, ?_⟩
        intro other member last same
        simp only [List.mem_singleton] at same
        intro equal
        exact absent (same ▸ equal ▸ member)⟩

def withdraw (catalog : DataCatalog) (nodeId : NodeId) (selected : DataId → Bool) : DataCatalog :=
  ⟨(catalog.entries.map fun entry =>
      if selected entry.descriptor.id then removeLocation nodeId entry else entry).filter
      fun entry => entry.locations.Nonempty ∨ !selected entry.descriptor.id, by
    have distinct := catalog.distinct
    refine (List.filter_sublist.map _).nodup ?_
    rw [List.map_map]
    refine (List.map_congr_left ?_) ▸ distinct
    intro entry _
    simp only [Function.comp_apply]
    split <;> rfl⟩

def remove (catalog : DataCatalog) (dataId : DataId) (nodeId : NodeId) : DataCatalog :=
  catalog.withdraw nodeId (fun id => id = dataId)

def forgetNode (catalog : DataCatalog) (nodeId : NodeId) : DataCatalog :=
  catalog.withdraw nodeId (fun _ => true)

def locations (catalog : DataCatalog) (dataId : DataId) : Finset NodeId :=
  match catalog.get dataId with
  | some entry => entry.locations
  | none => ∅

def holds (catalog : DataCatalog) (dataId : DataId) (nodeId : NodeId) : Bool :=
  match catalog.get dataId with
  | some entry => nodeId ∈ entry.locations
  | none => false

def localBytes (catalog : DataCatalog) (nodeId : NodeId) (inputs : List DataId) : Nat :=
  (((inputs.filterMap catalog.get).filter fun entry => nodeId ∈ entry.locations).map
    fun entry => entry.descriptor.sizeBytes).sum % 2 ^ 64

def heldBy (catalog : DataCatalog) (nodeId : NodeId) : Nat × Nat :=
  let held := catalog.entries.filter fun entry => nodeId ∈ entry.locations
  (held.length, (held.map fun entry => entry.descriptor.sizeBytes).sum % 2 ^ 64)

theorem get_eq_some_iff {catalog : DataCatalog} {dataId : DataId} {entry : CatalogEntry} :
    catalog.get dataId = some entry ↔
      entry ∈ catalog.entries ∧ entry.descriptor.id = dataId := by
  constructor
  · intro found
    exact ⟨List.mem_of_find?_eq_some found, by simpa using List.find?_some found⟩
  · rintro ⟨member, same⟩
    cases found : catalog.get dataId with
    | none => exact absurd (List.mem_map.mpr ⟨entry, member, same⟩) (get_none found)
    | some other =>
        have otherMember := List.mem_of_find?_eq_some found
        have otherId : other.descriptor.id = dataId := by simpa using List.find?_some found
        rw [List.inj_on_of_nodup_map catalog.distinct otherMember member
          (otherId.trans same.symm)]

theorem holds_iff {catalog : DataCatalog} {dataId : DataId} {nodeId : NodeId} :
    catalog.holds dataId nodeId = true ↔
      ∃ entry ∈ catalog.entries, entry.descriptor.id = dataId ∧ nodeId ∈ entry.locations := by
  constructor
  · intro held
    unfold holds at held
    split at held
    · rename_i entry found
      obtain ⟨member, same⟩ := get_eq_some_iff.mp found
      exact ⟨entry, member, same, by simpa using held⟩
    · simp at held
  · rintro ⟨entry, member, same, held⟩
    have found := get_eq_some_iff.mpr ⟨member, same⟩
    simp [holds, found, held]

theorem mem_locations_iff {catalog : DataCatalog} {dataId : DataId} {nodeId : NodeId} :
    nodeId ∈ catalog.locations dataId ↔ catalog.holds dataId nodeId = true := by
  unfold locations holds
  cases catalog.get dataId with
  | none => simp
  | some entry => simp

theorem holds_record {catalog : DataCatalog} {descriptor : DataDescriptor} {dataId : DataId}
    {nodeId other : NodeId} :
    (catalog.record descriptor nodeId).holds dataId other = true ↔
      catalog.holds dataId other = true ∨ (dataId = descriptor.id ∧ other = nodeId) := by
  rw [holds_iff, holds_iff]
  unfold record
  split
  · rename_i known found
    obtain ⟨present, same⟩ := get_eq_some_iff.mp found
    constructor
    · rintro ⟨entry, member, named, held⟩
      obtain ⟨old, oldMember, rfl⟩ := List.mem_map.mp member
      unfold insertLocation at named held
      split at held
      · rename_i equal
        rcases Finset.mem_insert.mp held with rfl | earlier
        · exact Or.inr ⟨by rw [← named, ← equal, if_pos rfl], rfl⟩
        · exact Or.inl ⟨old, oldMember, by simpa [equal] using named, earlier⟩
      · rename_i different
        exact Or.inl ⟨old, oldMember, by simpa [different] using named, held⟩
    · rintro (⟨entry, member, named, held⟩ | ⟨rfl, rfl⟩)
      · refine ⟨_, List.mem_map.mpr ⟨entry, member, rfl⟩, ?_, ?_⟩
        · rw [insertLocation_id, named]
        · unfold insertLocation
          split
          · exact Finset.mem_insert_of_mem held
          · exact held
      · refine ⟨_, List.mem_map.mpr ⟨known, present, rfl⟩, ?_, ?_⟩
        · rw [insertLocation_id, same]
        · simp [insertLocation, same]
  · constructor
    · rintro ⟨entry, member, named, held⟩
      rcases List.mem_append.mp member with old | last
      · exact Or.inl ⟨entry, old, named, held⟩
      · obtain rfl := List.mem_singleton.mp last
        exact Or.inr ⟨named.symm, Finset.mem_singleton.mp held⟩
    · rintro (⟨entry, member, named, held⟩ | ⟨rfl, rfl⟩)
      · exact ⟨entry, List.mem_append_left _ member, named, held⟩
      · exact ⟨_, List.mem_append_right _ (List.mem_singleton.mpr rfl), rfl, by simp⟩

theorem holds_withdraw {catalog : DataCatalog} {nodeId other : NodeId} {selected : DataId → Bool}
    {dataId : DataId} :
    (catalog.withdraw nodeId selected).holds dataId other = true ↔
      catalog.holds dataId other = true ∧ ¬ (selected dataId = true ∧ other = nodeId) := by
  rw [holds_iff, holds_iff]
  unfold withdraw
  simp only [List.mem_filter, List.mem_map]
  constructor
  · rintro ⟨entry, ⟨⟨old, member, rfl⟩, _⟩, named, held⟩
    by_cases chosen : selected old.descriptor.id = true
    · rw [if_pos chosen] at named held
      have ids : old.descriptor.id = dataId := named
      obtain ⟨different, held⟩ := Finset.mem_erase.mp held
      exact ⟨⟨old, member, ids, held⟩, fun both => different both.2⟩
    · rw [if_neg chosen] at named held
      exact ⟨⟨old, member, named, held⟩, fun both => chosen (named ▸ both.1)⟩
  · rintro ⟨⟨old, member, named, held⟩, kept⟩
    refine ⟨_, ⟨⟨old, member, rfl⟩, ?_⟩, ?_, ?_⟩
    · by_cases chosen : selected old.descriptor.id = true
      · have different : other ≠ nodeId := fun same => kept ⟨named ▸ chosen, same⟩
        have stays : other ∈ old.locations.erase nodeId := Finset.mem_erase.mpr ⟨different, held⟩
        simp only [chosen, if_true, removeLocation, decide_eq_true_eq]
        exact Or.inl ⟨other, stays⟩
      · simp [chosen]
    · split
      · exact named
      · exact named
    · by_cases chosen : selected old.descriptor.id = true
      · have different : other ≠ nodeId := fun same => kept ⟨named ▸ chosen, same⟩
        simp only [chosen, if_true, removeLocation]
        exact Finset.mem_erase.mpr ⟨different, held⟩
      · simpa [chosen] using held

theorem holds_forgetNode {catalog : DataCatalog} {nodeId other : NodeId} {dataId : DataId} :
    (catalog.forgetNode nodeId).holds dataId other = true ↔
      catalog.holds dataId other = true ∧ other ≠ nodeId := by
  rw [forgetNode, holds_withdraw]
  simp

end DataCatalog

end AetherMesh
