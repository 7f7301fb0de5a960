import AetherMesh.Controller.CatalogSizes
import AetherMesh.Controller.Schedulers
import Mathlib.Algebra.BigOperators.Group.Finset.Basic

/-!
The catalog as a relation between datasets and nodes. What the calls do to the map of entries is
what they do to a set of pairs, and every query can be read off from that set.
-/

namespace AetherMesh

namespace DataCatalog

def len (catalog : DataCatalog) : Nat := catalog.entries.length

def isEmpty (catalog : DataCatalog) : Bool := catalog.entries.isEmpty

def heldByIn (overflow : Overflow) (catalog : DataCatalog) (nodeId : NodeId) :
    Option (Nat × Nat) :=
  (catalog.entries.filter fun entry => nodeId ∈ entry.locations).foldlM
    (fun counted entry => (addU64 overflow counted.2 entry.descriptor.sizeBytes).map
      fun bytes => (counted.1 + 1, bytes)) (0, 0)

def totals (overflow : Overflow) (catalog : DataCatalog) : Option (Nat × Nat) :=
  (sumU64 overflow (catalog.entries.map fun entry => entry.descriptor.sizeBytes)).map
    fun bytes => (catalog.len, bytes)

end DataCatalog

inductive CatalogCall
  | record (descriptor : DataDescriptor) (nodeId : NodeId)
  | remove (dataId : DataId) (nodeId : NodeId)
  | forgetNode (nodeId : NodeId)
deriving DecidableEq

namespace CatalogCall

def run (catalog : DataCatalog) : CatalogCall → DataCatalog
  | .record descriptor nodeId => catalog.record descriptor nodeId
  | .remove dataId nodeId => catalog.remove dataId nodeId
  | .forgetNode nodeId => catalog.forgetNode nodeId

/-- What a call does to the pairs of a dataset and a node that holds it. -/
def relate (relation : Finset (DataId × NodeId)) : CatalogCall → Finset (DataId × NodeId)
  | .record descriptor nodeId => insert (descriptor.id, nodeId) relation
  | .remove dataId nodeId => relation.erase (dataId, nodeId)
  | .forgetNode nodeId => relation.filter fun pair => pair.2 ≠ nodeId

def catalogOf (calls : List CatalogCall) : DataCatalog := calls.foldl run .new

def relationOf (calls : List CatalogCall) : Finset (DataId × NodeId) := calls.foldl relate ∅

end CatalogCall

def datasets (relation : Finset (DataId × NodeId)) : Finset DataId := relation.image Prod.fst

def datasetsOf (relation : Finset (DataId × NodeId)) (nodeId : NodeId) : Finset DataId :=
  datasets (relation.filter fun pair => pair.2 = nodeId)

/-- The catalog is the relation, and every entry is there for some pair. -/
structure Represents (catalog : DataCatalog) (relation : Finset (DataId × NodeId)) : Prop where
  pairs : ∀ dataId nodeId, catalog.holds dataId nodeId = true ↔ (dataId, nodeId) ∈ relation
  occupied : ∀ entry ∈ catalog.entries, entry.locations.Nonempty

def Sized (size : DataId → Nat) (catalog : DataCatalog) : Prop :=
  ∀ entry ∈ catalog.entries, entry.descriptor.sizeBytes = size entry.descriptor.id

section

variable {catalog : DataCatalog} {relation : Finset (DataId × NodeId)} {size : DataId → Nat}
  {descriptor : DataDescriptor} {nodeId : NodeId} {dataId : DataId} {overflow : Overflow}

namespace DataCatalog

theorem mem_withdraw {selected : DataId → Bool} {entry : CatalogEntry} :
    entry ∈ (catalog.withdraw nodeId selected).entries ↔
      (entry.locations.Nonempty ∨ selected entry.descriptor.id = false) ∧
        ∃ old ∈ catalog.entries,
          (if selected old.descriptor.id then removeLocation nodeId old else old) = entry := by
  simp only [withdraw, List.mem_filter, List.mem_map, decide_eq_true_eq, Bool.not_eq_true',
    and_comm]

theorem occupied_record (occupied : ∀ entry ∈ catalog.entries, entry.locations.Nonempty) :
    ∀ entry ∈ (catalog.record descriptor nodeId).entries, entry.locations.Nonempty := by
  intro entry member
  rcases mem_record.mp member with ⟨old, present, rfl⟩ | ⟨-, rfl⟩
  · obtain ⟨holder, held⟩ := occupied old present
    exact ⟨holder, mem_insertLocation.mpr (.inl held)⟩
  · exact ⟨nodeId, Finset.mem_singleton_self nodeId⟩

theorem occupied_withdraw {selected : DataId → Bool}
    (occupied : ∀ entry ∈ catalog.entries, entry.locations.Nonempty) :
    ∀ entry ∈ (catalog.withdraw nodeId selected).entries, entry.locations.Nonempty := by
  intro entry member
  obtain ⟨kept, old, present, same⟩ := mem_withdraw.mp member
  rcases kept with some | spared
  · exact some
  · split at same
    · rename_i chosen
      rw [← same] at spared
      exact absurd (spared.symm.trans chosen) (by decide)
    · exact same ▸ occupied old present

theorem sized_record (sized : Sized size catalog)
    (own : descriptor.sizeBytes = size descriptor.id) :
    Sized size (catalog.record descriptor nodeId) := by
  intro entry member
  rcases mem_record.mp member with ⟨old, present, rfl⟩ | ⟨-, rfl⟩
  · rw [insertLocation_size]
    exact sized old present
  · exact own

theorem sized_withdraw {selected : DataId → Bool} (sized : Sized size catalog) :
    Sized size (catalog.withdraw nodeId selected) := by
  intro entry member
  obtain ⟨-, old, present, same⟩ := mem_withdraw.mp member
  split at same
  · rw [← same]
    exact sized old present
  · exact same ▸ sized old present

end DataCatalog

open DataCatalog

theorem Represents.step (represents : Represents catalog relation) (call : CatalogCall) :
    Represents (call.run catalog) (call.relate relation) := by
  cases call with
  | record descriptor nodeId =>
      refine ⟨fun dataId other => ?_, occupied_record represents.occupied⟩
      rw [CatalogCall.run, holds_record, represents.pairs, CatalogCall.relate, Finset.mem_insert,
        Prod.mk.injEq, or_comm]
  | remove dataId nodeId =>
      refine ⟨fun named other => ?_, occupied_withdraw represents.occupied⟩
      rw [CatalogCall.run, remove, holds_withdraw, represents.pairs, CatalogCall.relate,
        Finset.mem_erase, ne_eq, Prod.mk.injEq, decide_eq_true_eq, and_comm]
  | forgetNode nodeId =>
      refine ⟨fun named other => ?_, occupied_withdraw represents.occupied⟩
      rw [CatalogCall.run, holds_forgetNode, represents.pairs, CatalogCall.relate,
        Finset.mem_filter]

theorem Sized.step (sized : Sized size catalog) (call : CatalogCall)
    (own : ∀ descriptor nodeId, call = .record descriptor nodeId →
      descriptor.sizeBytes = size descriptor.id) :
    Sized size (call.run catalog) := by
  cases call with
  | record descriptor nodeId => exact sized_record sized (own descriptor nodeId rfl)
  | remove dataId nodeId => exact sized_withdraw sized
  | forgetNode nodeId => exact sized_withdraw sized

theorem represents_run (calls : List CatalogCall) (represents : Represents catalog relation) :
    Represents (calls.foldl CatalogCall.run catalog) (calls.foldl CatalogCall.relate relation) := by
  induction calls generalizing catalog relation with
  | nil => exact represents
  | cons call rest ih => exact ih (represents.step call)

theorem sized_run (calls : List CatalogCall) (sized : Sized size catalog)
    (own : ∀ descriptor nodeId, .record descriptor nodeId ∈ calls →
      descriptor.sizeBytes = size descriptor.id) :
    Sized size (calls.foldl CatalogCall.run catalog) := by
  induction calls generalizing catalog with
  | nil => exact sized
  | cons call rest ih =>
      refine ih (sized.step call fun descriptor nodeId same => ?_)
        fun descriptor nodeId later => own descriptor nodeId (List.mem_cons_of_mem _ later)
      exact own descriptor nodeId (same ▸ List.mem_cons_self)

theorem mem_datasetsOf : dataId ∈ datasetsOf relation nodeId ↔ (dataId, nodeId) ∈ relation := by
  simp [datasetsOf, datasets]

namespace Represents

theorem ids_eq (represents : Represents catalog relation) :
    (catalog.entries.map fun entry => entry.descriptor.id).toFinset = datasets relation := by
  ext dataId
  simp only [List.mem_toFinset, List.mem_map, datasets, Finset.mem_image]
  constructor
  · rintro ⟨entry, member, named⟩
    obtain ⟨holder, held⟩ := represents.occupied entry member
    refine ⟨(dataId, holder), (represents.pairs _ _).mp ?_, rfl⟩
    exact holds_iff.mpr ⟨entry, member, named, held⟩
  · rintro ⟨⟨named, holder⟩, member, rfl⟩
    obtain ⟨entry, present, same, -⟩ := holds_iff.mp ((represents.pairs _ _).mpr member)
    exact ⟨entry, present, same⟩

theorem held_ids_eq (represents : Represents catalog relation) :
    ((catalog.entries.filter fun entry => nodeId ∈ entry.locations).map
      fun entry => entry.descriptor.id).toFinset = datasetsOf relation nodeId := by
  ext dataId
  rw [mem_datasetsOf, ← represents.pairs, holds_iff]
  simp only [List.mem_toFinset, List.mem_map, List.mem_filter, decide_eq_true_eq, and_assoc]
  constructor
  · rintro ⟨entry, member, held, named⟩
    exact ⟨entry, member, named, held⟩
  · rintro ⟨entry, member, named, held⟩
    exact ⟨entry, member, held, named⟩

end Represents

theorem entries_sum {entries : List CatalogEntry} {ids : Finset DataId}
    (distinct : (entries.map fun entry => entry.descriptor.id).Nodup)
    (same : (entries.map fun entry => entry.descriptor.id).toFinset = ids)
    (sized : ∀ entry ∈ entries, entry.descriptor.sizeBytes = size entry.descriptor.id) :
    (entries.map fun entry => entry.descriptor.sizeBytes).sum = ∑ dataId ∈ ids, size dataId := by
  rw [← same, List.sum_toFinset size distinct, List.map_map]
  exact congrArg List.sum (List.map_congr_left sized)

theorem entries_length {entries : List CatalogEntry} {ids : Finset DataId}
    (distinct : (entries.map fun entry => entry.descriptor.id).Nodup)
    (same : (entries.map fun entry => entry.descriptor.id).toFinset = ids) :
    entries.length = ids.card := by
  rw [← same, List.toFinset_card_of_nodup distinct, List.length_map]

theorem held_distinct (catalog : DataCatalog) (nodeId : NodeId) :
    ((catalog.entries.filter fun entry => nodeId ∈ entry.locations).map
      fun entry => entry.descriptor.id).Nodup :=
  (List.filter_sublist.map _).nodup catalog.distinct

theorem foldlM_counted (entries : List CatalogEntry) (count bytes : Nat) :
    entries.foldlM (fun counted entry =>
        (addU64 overflow counted.2 entry.descriptor.sizeBytes).map
          fun bytes => (counted.1 + 1, bytes)) (count, bytes) =
      ((entries.map fun entry => entry.descriptor.sizeBytes).foldlM (addU64 overflow) bytes).map
        fun bytes => (count + entries.length, bytes) := by
  induction entries generalizing count bytes with
  | nil => rfl
  | cons entry rest ih =>
      rw [List.foldlM_cons, List.map_cons, List.foldlM_cons]
      cases addU64 overflow bytes entry.descriptor.sizeBytes with
      | none => rfl
      | some more =>
          have longer : count + (rest.length + 1) = count + 1 + rest.length := by omega
          simp only [Option.map_some, Option.bind_eq_bind, Option.bind_some, ih, List.length_cons,
            longer]

theorem heldByIn_eq : catalog.heldByIn overflow nodeId =
    (sumU64 overflow ((catalog.entries.filter fun entry => nodeId ∈ entry.locations).map
      fun entry => entry.descriptor.sizeBytes)).map fun bytes =>
        ((catalog.entries.filter fun entry => nodeId ∈ entry.locations).length, bytes) := by
  rw [heldByIn, foldlM_counted]
  simp only [Nat.zero_add, sumU64]

theorem sumU64_wraps (sizes : List Nat) : sumU64 .wraps sizes = some (sizes.sum % 2 ^ 64) := by
  have folded : ∀ start, sizes.foldlM (addU64 .wraps) (start % 2 ^ 64) =
      some ((start + sizes.sum) % 2 ^ 64) := by
    induction sizes with
    | nil => exact fun start => rfl
    | cons size rest ih =>
        intro start
        rw [List.foldlM_cons, addU64_wraps, Option.bind_eq_bind, Option.bind_some, ih]
        rw [List.sum_cons]
        congr 1
        omega
  have whole := folded 0
  rwa [Nat.zero_mod, Nat.zero_add] at whole

/-- In a build that lets sums wrap around, the queries are the ones that the controller makes. -/
theorem heldByIn_wraps : catalog.heldByIn .wraps nodeId = some (catalog.heldBy nodeId) := by
  rw [heldByIn_eq, sumU64_wraps, Option.map_some, heldBy]

namespace Represents

theorem len_eq (represents : Represents catalog relation) :
    catalog.len = (datasets relation).card :=
  entries_length catalog.distinct represents.ids_eq

theorem isEmpty_iff (represents : Represents catalog relation) :
    catalog.isEmpty = true ↔ relation = ∅ := by
  rw [DataCatalog.isEmpty, List.isEmpty_iff_length_eq_zero]
  have counted := represents.len_eq
  rw [len] at counted
  rw [counted, Finset.card_eq_zero, datasets, Finset.image_eq_empty]

theorem count_eq (represents : Represents catalog relation) {counted : Nat × Nat}
    (found : catalog.heldByIn overflow nodeId = some counted) :
    counted.1 = (datasetsOf relation nodeId).card := by
  rw [heldByIn_eq, Option.map_eq_some_iff] at found
  obtain ⟨bytes, -, rfl⟩ := found
  exact entries_length (held_distinct catalog nodeId) represents.held_ids_eq

theorem heldByIn_sum (represents : Represents catalog relation) (sized : Sized size catalog)
    (fits : ∑ dataId ∈ datasetsOf relation nodeId, size dataId < 2 ^ 64) :
    catalog.heldByIn overflow nodeId = some ((datasetsOf relation nodeId).card,
      ∑ dataId ∈ datasetsOf relation nodeId, size dataId) := by
  have sum := entries_sum (held_distinct catalog nodeId) represents.held_ids_eq
    fun entry member => sized entry (List.mem_of_mem_filter member)
  rw [heldByIn_eq, sumU64_fits (sum ▸ fits), sum, Option.map_some,
    entries_length (held_distinct catalog nodeId) represents.held_ids_eq]

theorem totals_sum (represents : Represents catalog relation) (sized : Sized size catalog)
    (fits : ∑ dataId ∈ datasets relation, size dataId < 2 ^ 64) :
    catalog.totals overflow = some ((datasets relation).card,
      ∑ dataId ∈ datasets relation, size dataId) := by
  have sum := entries_sum catalog.distinct represents.ids_eq sized
  rw [totals, sumU64_fits (sum ▸ fits), sum, Option.map_some, represents.len_eq]

theorem credit_eq (represents : Represents catalog relation) (sized : Sized size catalog)
    (dataId : DataId) : (catalog.credit nodeId dataId).getD 0 =
      if (dataId, nodeId) ∈ relation then size dataId else 0 := by
  by_cases held : (dataId, nodeId) ∈ relation
  · obtain ⟨entry, member, named, holder⟩ := holds_iff.mp ((represents.pairs _ _).mpr held)
    have credited : catalog.credit nodeId dataId = some (size dataId) :=
      credit_eq_some_iff.mpr ⟨entry, member, named, holder, named ▸ sized entry member⟩
    rw [credited, if_pos held]
    rfl
  · have missing : catalog.credit nodeId dataId = none := by
      rw [← Option.not_isSome_iff_eq_none, isSome_credit, represents.pairs]
      exact held
    rw [missing, if_neg held]
    rfl

theorem localBytesIn_sum (represents : Represents catalog relation) (sized : Sized size catalog)
    (inputs : List DataId)
    (fits : (inputs.map fun dataId =>
      if (dataId, nodeId) ∈ relation then size dataId else 0).sum < 2 ^ 64) :
    catalog.localBytesIn overflow nodeId inputs = some (inputs.map fun dataId =>
      if (dataId, nodeId) ∈ relation then size dataId else 0).sum := by
  have sum : (catalog.localSizes nodeId inputs).sum = (inputs.map fun dataId =>
      if (dataId, nodeId) ∈ relation then size dataId else 0).sum := by
    rw [localSizes, sum_local]
    exact congrArg List.sum (List.map_congr_left fun dataId _ => represents.credit_eq sized dataId)
  rw [localBytesIn, sumU64_fits (sum ▸ fits), sum]

end Represents

theorem Represents.new : Represents .new ∅ where
  pairs _ _ := by simp [DataCatalog.new, DataCatalog.holds, DataCatalog.get]
  occupied _ member := absurd member List.not_mem_nil

end

open CatalogCall

/-- After any calls the catalog is the relation that they make of pairs: no entry is without a
holder, lookups and counts are those of the relation, and when each dataset was always recorded with
one size, so are the sums, in every build, as long as they fit. -/
theorem catalog_is_relation (calls : List CatalogCall) :
    (∀ entry ∈ (catalogOf calls).entries, entry.locations.Nonempty) ∧
    (∀ dataId nodeId,
      (catalogOf calls).holds dataId nodeId = true ↔ (dataId, nodeId) ∈ relationOf calls) ∧
    (∀ dataId nodeId,
      nodeId ∈ (catalogOf calls).locations dataId ↔ (dataId, nodeId) ∈ relationOf calls) ∧
    (catalogOf calls).len = (datasets (relationOf calls)).card ∧
    ((catalogOf calls).isEmpty = true ↔ relationOf calls = ∅) ∧
    (∀ nodeId, ((catalogOf calls).heldBy nodeId).1 = (datasetsOf (relationOf calls) nodeId).card) ∧
    (∀ overflow nodeId counted, (catalogOf calls).heldByIn overflow nodeId = some counted →
      counted.1 = (datasetsOf (relationOf calls) nodeId).card) ∧
    ∀ size : DataId → Nat, (∀ descriptor nodeId, .record descriptor nodeId ∈ calls →
        descriptor.sizeBytes = size descriptor.id) →
      (∀ overflow nodeId, ∑ dataId ∈ datasetsOf (relationOf calls) nodeId, size dataId < 2 ^ 64 →
        (catalogOf calls).heldByIn overflow nodeId =
          some ((datasetsOf (relationOf calls) nodeId).card,
            ∑ dataId ∈ datasetsOf (relationOf calls) nodeId, size dataId)) ∧
      (∀ overflow, ∑ dataId ∈ datasets (relationOf calls), size dataId < 2 ^ 64 →
        (catalogOf calls).totals overflow = some ((datasets (relationOf calls)).card,
          ∑ dataId ∈ datasets (relationOf calls), size dataId)) ∧
      (∀ overflow nodeId (inputs : List DataId), (inputs.map fun dataId =>
          if (dataId, nodeId) ∈ relationOf calls then size dataId else 0).sum < 2 ^ 64 →
        (catalogOf calls).localBytesIn overflow nodeId inputs = some (inputs.map fun dataId =>
          if (dataId, nodeId) ∈ relationOf calls then size dataId else 0).sum) := by
  have represents : Represents (catalogOf calls) (relationOf calls) :=
    represents_run calls Represents.new
  refine ⟨represents.occupied, represents.pairs, fun dataId nodeId => ?_, represents.len_eq,
    represents.isEmpty_iff, fun nodeId => represents.count_eq heldByIn_wraps,
    fun overflow nodeId counted found => represents.count_eq found, fun size own => ?_⟩
  · rw [DataCatalog.mem_locations_iff, represents.pairs]
  · have sized : Sized size (catalogOf calls) :=
      sized_run calls (fun _ member => absurd member List.not_mem_nil) own
    exact ⟨fun overflow nodeId fits => represents.heldByIn_sum sized fits,
      fun overflow fits => represents.totals_sum sized fits,
      fun overflow nodeId inputs fits => represents.localBytesIn_sum sized inputs fits⟩

def handedOver : List CatalogCall :=
  [.record ⟨blob, 5⟩ ⟨1⟩, .record ⟨blob, 5⟩ ⟨2⟩, .forgetNode ⟨1⟩]

theorem handedOver_totals : (catalogOf handedOver).totals .panics = some (1, 5) := by
  have own : ∀ descriptor nodeId, CatalogCall.record descriptor nodeId ∈ handedOver →
      descriptor.sizeBytes = 5 := by
    intro descriptor nodeId member
    simp only [handedOver, List.mem_cons, CatalogCall.record.injEq, List.not_mem_nil,
      reduceCtorEq, or_false] at member
    rcases member with ⟨rfl, -⟩ | ⟨rfl, -⟩
    · rfl
    · rfl
  obtain ⟨-, -, -, -, -, -, -, sums⟩ := catalog_is_relation handedOver
  obtain ⟨-, totals, -⟩ := sums (fun _ => 5) own
  exact totals .panics (by decide)

end AetherMesh
