import AetherMesh.Controller.Dispatch
import AetherMesh.Core.ChunkAssembly
import AetherMesh.Protocol.Message

/-! The chunk messages that `send_chunked` hands to the transport as one batch. -/

namespace AetherMesh.Dispatch

variable (policy : CompressionPolicy) (lz4 : Lz4) (bandwidth : Option Nat)

def slice (bytes : Bytes) (range : Nat × Nat) : Bytes :=
  (bytes.drop range.1).take (range.2 - range.1)

/-- The index comes from the manifest, so it has a range. -/
def chunkMessage (nodeId : NodeId) (manifest : ChunkManifest) (bytes : Bytes) (index : Nat) :
    Message :=
  let range := (manifest.chunkRange (asU32 index)).getD (0, 0)
  let encoded := policy.encode lz4 (slice bytes range) bandwidth
  .dataChunk nodeId manifest.data.id (asU32 index) encoded.1 encoded.2

def chunkBatch (mesh : Mesh) (nodeId : NodeId) (manifest : ChunkManifest) (bytes : Bytes) :
    List Message :=
  (manifest.chunks.zipIdx.foldl (planChunk nodeId) (mesh, [])).2.map
    (chunkMessage policy lz4 bandwidth nodeId manifest bytes)

/-- A chunk is credited after planning because it was before or because a copy is planned. -/
structure Planned (mesh : Mesh) (nodeId : NodeId) (entries : List (DataDescriptor × Nat))
    (plan : Mesh × List Nat) : Prop where
  reuse : plan.1.reuseData = mesh.reuseData
  credited : ∀ dataId, plan.1.catalog.holds dataId nodeId = true →
    mesh.catalog.holds dataId nodeId = true ∨
      ∃ entry ∈ entries, entry.2 ∈ plan.2 ∧ entry.1.id = dataId
  covered : ∀ entry ∈ entries,
    (mesh.reuseData = true ∧ mesh.catalog.holds entry.1.id nodeId = true) ∨
      ∃ copy ∈ entries, copy.2 ∈ plan.2 ∧ copy.1.id = entry.1.id
  listed : ∀ index ∈ plan.2, ∃ entry ∈ entries, entry.2 = index

section

variable {mesh : Mesh} {nodeId : NodeId} {front : List (DataDescriptor × Nat)}
  {last : DataDescriptor × Nat} {plan : Mesh × List Nat}

theorem copy_append {batch more : List Nat} (within : batch ⊆ more) {dataId : DataId}
    (copy : ∃ entry ∈ front, entry.2 ∈ batch ∧ entry.1.id = dataId) :
    ∃ entry ∈ front ++ [last], entry.2 ∈ more ∧ entry.1.id = dataId := by
  obtain ⟨entry, listed, planned, same⟩ := copy
  exact ⟨entry, List.mem_append_left _ listed, within planned, same⟩

theorem Planned.skip (planned : Planned mesh nodeId front plan)
    (skipped : plan.1.reuseData = true ∧ plan.1.catalog.holds last.1.id nodeId = true) :
    Planned mesh nodeId (front ++ [last]) plan where
  reuse := planned.reuse
  credited := fun dataId held =>
    (planned.credited dataId held).imp id (copy_append (List.Subset.refl _))
  covered := by
    intro entry listed
    rcases List.mem_append.mp listed with old | new
    · exact (planned.covered entry old).imp id (copy_append (List.Subset.refl _))
    · obtain rfl := List.mem_singleton.mp new
      exact (planned.credited entry.1.id skipped.2).imp (And.intro (planned.reuse ▸ skipped.1))
        (copy_append (List.Subset.refl _))
  listed := by
    intro index chosen
    obtain ⟨entry, listed, same⟩ := planned.listed index chosen
    exact ⟨entry, List.mem_append_left _ listed, same⟩

theorem Planned.choose (planned : Planned mesh nodeId front plan) :
    Planned mesh nodeId (front ++ [last])
      ({ plan.1 with catalog := plan.1.catalog.record last.1 nodeId }, plan.2 ++ [last.2]) where
  reuse := planned.reuse
  credited := by
    intro dataId held
    rcases DataCatalog.holds_record.mp held with old | ⟨rfl, -⟩
    · exact (planned.credited dataId old).imp id (copy_append (List.subset_append_left _ _))
    · exact .inr ⟨last, by simp, by simp, rfl⟩
  covered := by
    intro entry listed
    rcases List.mem_append.mp listed with old | new
    · exact (planned.covered entry old).imp id (copy_append (List.subset_append_left _ _))
    · obtain rfl := List.mem_singleton.mp new
      exact .inr ⟨entry, by simp, by simp, rfl⟩
  listed := by
    intro index chosen
    rcases List.mem_append.mp chosen with old | new
    · obtain ⟨entry, listed, same⟩ := planned.listed index old
      exact ⟨entry, List.mem_append_left _ listed, same⟩
    · exact ⟨last, by simp, (List.mem_singleton.mp new).symm⟩

end

theorem planned (mesh : Mesh) (nodeId : NodeId) (entries : List (DataDescriptor × Nat)) :
    Planned mesh nodeId entries (entries.foldl (planChunk nodeId) (mesh, [])) := by
  induction entries using List.reverseRecOn with
  | nil => exact ⟨rfl, fun dataId held => .inl held, nofun, nofun⟩
  | append_singleton front last ih =>
      rw [List.foldl_append, List.foldl_cons, List.foldl_nil]
      unfold planChunk
      split
      · rename_i skipped
        exact ih.skip skipped
      · exact ih.choose

section

variable {digest : Bytes → DataId} {bytes : Bytes} {size : Nat}

theorem slice_chunkRange (positive : 0 < size) (small : size < 2 ^ 32) {index : Nat}
    {piece : Bytes} (placed : (chunksOf size bytes)[index]? = some piece) :
    slice bytes (((ChunkManifest.split digest bytes size).chunkRange index).getD (0, 0)) =
      piece := by
  have nonzero : size ≠ 0 := Nat.ne_of_gt positive
  have width : asU32 size = size := Nat.mod_eq_of_lt small
  simp only [ChunkManifest.split, ChunkManifest.chunkRange, nonzero, if_false, List.getElem?_map,
    placed, Option.map_some, Option.getD_some, width, slice, DataDescriptor.of,
    Nat.add_sub_cancel_left]
  rw [getElem?_chunksOf placed, List.length_take, List.take_eq_take_iff]
  omega

theorem chunkMessage_split (positive : 0 < size) (small : size < 2 ^ 32)
    (few : (chunksOf size bytes).length < 2 ^ 32) (nodeId : NodeId) {index : Nat} {piece : Bytes}
    (placed : (chunksOf size bytes)[index]? = some piece) :
    ∃ codec payload,
      chunkMessage policy lz4 bandwidth nodeId (ChunkManifest.split digest bytes size) bytes index =
        .dataChunk nodeId (ChunkManifest.split digest bytes size).data.id index codec payload ∧
      decompress lz4 codec payload = some piece := by
  have bound := (List.getElem?_eq_some_iff.mp placed).1
  have same : asU32 index = index := Nat.mod_eq_of_lt (by omega)
  refine ⟨_, _, ?_, policy.decompress_encode lz4 piece bandwidth⟩
  simp only [chunkMessage, same, slice_chunkRange positive small placed]

end

end AetherMesh.Dispatch
