import AetherMesh.Agent.Client
import AetherMesh.Controller.ChunkBatch

/-!
Chunked data arrives intact at an agent whose store has no budget, in whatever order
and however often its messages are handled.
-/

namespace AetherMesh.Agent

open Runs

variable {setup : Setup} {manifest : ChunkManifest} {pieces : List Bytes}
  {state after : State} {event : Event}

theorem collect_store (state : State) (connection : Connection) (dataId : DataId)
    (collected : ChunkAssembler × DataStore × Except ChunkError (Option Bytes)) :
    (collect state connection dataId collected).store = collected.2.1 := by
  unfold collect
  dsimp only
  split <;> rfl

theorem collect_assembler (state : State) (connection : Connection) (dataId : DataId)
    (collected : ChunkAssembler × DataStore × Except ChunkError (Option Bytes)) :
    (collect state connection dataId collected).assembler = collected.1 := by
  unfold collect
  dsimp only
  split <;> rfl

theorem reportEvictions_frame (state : State) (evicted : List DataId) :
    (reportEvictions state evicted).store = state.store ∧
    (reportEvictions state evicted).assembler = state.assembler ∧
    (reportEvictions state evicted).duties = state.duties := by
  unfold reportEvictions
  split
  · exact ⟨rfl, rfl, rfl⟩
  · exact ⟨rfl, rfl, rfl⟩

theorem finish_store (state : State) (connection : Connection) (dataId : DataId) (bytes : Bytes)
    (rest : List Duty) : (finish setup state connection dataId bytes rest).store =
      (state.store.store (setup.digest bytes) bytes).1 := by
  cases connection <;> rfl

theorem receiveManifest_contains (state : State) (manifest : ChunkManifest) :
    (receiveManifest setup state manifest).store.contains = state.store.contains := by
  rw [receiveManifest, collect_store]
  exact DataStore.contains_congr (ChunkAssembler.fillFromStore_store setup.digest _ _ _).1

theorem addStored_contains (state : State) (connection : Connection) (dataId : DataId)
    (index : Nat) (content : Bytes) :
    (collect state connection dataId
      (state.assembler.addStored setup.digest state.store dataId index content)).store.contains =
        (state.store.put setup.digest content).1.contains := by
  rw [collect_store]
  exact DataStore.contains_congr (ChunkAssembler.addStored_store setup.digest _ _ _ _ _).1

theorem Step.stores (step : Step setup state event after) :
    after.store.budget = state.store.budget ∧
    (after.store.bytesOf = state.store.bytesOf ∨ ∃ bytes,
      after.store.bytesOf = (state.store.store (setup.digest bytes) bytes).1.bytesOf) := by
  have same : state.store.budget = state.store.budget ∧
      (state.store.bytesOf = state.store.bytesOf ∨ ∃ bytes,
        state.store.bytesOf = (state.store.store (setup.digest bytes) bytes).1.bytesOf) :=
    ⟨rfl, .inl rfl⟩
  cases step with
  | held nodeId descriptor =>
      exact ⟨state.store.budget_touch _, .inl (funext (state.store.bytesOf_touch _))⟩
  | transfer nodeId descriptor codec bytes content idle named =>
      rw [← named]
      exact ⟨DataStore.budget_store _ _ content, .inr ⟨content, rfl⟩⟩
  | manifest nodeId manifest =>
      rw [receiveManifest, collect_store]
      have kept := ChunkAssembler.fillFromStore_store setup.digest
        (state.assembler.begin manifest) manifest.data.id state.store
      exact ⟨kept.2, .inl kept.1⟩
  | chunk connection nodeId dataId index codec bytes content =>
      rw [collect_store]
      have kept := ChunkAssembler.addStored_store setup.digest state.assembler dataId state.store
        index content
      exact ⟨kept.2.trans (DataStore.budget_store _ _ content), .inr ⟨content, kept.1⟩⟩
  | act connection duty rest =>
      cases duty with
      | finish dataId bytes =>
          rw [perform, finish_store]
          exact ⟨DataStore.budget_store _ _ bytes, .inr ⟨bytes, rfl⟩⟩
      | announce dataId => exact same
      | report evicted =>
          rw [perform, (reportEvictions_frame _ evicted).1]
          exact same
  | read dataId => exact ⟨state.store.budget_touch _, .inl (funext (state.store.bytesOf_touch _))⟩
  | execute index outcome duration task =>
      cases outcome with
      | ok output => exact ⟨DataStore.budget_store _ _ output, .inr ⟨output, rfl⟩⟩
      | error message => exact same
  | _ => exact same

theorem Step.grown (step : Step setup state event after) (unbounded : state.store.budget = none)
    (keyed : state.store.Keyed setup.digest) :
    DataStore.Grown setup.digest state.store after.store := by
  obtain ⟨budget, same | ⟨bytes, stored⟩⟩ := step.stores
  · exact .of_same unbounded keyed same budget
  · have put := DataStore.Grown.store unbounded keyed bytes
    exact put.trans (.of_same put.unbounded put.keyed stored
      (budget.trans (DataStore.budget_store _ _ bytes).symm))

theorem mem_owe_other {connection other : Connection} {duty : Duty} {duties : List Duty}
    (idle : state.duties other = []) (owed : duty ∈ state.duties connection) :
    duty ∈ (state.owe other duties).duties connection := by
  have different : connection ≠ other := by
    rintro rfl
    rw [idle] at owed
    cases owed
  simpa [State.owe, Function.update_of_ne different] using owed

theorem mem_collect_other {connection other : Connection} {duty : Duty} {dataId : DataId}
    {collected : ChunkAssembler × DataStore × Except ChunkError (Option Bytes)}
    (idle : state.duties other = []) (owed : duty ∈ state.duties connection) :
    duty ∈ (collect state other dataId collected).duties connection := by
  unfold collect
  dsimp only
  split
  · exact mem_owe_other idle owed
  · exact owed
  · exact owed

theorem mem_perform {connection other : Connection} {duty done : Duty} {rest : List Duty}
    (front : state.duties other = done :: rest) (owed : duty ∈ state.duties connection) :
    duty ∈ (perform setup state other rest done).duties connection ∨
      (connection = other ∧ duty = done) := by
  have kept : ∀ more, duty ∈ Function.update state.duties other (more ++ rest) connection ∨
      (connection = other ∧ duty = done) := by
    intro more
    by_cases same : connection = other
    · subst same
      rw [front, List.mem_cons] at owed
      rcases owed with here | later
      · exact .inr ⟨rfl, here⟩
      · left
        rw [Function.update_self]
        exact List.mem_append_right _ later
    · left
      rw [Function.update_of_ne same]
      exact owed
  cases done with
  | finish dataId bytes =>
      cases other with
      | control => exact kept [_, _]
      | channel number => exact kept [_]
  | announce dataId => exact kept []
  | report evicted =>
      rw [perform, (reportEvictions_frame _ evicted).2.2]
      exact kept []

theorem Step.owed (step : Step setup state event after) {connection : Connection} {duty : Duty}
    (owed : duty ∈ state.duties connection) :
    duty ∈ after.duties connection ∨
      ∃ rest, after = perform setup state connection rest duty := by
  cases step with
  | transfer nodeId descriptor codec bytes content idle => exact .inl (mem_owe_other idle owed)
  | manifest nodeId manifest idle => exact .inl (mem_collect_other idle owed)
  | chunk other nodeId dataId index codec bytes content idle =>
      exact .inl (mem_collect_other idle owed)
  | act other done rest front =>
      rcases mem_perform front owed with kept | ⟨rfl, rfl⟩
      · exact .inl kept
      · exact .inr ⟨rest, rfl⟩
  | execute index outcome =>
      cases outcome with
      | ok output => exact .inl owed
      | error message => exact .inl owed
  | _ => exact .inl owed

/-- The dataset is in the store, or a handler is about to put it there. -/
def Assembled (setup : Setup) (pieces : List Bytes) (state : State) : Prop :=
  state.store.bytesOf (setup.digest pieces.flatten) = some pieces.flatten ∨
    ∃ connection dataId, .finish dataId pieces.flatten ∈ state.duties connection

theorem Assembled.step (chunked : Chunked setup.digest manifest pieces)
    (assembled : Assembled setup pieces state) (step : Step setup state event after)
    (unbounded : state.store.budget = none) (keyed : state.store.Keyed setup.digest) :
    Assembled setup pieces after := by
  have grown := step.grown unbounded keyed
  rcases assembled with stored | ⟨connection, dataId, owed⟩
  · exact .inl (grown.within _ _ stored)
  · rcases step.owed owed with kept | ⟨rest, rfl⟩
    · exact .inr ⟨connection, dataId, kept⟩
    · left
      rw [perform, finish_store]
      have held := DataStore.contains_store state.store (setup.digest pieces.flatten) pieces.flatten
      obtain ⟨bytes, found⟩ := DataStore.contains_iff.mp held
      rw [found]
      exact congrArg some (chunked.whole bytes (keyed.store pieces.flatten _ _ found))

def Finishing (manifest : ChunkManifest) (pieces : List Bytes) (state : State) : Prop :=
  ∃ connection, .finish manifest.data.id pieces.flatten ∈ state.duties connection

theorem Finishing.assembled (finishing : Finishing manifest pieces state) :
    Assembled setup pieces state := by
  obtain ⟨connection, owed⟩ := finishing
  exact .inr ⟨connection, manifest.data.id, owed⟩

theorem collect_completed {connection : Connection} {dataId : DataId} {bytes : Bytes}
    {collected : ChunkAssembler × DataStore × Except ChunkError (Option Bytes)}
    (done : collected.2.2 = .ok (some bytes)) :
    .finish dataId bytes ∈ (collect state connection dataId collected).duties connection := by
  simp [collect, done, State.owe]

theorem collect_advanced {before : ChunkAssembler} {connection : Connection} {complete : Prop}
    {collected : ChunkAssembler × DataStore × Except ChunkError (Option Bytes)}
    (advanced : Advanced manifest pieces before collected.1 complete collected.2.2) :
    (complete →
      Finishing manifest pieces (collect state connection manifest.data.id collected)) ∧
    (Finishing manifest pieces (collect state connection manifest.data.id collected) ∨
      (collect state connection manifest.data.id collected).assembler.Collecting manifest
        pieces) := by
  have done : complete →
      Finishing manifest pieces (collect state connection manifest.data.id collected) := by
    intro all
    exact ⟨connection, collect_completed (advanced.completed all)⟩
  refine ⟨done, ?_⟩
  by_cases all : complete
  · exact .inl (done all)
  · right
    rw [collect_assembler]
    exact (advanced.waiting all).2

theorem collecting_of_frame {before later : ChunkAssembler}
    (collecting : before.Collecting manifest pieces)
    (same : later.pending.lookup manifest.data.id = before.pending.lookup manifest.data.id) :
    later.Collecting manifest pieces := by
  obtain ⟨pending, found, collected, lacks⟩ := collecting
  exact ⟨pending, same.trans found, collected, lacks⟩

def Only (manifest : ChunkManifest) (past : List Event) : Prop :=
  ∀ nodeId other, .receive .control (.dataManifest nodeId other) ∈ past →
    other.data.id = manifest.data.id → other = manifest

/-- A dataset that is being collected stays so until it is whole. -/
theorem collecting_step (chunked : Chunked setup.digest manifest pieces)
    (collecting : state.assembler.Collecting manifest pieces)
    (keyed : state.store.Keyed setup.digest) (step : Step setup state event after)
    (only : Only manifest [event]) :
    Finishing manifest pieces after ∨ after.assembler.Collecting manifest pieces := by
  cases step with
  | manifest nodeId other =>
      by_cases same : other.data.id = manifest.data.id
      · obtain rfl := only nodeId other (by simp) same
        exact (collect_advanced (chunked.beginWith state.assembler keyed)).2
      · right
        rw [receiveManifest, collect_assembler]
        have framed := ChunkAssembler.beginWith_framed setup.digest state.assembler other state.store
        exact collecting_of_frame collecting (framed.others _ (Ne.symm same))
  | chunk connection nodeId dataId index codec bytes content =>
      by_cases same : dataId = manifest.data.id
      · subst same
        by_cases right : pieces[index]? = some content
        · obtain ⟨complete, -, advanced⟩ := chunked.addStored collecting keyed right
          exact (collect_advanced advanced).2
        · right
          rw [collect_assembler, chunked.addStored_wrong collecting right]
          exact collecting
      · right
        rw [collect_assembler]
        have framed := ChunkAssembler.addStored_framed setup.digest state.assembler dataId
          state.store index content
        exact collecting_of_frame collecting (framed.others _ (Ne.symm same))
  | act connection duty rest =>
      right
      cases duty with
      | finish dataId bytes => cases connection <;> exact collecting
      | announce dataId => exact collecting
      | report evicted =>
          rw [perform, (reportEvictions_frame _ evicted).2.1]
          exact collecting
  | execute index outcome =>
      right
      cases outcome with
      | ok output => exact collecting
      | error message => exact collecting
  | _ => exact .inr collecting

/-- The messages of a transfer, as far as the agent is concerned: each carries a piece of the
dataset, and the pieces that are not sent are in the store. -/
structure Batch (setup : Setup) (manifest : ChunkManifest) (pieces : List Bytes) (store : DataStore)
    (batch : List Message) : Prop where
  right : ∀ message ∈ batch, ∃ nodeId index codec bytes content,
    message = .dataChunk nodeId manifest.data.id index codec bytes ∧
      decompress setup.lz4 codec bytes = some content ∧ pieces[index]? = some content
  covers : ∀ piece ∈ pieces, store.contains (setup.digest piece) = true ∨
    ∃ nodeId index codec bytes, .dataChunk nodeId manifest.data.id index codec bytes ∈ batch ∧
      decompress setup.lz4 codec bytes = some piece

def Begun (manifest : ChunkManifest) (past : List Event) : Prop :=
  ∃ nodeId, .receive .control (.dataManifest nodeId manifest) ∈ past

def Delivered (batch : List Message) (past : List Event) : Prop :=
  ∀ message ∈ batch, ∃ connection, .receive connection message ∈ past

structure Arriving (setup : Setup) (manifest : ChunkManifest) (pieces : List Bytes)
    (batch : List Message) (start : DataStore) (past : List Event) (state : State) : Prop where
  grown : DataStore.Grown setup.digest start state.store
  kept : ∀ connection nodeId dataId index codec bytes content,
    .receive connection (.dataChunk nodeId dataId index codec bytes) ∈ past →
      decompress setup.lz4 codec bytes = some content →
        state.store.contains (setup.digest content) = true
  collecting : Begun manifest past →
    Assembled setup pieces state ∨ state.assembler.Collecting manifest pieces
  assembled : Begun manifest past → Delivered batch past → Assembled setup pieces state

theorem only_append {past : List Event} (only : Only manifest (past ++ [event])) :
    Only manifest past ∧ Only manifest [event] :=
  ⟨fun nodeId other handled => only nodeId other (List.mem_append_left _ handled),
    fun nodeId other handled => only nodeId other (List.mem_append_right _ handled)⟩

theorem holdsAll_of_delivered {batch : List Message} {start : DataStore} {past : List Event}
    (planned : Batch setup manifest pieces start batch)
    (grown : DataStore.Grown setup.digest start state.store)
    (kept : ∀ connection nodeId dataId index codec bytes content,
      .receive connection (.dataChunk nodeId dataId index codec bytes) ∈ past →
        decompress setup.lz4 codec bytes = some content →
          state.store.contains (setup.digest content) = true)
    (delivered : Delivered batch past) : state.store.HoldsAll setup.digest pieces := by
  intro piece member
  rcases planned.covers piece member with held | ⟨nodeId, index, codec, bytes, sent, decoded⟩
  · exact grown.contains held
  · obtain ⟨connection, handled⟩ := delivered _ sent
    exact kept connection nodeId manifest.data.id index codec bytes piece handled decoded

section

variable {batch : List Message} {start : DataStore} {past : List Event}

theorem not_begun : ¬ Begun manifest [] := by
  rintro ⟨nodeId, handled⟩
  exact absurd handled List.not_mem_nil

theorem arriving_start (unbounded : state.store.budget = none)
    (keyed : state.store.Keyed setup.digest) :
    Arriving setup manifest pieces batch state.store [] state where
  grown := .of_same unbounded keyed rfl rfl
  kept _ _ _ _ _ _ _ handled := absurd handled List.not_mem_nil
  collecting begun := absurd begun not_begun
  assembled begun := absurd begun not_begun

theorem proper_stored {connection : Connection} {nodeId : NodeId} {dataId : DataId} {index : Nat}
    {codec : Codec} {bytes content : Bytes} (decoded : decompress setup.lz4 codec bytes = some content)
    (step : Step setup state (.receive connection (.dataChunk nodeId dataId index codec bytes))
      after) : after.store.contains (setup.digest content) = true := by
  obtain rfl := step.chunk_eq decoded
  rw [addStored_contains]
  exact DataStore.contains_store state.store (setup.digest content) content

theorem Arriving.kept_step (arriving : Arriving setup manifest pieces batch start past state)
    (step : Step setup state event after)
    (grown : DataStore.Grown setup.digest state.store after.store)
    (connection : Connection) (nodeId : NodeId) (dataId : DataId) (index : Nat) (codec : Codec)
    (bytes content : Bytes)
    (handled : .receive connection (.dataChunk nodeId dataId index codec bytes) ∈ past ++ [event])
    (decoded : decompress setup.lz4 codec bytes = some content) :
    after.store.contains (setup.digest content) = true := by
  rcases List.mem_append.mp handled with old | new
  · exact grown.contains
      (arriving.kept connection nodeId dataId index codec bytes content old decoded)
  · obtain rfl := List.mem_singleton.mp new
    exact proper_stored decoded step

theorem Arriving.completes (arriving : Arriving setup manifest pieces batch start past state)
    (chunked : Chunked setup.digest manifest pieces)
    (planned : Batch setup manifest pieces start batch) (step : Step setup state event after)
    (only : Only manifest (past ++ [event]))
    (holds : after.store.HoldsAll setup.digest pieces)
    (begun : Begun manifest (past ++ [event])) (delivered : Delivered batch (past ++ [event]))
    (missing : ¬ (Begun manifest past ∧ Delivered batch past)) :
    Assembled setup pieces after := by
  have keyed := arriving.grown.keyed
  by_cases started : Begun manifest past
  · -- A chunk message of the batch is new.
    have undelivered : ¬ Delivered batch past := fun all => missing ⟨started, all⟩
    simp only [Delivered, not_forall] at undelivered
    obtain ⟨message, member, unseen⟩ := undelivered
    obtain ⟨connection, handled⟩ := delivered message member
    rcases List.mem_append.mp handled with old | new
    · exact absurd ⟨connection, old⟩ unseen
    · obtain rfl := List.mem_singleton.mp new
      obtain ⟨nodeId, index, codec, bytes, content, rfl, decoded, right⟩ :=
        planned.right message member
      rcases arriving.collecting started with assembled | collecting
      · exact assembled.step chunked step arriving.grown.unbounded keyed
      · obtain rfl := step.chunk_eq decoded
        obtain ⟨complete, all, advanced⟩ := chunked.addStored collecting keyed right
        refine ((collect_advanced advanced).1 (all fun piece member => ?_)).assembled
        rw [← addStored_contains state connection manifest.data.id index content]
        exact holds piece member
  · obtain ⟨nodeId, handled⟩ := begun
    rcases List.mem_append.mp handled with old | new
    · exact absurd ⟨nodeId, old⟩ started
    · obtain rfl := List.mem_singleton.mp new
      obtain rfl := step.manifest_eq
      refine ((collect_advanced (chunked.beginWith state.assembler keyed)).1 ?_).assembled
      intro piece member
      rw [← receiveManifest_contains state manifest]
      exact holds piece member

theorem Arriving.step (arriving : Arriving setup manifest pieces batch start past state)
    (chunked : Chunked setup.digest manifest pieces)
    (planned : Batch setup manifest pieces start batch) (step : Step setup state event after)
    (only : Only manifest (past ++ [event])) :
    Arriving setup manifest pieces batch start (past ++ [event]) after := by
  have unbounded := arriving.grown.unbounded
  have keyed := arriving.grown.keyed
  have grown := step.grown unbounded keyed
  have kept := arriving.kept_step step grown
  refine ⟨arriving.grown.trans grown, kept, ?_, ?_⟩
  · rintro ⟨nodeId, handled⟩
    rcases List.mem_append.mp handled with old | new
    · rcases arriving.collecting ⟨nodeId, old⟩ with assembled | collecting
      · exact .inl (assembled.step chunked step unbounded keyed)
      · exact (collecting_step chunked collecting keyed step (only_append only).2).imp_left
          Finishing.assembled
    · obtain rfl := List.mem_singleton.mp new
      obtain rfl := step.manifest_eq
      exact (collect_advanced (chunked.beginWith state.assembler keyed)).2.imp_left
        Finishing.assembled
  · intro begun delivered
    by_cases done : Begun manifest past ∧ Delivered batch past
    · exact (arriving.assembled done.1 done.2).step chunked step unbounded keyed
    · have holds := holdsAll_of_delivered planned (arriving.grown.trans grown) kept delivered
      exact arriving.completes chunked planned step only holds begun delivered done

end

/-- The batch of `send_chunked` carries whatever the agent lacks when the catalog is right
about what it holds. -/
theorem batch_split {bytes : Bytes} {size : Nat} (positive : 0 < size) (small : size < 2 ^ 32)
    (few : (chunksOf size bytes).length < 2 ^ 32)
    (unique : ∀ piece ∈ chunksOf size bytes, ∀ other,
      setup.digest other = setup.digest piece → other = piece)
    (policy : CompressionPolicy) (bandwidth : Option Nat) (mesh : Mesh) (nodeId : NodeId)
    {store : DataStore}
    (truthful : ∀ chunk ∈ (ChunkManifest.split setup.digest bytes size).chunks,
      mesh.reuseData = true → mesh.catalog.holds chunk.id nodeId = true →
        store.contains chunk.id = true) :
    Batch setup (ChunkManifest.split setup.digest bytes size) (chunksOf size bytes) store
      (Dispatch.chunkBatch policy setup.lz4 bandwidth mesh nodeId
        (ChunkManifest.split setup.digest bytes size) bytes) := by
  have chunks : (ChunkManifest.split setup.digest bytes size).chunks =
      (chunksOf size bytes).map (DataDescriptor.of setup.digest) := by
    simp [ChunkManifest.split, Nat.ne_of_gt positive]
  have planned := Dispatch.planned mesh nodeId
    (ChunkManifest.split setup.digest bytes size).chunks.zipIdx
  have placed : ∀ entry ∈ (ChunkManifest.split setup.digest bytes size).chunks.zipIdx,
      ∃ piece, (chunksOf size bytes)[entry.2]? = some piece ∧
        entry.1 = DataDescriptor.of setup.digest piece := by
    rintro ⟨descriptor, index⟩ listed
    rw [List.mem_zipIdx_iff_getElem?, chunks, List.getElem?_map, Option.map_eq_some_iff] at listed
    obtain ⟨piece, found, same⟩ := listed
    exact ⟨piece, found, same.symm⟩
  refine ⟨?_, ?_⟩
  · intro message sent
    obtain ⟨index, chosen, rfl⟩ := List.mem_map.mp sent
    obtain ⟨entry, listed, rfl⟩ := planned.listed index chosen
    obtain ⟨piece, found, -⟩ := placed entry listed
    obtain ⟨codec, payload, made, decoded⟩ := Dispatch.chunkMessage_split policy setup.lz4
      bandwidth positive small few nodeId found
    exact ⟨nodeId, entry.2, codec, payload, piece, made, decoded, found⟩
  · intro piece member
    obtain ⟨index, bound, rfl⟩ := List.getElem_of_mem member
    have listed : (DataDescriptor.of setup.digest (chunksOf size bytes)[index], index) ∈
        (ChunkManifest.split setup.digest bytes size).chunks.zipIdx := by
      rw [List.mem_zipIdx_iff_getElem?, chunks, List.getElem?_map, List.getElem?_eq_getElem bound,
        Option.map_some]
    rcases planned.covered _ listed with held | ⟨copy, also, chosen, same⟩
    · left
      refine truthful _ ?_ held.1 held.2
      rw [chunks]
      exact List.mem_map_of_mem (List.getElem_mem bound)
    · right
      obtain ⟨other, found, described⟩ := placed copy also
      obtain ⟨codec, payload, made, decoded⟩ := Dispatch.chunkMessage_split policy setup.lz4
        bandwidth positive small few nodeId found
      refine ⟨nodeId, copy.2, codec, payload, ?_, ?_⟩
      · rw [← made]
        exact List.mem_map_of_mem chosen
      · rw [described] at same
        rw [decoded, unique _ (List.getElem_mem bound) other same]

/-- Nothing that the agent handles can exceed the frame limit, so neither does a manifest. -/
theorem few_of_begun {past : List Event} {start : State}
    (ran : run (next setup) start past = some state) {nodeId : NodeId}
    (begun : .receive .control (.dataManifest nodeId manifest) ∈ past) :
    manifest.chunks.length < 2 ^ 32 := by
  obtain ⟨front, back, rfl⟩ := List.append_of_mem begun
  obtain ⟨middle, -, rest⟩ := run_split ran
  simp only [run, next] at rest
  split at rest
  · rename_i ready
    have covers := setup.wire.covers nodeId manifest
    have fits : setup.wire.encodedLen (.dataManifest nodeId manifest) ≤ maxFrameBytes := by
      simpa [Wire.fits] using ready.2
    have limit : maxFrameBytes < 2 ^ 32 := by decide
    omega
  · cases rest

/-- Chunked data arrives intact. -/
theorem chunked_data_arrives (setup : Setup) (bytes : Bytes) (size : Nat) (positive : 0 < size)
    (small : size < 2 ^ 32) (larger : size < bytes.length)
    (collisionFree : ∀ piece ∈ bytes :: chunksOf size bytes, ∀ other,
      setup.digest other = setup.digest piece → other = piece)
    (policy : CompressionPolicy) (bandwidth : Option Nat) (mesh : Mesh) (nodeId : NodeId)
    (agent final : State) (unbounded : agent.store.budget = none)
    (keyed : agent.store.Keyed setup.digest) (manifest : ChunkManifest)
    (split : ChunkManifest.split setup.digest bytes size = manifest)
    (truthful : ∀ chunk ∈ manifest.chunks, mesh.reuseData = true →
      mesh.catalog.holds chunk.id nodeId = true → agent.store.contains chunk.id = true)
    (events : List Event) (ran : run (next setup) agent events = some final)
    (only : Only manifest events)
    (begun : .receive .control (.dataManifest nodeId manifest) ∈ events)
    (delivered : Delivered
      (Dispatch.chunkBatch policy setup.lz4 bandwidth mesh nodeId manifest bytes) events)
    (finished : ∀ connection, final.duties connection = []) :
    final.store.bytesOf (setup.digest bytes) = some bytes := by
  subst split
  have few : (chunksOf size bytes).length < 2 ^ 32 := by
    have bound := few_of_begun ran begun
    simpa [ChunkManifest.split, Nat.ne_of_gt positive] using bound
  have occupied : bytes ≠ [] := by
    rintro rfl
    simp at larger
  have chunked := chunked_split positive occupied few collisionFree
  have planned := batch_split positive small few chunked.unique policy bandwidth mesh nodeId
    truthful
  have arriving := @run_reached State Event (next setup)
    (fun past state => Only (ChunkManifest.split setup.digest bytes size) past →
      Arriving setup _ _ _ agent.store past state) agent final events
    (fun _ => arriving_start unbounded keyed)
    (fun past state event after _ ih moved only =>
      (ih (only_append only).1).step chunked planned (next_step moved) only) ran only
  rcases arriving.assembled ⟨nodeId, begun⟩ delivered with stored | ⟨connection, dataId, owed⟩
  · rwa [flatten_chunksOf positive] at stored
  · rw [finished connection] at owed
    cases owed

/-- A hash that is unique for byte strings shorter than its output. -/
def shortDigest (bytes : Bytes) : DataId :=
  ⟨(bytes ++ List.replicate 31 0).take 31 ++ [UInt8.ofNat (min bytes.length 32)], by
    simp [dataIdLen]⟩

theorem shortDigest_unique {piece other : Bytes} (short : piece.length < 32)
    (same : shortDigest other = shortDigest piece) : other = piece := by
  obtain ⟨padded, last⟩ := List.append_inj' (congrArg DataId.asBytes same) rfl
  have lengths := congrArg UInt8.toNat (List.singleton_inj.mp last)
  simp only [UInt8.toNat_ofNat'] at lengths
  have equal : other.length = piece.length := by omega
  have cut := congrArg (List.take piece.length) padded
  rw [List.take_take, List.take_take, Nat.min_eq_left (by omega), List.take_left,
    ← equal, List.take_left] at cut
  exact cut

def plainWire : Wire where
  encodedLen
    | .dataManifest _ manifest => 64 + 40 * manifest.chunks.length
    | .dataChunk _ _ _ _ bytes => 64 + bytes.length
    | .dataTransfer _ _ _ bytes => 64 + bytes.length
    | _ => 64
  covers nodeId manifest := by
    dsimp only
    omega

def plainSetup : Setup := ⟨shortDigest, ⟨id, some, fun _ => rfl⟩, plainWire⟩

def neverCompress : CompressionPolicy := ⟨2 ^ 64 - 1, 0, fun _ _ => false⟩

def emptyAgent : State := ⟨⟨0⟩, DataStore.new, .new, fun _ => [], [], [], []⟩

def holdsTwo : State := { emptyAgent with store := (DataStore.new.put shortDigest [2]).1 }

def creditsTwo : Mesh where
  nodes := []
  catalog := DataCatalog.new.record (DataDescriptor.of shortDigest [2]) ⟨0⟩
  store := fun _ => none
  manifests := fun _ => none
  reuseData := true
  maxAttempts := 1

def chunkFirst : List Event :=
  [.receive (.channel 0) (.dataChunk ⟨0⟩ (shortDigest [1, 2, 1]) 0 .none [1]),
    .receive .control (.dataManifest ⟨0⟩ (ChunkManifest.split shortDigest [1, 2, 1] 1)),
    .act .control, .act .control, .act .control]

def afterChunkFirst : State := (run (next plainSetup) holdsTwo chunkFirst).getD holdsTwo

theorem chunk_before_manifest_arrives :
    run (next plainSetup) holdsTwo chunkFirst = some afterChunkFirst ∧
      afterChunkFirst.store.bytesOf (shortDigest [1, 2, 1]) = some [1, 2, 1] := by
  have ran : run (next plainSetup) holdsTwo chunkFirst = some afterChunkFirst := rfl
  refine ⟨ran, ?_⟩
  refine chunked_data_arrives plainSetup [1, 2, 1] 1 (by decide) (by decide) (by decide) ?_
    neverCompress none creditsTwo ⟨0⟩ holdsTwo afterChunkFirst rfl ?_ _ rfl ?_ chunkFirst ran ?_ ?_ ?_
    ?_
  · have short : ∀ piece ∈ [1, 2, 1] :: chunksOf 1 [1, 2, 1], piece.length < 32 := by decide
    intro piece member other same
    exact shortDigest_unique (short piece member) same
  · exact @DataStore.Keyed.store shortDigest DataStore.new nofun [2]
  · decide
  · intro nodeId other handled same
    simp only [chunkFirst, List.mem_cons, Event.receive.injEq, Message.dataManifest.injEq,
      reduceCtorEq, and_false, false_or, List.not_mem_nil, or_false] at handled
    exact handled.2.2
  · exact List.mem_cons_of_mem _ List.mem_cons_self
  · have batch : Dispatch.chunkBatch neverCompress plainSetup.lz4 none creditsTwo ⟨0⟩
        (ChunkManifest.split shortDigest [1, 2, 1] 1) [1, 2, 1] =
          [.dataChunk ⟨0⟩ (shortDigest [1, 2, 1]) 0 .none [1]] := by decide
    intro message sent
    rw [show plainSetup.digest = shortDigest from rfl, batch, List.mem_singleton] at sent
    subst sent
    exact ⟨.channel 0, List.mem_cons_self⟩
  · intro connection
    cases connection <;> rfl

end AetherMesh.Agent
