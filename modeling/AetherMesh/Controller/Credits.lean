import AetherMesh.Controller.ChunkBatch

/-!
What a submission leaves in the catalog. A chunk is credited when it is planned, a
dataset when its transfer returns, and a node is forgotten before the task goes to
another one. Beside the submission stands a log of what the transport confirmed.
-/

namespace AetherMesh.Dispatch

variable (transport : Transport) (scheduler : Scheduler) (attempt position : Nat)

def batchOf (mesh : Mesh) (nodeId : NodeId) (manifest : ChunkManifest) : List Nat :=
  (manifest.chunks.zipIdx.foldl (planChunk nodeId) (mesh, [])).2

def chunkIds (manifest : ChunkManifest) (batch : List Nat) : List DataId :=
  (manifest.chunks.zipIdx.filter fun entry => entry.2 ∈ batch).map fun entry => entry.1.id

/-- What the transport confirms when an input is handed over: a dataset in one message is
accepted or refused, and a batch of chunks is confirmed with the dataset they complete. -/
def confirmedInput (mesh : Mesh) (nodeId : NodeId) (dataId : DataId) : List DataId :=
  if mesh.reuseData ∧ mesh.catalog.holds dataId nodeId then []
  else
    match mesh.store dataId, mesh.manifests dataId with
    | none, _ => []
    | some bytes, none =>
        match transport.sendData attempt position nodeId ⟨dataId, bytes.length⟩ with
        | .error _ => []
        | .ok () => [dataId]
    | some _, some manifest =>
        match transport.sendManifest attempt position nodeId manifest with
        | .error _ => []
        | .ok () =>
            let batch := batchOf mesh nodeId manifest
            if batch = [] then []
            else
              match transport.sendChunks attempt position nodeId manifest.data.id batch with
              | .error _ => []
              | .ok () => dataId :: chunkIds manifest batch

def confirmedInputs (nodeId : NodeId) : List (DataId × Nat) → Mesh → List DataId
  | [], _ => []
  | (dataId, position) :: rest, mesh =>
      confirmedInput transport attempt position mesh nodeId dataId ++
        match ensureInput transport attempt position mesh nodeId dataId with
        | (_, .error _) => []
        | (after, .ok ()) => confirmedInputs nodeId rest after

def confirmedFrom (task : Task) :
    (left attempt : Nat) → List NodeId → Mesh → List (DataId × NodeId)
  | 0, _, _, _ => []
  | left + 1, attempt, unusable, mesh =>
      let nodes := mesh.nodes.filter fun node =>
        node.id ∉ unusable ∧ transport.isAvailable attempt node.id
      match scheduler.selectNode attempt nodes task with
      | none => []
      | some nodeId =>
          (confirmedInputs transport attempt nodeId task.inputs.zipIdx mesh).map
              (fun dataId => (dataId, nodeId)) ++
            match tryOnce transport attempt mesh nodeId task with
            | (_, .ok _) => []
            | (after, .error error) =>
                if 0 < left ∧ isRetryable error then
                  confirmedFrom task left (attempt + 1) (nodeId :: unusable)
                    { after with catalog := after.catalog.forgetNode nodeId }
                else []

def confirmed (cached : Option TaskResult) (mesh : Mesh) (task : Task) : List (DataId × NodeId) :=
  match cached with
  | some _ => []
  | none => confirmedFrom transport scheduler task mesh.maxAttempts 1 [] mesh

def reported (digest : Bytes → DataId) (result : TaskResult) : Option (DataId × NodeId) :=
  match result.outputId, result.output with
  | some outputId, some output => if digest output = outputId then some (outputId, result.nodeId) else none
  | _, _ => none

/-- An input is handed over in a way that leaves a credit without a confirmation: its batch fails
with a chunk that was not credited, or its batch is empty and nobody waits. -/
def unconfirmed (produced : Option (DataId × NodeId)) (mesh : Mesh) (nodeId : NodeId)
    (dataId : DataId) : Bool :=
  if mesh.reuseData ∧ mesh.catalog.holds dataId nodeId then false
  else
    match mesh.store dataId, mesh.manifests dataId with
    | some _, some manifest =>
        match transport.sendManifest attempt position nodeId manifest with
        | .error _ => false
        | .ok () =>
            let batch := batchOf mesh nodeId manifest
            if batch = [] then produced ≠ some (dataId, nodeId)
            else
              match transport.sendChunks attempt position nodeId manifest.data.id batch with
              | .error _ => manifest.chunks.any fun chunk => !mesh.catalog.holds chunk.id nodeId
              | .ok () => false
    | _, _ => false

def allConfirmed (produced : Option (DataId × NodeId)) (nodeId : NodeId) :
    List (DataId × Nat) → Mesh → Bool
  | [], _ => true
  | (dataId, position) :: rest, mesh =>
      !unconfirmed transport attempt position produced mesh nodeId dataId &&
        match ensureInput transport attempt position mesh nodeId dataId with
        | (_, .error _) => true
        | (after, .ok ()) => allConfirmed produced nodeId rest after

def endsConfirmed (digest : Bytes → DataId) (task : Task) :
    (left attempt : Nat) → List NodeId → Mesh → Bool
  | 0, _, _, _ => true
  | left + 1, attempt, unusable, mesh =>
      let nodes := mesh.nodes.filter fun node =>
        node.id ∉ unusable ∧ transport.isAvailable attempt node.id
      match scheduler.selectNode attempt nodes task with
      | none => true
      | some nodeId =>
          match tryOnce transport attempt mesh nodeId task with
          | (_, .ok result) =>
              allConfirmed transport attempt (reported digest result) nodeId task.inputs.zipIdx mesh
          | (after, .error error) =>
              if 0 < left ∧ isRetryable error then
                endsConfirmed digest task left (attempt + 1) (nodeId :: unusable)
                  { after with catalog := after.catalog.forgetNode nodeId }
              else allConfirmed transport attempt none nodeId task.inputs.zipIdx mesh

/-- A chunk is credited if it was before or is planned, and what was credited is not planned
again when data is reused. -/
structure Exactly (mesh : Mesh) (nodeId : NodeId) (entries : List (DataDescriptor × Nat))
    (plan : Mesh × List Nat) : Prop where
  frame : plan.1 = { mesh with catalog := plan.1.catalog }
  held : ∀ dataId other, plan.1.catalog.holds dataId other = true ↔
    mesh.catalog.holds dataId other = true ∨
      other = nodeId ∧ ∃ entry ∈ entries, entry.2 ∈ plan.2 ∧ entry.1.id = dataId
  fresh : mesh.reuseData = true → ∀ entry ∈ entries, entry.2 ∈ plan.2 →
    mesh.catalog.holds entry.1.id nodeId = false

theorem Exactly.step {mesh : Mesh} {nodeId : NodeId} {front : List (DataDescriptor × Nat)}
    {last : DataDescriptor × Nat} {plan : Mesh × List Nat}
    (exactly : Exactly mesh nodeId front plan) (outside : last.2 ∉ plan.2)
    (distinct : ∀ entry ∈ front, entry.2 ≠ last.2) :
    Exactly mesh nodeId (front ++ [last]) (planChunk nodeId plan last) := by
  unfold planChunk
  split
  · refine ⟨exactly.frame, fun dataId other => ?_, fun reuse entry listed inside => ?_⟩
    · rw [exactly.held]
      refine or_congr_right (and_congr_right fun _ => ?_)
      simp only [List.mem_append, List.mem_singleton]
      constructor
      · rintro ⟨entry, listed, rest⟩
        exact ⟨entry, .inl listed, rest⟩
      · rintro ⟨entry, listed | rfl, inside, same⟩
        · exact ⟨entry, listed, inside, same⟩
        · exact absurd inside outside
    · rcases List.mem_append.mp listed with old | new
      · exact exactly.fresh reuse entry old inside
      · obtain rfl := List.mem_singleton.mp new
        exact absurd inside outside
  · rename_i chosen
    refine ⟨?_, fun dataId other => ?_, fun reuse entry listed inside => ?_⟩
    · rw [exactly.frame]
    · simp only [DataCatalog.holds_record, exactly.held, List.mem_append, List.mem_singleton]
      constructor
      · rintro ((old | ⟨rfl, entry, listed, inside, same⟩) | ⟨rfl, rfl⟩)
        · exact .inl old
        · exact .inr ⟨rfl, entry, .inl listed, .inl inside, same⟩
        · exact .inr ⟨rfl, last, .inr rfl, .inr rfl, rfl⟩
      · rintro (old | ⟨rfl, entry, listed | rfl, inside | here, same⟩)
        · exact .inl (.inl old)
        · exact .inl (.inr ⟨rfl, entry, listed, inside, same⟩)
        · exact absurd here (distinct entry listed)
        · exact absurd inside outside
        · exact .inr ⟨same.symm, rfl⟩
    · rcases List.mem_append.mp listed with old | new
      · rcases List.mem_append.mp inside with earlier | here
        · exact exactly.fresh reuse entry old earlier
        · exact absurd (List.mem_singleton.mp here) (distinct entry old)
      · obtain rfl := List.mem_singleton.mp new
        rw [Bool.eq_false_iff]
        intro held
        refine chosen ⟨?_, (exactly.held _ _).mpr (.inl held)⟩
        rw [exactly.frame]
        exact reuse

theorem planned_exactly (mesh : Mesh) (nodeId : NodeId) (entries : List (DataDescriptor × Nat))
    (distinct : (entries.map Prod.snd).Nodup) :
    Exactly mesh nodeId entries (entries.foldl (planChunk nodeId) (mesh, [])) := by
  induction entries using List.reverseRecOn with
  | nil => exact ⟨rfl, by simp, by simp⟩
  | append_singleton front last ih =>
      rw [List.map_append, List.map_singleton, List.nodup_append] at distinct
      have apart : ∀ entry ∈ front, entry.2 ≠ last.2 := fun entry listed =>
        distinct.2.2 entry.2 (List.mem_map_of_mem listed) last.2 List.mem_cons_self
      rw [List.foldl_append, List.foldl_cons, List.foldl_nil]
      refine (ih distinct.1).step ?_ apart
      intro inside
      obtain ⟨entry, listed, same⟩ := (planned mesh nodeId front).listed last.2 inside
      exact apart entry listed same

structure PlannedCredits (mesh : Mesh) (nodeId : NodeId) (manifest : ChunkManifest) (after : Mesh) :
    Prop where
  frame : after = { mesh with catalog := after.catalog }
  held : ∀ dataId other, after.catalog.holds dataId other = true ↔
    mesh.catalog.holds dataId other = true ∨
      other = nodeId ∧ dataId ∈ chunkIds manifest (batchOf mesh nodeId manifest)
  fresh : mesh.reuseData = true → ∀ dataId ∈ chunkIds manifest (batchOf mesh nodeId manifest),
    mesh.catalog.holds dataId nodeId = false
  all : ∀ chunk ∈ manifest.chunks, after.catalog.holds chunk.id nodeId = true
  skipped : batchOf mesh nodeId manifest = [] → manifest.chunks ≠ [] → mesh.reuseData = true

theorem mem_chunkIds {manifest : ChunkManifest} {batch : List Nat} {dataId : DataId} :
    dataId ∈ chunkIds manifest batch ↔
      ∃ entry ∈ manifest.chunks.zipIdx, entry.2 ∈ batch ∧ entry.1.id = dataId := by
  simp only [chunkIds, List.mem_map, List.mem_filter, decide_eq_true_eq, and_assoc]

theorem plannedCredits (mesh : Mesh) (nodeId : NodeId) (manifest : ChunkManifest) :
    PlannedCredits mesh nodeId manifest
      (manifest.chunks.zipIdx.foldl (planChunk nodeId) (mesh, [])).1 := by
  have exactly := planned_exactly mesh nodeId manifest.chunks.zipIdx
    (List.nodup_zipIdx_map_snd manifest.chunks)
  have covered := (planned mesh nodeId manifest.chunks.zipIdx).covered
  refine ⟨exactly.frame, fun dataId other => ?_, fun reuse dataId listed => ?_,
    fun chunk listed => ?_, fun none some => ?_⟩
  · rw [exactly.held, mem_chunkIds, batchOf]
  · obtain ⟨entry, member, inside, rfl⟩ := mem_chunkIds.mp listed
    exact exactly.fresh reuse entry member inside
  · obtain ⟨index, bound, rfl⟩ := List.getElem_of_mem listed
    have member : (manifest.chunks[index], index) ∈ manifest.chunks.zipIdx := by
      rw [List.mem_zipIdx_iff_getElem?, List.getElem?_eq_getElem bound]
    rw [exactly.held]
    rcases covered _ member with held | copy
    · exact .inl held.2
    · exact .inr ⟨rfl, copy⟩
  · obtain ⟨first, rest, chunks⟩ := List.exists_cons_of_ne_nil some
    have member : (first, 0) ∈ manifest.chunks.zipIdx := by
      rw [List.mem_zipIdx_iff_getElem?, chunks]
      rfl
    rcases covered _ member with held | ⟨copy, -, inside, -⟩
    · exact held.1
    · rw [batchOf] at none
      rw [none] at inside
      cases inside

/-- What handing over inputs to a node does to the catalog. A credit that nothing confirms stays
without a confirmation when data is reused. -/
structure Handover (produced : Option (DataId × NodeId)) (mesh : Mesh) (nodeId : NodeId)
    (logged : List DataId) (settled : Bool) (after : Mesh) (result : Except DispatchError Unit) :
    Prop where
  frame : after = { mesh with catalog := after.catalog }
  grows : ∀ dataId other, mesh.catalog.holds dataId other = true →
    after.catalog.holds dataId other = true
  others : ∀ dataId other, other ≠ nodeId → after.catalog.holds dataId other = true →
    mesh.catalog.holds dataId other = true
  credited : ∀ dataId ∈ logged, after.catalog.holds dataId nodeId = true
  fresh : mesh.reuseData = true → ∀ dataId ∈ logged, mesh.catalog.holds dataId nodeId = false
  backed : settled = true → ∀ dataId, after.catalog.holds dataId nodeId = true →
    mesh.catalog.holds dataId nodeId = true ∨ dataId ∈ logged ∨ produced = some (dataId, nodeId)
  unbacked : settled = false → ∃ dataId, after.catalog.holds dataId nodeId = true ∧
    mesh.catalog.holds dataId nodeId = false ∧ dataId ∉ logged ∧
    (result = .ok () ∧ mesh.reuseData = true ∧ produced ≠ some (dataId, nodeId) ∨
      ∃ error, result = .error error)

section

variable {produced : Option (DataId × NodeId)} {mesh after : Mesh} {nodeId : NodeId}
  {dataId : DataId} {manifest : ChunkManifest} {result : Except DispatchError Unit}

theorem Handover.same : Handover produced mesh nodeId [] true mesh result :=
  ⟨rfl, fun _ _ => id, fun _ _ _ => id, by simp, by simp, fun _ _ => .inl, nofun⟩

theorem Handover.whole (absent : ¬ (mesh.reuseData = true ∧ mesh.catalog.holds dataId nodeId = true))
    (size : Nat) :
    Handover produced mesh nodeId [dataId] true
      { mesh with catalog := mesh.catalog.record ⟨dataId, size⟩ nodeId } result where
  frame := rfl
  grows _ _ held := DataCatalog.holds_record.mpr (.inl held)
  others other _ different held := by
    rcases DataCatalog.holds_record.mp held with old | ⟨-, rfl⟩
    · exact old
    · exact absurd rfl different
  credited other listed := by
    obtain rfl := List.mem_singleton.mp listed
    exact DataCatalog.holds_record.mpr (.inr ⟨rfl, rfl⟩)
  fresh reuse other listed := by
    obtain rfl := List.mem_singleton.mp listed
    exact Bool.eq_false_iff.mpr fun held => absent ⟨reuse, held⟩
  backed _ other held := by
    rcases DataCatalog.holds_record.mp held with old | ⟨rfl, -⟩
    · exact .inl old
    · exact .inr (.inl (by simp))
  unbacked := nofun

theorem Handover.failed (planned : PlannedCredits mesh nodeId manifest after)
    (error : DispatchError) :
    Handover produced mesh nodeId []
      (!manifest.chunks.any fun chunk => !mesh.catalog.holds chunk.id nodeId) after
      (.error error) where
  frame := planned.frame
  grows other place held := (planned.held other place).mpr (.inl held)
  others other place different held := by
    rcases (planned.held other place).mp held with old | ⟨rfl, -⟩
    · exact old
    · exact absurd rfl different
  credited := by simp
  fresh := by simp
  backed settled other held := by
    left
    rcases (planned.held other nodeId).mp held with old | ⟨-, listed⟩
    · exact old
    · obtain ⟨entry, member, -, rfl⟩ := mem_chunkIds.mp listed
      have inside : entry.1 ∈ manifest.chunks := by
        rw [List.mem_zipIdx_iff_getElem?] at member
        exact List.mem_of_getElem? member
      simp only [Bool.not_eq_true', List.any_eq_false] at settled
      simpa using settled entry.1 inside
  unbacked missing := by
    simp only [Bool.not_eq_false', List.any_eq_true, Bool.not_eq_true'] at missing
    obtain ⟨chunk, listed, lacking⟩ := missing
    exact ⟨chunk.id, planned.all chunk listed, lacking, by simp, .inr ⟨error, rfl⟩⟩

theorem holds_recorded (planned : PlannedCredits mesh nodeId manifest after) (size : Nat)
    (other : DataId) (place : NodeId) :
    (after.catalog.record ⟨dataId, size⟩ nodeId).holds other place = true ↔
      mesh.catalog.holds other place = true ∨ place = nodeId ∧
        (other = dataId ∨ other ∈ chunkIds manifest (batchOf mesh nodeId manifest)) := by
  rw [DataCatalog.holds_record, planned.held]
  tauto

theorem recorded_elsewhere (planned : PlannedCredits mesh nodeId manifest after) (size : Nat)
    (other : DataId) (place : NodeId) (different : place ≠ nodeId)
    (held : (after.catalog.record ⟨dataId, size⟩ nodeId).holds other place = true) :
    mesh.catalog.holds other place = true := by
  rcases (holds_recorded planned size other place).mp held with old | ⟨same, -⟩
  · exact old
  · exact absurd same different

theorem Handover.chunks (planned : PlannedCredits mesh nodeId manifest after)
    (absent : ¬ (mesh.reuseData = true ∧ mesh.catalog.holds dataId nodeId = true)) (size : Nat) :
    Handover produced mesh nodeId
      (dataId :: chunkIds manifest (batchOf mesh nodeId manifest)) true
      { after with catalog := after.catalog.record ⟨dataId, size⟩ nodeId } result where
  frame := by
    rw [planned.frame]
  grows other place held := (holds_recorded planned size other place).mpr (.inl held)
  others other place := recorded_elsewhere planned size other place
  credited other listed :=
    (holds_recorded planned size other nodeId).mpr (.inr ⟨rfl, List.mem_cons.mp listed⟩)
  fresh reuse other listed := by
    rcases List.mem_cons.mp listed with rfl | listed
    · exact Bool.eq_false_iff.mpr fun held => absent ⟨reuse, held⟩
    · exact planned.fresh reuse other listed
  backed _ other held := by
    rcases (holds_recorded planned size other nodeId).mp held with old | ⟨-, listed⟩
    · exact .inl old
    · exact .inr (.inl (List.mem_cons.mpr listed))
  unbacked := nofun

theorem Handover.empty (planned : PlannedCredits mesh nodeId manifest after)
    (absent : ¬ (mesh.reuseData = true ∧ mesh.catalog.holds dataId nodeId = true))
    (none : batchOf mesh nodeId manifest = []) (occupied : manifest.chunks ≠ []) (size : Nat) :
    Handover produced mesh nodeId [] (!decide (produced ≠ some (dataId, nodeId)))
      { after with catalog := after.catalog.record ⟨dataId, size⟩ nodeId } (.ok ()) where
  frame := by
    rw [planned.frame]
  grows other place held := (holds_recorded planned size other place).mpr (.inl held)
  others other place := recorded_elsewhere planned size other place
  credited := by simp
  fresh := by simp
  backed settled other held := by
    rcases (holds_recorded planned size other nodeId).mp held with old | ⟨-, rfl | listed⟩
    · exact .inl old
    · right; right
      simpa using settled
    · rw [none] at listed
      simp [chunkIds] at listed
  unbacked missing := by
    have reuse := planned.skipped none occupied
    refine ⟨dataId, (holds_recorded planned size dataId nodeId).mpr (.inr ⟨rfl, .inl rfl⟩),
      Bool.eq_false_iff.mpr fun held => absent ⟨reuse, held⟩, by simp,
      .inl ⟨rfl, reuse, by simpa using missing⟩⟩

end

theorem ensureInput_handover (produced : Option (DataId × NodeId)) (mesh : Mesh) (nodeId : NodeId)
    (dataId : DataId)
    (chunked : ∀ dataId manifest, mesh.manifests dataId = some manifest → manifest.chunks ≠ []) :
    Handover produced mesh nodeId (confirmedInput transport attempt position mesh nodeId dataId)
      (!unconfirmed transport attempt position produced mesh nodeId dataId)
      (ensureInput transport attempt position mesh nodeId dataId).1
      (ensureInput transport attempt position mesh nodeId dataId).2 := by
  unfold confirmedInput unconfirmed ensureInput
  split
  · exact .same
  · rename_i absent
    cases stored : mesh.store dataId with
    | none => exact .same
    | some bytes =>
        cases found : mesh.manifests dataId with
        | none =>
            simp only [sendInput, found]
            cases transport.sendData attempt position nodeId ⟨dataId, bytes.length⟩ with
            | error error => exact .same
            | ok done => exact .whole absent bytes.length
        | some manifest =>
            have planned := plannedCredits mesh nodeId manifest
            simp only [sendInput, found, sendChunked]
            cases transport.sendManifest attempt position nodeId manifest with
            | error error => exact .same
            | ok done =>
                by_cases none : batchOf mesh nodeId manifest = []
                · simp only [none, if_true]
                  have empty := none
                  rw [batchOf] at empty
                  simp only [empty, if_true]
                  exact .empty planned absent none (chunked dataId manifest found) bytes.length
                · have some := none
                  rw [batchOf] at some
                  simp only [none, some, if_false]
                  rw [show batchOf mesh nodeId manifest =
                    (manifest.chunks.zipIdx.foldl (planChunk nodeId) (mesh, [])).2 from rfl]
                  cases transport.sendChunks attempt position nodeId manifest.data.id
                      (manifest.chunks.zipIdx.foldl (planChunk nodeId) (mesh, [])).2 with
                  | error error => exact .failed planned error.val
                  | ok done => exact .chunks planned absent bytes.length

theorem Handover.trans {produced : Option (DataId × NodeId)} {mesh middle after : Mesh}
    {nodeId : NodeId} {first second : List DataId} {early late : Bool}
    {result : Except DispatchError Unit}
    (left : Handover produced mesh nodeId first early middle (.ok ()))
    (right : Handover produced middle nodeId second late after result) :
    Handover produced mesh nodeId (first ++ second) (early && late) after result where
  frame := by
    rw [right.frame, left.frame]
  grows dataId other held := right.grows dataId other (left.grows dataId other held)
  others dataId other different held :=
    left.others dataId other different (right.others dataId other different held)
  credited dataId listed := by
    rcases List.mem_append.mp listed with old | new
    · exact right.grows _ _ (left.credited dataId old)
    · exact right.credited dataId new
  fresh reuse dataId listed := by
    rcases List.mem_append.mp listed with old | new
    · exact left.fresh reuse dataId old
    · have same : middle.reuseData = mesh.reuseData := by rw [left.frame]
      have lacking := right.fresh (same.trans reuse) dataId new
      refine Bool.eq_false_iff.mpr fun held => ?_
      exact absurd (left.grows dataId nodeId held) (Bool.eq_false_iff.mp lacking)
  backed settled dataId held := by
    obtain ⟨earlier, later⟩ := Bool.and_eq_true_iff.mp settled
    rw [List.mem_append]
    rcases right.backed later dataId held with middle | listed | own
    · rcases left.backed earlier dataId middle with before | listed | own
      · exact .inl before
      · exact .inr (.inl (.inl listed))
      · exact .inr (.inr own)
    · exact .inr (.inl (.inr listed))
    · exact .inr (.inr own)
  unbacked missing := by
    have same : middle.reuseData = mesh.reuseData := by rw [left.frame]
    rw [Bool.and_eq_false_iff] at missing
    by_cases earlier : early = false
    · -- What the first input left is credited when the others are planned, so they skip it.
      obtain ⟨dataId, held, lacking, unlogged, reason⟩ := left.unbacked earlier
      have reuse : mesh.reuseData = true ∧ produced ≠ some (dataId, nodeId) := by
        rcases reason with ⟨-, reuse, own⟩ | ⟨error, failed⟩
        · exact ⟨reuse, own⟩
        · cases failed
      refine ⟨dataId, right.grows _ _ held, lacking, ?_, ?_⟩
      · rw [List.mem_append]
        rintro (old | new)
        · exact unlogged old
        · have absent := right.fresh (same.trans reuse.1) dataId new
          rw [held] at absent
          cases absent
      · cases result with
        | ok done => exact .inl ⟨rfl, reuse⟩
        | error error => exact .inr ⟨error, rfl⟩
    · have later := missing.resolve_left earlier
      obtain ⟨dataId, held, lacking, unlogged, reason⟩ := right.unbacked later
      refine ⟨dataId, held, ?_, ?_, ?_⟩
      · refine Bool.eq_false_iff.mpr fun before => ?_
        exact absurd (left.grows dataId nodeId before) (Bool.eq_false_iff.mp lacking)
      · rw [List.mem_append]
        rintro (old | new)
        · exact absurd (left.credited dataId old) (Bool.eq_false_iff.mp lacking)
        · exact unlogged new
      · rw [← same]
        exact reason

theorem ensureInputs_handover (produced : Option (DataId × NodeId)) (nodeId : NodeId)
    (inputs : List (DataId × Nat)) (mesh : Mesh)
    (chunked : ∀ dataId manifest, mesh.manifests dataId = some manifest → manifest.chunks ≠ []) :
    Handover produced mesh nodeId (confirmedInputs transport attempt nodeId inputs mesh)
      (allConfirmed transport attempt produced nodeId inputs mesh)
      (ensureInputs transport attempt nodeId inputs mesh).1
      (ensureInputs transport attempt nodeId inputs mesh).2 := by
  induction inputs generalizing mesh with
  | nil => exact .same
  | cons input rest ih =>
      obtain ⟨dataId, position⟩ := input
      have first := ensureInput_handover transport attempt position produced mesh nodeId dataId
        chunked
      simp only [ensureInputs, confirmedInputs, allConfirmed]
      rcases done : ensureInput transport attempt position mesh nodeId dataId with
        ⟨middle, error | ⟨⟩⟩
      · rw [done] at first
        simpa using first
      · rw [done] at first
        have frame : middle = { mesh with catalog := middle.catalog } := first.frame
        have same : middle.manifests = mesh.manifests := by rw [frame]
        exact first.trans (ih middle (by rw [same]; exact chunked))

theorem holds_recordOutput {digest : Bytes → DataId} {mesh : Mesh} {result : TaskResult}
    {dataId : DataId} {nodeId : NodeId} :
    (recordOutput digest mesh result).catalog.holds dataId nodeId = true ↔
      mesh.catalog.holds dataId nodeId = true ∨ reported digest result = some (dataId, nodeId) := by
  unfold recordOutput reported
  cases result.outputId with
  | none => simp
  | some outputId =>
      cases result.output with
      | none => simp
      | some output =>
          dsimp only
          split
          · rw [DataCatalog.holds_record, Option.some.injEq, Prod.mk.injEq]
            tauto
          · simp

/-- Every credit after the call was there before, was confirmed, or is the reported output. -/
def OnlyConfirmed (digest : Bytes → DataId) (mesh : Mesh)
    (finished : Mesh × Except DispatchError TaskResult) (log : List (DataId × NodeId)) : Prop :=
  ∀ dataId nodeId, finished.1.catalog.holds dataId nodeId = true →
    mesh.catalog.holds dataId nodeId = true ∨ (dataId, nodeId) ∈ log ∨
      ∃ result, finished.2 = .ok result ∧ reported digest result = some (dataId, nodeId)

section

variable {transport scheduler attempt} {digest : Bytes → DataId} {task : Task} {mesh after : Mesh}
  {nodeId : NodeId}

theorem tryOnce_handover (produced : Option (DataId × NodeId))
    (chunked : ∀ dataId manifest, mesh.manifests dataId = some manifest → manifest.chunks ≠ [])
    {outcome : Except DispatchError TaskResult}
    (tried : tryOnce transport attempt mesh nodeId task = (after, outcome)) :
    ∃ result, Handover produced mesh nodeId
        (confirmedInputs transport attempt nodeId task.inputs.zipIdx mesh)
        (allConfirmed transport attempt produced nodeId task.inputs.zipIdx mesh) after result ∧
      ∀ completed, outcome = .ok completed → result = .ok () := by
  have handover := ensureInputs_handover transport attempt produced nodeId task.inputs.zipIdx mesh
    chunked
  unfold tryOnce at tried
  rcases done : ensureInputs transport attempt nodeId task.inputs.zipIdx mesh with
    ⟨middle, error | ⟨⟩⟩
  · rw [done] at handover
    rw [done] at tried
    obtain ⟨rfl, rfl⟩ := Prod.mk.inj tried
    exact ⟨_, handover, nofun⟩
  · rw [done] at handover
    rw [done] at tried
    refine ⟨.ok (), ?_, fun _ _ => rfl⟩
    have same : middle = after := by
      dsimp only at tried
      split at tried
      · exact (Prod.mk.inj tried).1
      · exact (Prod.mk.inj tried).1
    subst same
    exact handover

theorem mem_map_node {log : List DataId} {dataId : DataId} {other : NodeId} :
    (dataId, other) ∈ log.map (fun logged => (logged, nodeId)) ↔
      dataId ∈ log ∧ other = nodeId := by
  simp only [List.mem_map, Prod.mk.injEq]
  constructor
  · rintro ⟨logged, listed, rfl, rfl⟩
    exact ⟨listed, rfl⟩
  · rintro ⟨listed, rfl⟩
    exact ⟨dataId, listed, rfl, rfl⟩

/-- The attempt that ends a submission leaves no unconfirmed credit if and only if its inputs did
not. -/
theorem Handover.onlyConfirmed_iff {produced : Option (DataId × NodeId)} {first : List DataId}
    {settled : Bool} {handed : Except DispatchError Unit}
    {finished : Mesh × Except DispatchError TaskResult}
    (handover : Handover produced mesh nodeId first settled after handed)
    (holds : ∀ dataId other, finished.1.catalog.holds dataId other = true ↔
      after.catalog.holds dataId other = true ∨ produced = some (dataId, other))
    (own : ∀ dataId other, (∃ result, finished.2 = .ok result ∧
      reported digest result = some (dataId, other)) ↔ produced = some (dataId, other))
    (ended : handed = .ok () ∨ produced = none) :
    OnlyConfirmed digest mesh finished (first.map fun dataId => (dataId, nodeId)) ↔
      settled = true := by
  constructor
  · intro only
    by_contra missing
    obtain ⟨dataId, held, lacking, unlogged, reason⟩ :=
      handover.unbacked (Bool.eq_false_of_not_eq_true missing)
    have foreign : produced ≠ some (dataId, nodeId) := by
      rcases reason with ⟨-, -, foreign⟩ | ⟨error, failed⟩
      · exact foreign
      · rcases ended with ok | none
        · rw [ok] at failed
          cases failed
        · simp [none]
    rcases only dataId nodeId ((holds dataId nodeId).mpr (.inl held)) with before | listed | named
    · rw [lacking] at before
      cases before
    · exact unlogged (mem_map_node.mp listed).1
    · exact foreign ((own dataId nodeId).mp named)
  · intro settled dataId other held
    rcases (holds dataId other).mp held with kept | named
    · by_cases here : other = nodeId
      · subst here
        rcases handover.backed settled dataId kept with before | listed | named
        · exact .inl before
        · exact .inr (.inl (mem_map_node.mpr ⟨listed, rfl⟩))
        · exact .inr (.inr ((own dataId other).mpr named))
      · exact .inl (handover.others dataId other here kept)
    · exact .inr (.inr ((own dataId other).mpr named))

theorem onlyConfirmed_ok
    (chunked : ∀ dataId manifest, mesh.manifests dataId = some manifest → manifest.chunks ≠ [])
    {result : TaskResult}
    (tried : tryOnce transport attempt mesh nodeId task = (after, .ok result)) :
    OnlyConfirmed digest mesh (recordOutput digest after result, .ok result)
        ((confirmedInputs transport attempt nodeId task.inputs.zipIdx mesh).map
          fun dataId => (dataId, nodeId)) ↔
      allConfirmed transport attempt (reported digest result) nodeId task.inputs.zipIdx mesh =
        true := by
  obtain ⟨handed, handover, ok⟩ := tryOnce_handover (reported digest result) chunked tried
  exact handover.onlyConfirmed_iff (fun _ _ => holds_recordOutput) (by simp) (.inl (ok result rfl))

theorem onlyConfirmed_error
    (chunked : ∀ dataId manifest, mesh.manifests dataId = some manifest → manifest.chunks ≠ [])
    {error : DispatchError}
    (tried : tryOnce transport attempt mesh nodeId task = (after, .error error)) :
    OnlyConfirmed digest mesh (after, .error error)
        ((confirmedInputs transport attempt nodeId task.inputs.zipIdx mesh).map
          fun dataId => (dataId, nodeId)) ↔
      allConfirmed transport attempt none nodeId task.inputs.zipIdx mesh = true := by
  obtain ⟨handed, handover, -⟩ := tryOnce_handover none chunked tried
  exact handover.onlyConfirmed_iff (by simp) (by simp) (.inr rfl)

theorem selected_usable {attempt : Nat} {unusable : List NodeId}
    (selected : scheduler.selectNode attempt (mesh.nodes.filter fun node =>
      node.id ∉ unusable ∧ transport.isAvailable attempt node.id) task = some nodeId) :
    nodeId ∉ unusable := by
  obtain ⟨node, listed, rfl, -⟩ := scheduler.eligible _ _ _ _ selected
  simp only [List.mem_filter, decide_eq_true_eq] at listed
  exact listed.2.1

/-- A node that has been given up gets no new credit but for an output it reports. -/
theorem submitFrom_avoids (left attempt : Nat) (unusable : List NodeId) (mesh : Mesh)
    (chunked : ∀ dataId manifest, mesh.manifests dataId = some manifest → manifest.chunks ≠ [])
    {given : NodeId} (avoided : given ∈ unusable) {dataId : DataId}
    (held : (submitFrom transport scheduler digest task left attempt unusable
      mesh).1.catalog.holds dataId given = true) :
    mesh.catalog.holds dataId given = true ∨ ∃ result,
      (submitFrom transport scheduler digest task left attempt unusable mesh).2 = .ok result ∧
        reported digest result = some (dataId, given) := by
  induction left generalizing attempt unusable mesh with
  | zero => exact .inl held
  | succ left ih =>
      simp only [submitFrom] at held ⊢
      split at held
      · rename_i none
        exact .inl held
      · rename_i nodeId selected
        have other : given ≠ nodeId := fun same => selected_usable selected (same ▸ avoided)
        rcases tried : tryOnce transport attempt mesh nodeId task with ⟨after, error | result⟩
        · obtain ⟨_, handover, -⟩ := tryOnce_handover none chunked tried
          simp only [tried] at held ⊢
          by_cases again : 0 < left ∧ isRetryable error = true
          · rw [if_pos again] at held ⊢
            have same : after.manifests = mesh.manifests := by rw [handover.frame]
            refine (ih (attempt + 1) (nodeId :: unusable) _ (by simpa [same] using chunked)
              (List.mem_cons_of_mem _ avoided) held).imp_left fun kept => ?_
            exact handover.others dataId given other (DataCatalog.holds_forgetNode.mp kept).1
          · rw [if_neg again] at held
            exact .inl (handover.others dataId given other held)
        · obtain ⟨_, handover, -⟩ := tryOnce_handover none chunked tried
          simp only [tried] at held ⊢
          rcases holds_recordOutput.mp held with kept | own
          · exact .inl (handover.others dataId given other kept)
          · exact .inr ⟨result, rfl, own⟩

theorem onlyConfirmed_retry {finished : Mesh × Except DispatchError TaskResult}
    {first : List DataId} {later : List (DataId × NodeId)} {settled : Bool}
    {handed : Except DispatchError Unit}
    (handover : Handover none mesh nodeId first settled after handed)
    (avoided : ∀ dataId, finished.1.catalog.holds dataId nodeId = true →
      ∃ result, finished.2 = .ok result ∧ reported digest result = some (dataId, nodeId)) :
    OnlyConfirmed digest mesh finished (first.map (fun dataId => (dataId, nodeId)) ++ later) ↔
      OnlyConfirmed digest { after with catalog := after.catalog.forgetNode nodeId } finished
        later := by
  constructor
  · intro only dataId other held
    by_cases here : other = nodeId
    · subst here
      exact .inr (.inr (avoided dataId held))
    · rcases only dataId other held with before | listed | own
      · exact .inl (DataCatalog.holds_forgetNode.mpr ⟨handover.grows _ _ before, here⟩)
      · rcases List.mem_append.mp listed with old | new
        · exact absurd (mem_map_node.mp old).2 here
        · exact .inr (.inl new)
      · exact .inr (.inr own)
  · intro only dataId other held
    rcases only dataId other held with kept | listed | own
    · obtain ⟨still, here⟩ := DataCatalog.holds_forgetNode.mp kept
      exact .inl (handover.others dataId other here still)
    · exact .inr (.inl (List.mem_append_right _ listed))
    · exact .inr (.inr own)

theorem onlyConfirmed_refused {error : DispatchError} :
    OnlyConfirmed digest mesh (mesh, .error error) [] :=
  fun _ _ => .inl

theorem submitFrom_iff (left attempt : Nat) (unusable : List NodeId) (mesh : Mesh)
    (chunked : ∀ dataId manifest, mesh.manifests dataId = some manifest → manifest.chunks ≠ []) :
    OnlyConfirmed digest mesh
        (submitFrom transport scheduler digest task left attempt unusable mesh)
        (confirmedFrom transport scheduler task left attempt unusable mesh) ↔
      endsConfirmed transport scheduler digest task left attempt unusable mesh = true := by
  induction left generalizing attempt unusable mesh with
  | zero => exact iff_of_true onlyConfirmed_refused rfl
  | succ left ih =>
      simp only [submitFrom, confirmedFrom, endsConfirmed]
      cases scheduler.selectNode attempt (mesh.nodes.filter fun node =>
          node.id ∉ unusable ∧ transport.isAvailable attempt node.id) task with
      | none => exact iff_of_true onlyConfirmed_refused rfl
      | some nodeId =>
          rcases tried : tryOnce transport attempt mesh nodeId task with ⟨after, error | result⟩
          · simp only [tried]
            by_cases again : 0 < left ∧ isRetryable error = true
            · obtain ⟨_, handover, -⟩ := tryOnce_handover none chunked tried
              have same : after.manifests = mesh.manifests := by rw [handover.frame]
              have kept : ∀ dataId manifest, after.manifests dataId = some manifest →
                  manifest.chunks ≠ [] := by
                rw [same]
                exact chunked
              simp only [if_pos again]
              refine (onlyConfirmed_retry handover ?_).trans (ih (attempt + 1) (nodeId :: unusable)
                { after with catalog := after.catalog.forgetNode nodeId } kept)
              intro dataId held
              refine (submitFrom_avoids left (attempt + 1) (nodeId :: unusable)
                { after with catalog := after.catalog.forgetNode nodeId } kept
                List.mem_cons_self held).resolve_left fun still => ?_
              exact (DataCatalog.holds_forgetNode.mp still).2 rfl
            · simp only [if_neg again, List.append_nil]
              exact onlyConfirmed_error chunked tried
          · simp only [tried, List.append_nil]
            exact onlyConfirmed_ok chunked tried

end

/-- A submission leaves no credit without a confirmation if and only if the attempt that ends it
hands over no input unconfirmed. Only large datasets have a manifest, so none is empty. -/
theorem submit_credits_iff (digest : Bytes → DataId) (cached : Option TaskResult) (mesh : Mesh)
    (task : Task)
    (chunked : ∀ dataId manifest, mesh.manifests dataId = some manifest → manifest.chunks ≠ []) :
    OnlyConfirmed digest mesh (submit transport scheduler digest cached mesh task)
        (confirmed transport scheduler cached mesh task) ↔
      (cached = none →
        endsConfirmed transport scheduler digest task mesh.maxAttempts 1 [] mesh = true) := by
  cases cached with
  | some result =>
      refine iff_of_true ?_ (by simp)
      intro dataId nodeId held
      exact .inl held
  | none =>
      rw [submit, confirmed, submitFrom_iff mesh.maxAttempts 1 [] mesh chunked]
      simp

def idOf (byte : UInt8) : DataId := ⟨List.replicate dataIdLen byte, by simp⟩

def halves : ChunkManifest := ⟨⟨idOf 0, 2⟩, 1, [⟨idOf 1, 1⟩, ⟨idOf 2, 1⟩]⟩

def twoNodes (maxAttempts : Nat) : Mesh where
  nodes := [⟨⟨0⟩, ∅⟩, ⟨⟨1⟩, ∅⟩]
  catalog := .new
  store := fun dataId => if dataId = idOf 0 then some [1, 2] else none
  manifests := fun dataId => if dataId = idOf 0 then some halves else none
  reuseData := true
  maxAttempts

def firstNode : Scheduler where
  selectNode _ nodes task :=
    (nodes.find? fun node => satisfiesAll node.labels task.constraints).map NodeInfo.id
  eligible := by
    intro _ nodes task nodeId selected
    obtain ⟨node, found, rfl⟩ := Option.map_eq_some_iff.mp selected
    have satisfied := List.find?_some found
    exact ⟨node, List.mem_of_find?_eq_some found, rfl, satisfied⟩

def failsOnce : Transport where
  isAvailable _ _ := true
  dispatch _ nodeId task := .ok ⟨task.id, nodeId, .success [], 0, none⟩
  sendData _ _ _ _ := .ok ()
  sendManifest _ _ _ _ := .ok ()
  sendChunks attempt _ nodeId _ _ :=
    if attempt = 1 then .error ⟨.unreachable nodeId "connection closed before the data was assembled", rfl⟩
    else .ok ()

def readsHalves : Task := (Task.new ⟨0⟩ "echo" []).withInputs [idOf 0]

theorem twoNodes_chunked (maxAttempts : Nat) (dataId : DataId) (manifest : ChunkManifest)
    (found : (twoNodes maxAttempts).manifests dataId = some manifest) : manifest.chunks ≠ [] := by
  simp only [twoNodes, Option.ite_none_right_eq_some, Option.some.injEq] at found
  rw [← found.2]
  simp [halves]

theorem retry_withdraws_credits :
    (submit failsOnce firstNode (fun _ => idOf 9) none (twoNodes 2) readsHalves).1.catalog.holds
        (idOf 1) ⟨1⟩ = true ∧
    OnlyConfirmed (fun _ => idOf 9) (twoNodes 2)
      (submit failsOnce firstNode (fun _ => idOf 9) none (twoNodes 2) readsHalves)
      (confirmed failsOnce firstNode none (twoNodes 2) readsHalves) :=
  ⟨by decide, (submit_credits_iff failsOnce firstNode (fun _ => idOf 9) none (twoNodes 2)
    readsHalves (twoNodes_chunked 2)).mpr fun _ => by decide⟩

/-- Without another attempt the credits of the failed batch stay. -/
theorem last_failure_leaves_credits :
    (submit failsOnce firstNode (fun _ => idOf 9) none (twoNodes 1) readsHalves).2.isOk = false ∧
    (submit failsOnce firstNode (fun _ => idOf 9) none (twoNodes 1) readsHalves).1.catalog.holds
        (idOf 1) ⟨0⟩ = true ∧
    ¬ OnlyConfirmed (fun _ => idOf 9) (twoNodes 1)
      (submit failsOnce firstNode (fun _ => idOf 9) none (twoNodes 1) readsHalves)
      (confirmed failsOnce firstNode none (twoNodes 1) readsHalves) := by
  have failed : (submit failsOnce firstNode (fun _ => idOf 9) none (twoNodes 1)
      readsHalves).2.isOk = false := by decide
  have credited : (submit failsOnce firstNode (fun _ => idOf 9) none (twoNodes 1)
      readsHalves).1.catalog.holds (idOf 1) ⟨0⟩ = true := by decide
  have log : confirmed failsOnce firstNode none (twoNodes 1) readsHalves = [] := by decide
  refine ⟨failed, credited, fun only => ?_⟩
  rcases only (idOf 1) ⟨0⟩ credited with before | listed | ⟨result, ok, -⟩
  · exact absurd before (by decide)
  · rw [log] at listed
    cases listed
  · rw [ok] at failed
    cases failed

end AetherMesh.Dispatch
