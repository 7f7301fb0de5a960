import AetherMesh.Core.Store
import AetherMesh.Core.Task

/-!
The executor of an agent. A task reads its inputs from the store of the node and leaves its
output there. What it comes to is a function of the task and of the bytes that its inputs
name, so it does not matter on which node it runs.
-/

namespace AetherMesh.Executor

/-- What every node has: the hash, and the engine for modules under the limits that are granted. -/
structure Runtime where
  digest : Bytes → DataId
  runWithInputs : Bytes → Bytes → List Bytes → Except String Bytes

def maxCpuIterations : Nat := 50000000

def inputMissing (dataId : DataId) : String :=
  "input " ++ dataId.display ++ " is not present on this node"

def moduleMissing (dataId : DataId) : String :=
  "module " ++ dataId.display ++ " is not present on this node"

def readInputs (store : DataStore) : List DataId → DataStore × Except String (List Bytes)
  | [] => (store, .ok [])
  | dataId :: rest =>
      match store.get dataId with
      | (touched, none) => (touched, .error (inputMissing dataId))
      | (touched, some bytes) =>
          match readInputs touched rest with
          | (after, .ok more) => (after, .ok (bytes :: more))
          | (after, .error message) => (after, .error message)

section

variable (runtime : Runtime)

def hashTask (task : Task) (store : DataStore) : DataStore × Except String Bytes :=
  match readInputs store task.inputs with
  | (after, .ok inputs) => (after, .ok (runtime.digest (task.payload ++ inputs.flatten)).asBytes)
  | (after, .error message) => (after, .error message)

/-- The module is an input on the wire; it is not one to the code. -/
def wasmTask (task : Task) (store : DataStore) : DataStore × Except String Bytes :=
  match task.wasmModule with
  | none => (store, .error "wasm task has no module")
  | some moduleId =>
      match store.get moduleId with
      | (touched, none) => (touched, .error (moduleMissing moduleId))
      | (touched, some code) =>
          match readInputs touched (task.inputs.filter fun dataId => dataId ≠ moduleId) with
          | (after, .ok inputs) => (after, runtime.runWithInputs code task.payload inputs)
          | (after, .error message) => (after, .error message)

end

def fromLeBytes (bytes : Bytes) : Nat :=
  bytes.foldr (fun byte rest => byte.toNat + 256 * rest) 0

def toLeBytes (value : UInt64) : Bytes :=
  (List.range 8).map fun index => UInt8.ofNat (value.toNat / 256 ^ index)

def cpuRound (accumulator : UInt64) (index : Nat) : UInt64 :=
  accumulator * 6364136223846793005 + UInt64.ofNat index

def cpuTask (payload : Bytes) : Except String Bytes :=
  if payload.length ≠ 8 then
    .error ("cpu task expects an 8 byte iteration count, got " ++ toString payload.length)
  else if maxCpuIterations < fromLeBytes payload then
    .error ("iteration count " ++ toString (fromLeBytes payload) ++ " exceeds the limit of " ++
      toString maxCpuIterations)
  else .ok (toLeBytes ((List.range (fromLeBytes payload)).foldl cpuRound 0))

section

variable (runtime : Runtime)

def compute (task : Task) (store : DataStore) : DataStore × Except String Bytes :=
  if task.kind = "echo" then (store, .ok task.payload)
  else if task.kind = "hash" then hashTask runtime task store
  else if task.kind = "cpu" then (store, cpuTask task.payload)
  else if task.kind = "wasm" then wasmTask runtime task store
  else (store, .error ("unknown task kind: " ++ task.kind))

def execute (nodeId : NodeId) (task : Task) (store : DataStore) (elapsed : Nat) :
    DataStore × TaskResult :=
  match compute runtime task store with
  | (read, .ok output) =>
      let kept := read.put runtime.digest output
      (kept.1,
        { taskId := task.id
          nodeId
          outcome := .success output
          duration := elapsed
          outputId := some kept.2.id })
  | (read, .error message) =>
      (read,
        { taskId := task.id
          nodeId
          outcome := .failure message
          duration := elapsed
          outputId := none })

end

/-! What a task means, without a store. -/

def readable (contents : DataId → Option Bytes) : List DataId → Except String (List Bytes)
  | [] => .ok []
  | dataId :: rest =>
      match contents dataId with
      | none => .error (inputMissing dataId)
      | some bytes => (readable contents rest).map (bytes :: ·)

section

variable (runtime : Runtime) (contents : DataId → Option Bytes) (task : Task)

def hashMeaning : Except String Bytes :=
  (readable contents task.inputs).map fun inputs =>
    (runtime.digest (task.payload ++ inputs.flatten)).asBytes

def wasmMeaning : Except String Bytes :=
  match task.wasmModule with
  | none => .error "wasm task has no module"
  | some moduleId =>
      match contents moduleId with
      | none => .error (moduleMissing moduleId)
      | some code =>
          (readable contents (task.inputs.filter fun dataId => dataId ≠ moduleId)).bind
            (runtime.runWithInputs code task.payload)

def meaning : Except String Bytes :=
  if task.kind = "echo" then .ok task.payload
  else if task.kind = "hash" then hashMeaning runtime contents task
  else if task.kind = "cpu" then cpuTask task.payload
  else if task.kind = "wasm" then wasmMeaning runtime contents task
  else .error ("unknown task kind: " ++ task.kind)

end

def Runtime.finish (runtime : Runtime) : Except String Bytes → TaskOutcome × Option DataId
  | .ok output => (.success output, some (runtime.digest output))
  | .error message => (.failure message, none)

def consults (task : Task) : List DataId := task.wasmModule.toList ++ task.inputs

section

variable {runtime : Runtime} {task : Task} {store other : DataStore}
  {contents elsewhere : DataId → Option Bytes}

structure Computed {α : Type*} (store : DataStore) (expected : Except String α)
    (found : DataStore × Except String α) : Prop where
  same : found.2 = expected
  kept : found.1.bytesOf = store.bytesOf
  budget : found.1.budget = store.budget

theorem Computed.here {α : Type*} (expected : Except String α) :
    Computed store expected (store, expected) :=
  ⟨rfl, rfl, rfl⟩

theorem Computed.touched {α : Type*} {dataId : DataId} {expected : Except String α}
    {found : DataStore × Except String α} (computed : Computed (store.touch dataId) expected found) :
    Computed store expected found where
  same := computed.same
  kept := computed.kept.trans (funext fun other => DataStore.bytesOf_touch store dataId other)
  budget := computed.budget.trans (DataStore.budget_touch store dataId)

theorem readable_touch (dataId : DataId) (wanted : List DataId) :
    readable (store.touch dataId).bytesOf wanted = readable store.bytesOf wanted :=
  congrArg (readable · wanted) (funext fun other => DataStore.bytesOf_touch store dataId other)

theorem readInputs_spec (wanted : List DataId) (store : DataStore) :
    Computed store (readable store.bytesOf wanted) (readInputs store wanted) := by
  induction wanted generalizing store with
  | nil => exact .here _
  | cons dataId rest ih =>
      simp only [readInputs, readable, DataStore.get]
      cases store.bytesOf dataId with
      | none => exact (Computed.here _).touched
      | some bytes =>
          obtain ⟨same, kept, budget⟩ := (ih (store.touch dataId)).touched
          rw [readable_touch] at same
          dsimp only
          rw [← same]
          generalize readInputs (store.touch dataId) rest = found at kept budget ⊢
          obtain ⟨after, message | more⟩ := found <;> exact ⟨rfl, kept, budget⟩

theorem hashTask_spec (runtime : Runtime) (task : Task) (store : DataStore) :
    Computed store (hashMeaning runtime store.bytesOf task) (hashTask runtime task store) := by
  obtain ⟨same, kept, budget⟩ := readInputs_spec task.inputs store
  unfold hashTask hashMeaning
  rw [← same]
  generalize readInputs store task.inputs = found at kept budget ⊢
  obtain ⟨after, message | inputs⟩ := found <;> exact ⟨rfl, kept, budget⟩

theorem wasmTask_spec (runtime : Runtime) (task : Task) (store : DataStore) :
    Computed store (wasmMeaning runtime store.bytesOf task) (wasmTask runtime task store) := by
  unfold wasmTask wasmMeaning
  cases task.wasmModule with
  | none => exact .here _
  | some moduleId =>
      simp only [DataStore.get]
      cases store.bytesOf moduleId with
      | none => exact (Computed.here _).touched
      | some code =>
          obtain ⟨same, kept, budget⟩ := (readInputs_spec
            (task.inputs.filter fun dataId => dataId ≠ moduleId) (store.touch moduleId)).touched
          rw [readable_touch] at same
          dsimp only
          rw [← same]
          generalize readInputs (store.touch moduleId)
            (task.inputs.filter fun dataId => dataId ≠ moduleId) = found at kept budget ⊢
          obtain ⟨after, message | inputs⟩ := found <;> exact ⟨rfl, kept, budget⟩

theorem compute_spec (runtime : Runtime) (task : Task) (store : DataStore) :
    Computed store (meaning runtime store.bytesOf task) (compute runtime task store) := by
  unfold compute meaning
  split
  · exact .here _
  · split
    · exact hashTask_spec runtime task store
    · split
      · exact .here _
      · split
        · exact wasmTask_spec runtime task store
        · exact .here _

theorem execute_spec (runtime : Runtime) (nodeId : NodeId) (task : Task) (store : DataStore)
    (elapsed : Nat) :
    ((execute runtime nodeId task store elapsed).2.outcome,
      (execute runtime nodeId task store elapsed).2.outputId) =
        runtime.finish (meaning runtime store.bytesOf task) := by
  have same := (compute_spec runtime task store).same
  unfold execute
  rw [← same]
  generalize compute runtime task store = computed
  obtain ⟨read, message | output⟩ := computed <;> rfl

theorem readable_congr {wanted : List DataId}
    (same : ∀ dataId ∈ wanted, contents dataId = elsewhere dataId) :
    readable contents wanted = readable elsewhere wanted := by
  induction wanted with
  | nil => rfl
  | cons dataId rest ih =>
      rw [readable, readable, same dataId List.mem_cons_self,
        ih fun other member => same other (List.mem_cons_of_mem _ member)]

theorem meaning_congr (same : ∀ dataId ∈ consults task, contents dataId = elsewhere dataId) :
    meaning runtime contents task = meaning runtime elsewhere task := by
  have inputs : ∀ dataId ∈ task.inputs, contents dataId = elsewhere dataId :=
    fun dataId member => same dataId (List.mem_append_right _ member)
  unfold meaning hashMeaning wasmMeaning
  rw [readable_congr inputs]
  cases named : task.wasmModule with
  | none => rfl
  | some moduleId =>
      have own : contents moduleId = elsewhere moduleId :=
        same moduleId (List.mem_append_left _ (by rw [named]; exact List.mem_singleton_self _))
      have filtered : ∀ dataId ∈ task.inputs.filter (fun dataId => dataId ≠ moduleId),
          contents dataId = elsewhere dataId :=
        fun dataId member => inputs dataId (List.mem_of_mem_filter member)
      simp only [own, readable_congr filtered]

structure Sound (digest : Bytes → DataId) (known : Set Bytes) (store : DataStore) : Prop where
  keyed : store.Keyed digest
  within : ∀ dataId bytes, store.bytesOf dataId = some bytes → bytes ∈ known

theorem Sound.of_entries {digest : Bytes → DataId} {known : Set Bytes}
    (all : ∀ entry ∈ store.blobs.entries,
      digest entry.2.bytes = entry.1 ∧ entry.2.bytes ∈ known) : Sound digest known store := by
  have listed : ∀ dataId bytes, store.bytesOf dataId = some bytes →
      ∃ entry ∈ store.blobs.entries, entry.1 = dataId ∧ entry.2.bytes = bytes := by
    intro dataId bytes held
    obtain ⟨blob, found, rfl⟩ := Option.map_eq_some_iff.mp held
    exact ⟨⟨dataId, blob⟩, AList.mem_lookup_iff.mp found, rfl, rfl⟩
  constructor
  · intro dataId bytes held
    obtain ⟨entry, member, rfl, rfl⟩ := listed dataId bytes held
    exact (all entry member).1
  · intro dataId bytes held
    obtain ⟨entry, member, rfl, rfl⟩ := listed dataId bytes held
    exact (all entry member).2

/-- Where no two of the bytes in use have one id, two stores have the same under it. -/
theorem Sound.agree {known : Set Bytes} (apart : Set.InjOn runtime.digest known)
    (sound : Sound runtime.digest known store) (also : Sound runtime.digest known other)
    {dataId : DataId} (here : store.contains dataId = true) (there : other.contains dataId = true) :
    store.bytesOf dataId = other.bytesOf dataId := by
  obtain ⟨bytes, found⟩ := DataStore.contains_iff.mp here
  obtain ⟨copy, held⟩ := DataStore.contains_iff.mp there
  have same := (sound.keyed dataId bytes found).trans (also.keyed dataId copy held).symm
  rw [found, held, apart (sound.within dataId bytes found) (also.within dataId copy held) same]

theorem execute_store (runtime : Runtime) (nodeId : NodeId) (task : Task) (elapsed : Nat)
    (unbounded : store.budget = none) (keyed : store.Keyed runtime.digest) :
    DataStore.Grown runtime.digest store (execute runtime nodeId task store elapsed).1 ∧
      ∀ outputId, (execute runtime nodeId task store elapsed).2.outputId = some outputId →
        (execute runtime nodeId task store elapsed).1.contains outputId = true := by
  obtain ⟨-, kept, budget⟩ := compute_spec runtime task store
  have read := DataStore.Grown.of_same unbounded keyed kept budget
  unfold execute
  generalize compute runtime task store = computed at read ⊢
  obtain ⟨after, message | output⟩ := computed
  · exact ⟨read, nofun⟩
  · refine ⟨read.trans (DataStore.Grown.store read.unbounded read.keyed output), ?_⟩
    rintro outputId ⟨⟩
    refine DataStore.contains_store_iff.mpr ⟨?_, .inl rfl⟩
    rw [DataStore.evicted_unbounded _ _ _ read.unbounded]
    exact List.not_mem_nil

end

end AetherMesh.Executor
