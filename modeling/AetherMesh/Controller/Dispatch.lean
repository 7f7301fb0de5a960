import AetherMesh.Controller.Catalog
import AetherMesh.Core.Chunk
import AetherMesh.Core.Node
import Mathlib.Logic.Function.Basic

/-!
One submission: choose a node, send the inputs it is missing, run the task there,
and go to another node while the failure is one of delivery. What the scheduler
picks and what the transport answers is up to the environment; the number of the
attempt and the place of the input tell the calls of one submission apart.
-/

namespace AetherMesh

structure Mesh where
  nodes : List NodeInfo
  catalog : DataCatalog
  store : DataId → Option Bytes
  manifests : DataId → Option ChunkManifest
  reuseData : Bool
  maxAttempts : Nat

def isRetryable : DispatchError → Bool
  | .unreachable _ _ => true
  | .timeout _ _ => true
  | _ => false

abbrev DeliveryError := { error : DispatchError // isRetryable error = true }

structure Transport where
  isAvailable : Nat → NodeId → Bool
  dispatch : Nat → NodeId → Task → Except DeliveryError TaskResult
  sendData : Nat → Nat → NodeId → DataDescriptor → Except DeliveryError Unit
  sendManifest : Nat → Nat → NodeId → ChunkManifest → Except DeliveryError Unit
  sendChunks : Nat → Nat → NodeId → DataId → List Nat → Except DeliveryError Unit

/-- A scheduler picks a node of the list that satisfies the constraints of the task. -/
structure Scheduler where
  selectNode : Nat → List NodeInfo → Task → Option NodeId
  eligible : ∀ attempt nodes task nodeId, selectNode attempt nodes task = some nodeId →
    ∃ node ∈ nodes, node.id = nodeId ∧ satisfiesAll node.labels task.constraints = true

namespace Dispatch

variable (transport : Transport) (scheduler : Scheduler) (attempt position : Nat)

def planChunk (nodeId : NodeId) (plan : Mesh × List Nat) (chunk : DataDescriptor × Nat) :
    Mesh × List Nat :=
  if plan.1.reuseData ∧ plan.1.catalog.holds chunk.1.id nodeId then plan
  else ({ plan.1 with catalog := plan.1.catalog.record chunk.1 nodeId }, plan.2 ++ [chunk.2])

def sendChunked (mesh : Mesh) (nodeId : NodeId) (manifest : ChunkManifest) :
    Mesh × Except DispatchError Unit :=
  match transport.sendManifest attempt position nodeId manifest with
  | .error error => (mesh, .error error.val)
  | .ok () =>
      let planned := manifest.chunks.zipIdx.foldl (planChunk nodeId) (mesh, [])
      if planned.2 = [] then (planned.1, .ok ())
      else
        match transport.sendChunks attempt position nodeId manifest.data.id planned.2 with
        | .error error => (planned.1, .error error.val)
        | .ok () => (planned.1, .ok ())

def sendInput (mesh : Mesh) (nodeId : NodeId) (descriptor : DataDescriptor) :
    Mesh × Except DispatchError Unit :=
  match mesh.manifests descriptor.id with
  | some manifest => sendChunked transport attempt position mesh nodeId manifest
  | none =>
      match transport.sendData attempt position nodeId descriptor with
      | .error error => (mesh, .error error.val)
      | .ok () => (mesh, .ok ())

def ensureInput (mesh : Mesh) (nodeId : NodeId) (dataId : DataId) :
    Mesh × Except DispatchError Unit :=
  if mesh.reuseData ∧ mesh.catalog.holds dataId nodeId then (mesh, .ok ())
  else
    match mesh.store dataId with
    | none => (mesh, .error (.unknownInput dataId))
    | some bytes =>
        match sendInput transport attempt position mesh nodeId ⟨dataId, bytes.length⟩ with
        | (after, .error error) => (after, .error error)
        | (after, .ok ()) =>
            ({ after with catalog := after.catalog.record ⟨dataId, bytes.length⟩ nodeId }, .ok ())

def ensureInputs (nodeId : NodeId) : List (DataId × Nat) → Mesh → Mesh × Except DispatchError Unit
  | [], mesh => (mesh, .ok ())
  | (dataId, position) :: rest, mesh =>
      match ensureInput transport attempt position mesh nodeId dataId with
      | (after, .error error) => (after, .error error)
      | (after, .ok ()) => ensureInputs nodeId rest after

def tryOnce (mesh : Mesh) (nodeId : NodeId) (task : Task) : Mesh × Except DispatchError TaskResult :=
  match ensureInputs transport attempt nodeId task.inputs.zipIdx mesh with
  | (after, .error error) => (after, .error error)
  | (after, .ok ()) =>
      match transport.dispatch attempt nodeId task with
      | .error error => (after, .error error.val)
      | .ok result => (after, .ok result)

/-- The store refuses bytes that do not hash to the output's id. -/
def recordOutput (digest : Bytes → DataId) (mesh : Mesh) (result : TaskResult) : Mesh :=
  match result.outputId, result.output with
  | some outputId, some output =>
      if digest output = outputId then
        { mesh with
          store :=
            if (mesh.store outputId).isSome then mesh.store
            else Function.update mesh.store outputId (some output)
          catalog := mesh.catalog.record ⟨outputId, output.length⟩ result.nodeId }
      else mesh
  | _, _ => mesh

def submitFrom (digest : Bytes → DataId) (task : Task) :
    (left attempt : Nat) → List NodeId → Mesh → Mesh × Except DispatchError TaskResult
  | 0, _, _, mesh => (mesh, .error (.noNodeAvailable task.id))
  | left + 1, attempt, unusable, mesh =>
      let nodes := mesh.nodes.filter fun node =>
        node.id ∉ unusable ∧ transport.isAvailable attempt node.id
      match scheduler.selectNode attempt nodes task with
      | none => (mesh, .error (.noNodeAvailable task.id))
      | some nodeId =>
          match tryOnce transport attempt mesh nodeId task with
          | (after, .ok result) => (recordOutput digest after result, .ok result)
          | (after, .error error) =>
              if 0 < left ∧ isRetryable error then
                submitFrom digest task left (attempt + 1) (nodeId :: unusable)
                  { after with catalog := after.catalog.forgetNode nodeId }
              else (after, .error error)

/-- `cached` is what the result cache answers for the task. -/
def submit (digest : Bytes → DataId) (cached : Option TaskResult) (mesh : Mesh) (task : Task) :
    Mesh × Except DispatchError TaskResult :=
  match cached with
  | some result => (mesh, .ok { result with taskId := task.id })
  | none => submitFrom transport scheduler digest task mesh.maxAttempts 1 [] mesh

end Dispatch

end AetherMesh
