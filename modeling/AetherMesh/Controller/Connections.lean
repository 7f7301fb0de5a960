import AetherMesh.Controller.Security
import AetherMesh.Core.Task
import Mathlib.Logic.Function.Basic

/-!
The live connections of the agents and who waits for what. A connection is known by its
number, which stands for the queue that its writer empties; a waiter is known by the
number of the call that waits.
-/

namespace AetherMesh

structure Connections where
  senders : NodeId → Option Nat
  dataChannels : NodeId → List Nat
  nextChannel : NodeId → Option Nat
  channelTokens : NodeId → Option String
  pending : TaskId → Option Nat
  pendingPongs : NodeId × Nat → Option Nat
  pendingData : NodeId × DataId → Option Nat

namespace Connections

def new : Connections where
  senders := fun _ => none
  dataChannels := fun _ => []
  nextChannel := fun _ => none
  channelTokens := fun _ => none
  pending := fun _ => none
  pendingPongs := fun _ => none
  pendingData := fun _ => none

variable (connections : Connections) (nodeId : NodeId)

def attach (link : Nat) (token : String) : Connections :=
  { connections with
    senders := Function.update connections.senders nodeId (some link)
    channelTokens := Function.update connections.channelTokens nodeId (some token) }

def claimChannelToken (presented : Option String) : Bool :=
  match connections.channelTokens nodeId, presented with
  | some expected, some presented => constantTimeEq (asBytes expected) (asBytes presented)
  | _, _ => false

def attachDataChannel (link : Nat) : Connections :=
  { connections with
    dataChannels := Function.update connections.dataChannels nodeId
      (connections.dataChannels nodeId ++ [link]) }

def dataChannelCount : Nat := (connections.dataChannels nodeId).length

def detach : Connections :=
  { connections with
    senders := Function.update connections.senders nodeId none
    dataChannels := Function.update connections.dataChannels nodeId []
    nextChannel := Function.update connections.nextChannel nodeId none
    channelTokens := Function.update connections.channelTokens nodeId none }

def isConnected : Bool := (connections.senders nodeId).isSome

/-- The data channel whose turn it is, and the cursor moved on. The cursor is a 64-bit number. -/
def rotate : Connections × Option Nat :=
  match connections.dataChannels nodeId with
  | [] => (connections, none)
  | channel :: rest =>
      let cursor := (connections.nextChannel nodeId).getD 0
      ({ connections with
         nextChannel := Function.update connections.nextChannel nodeId
           (some ((cursor + 1) % 2 ^ 64)) },
       (channel :: rest)[cursor % (channel :: rest).length]?)

def expectResult (taskId : TaskId) (call : Nat) : Connections :=
  { connections with pending := Function.update connections.pending taskId (some call) }

def forget (taskId : TaskId) : Connections :=
  { connections with pending := Function.update connections.pending taskId none }

def expectData (dataId : DataId) (call : Nat) : Connections :=
  { connections with
    pendingData := Function.update connections.pendingData (nodeId, dataId) (some call) }

def forgetData (dataId : DataId) : Connections :=
  { connections with
    pendingData := Function.update connections.pendingData (nodeId, dataId) none }

def expectPong (nonce probe : Nat) : Connections :=
  { connections with
    pendingPongs := Function.update connections.pendingPongs (nodeId, nonce) (some probe) }

def forgetPong (nonce : Nat) : Connections :=
  { connections with
    pendingPongs := Function.update connections.pendingPongs (nodeId, nonce) none }

variable {connections nodeId}

/-- Only the node's own channel token is accepted. -/
theorem claimChannelToken_iff {presented : Option String} :
    connections.claimChannelToken nodeId presented = true ↔
      ∃ token, connections.channelTokens nodeId = some token ∧ presented = some token := by
  unfold claimChannelToken
  split
  · rename_i expected given known
    rw [constantTimeEq_iff, known]
    constructor
    · intro same
      exact ⟨expected, rfl, by rw [asBytes_injective same]⟩
    · rintro ⟨token, first, second⟩
      rw [Option.some.inj first, Option.some.inj second]
  · rename_i missing
    refine iff_of_false (by simp) ?_
    rintro ⟨token, known, rfl⟩
    exact missing token token known rfl

theorem rotate_spec :
    (connections.dataChannels nodeId = [] ∧ connections.rotate nodeId = (connections, none)) ∨
      ∃ channel ∈ connections.dataChannels nodeId, ∃ cursors,
        connections.rotate nodeId =
          ({ connections with nextChannel := cursors }, some channel) := by
  unfold rotate
  cases channels : connections.dataChannels nodeId with
  | nil => exact .inl ⟨rfl, rfl⟩
  | cons channel rest =>
      right
      have bound : (connections.nextChannel nodeId).getD 0 % (channel :: rest).length <
          (channel :: rest).length := Nat.mod_lt _ (by simp)
      dsimp only
      rw [List.getElem?_eq_getElem bound]
      exact ⟨_, List.getElem_mem bound, _, rfl⟩

end Connections

end AetherMesh
