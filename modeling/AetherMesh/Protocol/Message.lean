import AetherMesh.Core.Chunk
import AetherMesh.Core.Compress
import AetherMesh.Core.Node
import AetherMesh.Core.Task

/-!
What the controller and an agent send each other. A message travels as one
frame, and a frame over the limit is neither written nor read.
-/

namespace AetherMesh

def protocolVersion : Nat := 1

inductive Message
  | registerNode (version : Nat) (info : NodeDescription) (token : Option String)
  | registerDataChannel (version : Nat) (nodeId : NodeId) (token : Option String)
  | registerAccepted (nodeId : NodeId) (channelToken : Option String) (heartbeatTimeoutSecs : Nat)
  | registerRejected (reason : String)
  | heartbeat (nodeId : NodeId) (metrics : NodeMetrics)
  | submitTask (task : Task)
  | dataTransfer (nodeId : NodeId) (descriptor : DataDescriptor) (codec : Codec) (bytes : Bytes)
  | dataManifest (nodeId : NodeId) (manifest : ChunkManifest)
  | dataChunk (nodeId : NodeId) (dataId : DataId) (index : Nat) (codec : Codec) (bytes : Bytes)
  | taskAssignment (nodeId : NodeId) (task : Task)
  | ping (nonce : Nat) (padding : Bytes)
  | dataEvicted (nodeId : NodeId) (dataIds : List DataId)
  | dataHeld (nodeId : NodeId) (datasets : List DataDescriptor)
  | taskCompleted (result : TaskResult)
  | dataReady (nodeId : NodeId) (dataId : DataId)
  | pong (nonce : Nat)
deriving DecidableEq

def maxFrameBytes : Nat := 64 * 1024 * 1024

/-- The encoding of messages. Every chunk listed in a manifest takes up at least a byte. -/
structure Wire where
  encodedLen : Message → Nat
  covers : ∀ nodeId manifest,
    manifest.chunks.length ≤ encodedLen (.dataManifest nodeId manifest)

def Wire.fits (wire : Wire) (message : Message) : Bool := wire.encodedLen message ≤ maxFrameBytes

end AetherMesh
