import AetherMesh.Core.Data

/-! Whether a payload is compressed for transfer. -/

namespace AetherMesh

inductive Codec
  | none
  | lz4
deriving DecidableEq

/-- The LZ4 library, with the original length prepended. -/
structure Lz4 where
  compress : Bytes → Bytes
  decompress : Bytes → Option Bytes
  inverse : ∀ bytes, decompress (compress bytes) = some bytes

def compress (lz4 : Lz4) (codec : Codec) (bytes : Bytes) : Bytes :=
  match codec with
  | .none => bytes
  | .lz4 => lz4.compress bytes

def decompress (lz4 : Lz4) (codec : Codec) (bytes : Bytes) : Option Bytes :=
  match codec with
  | .none => some bytes
  | .lz4 => lz4.decompress bytes

/-- `worthwhile` says for the two lengths whether the share saved reaches `min_saving`, which
the source computes with floats. -/
structure CompressionPolicy where
  minSizeBytes : Nat
  fastLinkBytesPerSec : Nat
  worthwhile : Nat → Nat → Bool

def CompressionPolicy.choose (policy : CompressionPolicy) (size : Nat) (bandwidth : Option Nat) :
    Codec :=
  if size < policy.minSizeBytes then .none
  else
    match bandwidth with
    | some speed => if policy.fastLinkBytesPerSec ≤ speed then .none else .lz4
    | none => .lz4

def CompressionPolicy.encode (policy : CompressionPolicy) (lz4 : Lz4) (bytes : Bytes)
    (bandwidth : Option Nat) : Codec × Bytes :=
  let codec := policy.choose bytes.length bandwidth
  if codec = .none then (.none, bytes)
  else
    let compressed := compress lz4 codec bytes
    if policy.worthwhile bytes.length compressed.length then (codec, compressed) else (.none, bytes)

theorem CompressionPolicy.decompress_encode (policy : CompressionPolicy) (lz4 : Lz4)
    (bytes : Bytes) (bandwidth : Option Nat) :
    decompress lz4 (policy.encode lz4 bytes bandwidth).1 (policy.encode lz4 bytes bandwidth).2 =
      some bytes := by
  unfold encode
  dsimp only
  split
  · rfl
  · split
    · cases policy.choose bytes.length bandwidth with
      | none => rfl
      | lz4 => exact lz4.inverse bytes
    · rfl

end AetherMesh
