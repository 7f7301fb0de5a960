import AetherMesh.Core.Task
import Mathlib.Algebra.Order.Field.Rat

/-! A node as it describes itself, and the load it reports. -/

namespace AetherMesh

structure NodeInfo where
  id : NodeId
  labels : Labels
deriving DecidableEq

/-- The ratios are kept as the bits of their floats. -/
structure NodeMetrics where
  cpuUsage : BitVec 32
  memoryUsage : BitVec 32
  memoryTotalBytes : Nat
deriving DecidableEq

def singleValue (bits : BitVec 32) : ℚ :=
  let exponent : Nat := bits.toNat / 2 ^ 23 % 2 ^ 8
  let fraction : Nat := bits.toNat % 2 ^ 23
  let size : ℚ := if exponent = 0 then fraction else (2 ^ 23 + fraction) * 2 ^ (exponent - 1)
  (if bits.msb then -1 else 1) * size / 2 ^ 149

structure NodeDescription extends NodeInfo where
  hostname : String
  address : String
  cpuCores : Nat
  bandwidthBytesPerSec : Option Nat
  latencyMs : Option (BitVec 32)
  metrics : NodeMetrics
deriving DecidableEq

def NodeDescription.updateMetrics (info : NodeDescription) (metrics : NodeMetrics) :
    NodeDescription :=
  { info with metrics }

end AetherMesh
