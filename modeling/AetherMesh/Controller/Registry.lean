import AetherMesh.Core.Node

/-! The nodes that the controller knows, and when each was last heard from. -/

namespace AetherMesh

structure NodeEntry where
  info : NodeDescription
  lastSeen : Nat
deriving DecidableEq

inductive RegistryError
  | unknownNode (nodeId : NodeId)
deriving DecidableEq

/-- The source's map from node ids to entries; an entry's key is the id it describes. -/
structure NodeRegistry where
  nodes : AList fun _ : NodeId => NodeEntry
  keyed : ∀ nodeId entry, nodes.lookup nodeId = some entry → entry.info.id = nodeId

namespace NodeRegistry

def new : NodeRegistry := ⟨∅, by simp⟩

def get (registry : NodeRegistry) (nodeId : NodeId) : Option NodeEntry :=
  registry.nodes.lookup nodeId

def contains (registry : NodeRegistry) (nodeId : NodeId) : Bool := (registry.get nodeId).isSome

def register (registry : NodeRegistry) (info : NodeDescription) (now : Nat) : NodeRegistry where
  nodes := registry.nodes.insert info.id ⟨info, now⟩
  keyed := by
    intro nodeId entry found
    by_cases same : nodeId = info.id
    · rw [same, AList.lookup_insert, Option.some.injEq] at found
      rw [← found, same]
    · rw [AList.lookup_insert_ne same] at found
      exact registry.keyed nodeId entry found

def remove (registry : NodeRegistry) (nodeId : NodeId) : NodeRegistry where
  nodes := registry.nodes.erase nodeId
  keyed := by
    intro other entry found
    by_cases same : other = nodeId
    · rw [same, AList.lookup_erase] at found
      cases found
    · rw [AList.lookup_erase_ne same] at found
      exact registry.keyed other entry found

def refresh (entry : NodeEntry) (metrics : NodeMetrics) (now : Nat) : NodeEntry :=
  ⟨entry.info.updateMetrics metrics, now⟩

def recordHeartbeat (registry : NodeRegistry) (nodeId : NodeId) (metrics : NodeMetrics) (now : Nat) :
    Except RegistryError NodeRegistry :=
  match found : registry.get nodeId with
  | none => .error (.unknownNode nodeId)
  | some entry => .ok
      { nodes := registry.nodes.insert nodeId (refresh entry metrics now)
        keyed := by
          intro other fresh also
          by_cases same : other = nodeId
          · rw [same, AList.lookup_insert, Option.some.injEq] at also
            rw [← also, same]
            exact registry.keyed nodeId entry found
          · rw [AList.lookup_insert_ne same] at also
            exact registry.keyed other fresh also }

def staleNodes (registry : NodeRegistry) (now timeout : Nat) : List NodeId :=
  (registry.nodes.entries.filter fun entry => timeout < now - entry.2.lastSeen).map
    fun entry => entry.2.info.id

variable {registry after : NodeRegistry} {nodeId other : NodeId} {now timeout : Nat}

theorem get_register (info : NodeDescription) :
    (registry.register info now).get other =
      if other = info.id then some ⟨info, now⟩ else registry.get other := by
  unfold get register
  split
  · rename_i same
    rw [same, AList.lookup_insert]
  · rename_i different
    rw [AList.lookup_insert_ne different]

theorem get_remove : (registry.remove nodeId).get other =
    if other = nodeId then none else registry.get other := by
  unfold get remove
  split
  · rename_i same
    rw [same, AList.lookup_erase]
  · rename_i different
    rw [AList.lookup_erase_ne different]

theorem recordHeartbeat_ok {metrics : NodeMetrics}
    (recorded : registry.recordHeartbeat nodeId metrics now = .ok after) :
    ∃ entry, registry.get nodeId = some entry ∧ ∀ other, after.get other =
      if other = nodeId then some (refresh entry metrics now) else registry.get other := by
  unfold recordHeartbeat at recorded
  split at recorded
  · cases recorded
  · rename_i entry found
    cases recorded
    refine ⟨entry, found, fun other => ?_⟩
    unfold get
    split
    · rename_i same
      rw [same, AList.lookup_insert]
    · rename_i different
      rw [AList.lookup_insert_ne different]

theorem recordHeartbeat_error {metrics : NodeMetrics} {error : RegistryError}
    (refused : registry.recordHeartbeat nodeId metrics now = .error error) :
    registry.get nodeId = none := by
  unfold recordHeartbeat at refused
  split at refused
  · assumption
  · cases refused

theorem mem_staleNodes : nodeId ∈ registry.staleNodes now timeout ↔
    ∃ entry, registry.get nodeId = some entry ∧ timeout < now - entry.lastSeen := by
  simp only [staleNodes, List.mem_map, List.mem_filter, decide_eq_true_eq]
  constructor
  · rintro ⟨⟨key, entry⟩, ⟨member, stale⟩, named⟩
    have found : registry.get key = some entry := AList.mem_lookup_iff.mpr member
    rw [← named, registry.keyed key entry found]
    exact ⟨entry, found, stale⟩
  · rintro ⟨entry, found, stale⟩
    exact ⟨⟨nodeId, entry⟩, ⟨AList.mem_lookup_iff.mp found, stale⟩, registry.keyed nodeId entry found⟩

end NodeRegistry

end AetherMesh
