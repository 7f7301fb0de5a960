import AetherMesh.Controller.ServerEvictions
import AetherMesh.Controller.ServerLinks
import AetherMesh.Controller.ServerWaiters

/-!
Whether a node that sends heartbeats is in the mesh. A registration puts it there; an
eviction takes it out, and a heartbeat does not bring it back.
-/

namespace AetherMesh.Server

open Runs

variable {setup : Setup} {state after : State} {event : Event} {nodeId : NodeId}

def enrols (setup : Setup) (nodeId : NodeId) (state : State) : Event → Bool
  | .read link =>
      match (state.links link).stage, (state.links link).inbound with
      | .reading, (_, message) :: _ => enrolled setup message = some nodeId
      | _, _ => false
  | _ => false

def removes (nodeId : NodeId) (state : State) : Event → Bool
  | .evict =>
      match state.pass with
      | .removing (gone :: _) => gone = nodeId
      | _ => false
  | _ => false

def attaches (nodeId : NodeId) (state : State) : Event → Bool
  | .proceed link =>
      match (state.links link).stage with
      | .attaching other => other = nodeId
      | _ => false
  | _ => false

theorem Reads.enrols_eq {link stamp : Nat} {message : Message} {rest : List (Nat × Message)}
    (reads : Reads state link stamp message rest) :
    enrols setup nodeId state (.read link) = (enrolled setup message = some nodeId : Bool) := by
  simp only [enrols, reads.here, reads.first]

theorem receive_contains (link stamp : Nat) (message : Message) :
    (receive setup state link stamp message).registry.contains nodeId = true ↔
      enrolled setup message = some nodeId ∨ state.registry.contains nodeId = true := by
  cases message with
  | registerNode version info token =>
      dsimp only [receive, enrolled]
      split
      · rename_i different
        rw [if_neg fun both => different both.1]
        obtain ⟨links, replied⟩ := reply_frame state link (.registerRejected
          ("controller speaks protocol " ++ toString protocolVersion))
        simp only [State.turn, State.place, replied, reduceCtorEq, false_or]
      · rename_i same
        split
        · rename_i error refused
          rw [refused, if_neg fun both => Bool.false_ne_true both.2]
          obtain ⟨links, replied⟩ := reply_frame state link (.registerRejected error.text)
          simp only [State.turn, State.place, replied, reduceCtorEq, false_or]
        · rename_i accepted
          rw [accepted, if_pos ⟨not_not.mp same, rfl⟩]
          simp only [State.turn, State.place, NodeRegistry.contains, NodeRegistry.get_register,
            Option.some.injEq]
          split
          · rename_i own
            simp [own]
          · rename_i different
            simp [Ne.symm different]
  | heartbeat named metrics =>
      dsimp only [receive, enrolled]
      split
      · simp [State.turn, State.place]
      · split
        · rename_i speaker _ registry recorded
          obtain ⟨entry, known, gets⟩ := NodeRegistry.recordHeartbeat_ok recorded
          simp only [NodeRegistry.contains, gets, reduceCtorEq, false_or]
          split
          · rename_i own
            rw [own, known]
            simp
          · rfl
        · simp
  | registerDataChannel | dataReady | dataHeld | dataEvicted | pong | taskCompleted =>
      dsimp only [receive, enrolled, State.completeData, State.completePong, State.complete]
      repeat' split
      all_goals simp [State.turn, State.place]
  | _ => simp [receive, enrolled]

theorem Step.registry (step : Step setup state event after) :
    (∃ link, event = .read link) ∨ event = .evict ∨ after.registry = state.registry := by
  cases step with
  | register link | heartbeat link => exact .inl ⟨link, rfl⟩
  | remove | passed | evictDetach | evictForget => exact .inr (.inl rfl)
  | _ => exact .inr (.inr rfl)

theorem contains_evict (moved : evict state = some after) :
    after.registry.contains nodeId = true ↔
      state.registry.contains nodeId = true ∧ removes nodeId state .evict = false := by
  unfold evict at moved
  split at moved
  · rename_i gone rest here
    cases moved
    simp only [removes, here, NodeRegistry.contains, NodeRegistry.get_remove,
      decide_eq_false_iff_not]
    split
    · rename_i same
      simp [same]
    · rename_i different
      simp [Ne.symm different]
  · rename_i here
    cases moved
    simp [removes, here]
  · rename_i gone rest here
    cases moved
    simp [removes, here]
  · rename_i gone rest here
    cases moved
    simp [removes, here]
  · cases moved

theorem contains_step (moved : next setup state event = some after) :
    after.registry.contains nodeId = true ↔
      enrols setup nodeId state event = true ∨
        state.registry.contains nodeId = true ∧ removes nodeId state event = false := by
  cases event with
  | read link =>
      obtain ⟨stamp, message, rest, reads⟩ := read_reads moved
      rw [reads.next_eq] at moved
      obtain rfl := Option.some.inj moved
      rw [receive_contains, reads.enrols_eq, decide_eq_true_iff]
      exact or_congr_right (and_iff_left rfl).symm
  | evict =>
      rw [contains_evict moved]
      exact (or_iff_right Bool.false_ne_true).symm
  | _ =>
      obtain ⟨_, ⟨⟩⟩ | ⟨⟨⟩⟩ | same := (next_step moved).registry
      rw [same]
      simp [enrols, removes]

theorem passes_attaches (passing : passes state event = true) :
    attaches nodeId state event = false ∧ detaches state event = none := by
  cases event with
  | proceed link =>
      dsimp only [passes] at passing
      dsimp only [attaches, detaches]
      split at passing <;> simp_all
  | evict =>
      dsimp only [passes] at passing
      dsimp only [attaches, detaches]
      cases here : state.pass with
      | detaching =>
          rw [here] at passing
          cases passing
      | _ => exact ⟨rfl, rfl⟩
  | _ => exact ⟨rfl, rfl⟩

theorem isConnected_rewires (rewires : Rewires state after event) :
    after.connections.isConnected nodeId = true ↔
      attaches nodeId state event = true ∨ state.connections.isConnected nodeId = true ∧
        (detaches state event = some nodeId : Bool) = false := by
  cases rewires with
  | same event passing owner senders channels links =>
      obtain ⟨unattached, undetached⟩ := @passes_attaches state event nodeId passing
      rw [unattached, undetached, Connections.isConnected, senders, Connections.isConnected]
      simp
  | accept link here moved =>
      subst moved
      simp [attaches, detaches, State.place]
  | leave link here unregistered moved =>
      subst moved
      simp [attaches, detaches, here, unregistered, State.turn, State.place]
  | attach link other token here owner connections links =>
      rw [connections, Connections.isConnected, senders_attach]
      simp only [attaches, detaches, here]
      split
      · rename_i same
        simp [same]
      · rename_i different
        simp [Ne.symm different, Connections.isConnected]
  | join link other here owner connections links =>
      rw [connections]
      simp [attaches, detaches, here, Connections.attachDataChannel, Connections.isConnected]
  | detach link other here registered owner connections links =>
      rw [connections, Connections.isConnected, senders_detach]
      simp only [attaches, detaches, here, registered]
      split
      · rename_i same
        simp [same]
      · rename_i different
        simp [Ne.symm different, Connections.isConnected]
  | finish link other here owner connections links =>
      rw [connections]
      simp [attaches, detaches, here]
  | failWrite link writes moved =>
      subst moved
      simp [attaches, detaches, State.place]
  | evict other rest here owner connections links =>
      rw [connections, Connections.isConnected, senders_detach]
      simp only [attaches, detaches, here]
      split
      · rename_i same
        simp [same]
      · rename_i different
        simp [Ne.symm different, Connections.isConnected]

/-- A heartbeat touches neither the connections nor the catalog, and the registry only where it has
the node. -/
theorem receive_heartbeat {link stamp : Nat} {named : NodeId} {metrics : NodeMetrics}
    (registered : (state.links link).registeredId = some nodeId)
    (received : receive setup state link stamp (.heartbeat named metrics) = after) :
    after.connections = state.connections ∧ after.catalog = state.catalog ∧
      (after.registry.contains nodeId = false → after.registry = state.registry) := by
  dsimp only [receive] at received
  rw [registered] at received
  dsimp only at received
  split at received
  · rename_i registry recorded
    obtain ⟨entry, known, gets⟩ := NodeRegistry.recordHeartbeat_ok recorded
    subst received
    refine ⟨rfl, rfl, fun missing => ?_⟩
    dsimp only [NodeRegistry.contains] at missing
    rw [gets, if_pos rfl] at missing
    cases missing
  · subst received
    exact ⟨rfl, rfl, fun _ => rfl⟩

/-- What a heartbeat finds: a node that was evicted since it registered last is not in the registry
and does not come back; a node that was not is in it, and is connected if it was not detached
either. -/
theorem heartbeat_membership {setup : Setup} {trace : List Event} {state : State} {link stamp : Nat}
    {named nodeId : NodeId} {metrics : NodeMetrics} {rest : List (Nat × Message)}
    (ran : run (next setup) State.start trace = some state)
    (reads : Reads state link stamp (.heartbeat named metrics) rest)
    (registered : (state.links link).registeredId = some nodeId) :
    ∃ after, next setup state (.read link) = some after ∧
      (after.registry.contains nodeId = true ↔
        Since (next setup) (enrols setup nodeId) (removes nodeId) State.start trace) ∧
      (Since (next setup) (attaches nodeId)
          (fun state event => detaches state event = some nodeId) State.start trace →
        after.connections.isConnected nodeId = true) ∧
      (after.registry.contains nodeId = false → after.registry = state.registry ∧
        after.connections = state.connections ∧ after.catalog = state.catalog) := by
  have entered := @since_iff _ _ (next setup) (enrols setup nodeId) (removes nodeId)
    (fun state => state.registry.contains nodeId) State.start state trace rfl
    (fun _ _ _ moved => contains_step moved) ran
  have connected := @since_iff _ _ (next setup) (attaches nodeId)
    (fun state event => detaches state event = some nodeId)
    (fun state => state.connections.isConnected nodeId) State.start state trace rfl
    (fun _ _ _ moved => isConnected_rewires (next_step moved).rewires) ran
  have same := @receive_contains setup (state.took link rest) nodeId link stamp
    (.heartbeat named metrics)
  obtain ⟨connections, catalog, registry⟩ := @receive_heartbeat setup (state.took link rest) _ nodeId
    link stamp named metrics (by rw [took_links]; exact registered) rfl
  refine ⟨_, reads.next_eq, ?_, ?_, ?_⟩
  · rw [same, ← entered]
    simp [enrolled, State.took, State.place]
  · intro attached
    rw [connections]
    exact connected.mpr attached
  · intro missing
    exact ⟨registry missing, connections, catalog⟩

def beats : List Event :=
  .accept 0 :: registers 0 ⟨0⟩ ++ [.arrive 0 (.heartbeat ⟨0⟩ ⟨0, 0, 0⟩)]

theorem beating_node_entered :
    ∃ state after, run (next openMesh) State.start beats = some state ∧
      next openMesh state (.read 0) = some after ∧
      (after.registry.contains ⟨0⟩ = true ↔
        Since (next openMesh) (enrols openMesh ⟨0⟩) (removes ⟨0⟩) State.start beats) := by
  have tested : (run (next openMesh) State.start beats).any (fun state =>
      (state.links 0).stage = .reading ∧
        (state.links 0).inbound = [(1, .heartbeat ⟨0⟩ ⟨0, 0, 0⟩)] ∧
        (state.links 0).registeredId = some ⟨0⟩) = true := by decide
  obtain ⟨state, ran, found⟩ := run_tested tested
  obtain ⟨here, first, registered⟩ := of_decide_eq_true found
  obtain ⟨after, moved, entered, -⟩ := heartbeat_membership ran ⟨here, first⟩ registered
  exact ⟨state, after, ran, moved, entered⟩

def beatsAfterEviction : List Event :=
  fallsSilent ++ [.evict, .evict, .evict, .evict, .arrive 0 (.heartbeat ⟨0⟩ ⟨0, 0, 0⟩), .read 0]

theorem evicted_node_stays_out :
    ∃ final, run (next openMesh) State.start beatsAfterEviction = some final ∧
      (final.links 0).stage = .reading ∧ (final.links 0).registeredId = some ⟨0⟩ ∧
      final.registry.contains ⟨0⟩ = false ∧ final.connections.isConnected ⟨0⟩ = false := by
  have tested : (run (next openMesh) State.start beatsAfterEviction).any (fun final =>
      (final.links 0).stage = .reading ∧ (final.links 0).registeredId = some ⟨0⟩ ∧
        final.registry.contains ⟨0⟩ = false ∧ final.connections.isConnected ⟨0⟩ = false) =
      true := by decide
  obtain ⟨final, ran, found⟩ := run_tested tested
  exact ⟨final, ran, of_decide_eq_true found⟩

end AetherMesh.Server
