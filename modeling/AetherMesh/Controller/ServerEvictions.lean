import AetherMesh.Controller.Server

/-!
Whom the monitor evicts. It lists the silent nodes once and then goes through its list, one
removal at a time, without looking again.
-/

namespace AetherMesh.Server

open Runs

variable {setup : Setup} {state after : State} {event : Event} {nodeId : NodeId}

def Pass.listed : Pass → List NodeId
  | .idle => []
  | .removing left => left
  | .detaching nodeId left | .forgetting nodeId left => nodeId :: left

def Silent (setup : Setup) (state : State) (nodeId : NodeId) : Prop :=
  ∃ heard, state.heard nodeId = some heard ∧ setup.timeout < state.now - heard

/-- The monitor has only silent nodes before it, and a node that is not silent keeps its entry, its
connections and its data through the next removal. -/
structure Just (setup : Setup) (state : State) : Prop where
  listed : ∀ nodeId, nodeId ∈ state.pass.listed → Silent setup state nodeId
  spared : ∀ after nodeId, evict state = some after → ¬ Silent setup state nodeId →
    after.registry.get nodeId = state.registry.get nodeId ∧
      after.connections.senders nodeId = state.connections.senders nodeId ∧
      after.connections.dataChannels nodeId = state.connections.dataChannels nodeId ∧
      ∀ dataId, after.catalog.holds dataId nodeId = state.catalog.holds dataId nodeId

def enrolled (setup : Setup) : Message → Option NodeId
  | .registerNode version info token =>
      if version = protocolVersion ∧ (setup.security.authorize token).isOk = true then some info.id
      else none
  | _ => none

def heardFrom (setup : Setup) (registeredId : Option NodeId) : Message → Option NodeId
  | .heartbeat _ _ => registeredId
  | message => enrolled setup message

def hears (setup : Setup) (state : State) : Event → Option NodeId
  | .read link =>
      match (state.links link).stage, (state.links link).inbound with
      | .reading, (_, message) :: _ => heardFrom setup (state.links link).registeredId message
      | _, _ => none
  | _ => none

def unheard (setup : Setup) (state : State) (event : Event) : Bool :=
  (hears setup state event).all fun nodeId => nodeId ∉ state.pass.listed

def Timed (state : State) : Prop :=
  ∀ nodeId entry, state.registry.get nodeId = some entry →
    state.heard nodeId = some entry.lastSeen

theorem evict_frame (moved : evict state = some after) :
    (∀ other, other ∈ after.pass.listed → other ∈ state.pass.listed) ∧
      ∀ other, other ∉ state.pass.listed →
        after.registry.get other = state.registry.get other ∧
        after.connections.senders other = state.connections.senders other ∧
        after.connections.dataChannels other = state.connections.dataChannels other ∧
        ∀ dataId, after.catalog.holds dataId other = state.catalog.holds dataId other := by
  unfold evict at moved
  split at moved
  · rename_i nodeId rest here
    cases moved
    rw [here]
    refine ⟨fun other listed => listed, fun other spared => ?_⟩
    have different : other ≠ nodeId := fun same => spared (same ▸ List.mem_cons_self)
    exact ⟨by rw [NodeRegistry.get_remove, if_neg different], rfl, rfl, fun _ => rfl⟩
  · rename_i here
    cases moved
    rw [here]
    exact ⟨fun other listed => listed, fun other _ => ⟨rfl, rfl, rfl, fun _ => rfl⟩⟩
  · rename_i nodeId rest here
    cases moved
    rw [here]
    refine ⟨fun other listed => listed, fun other spared => ?_⟩
    have different : other ≠ nodeId := fun same => spared (same ▸ List.mem_cons_self)
    exact ⟨rfl, Function.update_of_ne different .., Function.update_of_ne different ..,
      fun _ => rfl⟩
  · rename_i nodeId rest here
    cases moved
    rw [here]
    refine ⟨fun other listed => List.mem_cons_of_mem _ listed, fun other spared => ?_⟩
    have different : other ≠ nodeId := fun same => spared (same ▸ List.mem_cons_self)
    refine ⟨rfl, rfl, rfl, fun dataId => Bool.eq_iff_iff.mpr ?_⟩
    rw [DataCatalog.holds_forgetNode]
    exact and_iff_left different
  · cases moved

theorem just_iff : Just setup state ↔
    ∀ nodeId, nodeId ∈ state.pass.listed → Silent setup state nodeId := by
  refine ⟨Just.listed, fun listed => ⟨listed, ?_⟩⟩
  intro after nodeId moved loud
  exact (evict_frame moved).2 nodeId fun found => loud (listed nodeId found)

theorem Timed.step (timed : Timed state) (step : Step setup state event after) : Timed after := by
  cases step with
  | register link stamp version info token rest reads authorized =>
      intro other entry found
      have found : (state.registry.register info state.now).get other = some entry := found
      rw [NodeRegistry.get_register] at found
      have heard : Function.update state.heard info.id (some state.now) other =
          some entry.lastSeen := by
        rw [Function.update_apply]
        split at found
        · rename_i same
          rw [if_pos same, ← Option.some.inj found]
        · rename_i different
          rw [if_neg different]
          exact timed other entry found
      exact heard
  | heartbeat link stamp named nodeId metrics rest registry reads registered recorded =>
      obtain ⟨known, -, gets⟩ := NodeRegistry.recordHeartbeat_ok recorded
      intro other entry found
      have found : registry.get other = some entry := found
      rw [gets] at found
      have heard : Function.update state.heard nodeId (some state.now) other =
          some entry.lastSeen := by
        rw [Function.update_apply]
        split at found
        · rename_i same
          rw [if_pos same, ← Option.some.inj found]
          rfl
        · rename_i different
          rw [if_neg different]
          exact timed other entry found
      exact heard
  | dropHeartbeat link stamp named nodeId metrics rest reads registered unknown =>
      intro other entry found
      have different : other ≠ nodeId := by
        rintro rfl
        exact absurd (unknown.symm.trans found) (by simp)
      exact (Function.update_of_ne different ..).trans (timed other entry found)
  | remove nodeId rest here =>
      intro other entry found
      have found : (state.registry.remove nodeId).get other = some entry := found
      rw [NodeRegistry.get_remove] at found
      split at found
      · cases found
      · exact timed other entry found
  | _ => exact timed

theorem Step.heard (step : Step setup state event after) :
    (∃ link, event = .read link) ∨ after.heard = state.heard := by
  cases step with
  | register link | heartbeat link | dropHeartbeat link => exact .inl ⟨link, rfl⟩
  | _ => exact .inr rfl

theorem receive_heard (link stamp : Nat) (message : Message) :
    (receive setup state link stamp message).heard =
        (heardFrom setup (state.links link).registeredId message).elim state.heard
          (fun nodeId => Function.update state.heard nodeId (some state.now)) ∧
      (receive setup state link stamp message).pass = state.pass ∧
      (receive setup state link stamp message).now = state.now := by
  cases message with
  | registerNode version info token =>
      dsimp only [receive, heardFrom, enrolled]
      split
      · rename_i different
        rw [if_neg fun both => different both.1]
        obtain ⟨links, replied⟩ := reply_frame state link (.registerRejected
          ("controller speaks protocol " ++ toString protocolVersion))
        rw [replied]
        exact ⟨rfl, rfl, rfl⟩
      · rename_i same
        split
        · rename_i error refused
          rw [refused, if_neg fun both => Bool.false_ne_true both.2]
          obtain ⟨links, replied⟩ := reply_frame state link (.registerRejected error.text)
          rw [replied]
          exact ⟨rfl, rfl, rfl⟩
        · rename_i accepted
          rw [accepted, if_pos ⟨not_not.mp same, rfl⟩]
          exact ⟨rfl, rfl, rfl⟩
  | registerDataChannel | dataReady | dataHeld | dataEvicted | pong | taskCompleted =>
      dsimp only [receive, State.completeData, State.completePong, State.complete]
      repeat' split
      all_goals exact ⟨rfl, rfl, rfl⟩
  | heartbeat named metrics =>
      dsimp only [receive, heardFrom]
      cases (state.links link).registeredId with
      | none => exact ⟨rfl, rfl, rfl⟩
      | some nodeId =>
          dsimp only
          split
          · exact ⟨rfl, rfl, rfl⟩
          · exact ⟨rfl, rfl, rfl⟩
  | _ => exact ⟨rfl, rfl, rfl⟩

theorem Reads.hears_eq {link stamp : Nat} {message : Message} {rest : List (Nat × Message)}
    (reads : Reads state link stamp message rest) :
    hears setup state (.read link) = heardFrom setup (state.links link).registeredId message := by
  simp only [hears, reads.here, reads.first]

theorem unread_unheard (silent : ∀ link, event ≠ .read link) : hears setup state event = none := by
  cases event with
  | read link => exact absurd rfl (silent link)
  | _ => rfl

theorem next_heard (moved : next setup state event = some after) :
    (hears setup state event = none ∧ after.heard = state.heard) ∨
      ∃ nodeId, hears setup state event = some nodeId ∧
        after.heard = Function.update state.heard nodeId (some state.now) ∧
        after.pass = state.pass ∧ after.now = state.now := by
  by_cases reading : ∃ link, event = .read link
  · obtain ⟨link, rfl⟩ := reading
    obtain ⟨stamp, message, rest, reads⟩ := read_reads moved
    rw [reads.next_eq] at moved
    obtain rfl := Option.some.inj moved
    obtain ⟨heard, pass, now⟩ := @receive_heard setup (state.took link rest) link stamp message
    rw [took_links] at heard
    rw [reads.hears_eq]
    cases found : heardFrom setup (state.links link).registeredId message with
    | none =>
        rw [found] at heard
        exact .inl ⟨rfl, heard⟩
    | some nodeId =>
        rw [found] at heard
        exact .inr ⟨nodeId, rfl, heard, pass, now⟩
  · have other : ∀ link, event ≠ .read link := fun link same => reading ⟨link, same⟩
    exact .inl ⟨unread_unheard other, ((next_step moved).heard).resolve_left reading⟩

theorem Step.listed (timed : Timed state)
    (just : ∀ nodeId, nodeId ∈ state.pass.listed → Silent setup state nodeId)
    (step : Step setup state event after) (listed : nodeId ∈ after.pass.listed)
    (quiet : after.heard nodeId = state.heard nodeId) : Silent setup after nodeId := by
  have stay : after.now = state.now → nodeId ∈ state.pass.listed → Silent setup after nodeId := by
    intro now before
    obtain ⟨heard, known, silent⟩ := just nodeId before
    exact ⟨heard, quiet.trans known, now ▸ silent⟩
  cases step with
  | tick =>
      obtain ⟨heard, known, silent⟩ := just nodeId listed
      refine ⟨heard, known, ?_⟩
      dsimp only
      omega
  | scan order idle perm =>
      obtain ⟨entry, found, stale⟩ := NodeRegistry.mem_staleNodes.mp (perm.mem_iff.mp listed)
      exact ⟨entry.lastSeen, timed nodeId entry found, stale⟩
  | remove gone rest here | evictDetach gone rest here =>
      refine stay rfl ?_
      rw [here]
      exact listed
  | passed here =>
      cases listed
  | evictForget gone rest here =>
      refine stay rfl ?_
      rw [here]
      exact List.mem_cons_of_mem _ listed
  | _ => exact stay rfl listed

theorem just_step (timed : Timed state) (just : Just setup state)
    (moved : next setup state event = some after) :
    Just setup after ↔ unheard setup state event = true := by
  have step := next_step moved
  rw [just_iff, unheard]
  rcases next_heard moved with ⟨none, same⟩ | ⟨nodeId, heardNow, heard, pass, now⟩
  · rw [none]
    refine iff_of_true (fun other listed => ?_) rfl
    exact step.listed timed just.listed listed (by rw [same])
  · rw [heardNow, Option.all_some, decide_eq_true_iff]
    constructor
    · intro silent listed
      obtain ⟨time, known, long⟩ := silent nodeId (pass ▸ listed)
      rw [heard, Function.update_self, Option.some.injEq] at known
      omega
    · intro free other listed
      have different : other ≠ nodeId := by
        rintro rfl
        exact free (pass ▸ listed)
      exact step.listed timed just.listed listed (by rw [heard, Function.update_of_ne different])

/-- Evictions hit only silent nodes exactly as long as no listed node is heard of. -/
theorem evictions_just {setup : Setup} {trace : List Event} {final : State}
    (ran : run (next setup) State.start trace = some final) :
    Always (next setup) (Just setup) State.start trace ↔
      Along (next setup) (fun state event => unheard setup state event = true) State.start trace := by
  refine @always_iff_along _ _ _ _ _ _ _ _ Timed ?_ ?_ ?_ ran
  · intro nodeId entry found
    cases found
  · refine just_iff.mpr fun nodeId listed => ?_
    cases listed
  · intro state event after timed moved
    exact ⟨timed.step (next_step moved), fun just => just_step timed just moved⟩

def fallsSilent : List Event :=
  .accept 0 :: registers 0 ⟨0⟩ ++ [.tick, .tick, .tick, .scan [⟨0⟩]]

theorem silent_eviction_just :
    Always (next openMesh) (Just openMesh) State.start
      (fallsSilent ++ [.evict, .evict, .evict, .evict]) := by
  have runs : (run (next openMesh) State.start
      (fallsSilent ++ [.evict, .evict, .evict, .evict])).isSome = true := by decide
  obtain ⟨final, ran⟩ := Option.isSome_iff_exists.mp runs
  exact (evictions_just ran).mpr (by decide)

def speaksAgain : List Event :=
  fallsSilent ++ [.arrive 0 (.heartbeat ⟨0⟩ ⟨0, 0, 0⟩), .read 0]

theorem speaking_node_evicted :
    ∃ state final, run (next openMesh) State.start speaksAgain = some state ∧
      state.heard ⟨0⟩ = some state.now ∧ next openMesh state .evict = some final ∧
      final.registry.contains ⟨0⟩ = false ∧ ¬ Just openMesh state := by
  have before : (run (next openMesh) State.start speaksAgain).any (fun state =>
      state.heard ⟨0⟩ = some state.now ∧ state.pass = .removing [⟨0⟩]) = true := by decide
  have afterwards : (run (next openMesh) State.start (speaksAgain ++ [.evict])).any
      (fun final => final.registry.contains ⟨0⟩ = false) = true := by decide
  obtain ⟨state, final, reached, found, moved, -, gone⟩ := run_tested_snoc before afterwards
  obtain ⟨heard, pass⟩ := of_decide_eq_true found
  refine ⟨state, final, reached, heard, moved, of_decide_eq_true gone, fun just => ?_⟩
  obtain ⟨time, known, long⟩ := just.listed ⟨0⟩ (by rw [pass]; exact List.mem_singleton.mpr rfl)
  rw [heard, Option.some.injEq] at known
  omega

end AetherMesh.Server
