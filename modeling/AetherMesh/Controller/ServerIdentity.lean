import AetherMesh.Controller.Server

/-!
For whom a connection can speak. A handler takes the node from the connection, never from
the body of a message, so that what an agent sends concerns no other node.
-/

namespace AetherMesh.Server

open Runs

variable {setup : Setup} {state after : State} {event : Event} {link : Nat} {nodeId : Option NodeId}
  {other : NodeId}

def spoken : Message → Bool
  | .heartbeat _ _ | .dataHeld _ _ | .dataEvicted _ _ | .dataReady _ _ | .pong _
  | .taskCompleted _ => true
  | _ => false

def Stage.of (nodeId : Option NodeId) : Stage → Bool
  | .reading | .closing | .closed => true
  | .recording own _ | .evicting own _ | .forgetting own => nodeId = some own
  | _ => false

/-- A connection that speaks for the node, or for none, and has no other messages waiting. -/
structure Speaking (nodeId : Option NodeId) (link : Link) : Prop where
  identity : link.identity = nodeId
  inbound : ∀ entry, entry ∈ link.inbound → spoken entry.2 = true
  stage : link.stage.of nodeId = true

structure Untouched (state after : State) (other : NodeId) : Prop where
  holds : ∀ dataId, after.catalog.holds dataId other = state.catalog.holds dataId other
  registry : after.registry.get other = state.registry.get other
  data : ∀ dataId, after.connections.pendingData (other, dataId) =
    state.connections.pendingData (other, dataId)
  pongs : ∀ nonce, after.connections.pendingPongs (other, nonce) =
    state.connections.pendingPongs (other, nonce)

structure Unaffected (state after : State) : Prop where
  registry : after.registry = state.registry
  catalog : after.catalog = state.catalog
  pending : after.connections.pending = state.connections.pending
  pendingData : after.connections.pendingData = state.connections.pendingData
  pendingPongs : after.connections.pendingPongs = state.connections.pendingPongs

/-- No other node is touched, and without an identity nothing is. -/
structure SpeaksFor (nodeId : Option NodeId) (state after : State) : Prop where
  others : ∀ other, nodeId ≠ some other → Untouched state after other
  nobody : nodeId = none → Unaffected state after

theorem Untouched.trans {middle : State} (first : Untouched state middle other)
    (second : Untouched middle after other) : Untouched state after other where
  holds dataId := (second.holds dataId).trans (first.holds dataId)
  registry := second.registry.trans first.registry
  data dataId := (second.data dataId).trans (first.data dataId)
  pongs nonce := (second.pongs nonce).trans (first.pongs nonce)

theorem Unaffected.untouched (unaffected : Unaffected state after) : Untouched state after other where
  holds dataId := by rw [unaffected.catalog]
  registry := by rw [unaffected.registry]
  data dataId := by rw [unaffected.pendingData]
  pongs nonce := by rw [unaffected.pendingPongs]

theorem Unaffected.trans {middle : State} (first : Unaffected state middle)
    (second : Unaffected middle after) : Unaffected state after where
  registry := second.registry.trans first.registry
  catalog := second.catalog.trans first.catalog
  pending := second.pending.trans first.pending
  pendingData := second.pendingData.trans first.pendingData
  pendingPongs := second.pendingPongs.trans first.pendingPongs

theorem SpeaksFor.trans {middle : State} (first : SpeaksFor nodeId state middle)
    (second : SpeaksFor nodeId middle after) : SpeaksFor nodeId state after where
  others other different := (first.others other different).trans (second.others other different)
  nobody none := (first.nobody none).trans (second.nobody none)

theorem Unaffected.speaksFor (unaffected : Unaffected state after) : SpeaksFor nodeId state after :=
  ⟨fun _ _ => unaffected.untouched, fun _ => unaffected⟩

theorem speaksFor_own {own : NodeId} (known : nodeId = some own)
    (others : ∀ other, other ≠ own → Untouched state after other) : SpeaksFor nodeId state after := by
  refine ⟨fun other different => others other ?_, fun none => ?_⟩
  · rintro rfl
    exact different known
  · rw [known] at none
    cases none

theorem Speaking.registered {line : Link} (speaking : Speaking nodeId line) {own : NodeId}
    (registered : line.registeredId = some own) : nodeId = some own := by
  rw [← speaking.identity, Link.identity, registered]
  rfl

theorem Speaking.reads (speaking : Speaking nodeId (state.links link)) {stamp : Nat}
    {message : Message} {rest : List (Nat × Message)} (reads : Reads state link stamp message rest) :
    spoken message = true := by
  refine speaking.inbound (stamp, message) ?_
  rw [reads.first]
  exact List.mem_cons_self

theorem Speaking.here (speaking : Speaking nodeId (state.links link)) {stage : Stage}
    (here : (state.links link).stage = stage) : stage.of nodeId = true := by
  rw [← here]
  exact speaking.stage

theorem Speaking.read (speaking : Speaking nodeId (state.links link))
    (step : Step setup state (.read link) after) : SpeaksFor nodeId state after := by
  cases step with
  | register link stamp version info token rest reads authorized => cases speaking.reads reads
  | heartbeat link stamp named own metrics rest registry reads registered recorded =>
      obtain ⟨entry, -, gets⟩ := NodeRegistry.recordHeartbeat_ok recorded
      refine speaksFor_own (speaking.registered registered) fun other different => ?_
      exact ⟨fun _ => rfl, (gets other).trans (if_neg different), fun _ => rfl, fun _ => rfl⟩
  | ready link stamp named own dataId rest call reads known waited =>
      refine speaksFor_own (speaking.identity.symm.trans known) fun other different => ?_
      refine ⟨fun _ => rfl, rfl, fun wanted => Function.update_of_ne ?_ .., fun _ => rfl⟩
      exact fun same => different (congrArg Prod.fst same)
  | pong link stamp own nonce rest reads registered =>
      refine speaksFor_own (speaking.registered registered) fun other different => ?_
      refine ⟨fun _ => rfl, rfl, fun _ => rfl, fun wanted => Function.update_of_ne ?_ ..⟩
      exact fun same => different (congrArg Prod.fst same)
  | complete link stamp result rest call reads registered waited =>
      refine speaksFor_own (speaking.registered registered) fun other _ => ?_
      exact ⟨fun _ => rfl, rfl, fun _ => rfl, fun _ => rfl⟩
  | _ => exact Unaffected.speaksFor ⟨rfl, rfl, rfl, rfl, rfl⟩

theorem Speaking.proceed (speaking : Speaking nodeId (state.links link))
    (step : Step setup state (.proceed link) after) : SpeaksFor nodeId state after := by
  cases step with
  | forgetStale link own here | attach link own here | join link own here =>
      cases speaking.here here
  | record link own descriptor rest here =>
      refine speaksFor_own (of_decide_eq_true (speaking.here here)) fun other different => ?_
      refine ⟨fun dataId => Bool.eq_iff_iff.mpr ?_, rfl, fun _ => rfl, fun _ => rfl⟩
      exact DataCatalog.holds_record.trans (or_iff_left fun both => different both.2)
  | evictData link own dataId rest here =>
      refine speaksFor_own (of_decide_eq_true (speaking.here here)) fun other different => ?_
      refine ⟨fun dataId => Bool.eq_iff_iff.mpr ?_, rfl, fun _ => rfl, fun _ => rfl⟩
      exact DataCatalog.holds_withdraw.trans (and_iff_left fun both => different both.2)
  | detach link own here registered =>
      refine speaksFor_own (speaking.registered registered) fun other _ => ?_
      exact ⟨fun _ => rfl, rfl, fun _ => rfl, fun _ => rfl⟩
  | forgetLink link own here =>
      refine speaksFor_own (of_decide_eq_true (speaking.here here)) fun other different => ?_
      refine ⟨fun dataId => Bool.eq_iff_iff.mpr ?_, rfl, fun _ => rfl, fun _ => rfl⟩
      exact DataCatalog.holds_forgetNode.trans (and_iff_left different)
  | _ => exact Unaffected.speaksFor ⟨rfl, rfl, rfl, rfl, rfl⟩

theorem Speaking.place {line : Nat} {changed : Link}
    (speaking : Speaking nodeId (state.links link))
    (own : line = link → Speaking nodeId changed) :
    Speaking nodeId ((state.place line changed).links link) := by
  by_cases same : link = line
  · subst same
    rw [links_place]
    exact own rfl
  · have kept : (state.place line changed).links link = state.links link :=
      Function.update_of_ne same ..
    rw [kept]
    exact speaking

theorem Speaking.took {line : Link} (speaking : Speaking nodeId line) {entry : Nat × Message}
    {rest : List (Nat × Message)} (first : line.inbound = entry :: rest) {stage : Stage}
    (goes : stage.of nodeId = true) (outbound : List Message) :
    Speaking nodeId { line with inbound := rest, outbound := outbound, stage := stage } := by
  refine ⟨speaking.identity, fun entry listed => speaking.inbound entry ?_, goes⟩
  rw [first]
  exact List.mem_cons_of_mem _ listed

theorem Speaking.turn {line : Link} (speaking : Speaking nodeId line) {stage : Stage}
    (goes : stage.of nodeId = true) (outbound : List Message) (writing : Bool) :
    Speaking nodeId { line with outbound := outbound, stage := stage, writing := writing } :=
  ⟨speaking.identity, speaking.inbound, goes⟩

theorem Turns.speaking {line : Nat} {new : Link} (turns : Turns state line event new)
    (speaking : Speaking nodeId (state.links line)) : Speaking nodeId new := by
  cases turns with
  | accept here => cases speaking.here here
  | turnAway stamp message rest answer reads => exact speaking.took reads.first rfl _
  | ignore stamp message rest reads =>
      exact speaking.took reads.first speaking.stage _
  | claim stamp version own token rest reads claimed => cases speaking.reads reads
  | hold stamp named own datasets rest reads known | giveUp stamp named own dataIds rest reads known =>
      refine speaking.took reads.first ?_ _
      exact decide_eq_true (speaking.identity.symm.trans known)
  | answer own token message here | unanswered own token here => cases speaking.here here
  | recorded own here | evicted own here | leave here unregistered | lose here =>
      exact speaking.turn rfl _ _
  | write message rest queued => exact speaking.turn speaking.stage _ _

theorem Speaking.step (speaking : Speaking nodeId (state.links link))
    (step : Step setup state event after)
    (arrivals : ∀ message, event = .arrive link message → spoken message = true) :
    Speaking nodeId (after.links link) := by
  cases step with
  | turn line event new turns =>
      refine speaking.place ?_
      rintro rfl
      exact turns.speaking speaking
  | arrive line message here =>
      refine speaking.place ?_
      rintro rfl
      refine ⟨speaking.identity, fun entry listed => ?_, speaking.stage⟩
      rcases List.mem_append.mp listed with old | last
      · exact speaking.inbound entry old
      · rw [List.mem_singleton.mp last]
        exact arrivals message rfl
  | register line stamp version info token rest reads authorized =>
      refine speaking.place ?_
      rintro rfl
      cases speaking.reads reads
  | heartbeat line stamp named own metrics rest registry reads
  | dropHeartbeat line stamp named own metrics rest reads
  | ready line stamp named own dataId rest call reads
  | pong line stamp own nonce rest reads
  | complete line stamp result rest call reads =>
      refine speaking.place ?_
      rintro rfl
      exact speaking.took reads.first speaking.stage _
  | forgetStale line own here | attach line own here | join line own here =>
      refine speaking.place ?_
      rintro rfl
      cases speaking.here here
  | record line own descriptor rest here | evictData line own dataId rest here =>
      refine speaking.place ?_
      rintro rfl
      have goes := speaking.here here
      refine speaking.turn ?_ _ _
      exact goes
  | detach line own here registered =>
      refine speaking.place ?_
      rintro rfl
      refine speaking.turn ?_ _ _
      exact decide_eq_true (speaking.registered registered)
  | forgetLink line own here =>
      refine speaking.place ?_
      rintro rfl
      exact speaking.turn rfl _ _
  | failWrite line | assign call own task line | sendChunk call own dataId message rest line =>
      refine speaking.place ?_
      rintro rfl
      exact speaking.turn speaking.stage _ _
  | _ => exact speaking

theorem arrive_frame {message : Message} (moved : next setup state (.arrive link message) = some after) :
    ∃ links stamp, after = { state with links, stamp } := by
  dsimp only [next] at moved
  split at moved
  · cases moved
  · obtain rfl := Option.some.inj moved
    exact ⟨_, _, rfl⟩

def Own (link : Nat) (event : Event) : Prop := event = .read link ∨ event = .proceed link

theorem Speaking.own (speaking : Speaking nodeId (state.links link)) (own : Own link event)
    (moved : next setup state event = some after) : SpeaksFor nodeId state after := by
  rcases own with rfl | rfl
  · exact speaking.read (next_step moved)
  · exact speaking.proceed (next_step moved)

/-- Whatever an agent says on a connection, each step of its handler leaves the other nodes alone,
also when other parties come in between; and so do all of them together. -/
theorem node_speaks_for_itself {setup : Setup} {state final : State} {link : Nat}
    {nodeId : Option NodeId} {trace : List Event} (speaking : Speaking nodeId (state.links link))
    (arrivals : ∀ message, .arrive link message ∈ trace → spoken message = true)
    (ran : run (next setup) state trace = some final) :
    Along (next setup) (fun before event => ∀ after, Own link event →
        next setup before event = some after → SpeaksFor nodeId before after) state trace ∧
      ((∀ event, event ∈ trace → Own link event ∨ ∃ message, event = .arrive link message) →
        SpeaksFor nodeId state final) := by
  induction trace generalizing state with
  | nil =>
      obtain rfl := Option.some.inj ran
      exact ⟨trivial, fun _ => Unaffected.speaksFor ⟨rfl, rfl, rfl, rfl, rfl⟩⟩
  | cons event rest ih =>
      simp only [run] at ran
      obtain ⟨after, moved, later⟩ := Option.bind_eq_some_iff.mp ran
      have next := speaking.step (next_step moved) fun message same =>
        arrivals message (by rw [same]; exact List.mem_cons_self)
      obtain ⟨along, whole⟩ := ih next
        (fun message listed => arrivals message (List.mem_cons_of_mem _ listed)) later
      refine ⟨⟨fun reached own taken => speaking.own own taken, ?_⟩, fun only => ?_⟩
      · rw [moved]
        exact along
      · refine SpeaksFor.trans ?_ (whole fun event listed => only event (List.mem_cons_of_mem _ listed))
        rcases only event List.mem_cons_self with own | ⟨message, rfl⟩
        · exact speaking.own own moved
        · obtain ⟨links, stamp, same⟩ := arrive_frame moved
          rw [same]
          exact Unaffected.speaksFor ⟨rfl, rfl, rfl, rfl, rfl⟩

/-- A connection becomes a data channel of a node only with the channel token of the node. -/
theorem joining_claimed {own : NodeId} (moved : next setup state (.read link) = some after)
    (joins : (after.links link).stage = .joining own) :
    ∃ stamp version token rest,
      Reads state link stamp (.registerDataChannel version own (some token)) rest ∧
        state.connections.channelTokens own = some token := by
  cases next_step moved with
  | turn line event new turns =>
      cases turns with
      | claim stamp version node token rest reads claimed =>
          rw [links_place] at joins
          obtain rfl := Stage.joining.inj joins
          obtain ⟨token, known, rfl⟩ := Connections.claimChannelToken_iff.mp claimed
          exact ⟨stamp, version, token, rest, reads, known⟩
      | ignore stamp message rest reads =>
          rw [links_place] at joins
          exact absurd (reads.here.symm.trans joins) (by simp)
      | turnAway | hold | giveUp =>
          rw [links_place] at joins
          cases joins
  | register =>
      rw [links_place] at joins
      cases joins
  | heartbeat line stamp named node metrics rest registry reads
  | dropHeartbeat line stamp named node metrics rest reads
  | ready line stamp named node dataId rest call reads
  | pong line stamp node nonce rest reads
  | complete line stamp result rest call reads =>
      rw [took_links] at joins
      exact absurd (reads.here.symm.trans joins) (by simp)
  | calls call event dispatching calls => cases calls
  | waits call event batch waits => cases waits

def reportsForAnother : List Event :=
  [.arrive 0 (.dataHeld ⟨1⟩ [⟨⟨List.replicate dataIdLen 9, List.length_replicate⟩, 2⟩]), .read 0,
    .proceed 0, .proceed 0]

theorem report_for_another_ignored :
    ∃ state final, run (next openMesh) State.start (.accept 0 :: registers 0 ⟨0⟩) = some state ∧
      run (next openMesh) state reportsForAnother = some final ∧
      SpeaksFor (some ⟨0⟩) state final := by
  have tested : (run (next openMesh) State.start (.accept 0 :: registers 0 ⟨0⟩)).any (fun state =>
      (state.links 0).identity = some ⟨0⟩ ∧ (state.links 0).inbound = [] ∧
        (state.links 0).stage = .reading ∧
        (run (next openMesh) state reportsForAnother).isSome) = true := by decide
  obtain ⟨state, reached, found⟩ := run_tested tested
  obtain ⟨identity, inbound, stage, ran⟩ := of_decide_eq_true found
  obtain ⟨final, ran⟩ := Option.isSome_iff_exists.mp ran
  have speaking : Speaking (some ⟨0⟩) (state.links 0) := by
    refine ⟨identity, ?_, ?_⟩
    · rw [inbound]
      simp
    · rw [stage]
      rfl
  obtain ⟨-, whole⟩ := node_speaks_for_itself speaking (by simp [reportsForAnother, spoken]) ran
  exact ⟨state, final, reached, ran, whole (by simp [reportsForAnother, Own])⟩

end AetherMesh.Server
