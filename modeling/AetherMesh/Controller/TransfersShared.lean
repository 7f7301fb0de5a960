import AetherMesh.Agent.Progress
import AetherMesh.Controller.TransfersReady

/-!
Datasets with common chunks that are sent to one node at the same time. A transfer
leaves out the chunks that the catalog credits, and it credits a chunk when it plans
to send it.
-/

namespace AetherMesh.Transfers

open Runs

variable {setup : Setup} {state after : State} {event : Event} {thread : Nat}

def Setup.pieces (setup : Setup) (thread : Nat) : List Bytes :=
  chunksOf setup.chunkSize (setup.data thread)

/-- Every dataset is larger than a chunk, its manifest can be sent, and no other bytes hash
like a dataset or a chunk of one. -/
structure Setup.Sendable (setup : Setup) : Prop where
  distinct : setup.Distinct
  positive : 0 < setup.chunkSize
  small : setup.chunkSize < 2 ^ 32
  larger : ∀ thread < setup.count, setup.chunkSize < (setup.data thread).length
  fits : ∀ thread < setup.count,
    setup.agent.wire.fits (.dataManifest setup.nodeId (setup.manifest thread)) = true
  collisionFree : ∀ thread < setup.count, ∀ piece ∈ setup.data thread :: setup.pieces thread,
    ∀ other, setup.agent.digest other = setup.agent.digest piece → other = piece

/-- What the steps of a transfer take for granted. A credited dataset is held by the agent; a
chunk that is left out is held by the agent or is also at another place of the batch; when
the batch is empty the agent does not wait for chunks of the dataset; and when it is not, the
dataset has not been announced. -/
def borneOut (setup : Setup) (state : State) : Event → Bool
  | .check thread =>
      setup.reuseData && state.catalog.holds (setup.dataId thread) setup.nodeId →
        state.agent.store.contains (setup.dataId thread)
  | .look thread =>
      match state.phases thread with
      | .planning index batch =>
          match (setup.manifest thread).chunks[index]? with
          | some chunk =>
              setup.reuseData && state.catalog.holds chunk.id setup.nodeId →
                state.agent.store.contains chunk.id ∨
                  ∃ other ∈ batch, (setup.manifest thread).chunks[other]? = some chunk
          | none => true
      | _ => true
  | .expectData thread =>
      match state.phases thread with
      | .planning _ [] => (state.agent.assembler.pending.lookup (setup.dataId thread)).isNone
      | .planning _ (_ :: _) => setup.dataId thread ∉ state.told
      | _ => true
  | _ => true

section

variable (sendable : setup.Sendable)

include sendable

theorem Setup.Sendable.few (bound : thread < setup.count) :
    (setup.pieces thread).length < 2 ^ 32 := by
  have fits := sendable.fits thread bound
  have covers := setup.agent.wire.covers setup.nodeId (setup.manifest thread)
  have count : (setup.manifest thread).chunks.length = (setup.pieces thread).length := by
    simp [Setup.manifest, Setup.pieces, ChunkManifest.split, Nat.ne_of_gt sendable.positive]
  have limit : maxFrameBytes < 2 ^ 32 := by decide
  simp only [Wire.fits, decide_eq_true_eq] at fits
  omega

theorem Setup.Sendable.chunked (bound : thread < setup.count) :
    Chunked setup.agent.digest (setup.manifest thread) (setup.pieces thread) := by
  refine chunked_split sendable.positive ?_ (sendable.few bound)
    (sendable.collisionFree thread bound)
  intro none
  have larger := sendable.larger thread bound
  simp [none] at larger

theorem Setup.Sendable.chunk_proper (bound : thread < setup.count) {index : Nat} {piece : Bytes}
    (placed : (setup.pieces thread)[index]? = some piece) :
    ∃ codec bytes, setup.chunk thread index =
        .dataChunk setup.nodeId (setup.dataId thread) index codec bytes ∧
      decompress setup.agent.lz4 codec bytes = some piece :=
  Dispatch.chunkMessage_split setup.policy setup.agent.lz4 setup.bandwidth sendable.positive
    sendable.small (sendable.few bound) setup.nodeId placed

theorem Setup.Sendable.same (bound : thread < setup.count) {other : Nat}
    (inside : other < setup.count) (same : setup.dataId other = setup.dataId thread) :
    other = thread :=
  sendable.distinct other inside thread bound same

end

inductive Sent (setup : Setup) : Agent.Connection → Message → Prop
  | manifest (thread : Nat) (bound : thread < setup.count) :
      Sent setup .control (.dataManifest setup.nodeId (setup.manifest thread))
  | chunk (connection : Agent.Connection) (thread index : Nat) (bound : thread < setup.count)
      (inside : index < (setup.pieces thread).length) :
      Sent setup connection (setup.chunk thread index)
  | assignment (task : Task) : Sent setup .control (.taskAssignment setup.nodeId task)

theorem Sent.proper {connection : Agent.Connection} {message : Message}
    (sent : Sent setup connection message) (sendable : setup.Sendable)
    (bound : thread < setup.count) (part : Agent.about message = some (setup.dataId thread)) :
    Agent.Proper setup.agent (setup.manifest thread) (setup.pieces thread) message ∧
      (connection = .control ∨ ∃ nodeId index codec bytes,
        message = .dataChunk nodeId (setup.manifest thread).data.id index codec bytes) := by
  cases sent with
  | manifest other inside =>
      obtain rfl := sendable.same bound inside (Option.some.inj part)
      exact ⟨.manifest setup.nodeId, .inl rfl⟩
  | chunk _ other index inside placed =>
      obtain ⟨codec, bytes, made, decoded⟩ := sendable.chunk_proper inside
        (List.getElem?_eq_getElem placed)
      rw [made] at part
      obtain rfl := sendable.same bound inside (Option.some.inj part)
      rw [made]
      exact ⟨.chunk setup.nodeId index codec bytes _ decoded (List.getElem?_eq_getElem placed),
        .inr ⟨_, _, _, _, rfl⟩⟩
  | assignment task => cases part

structure Unsent (setup : Setup) (state : State) (thread : Nat) : Prop where
  queues : ∀ connection nodeId index codec bytes,
    .dataChunk nodeId (setup.dataId thread) index codec bytes ∉ state.queue connection
  duties : ∀ number bytes,
    .finish (setup.dataId thread) bytes ∉ state.agent.duties (.channel number)

def Coming (setup : Setup) (state : State) (thread : Nat) (left : List Nat) (piece : Bytes) :
    Prop :=
  ∃ index, (setup.pieces thread)[index]? = some piece ∧
    (index ∈ left ∨ ∃ connection, setup.chunk thread index ∈ state.queue connection)

def Covered (setup : Setup) (state : State) (thread : Nat) (left : List Nat) (index : Nat) : Prop :=
  ∀ piece, (setup.pieces thread)[index]? = some piece →
    state.agent.store.contains (setup.agent.digest piece) = true ∨
      Coming setup state thread left piece

/-- The manifest is on its way to the agent, or the announcement on its way back, or the agent
is at work in between. -/
def OnItsWay (setup : Setup) (state : State) (thread : Nat) : Prop :=
  .dataManifest setup.nodeId (setup.manifest thread) ∈ state.control ∨
    Agent.Underway (setup.manifest thread) (setup.pieces thread) state.heard state.agent ∨
    setup.dataId thread ∈ state.told

/-- The agent has the dataset, or will have it once it has handled the first `limit` messages
of the control connection. -/
def Due (setup : Setup) (state : State) (thread limit : Nat) : Prop :=
  state.agent.store.contains (setup.dataId thread) = true ∨
    Unsent setup state thread ∧
      ((∃ bytes, .finish (setup.dataId thread) bytes ∈ state.agent.duties .control) ∨
        .dataManifest setup.nodeId (setup.manifest thread) ∈
            state.control.take (limit - state.received) ∧
          state.agent.store.HoldsAll setup.agent.digest (setup.pieces thread))

structure Planning (setup : Setup) (state : State) (thread index : Nat) (batch : List Nat) :
    Prop where
  unsent : Unsent setup state thread
  inside : ∀ chosen ∈ batch, chosen < (setup.pieces thread).length
  covered : ∀ earlier < index, Covered setup state thread batch earlier
  onItsWay : OnItsWay setup state thread

structure Sending (setup : Setup) (state : State) (thread : Nat) (left : List Nat) : Prop where
  inside : ∀ chosen ∈ left, chosen < (setup.pieces thread).length
  covered : ∀ index, Covered setup state thread left index
  onItsWay : OnItsWay setup state thread
  waking : state.agent.assembler.pending.lookup (setup.dataId thread) = none ∨
    ∃ piece, Coming setup state thread left piece

def Stage (setup : Setup) (state : State) (thread : Nat) : Phase → Prop
  | .idle => Unsent setup state thread
  | .missing => Unsent setup state thread
  | .planning index batch =>
      index ≤ (setup.pieces thread).length ∧ Planning setup state thread index batch
  | .crediting index batch =>
      index < (setup.pieces thread).length ∧ Planning setup state thread index batch
  | .sending left => Sending setup state thread left
  | .arrived => Due setup state thread state.queued
  | .finished mark => Due setup state thread mark

def Announced (state : State) (dataId : DataId) : Prop :=
  dataId ∈ state.told ∨ dataId ∈ state.ready ∨
    (∃ connection, .announce dataId ∈ state.agent.duties connection) ∨
    ∃ nodeId, .dataReady nodeId dataId ∈ state.agent.outbound.drop state.heard

structure Shares (setup : Setup) (state : State) : Prop where
  waits : Waits setup state
  resolved : Resolved setup state
  keyed : state.agent.store.Keyed setup.agent.digest
  named : Agent.Named setup.agent state.agent
  sent : ∀ connection, ∀ message ∈ state.queue connection, Sent setup connection message
  caught : state.heard ≤ state.agent.outbound.length
  settled : ∀ thread < setup.count,
    Agent.Settled (setup.manifest thread) (setup.pieces thread) state.agent
  announced : ∀ dataId, Announced state dataId → state.agent.store.contains dataId = true
  tasks : ∀ thread < setup.count, Stage setup state thread (state.phases thread)

structure Handled (setup : Setup) (state : State) (action : Agent.Event) (after : State) :
    Prop where
  step : Agent.Step setup.agent state.agent action after.agent
  left : ∀ connection, ∀ message ∈ state.queue connection,
    message ∈ after.queue connection ∨ action = .receive connection message
  fewer : ∀ connection, ∀ message ∈ after.queue connection, message ∈ state.queue connection
  taken : ∀ connection message, action = .receive connection message →
    message ∈ state.queue connection
  control : after.control = state.control ∧ after.received = state.received ∨
    ∃ message, action = .receive .control message ∧ state.control = message :: after.control ∧
      after.received = state.received + 1
  kept : ∀ dataId, state.agent.store.contains dataId = true →
    after.agent.store.contains dataId = true
  told : after.told = state.told
  ready : after.ready = state.ready
  heard : after.heard = state.heard

section

variable {action : Agent.Event} (handled : Handled setup state action after)
  (shares : Shares setup state) (sendable : setup.Sendable) (bound : thread < setup.count)

include handled shares sendable bound

theorem Handled.only : Agent.Only (setup.manifest thread) [action] := by
  intro nodeId other listed same
  have received := handled.taken .control _ (List.mem_singleton.mp listed).symm
  generalize made : (.dataManifest nodeId other : Message) = message at received
  cases shares.sent .control message received with
  | manifest origin inside =>
      obtain ⟨-, rfl⟩ := Message.dataManifest.inj made
      rw [sendable.same bound inside same]
  | chunk _ origin index inside placed =>
      obtain ⟨codec, bytes, chunk, -⟩ := sendable.chunk_proper inside
        (List.getElem?_eq_getElem placed)
      rw [chunk] at made
      cases made
  | assignment task => cases made

theorem Handled.unsent (unsent : Unsent setup state thread) : Unsent setup after thread where
  queues connection nodeId index codec bytes listed :=
    unsent.queues connection nodeId index codec bytes (handled.fewer connection _ listed)
  duties number bytes owed := by
    cases handled.step.origin owed with
    | old owed => exact unsent.duties number bytes owed
    | finish message _ _ received part =>
        have queued := handled.taken _ message received
        obtain ⟨-, side | ⟨nodeId, index, codec, content, rfl⟩⟩ :=
          (shares.sent _ message queued).proper sendable bound part
        · cases side
        · exact unsent.queues _ nodeId index codec content queued

omit shares in
theorem Handled.covered {left : List Nat} {index : Nat}
    (covered : Covered setup state thread left index) :
    Covered setup after thread left index := by
  intro piece placed
  rcases covered piece placed with held | ⟨copy, same, inside | ⟨connection, queued⟩⟩
  · exact .inl (handled.kept _ held)
  · exact .inr ⟨copy, same, .inl inside⟩
  · rcases handled.left connection _ queued with kept | received
    · exact .inr ⟨copy, same, .inr ⟨connection, kept⟩⟩
    · left
      obtain ⟨codec, bytes, made, decoded⟩ := sendable.chunk_proper bound same
      have step := handled.step
      rw [received, made] at step
      exact Agent.proper_stored decoded step

theorem Handled.settled :
    Agent.Settled (setup.manifest thread) (setup.pieces thread) after.agent := by
  by_cases own : ∃ connection message, action = .receive connection message ∧
      Agent.about message = some (setup.dataId thread)
  · obtain ⟨connection, message, rfl, part⟩ := own
    have queued := handled.taken connection message rfl
    obtain ⟨proper, read⟩ := (shares.sent connection message queued).proper sendable bound part
    exact (Agent.Settled.proper (sendable.chunked bound) shares.keyed proper handled.step read
      (shares.settled thread bound)).1
  · refine (shares.settled thread bound).foreign handled.step ?_
    intro connection message received part
    exact own ⟨connection, message, received, part⟩

theorem Handled.waking {left : List Nat}
    (covered : ∀ index, Covered setup state thread left index)
    (waking : state.agent.assembler.pending.lookup (setup.dataId thread) = none ∨
      ∃ piece, Coming setup state thread left piece) :
    after.agent.assembler.pending.lookup (setup.dataId thread) = none ∨
      ∃ piece, Coming setup after thread left piece := by
  by_cases more : ∃ piece, Coming setup after thread left piece
  · exact .inr more
  · left
    have holds : after.agent.store.HoldsAll setup.agent.digest (setup.pieces thread) := by
      intro piece member
      obtain ⟨index, inside, rfl⟩ := List.getElem_of_mem member
      rcases handled.covered sendable bound (covered index) _
        (List.getElem?_eq_getElem inside) with held | coming
      · exact held
      · exact absurd ⟨_, coming⟩ more
    by_cases own : ∃ connection message, action = .receive connection message ∧
        Agent.about message = some (setup.dataId thread)
    · obtain ⟨connection, message, rfl, part⟩ := own
      have queued := handled.taken connection message rfl
      obtain ⟨proper, read⟩ := (shares.sent connection message queued).proper sendable bound part
      exact (Agent.Settled.proper (sendable.chunked bound) shares.keyed proper handled.step read
        (shares.settled thread bound)).2 holds
    · have foreign : ∀ connection message, action = .receive connection message →
          Agent.about message ≠ some (setup.dataId thread) := by
        intro connection message received part
        exact own ⟨connection, message, received, part⟩
      rw [handled.step.pending_other foreign]
      rcases waking with none | ⟨piece, index, placed, inside | ⟨connection, queued⟩⟩
      · exact none
      · exact absurd ⟨piece, index, placed, .inl inside⟩ more
      · rcases handled.left connection _ queued with kept | received
        · exact absurd ⟨piece, index, placed, .inr ⟨connection, kept⟩⟩ more
        · obtain ⟨codec, bytes, made, -⟩ := sendable.chunk_proper bound placed
          refine absurd ?_ (foreign connection _ received)
          rw [made]
          rfl

theorem Handled.onItsWay (onItsWay : OnItsWay setup state thread) :
    OnItsWay setup after thread := by
  rcases onItsWay with queued | underway | told
  · rcases handled.left .control _ queued with kept | received
    · exact .inl kept
    · have step := handled.step
      rw [received] at step
      rcases Agent.manifest_begins (sendable.chunked bound) shares.keyed step with
        finishing | collecting
      · exact .inr (.inl (.finishing finishing))
      · exact .inr (.inl (.collecting collecting))
  · refine .inr (.inl ?_)
    rw [handled.heard]
    exact underway.step (sendable.chunked bound) shares.keyed handled.step
      (handled.only shares sendable bound) shares.caught
  · exact .inr (.inr (by rwa [handled.told]))

theorem Handled.due {limit : Nat}
    (due : Due setup state thread limit) : Due setup after thread limit := by
  rcases due with held | ⟨unsent, ⟨bytes, owed⟩ | ⟨queued, holds⟩⟩
  · exact .inl (handled.kept _ held)
  · rcases handled.step.owed owed with kept | ⟨rest, performed⟩
    · exact .inr ⟨handled.unsent shares sendable bound unsent, .inl ⟨bytes, kept⟩⟩
    · left
      rw [performed, Agent.perform, Agent.finish_store,
        ← shares.named .control _ bytes owed]
      exact DataStore.contains_store _ _ _
  · refine .inr ⟨handled.unsent shares sendable bound unsent, ?_⟩
    have stays : after.agent.store.HoldsAll setup.agent.digest (setup.pieces thread) :=
      fun piece member => handled.kept _ (holds piece member)
    rcases handled.control with ⟨control, received⟩ | ⟨message, rfl, front, received⟩
    · rw [control, received]
      exact .inr ⟨queued, stays⟩
    · rw [front] at queued
      have later : limit - state.received ≠ 0 := by
        intro none
        rw [none] at queued
        cases queued
      obtain ⟨rest, more⟩ := Nat.exists_eq_succ_of_ne_zero later
      rw [more, List.take_succ_cons, List.mem_cons] at queued
      rcases queued with rfl | queued
      · exact .inl ⟨_, Agent.manifest_completes (sendable.chunked bound) shares.keyed holds
          handled.step⟩
      · refine .inr ⟨?_, stays⟩
        rwa [received, show limit - (state.received + 1) = rest by omega]

theorem Handled.planning {index : Nat} {batch : List Nat}
    (planning : Planning setup state thread index batch) :
    Planning setup after thread index batch where
  unsent := handled.unsent shares sendable bound planning.unsent
  inside := planning.inside
  covered earlier before := handled.covered sendable bound (planning.covered earlier before)
  onItsWay := handled.onItsWay shares sendable bound planning.onItsWay

theorem Handled.stage {phase : Phase}
    (stage : Stage setup state thread phase) : Stage setup after thread phase := by
  cases phase with
  | idle => exact handled.unsent shares sendable bound stage
  | missing => exact handled.unsent shares sendable bound stage
  | planning index batch => exact ⟨stage.1, handled.planning shares sendable bound stage.2⟩
  | crediting index batch => exact ⟨stage.1, handled.planning shares sendable bound stage.2⟩
  | sending left =>
      exact ⟨stage.inside, fun index => handled.covered sendable bound (stage.covered index),
        handled.onItsWay shares sendable bound stage.onItsWay,
        handled.waking shares sendable bound stage.covered stage.waking⟩
  | arrived =>
      have due := handled.due shares sendable bound stage
      have same : after.queued = state.queued := by
        rcases handled.control with ⟨control, received⟩ | ⟨message, -, front, received⟩
        · rw [State.queued, State.queued, control, received]
        · rw [State.queued, State.queued, front, received, List.length_cons]
          omega
      rw [Stage, same]
      exact due
  | finished mark => exact handled.due shares sendable bound stage

end

structure Extended (state : State) (added : List Message) (after : State) : Prop where
  agent : after.agent = state.agent
  received : after.received = state.received
  queue : ∀ connection, ∃ more, after.queue connection = state.queue connection ++ more ∧
    ∀ message ∈ more, message ∈ added

theorem Extended.of_same (agent : after.agent = state.agent)
    (received : after.received = state.received) (control : after.control = state.control)
    (channels : after.channels = state.channels) : Extended state [] after where
  agent := agent
  received := received
  queue connection := by
    refine ⟨[], ?_, by simp⟩
    cases connection with
    | control => simp [State.queue, control]
    | channel number => simp [State.queue, channels]

theorem Extended.of_send {message : Message} (agent : after.agent = state.agent)
    (received : after.received = state.received)
    (control : after.control = state.control ++ [message])
    (channels : after.channels = state.channels) : Extended state [message] after where
  agent := agent
  received := received
  queue connection := by
    cases connection with
    | control => exact ⟨[message], control, by simp⟩
    | channel number => exact ⟨[], by simp [State.queue, channels], by simp⟩

theorem sendBulk_queue (state : State) (message : Message) :
    (∀ connection, ∃ more, (state.sendBulk setup message).queue connection =
      state.queue connection ++ more ∧ ∀ added ∈ more, added ∈ [message]) ∧
    ∃ connection, message ∈ (state.sendBulk setup message).queue connection := by
  unfold State.sendBulk
  split
  · refine ⟨fun connection => ?_, .control, by simp [State.queue, State.send]⟩
    cases connection with
    | control => exact ⟨[message], rfl, by simp⟩
    | channel number => exact ⟨[], by simp [State.queue, State.send], by simp⟩
  · refine ⟨fun connection => ?_, .channel (state.cursor % setup.channels), by simp [State.queue]⟩
    cases connection with
    | control => exact ⟨[], by simp [State.queue], by simp⟩
    | channel number =>
        by_cases here : number = state.cursor % setup.channels
        · subst here
          exact ⟨[message], by simp [State.queue], by simp⟩
        · exact ⟨[], by simp [State.queue, Function.update_of_ne here], by simp⟩

section

variable {added : List Message} (extended : Extended state added after)

include extended

theorem Extended.mem {connection : Agent.Connection} {message : Message}
    (queued : message ∈ state.queue connection) : message ∈ after.queue connection := by
  obtain ⟨more, same, -⟩ := extended.queue connection
  rw [same]
  exact List.mem_append_left _ queued

theorem Extended.unsent (unsent : Unsent setup state thread)
    (foreign : ∀ nodeId index codec bytes,
      .dataChunk nodeId (setup.dataId thread) index codec bytes ∉ added) :
    Unsent setup after thread where
  queues connection nodeId index codec bytes queued := by
    obtain ⟨more, same, origin⟩ := extended.queue connection
    rw [same, List.mem_append] at queued
    rcases queued with old | new
    · exact unsent.queues connection nodeId index codec bytes old
    · exact foreign nodeId index codec bytes (origin _ new)
  duties := by
    rw [extended.agent]
    exact unsent.duties

theorem Extended.coming {left : List Nat} {piece : Bytes}
    (coming : Coming setup state thread left piece) : Coming setup after thread left piece := by
  obtain ⟨index, placed, inside | ⟨connection, queued⟩⟩ := coming
  · exact ⟨index, placed, .inl inside⟩
  · exact ⟨index, placed, .inr ⟨connection, extended.mem queued⟩⟩

theorem Extended.covered {left : List Nat} {index : Nat}
    (covered : Covered setup state thread left index) :
    Covered setup after thread left index := by
  intro piece placed
  rw [extended.agent]
  exact (covered piece placed).imp_right extended.coming

theorem Extended.onItsWay (onItsWay : OnItsWay setup state thread)
    (heard : after.heard = state.heard)
    (told : setup.dataId thread ∈ state.told → setup.dataId thread ∈ after.told) :
    OnItsWay setup after thread := by
  rcases onItsWay with queued | underway | announced
  · exact .inl (@Extended.mem state after added extended .control _ queued)
  · refine .inr (.inl ?_)
    rwa [heard, extended.agent]
  · exact .inr (.inr (told announced))

theorem Extended.due {limit : Nat} (due : Due setup state thread limit)
    (foreign : ∀ nodeId index codec bytes,
      .dataChunk nodeId (setup.dataId thread) index codec bytes ∉ added) {later : Nat}
    (wider : limit ≤ later) : Due setup after thread later := by
  rw [Due, extended.agent, extended.received]
  refine due.imp_right ?_
  rintro ⟨unsent, soon⟩
  refine ⟨extended.unsent unsent foreign, soon.imp_right ?_⟩
  rintro ⟨queued, holds⟩
  obtain ⟨more, same, -⟩ := extended.queue .control
  refine ⟨?_, holds⟩
  have longer : (state.control.take (limit - state.received)).IsPrefix
      (after.control.take (later - state.received)) := by
    rw [show after.control = state.control ++ more from same]
    exact (List.take_prefix_take_left (by omega)).trans
      ((List.prefix_append state.control more).take _)
  exact longer.subset queued

theorem Extended.planning {index : Nat} {batch : List Nat}
    (planning : Planning setup state thread index batch)
    (foreign : ∀ nodeId index codec bytes,
      .dataChunk nodeId (setup.dataId thread) index codec bytes ∉ added)
    (way : OnItsWay setup state thread → OnItsWay setup after thread) :
    Planning setup after thread index batch where
  unsent := extended.unsent planning.unsent foreign
  inside := planning.inside
  covered earlier before := extended.covered (planning.covered earlier before)
  onItsWay := way planning.onItsWay

theorem Extended.stage {phase : Phase} (stage : Stage setup state thread phase)
    (foreign : ∀ nodeId index codec bytes,
      .dataChunk nodeId (setup.dataId thread) index codec bytes ∉ added)
    (way : OnItsWay setup state thread → OnItsWay setup after thread) :
    Stage setup after thread phase := by
  cases phase with
  | idle => exact extended.unsent stage foreign
  | missing => exact extended.unsent stage foreign
  | planning index batch => exact ⟨stage.1, extended.planning stage.2 foreign way⟩
  | crediting index batch => exact ⟨stage.1, extended.planning stage.2 foreign way⟩
  | sending left =>
      refine ⟨stage.inside, fun index => extended.covered (stage.covered index),
        way stage.onItsWay, ?_⟩
      rw [extended.agent]
      exact stage.waking.imp_right fun ⟨piece, coming⟩ => ⟨piece, extended.coming coming⟩
  | arrived =>
      refine extended.due stage foreign ?_
      obtain ⟨more, same, -⟩ := extended.queue .control
      rw [State.queued, State.queued, extended.received,
        show after.control = state.control ++ more from same, List.length_append]
      omega
  | finished mark => exact extended.due stage foreign (Nat.le_refl mark)

end

theorem Extended.tasks {added : List Message} (extended : Extended state added after)
    (shares : Shares setup state) {phase : Phase}
    (phases : after.phases = Function.update state.phases thread phase)
    (own : Stage setup after thread phase) (heard : after.heard = state.heard)
    (told : ∀ other < setup.count, other ≠ thread →
      setup.dataId other ∈ state.told → setup.dataId other ∈ after.told)
    (foreign : ∀ other < setup.count, other ≠ thread → ∀ nodeId index codec bytes,
      .dataChunk nodeId (setup.dataId other) index codec bytes ∉ added) :
    ∀ other < setup.count, Stage setup after other (after.phases other) := by
  intro other inside
  rw [phases]
  by_cases here : other = thread
  · subst here
    rwa [Function.update_self]
  · rw [Function.update_of_ne here]
    exact extended.stage (shares.tasks other inside) (foreign other inside here) fun way =>
      extended.onItsWay way heard (told other inside here)

theorem Extended.shares {added : List Message} (extended : Extended state added after)
    (shares : Shares setup state) (waits : Waits setup after) (resolved : Resolved setup after)
    (heard : after.heard = state.heard) (told : after.told ⊆ state.told)
    (ready : after.ready ⊆ state.ready)
    (sent : ∀ connection, ∀ message ∈ after.queue connection,
      message ∈ state.queue connection ∨ Sent setup connection message)
    (tasks : ∀ other < setup.count, Stage setup after other (after.phases other)) :
    Shares setup after where
  waits := waits
  resolved := resolved
  keyed := by rw [extended.agent]; exact shares.keyed
  named := by rw [extended.agent]; exact shares.named
  sent connection message queued := by
    rcases sent connection message queued with old | new
    · exact shares.sent connection message old
    · exact new
  caught := by rw [heard, extended.agent]; exact shares.caught
  settled := by rw [extended.agent]; exact shares.settled
  announced dataId announced := by
    rw [Announced, heard, extended.agent] at announced
    rw [extended.agent]
    refine shares.announced dataId ?_
    rcases announced with heard | woken | more
    · exact .inl (told heard)
    · exact .inr (.inl (ready woken))
    · exact .inr (.inr more)
  tasks := tasks

theorem Shares.move (shares : Shares setup state) {phase : Phase} (waits : Waits setup after)
    (resolved : Resolved setup after) (agent : after.agent = state.agent)
    (received : after.received = state.received) (control : after.control = state.control)
    (channels : after.channels = state.channels) (heard : after.heard = state.heard)
    (told : after.told = state.told) (ready : after.ready ⊆ state.ready)
    (phases : after.phases = Function.update state.phases thread phase)
    (own : Stage setup state thread phase) : Shares setup after := by
  have extended := Extended.of_same agent received control channels
  have same : ∀ connection, after.queue connection = state.queue connection := by
    intro connection
    cases connection with
    | control => exact control
    | channel number => exact congrFun channels number
  refine extended.shares shares waits resolved heard (told ▸ subset_rfl) ready ?_
    (extended.tasks shares phases ?_ heard (fun _ _ _ => told ▸ id) (by simp))
  · intro connection message queued
    exact .inl (same connection ▸ queued)
  · exact extended.stage own (by simp) fun way => extended.onItsWay way heard (told ▸ id)

theorem Coming.wider {left more : List Nat} {piece : Bytes}
    (coming : Coming setup state thread left piece) (subset : left ⊆ more) :
    Coming setup state thread more piece := by
  obtain ⟨index, placed, place⟩ := coming
  exact ⟨index, placed, place.imp_left (subset ·)⟩

theorem Planning.skip {index : Nat} {batch : List Nat} {chunk : DataDescriptor}
    (planning : Planning setup state thread index batch) (sendable : setup.Sendable)
    (bound : thread < setup.count)
    (found : (setup.manifest thread).chunks[index]? = some chunk)
    (there : state.agent.store.contains chunk.id = true ∨
      ∃ other ∈ batch, (setup.manifest thread).chunks[other]? = some chunk) :
    Planning setup state thread (index + 1) batch := by
  have chunked := sendable.chunked bound
  refine ⟨planning.unsent, planning.inside, fun earlier before => ?_, planning.onItsWay⟩
  rcases Nat.lt_succ_iff_lt_or_eq.mp before with older | rfl
  · exact planning.covered earlier older
  · intro piece placed
    rw [chunked.chunk, placed, Option.map_some, Option.some.injEq] at found
    subst found
    refine there.imp_right ?_
    rintro ⟨other, chosen, same⟩
    rw [chunked.chunk, Option.map_eq_some_iff] at same
    obtain ⟨copy, stands, described⟩ := same
    have equal : copy = piece := chunked.unique piece (List.mem_of_getElem? placed) copy
      (congrArg DataDescriptor.id described)
    exact ⟨other, equal ▸ stands, .inl chosen⟩

theorem Planning.credit {index : Nat} {batch : List Nat}
    (planning : Planning setup state thread index batch)
    (inside : index < (setup.pieces thread).length) :
    Planning setup state thread (index + 1) (batch ++ [index]) := by
  refine ⟨planning.unsent, fun chosen listed => ?_, fun earlier before => ?_, planning.onItsWay⟩
  · rcases List.mem_append.mp listed with old | new
    · exact planning.inside chosen old
    · rwa [List.mem_singleton.mp new]
  · intro piece placed
    rcases Nat.lt_succ_iff_lt_or_eq.mp before with older | rfl
    · exact (planning.covered earlier older piece placed).imp_right
        (·.wider (List.subset_append_left _ _))
    · exact .inr ⟨earlier, placed, .inl (by simp)⟩

theorem Planning.nothing (planning : Planning setup state thread (setup.pieces thread).length [])
    (sendable : setup.Sendable) (shares : Shares setup state) (bound : thread < setup.count)
    (free : state.agent.assembler.pending.lookup (setup.dataId thread) = none) :
    Due setup state thread state.queued := by
  have holds : state.agent.store.HoldsAll setup.agent.digest (setup.pieces thread) := by
    intro piece member
    obtain ⟨index, inside, rfl⟩ := List.getElem_of_mem member
    have placed : (setup.pieces thread)[index]? = some (setup.pieces thread)[index] :=
      List.getElem?_eq_getElem inside
    rcases planning.covered index inside _ placed with held | ⟨copy, same, none | ⟨side, queued⟩⟩
    · exact held
    · cases none
    · obtain ⟨codec, bytes, made, -⟩ := sendable.chunk_proper bound same
      rw [made] at queued
      exact absurd queued (planning.unsent.queues _ _ _ _ _)
  have told : Announced state (setup.dataId thread) → Due setup state thread state.queued :=
    fun announced => .inl (shares.announced _ announced)
  rcases planning.onItsWay with queued | underway | heard
  · refine .inr ⟨planning.unsent, .inr ⟨?_, holds⟩⟩
    rwa [State.queued, Nat.add_sub_cancel_left, List.take_length]
  · cases underway with
    | collecting collecting =>
        obtain ⟨pending, found, -⟩ := collecting
        exact absurd (free.symm.trans found) nofun
    | finishing finishing =>
        obtain ⟨connection, owed⟩ := finishing
        cases connection with
        | control => exact .inr ⟨planning.unsent, .inl ⟨_, owed⟩⟩
        | channel number => exact absurd owed (planning.unsent.duties number _)
    | announcing connection owed => exact told (.inr (.inr (.inl ⟨connection, owed⟩)))
    | announced nodeId queued => exact told (.inr (.inr (.inr ⟨nodeId, queued⟩)))
  · exact told (.inl heard)

theorem Planning.sending {batch : List Nat}
    (planning : Planning setup state thread (setup.pieces thread).length batch)
    (some : batch ≠ []) : Sending setup state thread batch where
  inside := planning.inside
  covered index piece placed :=
    planning.covered index (List.getElem?_eq_some_iff.mp placed).1 piece placed
  onItsWay := planning.onItsWay
  waking := by
    obtain ⟨first, rest, rfl⟩ := List.exists_cons_of_ne_nil some
    have inside := planning.inside first List.mem_cons_self
    exact .inr ⟨_, first, List.getElem?_eq_getElem inside, .inl List.mem_cons_self⟩

theorem Shares.sendManifest (shares : Shares setup state) (sendable : setup.Sendable)
    (bound : thread < setup.count) (unsent : Unsent setup state thread)
    (phases : after.phases = Function.update state.phases thread (.planning 0 []))
    (waits : Waits setup after) (resolved : Resolved setup after)
    (agent : after.agent = state.agent) (received : after.received = state.received)
    (control : after.control =
      state.control ++ [.dataManifest setup.nodeId (setup.manifest thread)])
    (channels : after.channels = state.channels) (heard : after.heard = state.heard)
    (told : after.told = state.told.erase (setup.dataId thread))
    (ready : after.ready = state.ready) : Shares setup after := by
  have extended := Extended.of_send agent received control channels
  have planning : Planning setup after thread 0 [] := by
    refine ⟨extended.unsent unsent (by simp), by simp, by simp, .inl ?_⟩
    rw [control]
    exact List.mem_append_right _ List.mem_cons_self
  refine extended.shares shares waits resolved heard (told ▸ Finset.erase_subset _ _)
    (ready ▸ subset_rfl) ?_ (extended.tasks shares phases ⟨Nat.zero_le _, planning⟩ heard ?_ (by simp))
  · intro connection message queued
    cases connection with
    | control =>
        simp only [State.queue, control, List.mem_append, List.mem_singleton] at queued
        refine queued.imp_right ?_
        rintro rfl
        exact .manifest thread bound
    | channel number =>
        left
        rwa [State.queue, channels] at queued
  · intro other inside different announced
    rw [told, Finset.mem_erase]
    exact ⟨fun same => different (sendable.same bound inside same), announced⟩

theorem Shares.sendChunk (shares : Shares setup state) (sendable : setup.Sendable)
    (bound : thread < setup.count) {index : Nat} {left : List Nat}
    (sending : Sending setup state thread (index :: left))
    (waits : Waits setup ((state.sendBulk setup (setup.chunk thread index)).move thread
      (.sending left)))
    (resolved : Resolved setup ((state.sendBulk setup (setup.chunk thread index)).move thread
      (.sending left))) :
    Shares setup ((state.sendBulk setup (setup.chunk thread index)).move thread
      (.sending left)) := by
  obtain ⟨phases, -, ready, told, agent, heard, received⟩ :=
    @sendBulk_frame setup state (setup.chunk thread index)
  obtain ⟨queue, side, queued⟩ := @sendBulk_queue setup state (setup.chunk thread index)
  have inside := sending.inside index List.mem_cons_self
  have extended : Extended state [setup.chunk thread index]
      ((state.sendBulk setup (setup.chunk thread index)).move thread (.sending left)) :=
    ⟨agent, received, queue⟩
  have sent : ∀ piece, Coming setup state thread (index :: left) piece →
      Coming setup ((state.sendBulk setup (setup.chunk thread index)).move thread (.sending left))
        thread left piece := by
    rintro piece ⟨place, placed, listed | ⟨connection, old⟩⟩
    · rcases List.mem_cons.mp listed with rfl | later
      · exact ⟨place, placed, .inr ⟨side, queued⟩⟩
      · exact ⟨place, placed, .inl later⟩
    · exact ⟨place, placed, .inr ⟨connection, extended.mem old⟩⟩
  have still : Stage setup ((state.sendBulk setup (setup.chunk thread index)).move thread
      (.sending left)) thread (.sending left) := by
    refine ⟨fun chosen listed => sending.inside chosen (List.mem_cons_of_mem _ listed), ?_,
      extended.onItsWay sending.onItsWay heard (told ▸ id), ?_⟩
    · intro other piece placed
      rw [extended.agent]
      exact (sending.covered other piece placed).imp_right (sent piece)
    · rw [extended.agent]
      exact sending.waking.imp_right fun ⟨piece, coming⟩ => ⟨piece, sent piece coming⟩
  refine extended.shares shares waits resolved heard (told ▸ subset_rfl) (ready ▸ subset_rfl) ?_
    (extended.tasks shares ?_ still heard (fun _ _ _ => told ▸ id) ?_)
  · intro connection message listed
    obtain ⟨more, same, origin⟩ := extended.queue connection
    rw [same, List.mem_append] at listed
    refine listed.imp_right fun new => ?_
    rw [List.mem_singleton.mp (origin message new)]
    exact .chunk connection thread index bound inside
  · rw [State.move, phases]
  · intro other within different nodeId place codec bytes listed
    obtain ⟨ownCodec, content, made, -⟩ := sendable.chunk_proper bound
      (List.getElem?_eq_getElem inside)
    rw [made, List.mem_singleton, Message.dataChunk.injEq] at listed
    exact different (sendable.same bound within listed.2.1)

theorem Shares.assign (shares : Shares setup state) (task : Task)
    (waits : Waits setup (state.send (.taskAssignment setup.nodeId task)))
    (resolved : Resolved setup (state.send (.taskAssignment setup.nodeId task))) :
    Shares setup (state.send (.taskAssignment setup.nodeId task)) := by
  have extended : Extended state [.taskAssignment setup.nodeId task]
      (state.send (.taskAssignment setup.nodeId task)) := .of_send rfl rfl rfl rfl
  refine extended.shares shares waits resolved rfl subset_rfl subset_rfl ?_ ?_
  · intro connection message queued
    cases connection with
    | control =>
        simp only [State.queue, State.send, List.mem_append, List.mem_singleton] at queued
        refine queued.imp_right ?_
        rintro rfl
        exact .assignment task
    | channel number => exact .inl queued
  · intro other inside
    exact extended.stage (shares.tasks other inside) (by simp) fun way =>
      extended.onItsWay way rfl id

theorem Handled.shares {action : Agent.Event} (handled : Handled setup state action after)
    (shares : Shares setup state) (sendable : setup.Sendable) (waits : Waits setup after)
    (resolved : Resolved setup after) (phases : after.phases = state.phases) :
    Shares setup after where
  waits := waits
  resolved := resolved
  keyed := handled.step.keyed shares.keyed
  named := shares.named.step handled.step
  sent connection message queued := shares.sent connection message (handled.fewer _ _ queued)
  caught := by
    obtain ⟨more, outbound, -⟩ := handled.step.outbound
    rw [handled.heard, outbound, List.length_append]
    exact Nat.le_add_right_of_le shares.caught
  settled thread bound := handled.settled shares sendable bound
  announced dataId announced := by
    rcases announced with told | ready | ⟨connection, owed⟩ | ⟨nodeId, queued⟩
    · exact handled.kept _ (shares.announced dataId (.inl (handled.told ▸ told)))
    · exact handled.kept _ (shares.announced dataId (.inr (.inl (handled.ready ▸ ready))))
    · cases handled.step.origin owed with
      | old owed =>
          exact handled.kept _ (shares.announced dataId (.inr (.inr (.inl ⟨connection, owed⟩))))
      | announce _ bytes finishing stored =>
          rwa [← shares.named connection dataId bytes finishing]
    · obtain ⟨more, outbound, announces⟩ := handled.step.outbound
      rw [handled.heard, outbound, List.drop_append_of_le_length shares.caught,
        List.mem_append] at queued
      refine handled.kept _ (shares.announced dataId (.inr (.inr ?_)))
      rcases queued with old | new
      · exact .inr ⟨nodeId, old⟩
      · exact .inl (announces nodeId dataId new)
  tasks thread bound := by
    rw [phases]
    exact handled.stage shares sendable bound (shares.tasks thread bound)

theorem taken_queue (state : State) (rest : List Message) (connection other : Agent.Connection) :
    (state.taken rest connection).queue other =
      if other = connection then rest else state.queue other := by
  cases connection with
  | control => cases other <;> simp [State.taken, State.queue]
  | channel number =>
      cases other with
      | control => simp [State.taken, State.queue]
      | channel place =>
          by_cases same : place = number
          · simp [State.taken, State.queue, same]
          · simp [State.taken, State.queue, same]

theorem Handled.deliver {connection : Agent.Connection} {message : Message} {rest : List Message}
    (front : state.queue connection = message :: rest)
    (idle : state.agent.duties connection = [])
    (kept : ∀ dataId, state.agent.store.contains dataId = true →
      (Agent.receive setup.agent state.agent connection message).store.contains dataId = true) :
    Handled setup state (.receive connection message)
      { state.taken rest connection with
        agent := Agent.receive setup.agent state.agent connection message } := by
  have queue : ∀ other, State.queue { state.taken rest connection with
      agent := Agent.receive setup.agent state.agent connection message } other =
        if other = connection then rest else state.queue other := by
    intro other
    rw [← taken_queue state rest connection other]
    cases other <;> rfl
  obtain ⟨-, -, ready, told, heard⟩ := taken_frame state rest connection
  refine ⟨Agent.receive_step connection message idle, ?_, ?_, ?_, ?_, kept, told, ready, heard⟩
  · intro other listed queued
    rw [queue]
    by_cases same : other = connection
    · subst same
      rw [front, List.mem_cons] at queued
      rcases queued with rfl | later
      · exact .inr rfl
      · exact .inl (by simpa using later)
    · exact .inl (by simpa [same] using queued)
  · intro other listed queued
    rw [queue] at queued
    by_cases same : other = connection
    · subst same
      rw [front]
      exact List.mem_cons_of_mem _ (by simpa using queued)
    · simpa [same] using queued
  · intro other listed received
    obtain ⟨rfl, rfl⟩ := Agent.Event.receive.inj received
    rw [front]
    exact List.mem_cons_self
  · cases connection with
    | control => exact .inr ⟨message, rfl, front, rfl⟩
    | channel number => exact .inl ⟨rfl, rfl⟩

theorem drop_heard {message : Message}
    (unheard : state.agent.outbound[state.heard]? = some message) :
    state.agent.outbound.drop state.heard =
      message :: state.agent.outbound.drop (state.heard + 1) := by
  obtain ⟨inside, found⟩ := List.getElem?_eq_some_iff.mp unheard
  rw [List.drop_eq_getElem_cons inside, found]

theorem Announced.of_hear {message : Message} {dataId : DataId}
    (unheard : state.agent.outbound[state.heard]? = some message)
    (known : dataId ∈ (state.hear message).told ∨ dataId ∈ (state.hear message).ready) :
    Announced state dataId := by
  revert known
  rcases hear_cases state message with ⟨nodeId, said, rfl, told, -, woken, kept⟩ |
    ⟨-, told, -, ready⟩
  · have fresh : dataId = said → Announced state dataId := by
      rintro rfl
      refine .inr (.inr (.inr ⟨nodeId, ?_⟩))
      rw [drop_heard unheard]
      exact List.mem_cons_self
    by_cases waited : said ∈ state.waiters
    · rw [told, woken waited, Finset.mem_insert, Finset.mem_insert]
      rintro ((same | old) | same | old)
      · exact fresh same
      · exact .inl old
      · exact fresh same
      · exact .inr (.inl old)
    · rw [told, kept waited, Finset.mem_insert]
      rintro ((same | old) | old)
      · exact fresh same
      · exact .inl old
      · exact .inr (.inl old)
  · rw [told, ready]
    exact fun old => old.imp_right .inl

theorem OnItsWay.hear {message : Message} {thread : Nat}
    (unheard : state.agent.outbound[state.heard]? = some message)
    (way : OnItsWay setup state thread) : OnItsWay setup (state.hear message) thread := by
  obtain ⟨-, agent, control, -, -, heard⟩ := hear_frame state message
  rcases way with queued | underway | announced
  · exact .inl (control.symm ▸ queued)
  · rw [OnItsWay, agent, heard]
    cases underway with
    | collecting collecting => exact .inr (.inl (.collecting collecting))
    | finishing finishing => exact .inr (.inl (.finishing finishing))
    | announcing connection owed => exact .inr (.inl (.announcing connection owed))
    | announced nodeId queued =>
        rw [drop_heard unheard, List.mem_cons] at queued
        rcases queued with rfl | later
        · right; right
          rcases hear_cases state (.dataReady nodeId (setup.manifest thread).data.id) with
            ⟨_, _, same, told, -⟩ | ⟨other, -⟩
          · obtain ⟨-, rfl⟩ := Message.dataReady.inj same
            rw [told]
            exact Finset.mem_insert_self _ _
          · exact absurd rfl (other _ _)
        · exact .inr (.inl (.announced nodeId later))
  · right; right
    rcases hear_cases state message with ⟨_, _, -, told, -⟩ | ⟨-, told, -⟩
    · rw [told]
      exact Finset.mem_insert_of_mem announced
    · rwa [told]

theorem Shares.hear (shares : Shares setup state) {message : Message}
    (unheard : state.agent.outbound[state.heard]? = some message)
    (waits : Waits setup (state.hear message)) (resolved : Resolved setup (state.hear message)) :
    Shares setup (state.hear message) := by
  obtain ⟨phases, agent, control, channels, received, heard⟩ := hear_frame state message
  have extended := Extended.of_same agent received control channels
  refine ⟨waits, resolved, ?_, ?_, ?_, ?_, ?_, ?_, ?_⟩
  · rw [agent]; exact shares.keyed
  · rw [agent]; exact shares.named
  · intro connection listed queued
    refine shares.sent connection listed ?_
    cases connection with
    | control => rwa [State.queue, control] at queued
    | channel number => rwa [State.queue, channels] at queued
  · rw [heard, agent]
    exact (List.getElem?_eq_some_iff.mp unheard).1
  · rw [agent]; exact shares.settled
  · intro dataId announced
    rw [agent]
    refine shares.announced dataId ?_
    rcases announced with told | ready | owed | ⟨nodeId, queued⟩
    · exact .of_hear unheard (.inl told)
    · exact .of_hear unheard (.inr ready)
    · exact .inr (.inr (.inl (agent ▸ owed)))
    · refine .inr (.inr (.inr ⟨nodeId, ?_⟩))
      rw [agent, heard] at queued
      rw [drop_heard unheard]
      exact List.mem_cons_of_mem _ queued
  · intro thread bound
    rw [phases]
    exact extended.stage (shares.tasks thread bound) (by simp) (.hear unheard)

theorem borneOut_inTime (borne : borneOut setup state event = true) :
    tooLate setup state event = false := by
  cases event with
  | expectData thread =>
      cases phase : state.phases thread with
      | planning index batch =>
          cases batch with
          | nil => simp [tooLate, phase]
          | cons first rest => simpa [borneOut, tooLate, phase] using borne
      | _ => simp [tooLate, phase]
  | _ => rfl

theorem Setup.Sendable.length_chunks (sendable : setup.Sendable) (bound : thread < setup.count) :
    (setup.manifest thread).chunks.length = (setup.pieces thread).length := by
  rw [(sendable.chunked bound).chunks, List.length_map]

/-- One step, taken for good reasons and without an eviction, keeps everything in order. -/
theorem Shares.step (shares : Shares setup state) (sendable : setup.Sendable)
    (step : Step setup state event after) (borne : borneOut setup state event = true)
    (kept : ∀ dataId, state.agent.store.contains dataId = true →
      after.agent.store.contains dataId = true) : Shares setup after := by
  have waits := shares.waits.step sendable.distinct step
  have resolved := (step.resolved_iff shares.waits sendable.distinct shares.resolved).mpr
    (borneOut_inTime borne)
  have stage : ∀ {thread phase}, state.phases thread = phase → phase ≠ .idle →
      Stage setup state thread phase := by
    rintro thread _ rfl busy
    exact shares.tasks thread (shares.waits.bound busy)
  cases step with
  | credited thread atIdle bound reuse held =>
      have own : Stage setup state thread (.finished state.queued) := by
        left
        simpa [borneOut, reuse, held] using borne
      exact shares.move waits resolved rfl rfl rfl rfl rfl rfl subset_rfl rfl own
  | check thread atIdle bound =>
      have own : Stage setup state thread .missing := by
        have unsent := shares.tasks thread bound
        rwa [atIdle] at unsent
      exact shares.move waits resolved rfl rfl rfl rfl rfl rfl subset_rfl rfl own
  | sendManifest thread atMissing =>
      exact shares.sendManifest sendable (shares.waits.bound (by simp [atMissing]))
        (stage atMissing nofun) rfl waits resolved rfl rfl rfl rfl rfl rfl rfl
  | skip thread index batch chunk atPlanning found reuse held =>
      have bound := shares.waits.bound (by simp [atPlanning] : state.phases thread ≠ .idle)
      have planning := (stage atPlanning nofun).2
      have inside := (List.getElem?_eq_some_iff.mp found).1
      rw [sendable.length_chunks bound] at inside
      have own : Stage setup state thread (.planning (index + 1) batch) :=
        ⟨inside, planning.skip sendable bound found
          (by simpa [borneOut, atPlanning, found, reuse, held] using borne)⟩
      exact shares.move waits resolved rfl rfl rfl rfl rfl rfl subset_rfl rfl own
  | choose thread index batch chunk atPlanning found =>
      have bound := shares.waits.bound (by simp [atPlanning] : state.phases thread ≠ .idle)
      have inside := (List.getElem?_eq_some_iff.mp found).1
      rw [sendable.length_chunks bound] at inside
      have own : Stage setup state thread (.crediting index batch) :=
        ⟨inside, (stage atPlanning nofun).2⟩
      exact shares.move waits resolved rfl rfl rfl rfl rfl rfl subset_rfl rfl own
  | credit thread index batch chunk atCrediting =>
      obtain ⟨inside, planning⟩ := stage atCrediting nofun
      have own : Stage setup state thread (.planning (index + 1) (batch ++ [index])) :=
        ⟨inside, planning.credit inside⟩
      exact shares.move waits resolved rfl rfl rfl rfl rfl rfl subset_rfl rfl own
  | nothing thread index atPlanning all =>
      have bound := shares.waits.bound (by simp [atPlanning] : state.phases thread ≠ .idle)
      have planning := (stage atPlanning nofun).2
      rw [all, sendable.length_chunks bound] at planning
      have own : Stage setup state thread .arrived :=
        planning.nothing sendable shares bound (by simpa [borneOut, atPlanning] using borne)
      exact shares.move waits resolved rfl rfl rfl rfl rfl rfl subset_rfl rfl own
  | expectData thread index batch atPlanning all some =>
      have bound := shares.waits.bound (by simp [atPlanning] : state.phases thread ≠ .idle)
      have planning := (stage atPlanning nofun).2
      rw [all, sendable.length_chunks bound] at planning
      have own : Stage setup state thread (.sending batch) := planning.sending some
      exact shares.move waits resolved rfl rfl rfl rfl rfl rfl subset_rfl rfl own
  | sendChunk thread index left atSending =>
      exact shares.sendChunk sendable (shares.waits.bound (by simp [atSending]))
        (stage atSending nofun) waits resolved
  | await thread atSending woken =>
      have own : Stage setup state thread .arrived := .inl (shares.announced _ (.inr (.inl woken)))
      exact shares.move waits resolved rfl rfl rfl rfl rfl rfl (Finset.erase_subset _ _) rfl own
  | record thread atArrived =>
      have due : Stage setup state thread .arrived := stage atArrived nofun
      have own : Stage setup state thread (.finished state.queued) := due
      exact shares.move waits resolved rfl rfl rfl rfl rfl rfl subset_rfl rfl own
  | assign task => exact shares.assign task waits resolved
  | note descriptor =>
      have extended : Extended state []
          { state with catalog := state.catalog.record descriptor setup.nodeId } :=
        .of_same rfl rfl rfl rfl
      refine extended.shares shares waits resolved rfl subset_rfl subset_rfl ?_ ?_
      · intro connection message queued
        left
        cases connection <;> exact queued
      · intro other inside
        exact extended.stage (shares.tasks other inside) (by simp) fun way =>
          extended.onItsWay way rfl id
  | deliver connection message rest front idle =>
      obtain ⟨phases, -⟩ := taken_frame state rest connection
      exact (Handled.deliver front idle kept).shares shares sendable waits resolved phases
  | work action agent internal worked =>
      have handled : Handled setup state action { state with agent } := by
        refine ⟨Agent.next_step worked, ?_, ?_, ?_, .inl ⟨rfl, rfl⟩, kept, rfl, rfl, rfl⟩
        · intro connection message queued
          left
          cases connection <;> exact queued
        · intro connection message queued
          cases connection <;> exact queued
        · rintro connection message rfl
          cases internal
      exact handled.shares shares sendable waits resolved rfl
  | hear message unheard => exact shares.hear unheard waits resolved

theorem shares_start {catalog : DataCatalog} {agent : Agent.State}
    (keyed : agent.store.Keyed setup.agent.digest)
    (fresh : ∀ thread < setup.count,
      agent.assembler.pending.lookup (setup.dataId thread) = none)
    (idle : ∀ connection, agent.duties connection = []) :
    Shares setup (.start catalog agent) where
  waits := waits_start catalog agent
  resolved _ sends := by cases sends
  keyed := keyed
  named connection dataId bytes owed := by
    rw [State.start, idle] at owed
    cases owed
  sent connection message queued := by cases connection <;> cases queued
  caught := Nat.le_refl _
  settled thread bound := .inl (fresh thread bound)
  announced dataId announced := by
    rcases announced with told | ready | ⟨connection, owed⟩ | ⟨nodeId, queued⟩
    · cases told
    · cases ready
    · rw [State.start, idle] at owed
      cases owed
    · rw [State.start, List.drop_length] at queued
      cases queued
  tasks thread bound := by
    refine ⟨fun connection _ _ _ _ queued => ?_, fun number bytes owed => ?_⟩
    · cases connection <;> cases queued
    · rw [State.start, idle] at owed
      cases owed

end AetherMesh.Transfers
