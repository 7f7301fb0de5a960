import AetherMesh.Agent.Arrival
import Mathlib.Algebra.GroupWithZero.Nat

/-!
How a dataset moves through an agent that evicts nothing. It is collected, put
together by the handler of one of its messages, stored, and announced.
-/

namespace AetherMesh.Agent

variable {setup : Setup} {manifest : ChunkManifest} {pieces : List Bytes}
  {state after : State} {event : Event} {connection : Connection} {duty : Duty}

def about : Message → Option DataId
  | .dataManifest _ manifest => some manifest.data.id
  | .dataChunk _ dataId _ _ _ => some dataId
  | _ => none

inductive Proper (setup : Setup) (manifest : ChunkManifest) (pieces : List Bytes) : Message → Prop
  | manifest (nodeId : NodeId) : Proper setup manifest pieces (.dataManifest nodeId manifest)
  | chunk (nodeId : NodeId) (index : Nat) (codec : Codec) (bytes content : Bytes)
      (decoded : decompress setup.lz4 codec bytes = some content)
      (right : pieces[index]? = some content) :
      Proper setup manifest pieces (.dataChunk nodeId manifest.data.id index codec bytes)

theorem Step.keyed (step : Step setup state event after)
    (keyed : state.store.Keyed setup.digest) : after.store.Keyed setup.digest := by
  obtain ⟨-, same | ⟨bytes, stored⟩⟩ := step.stores
  · intro dataId content held
    exact keyed dataId content (by rwa [← same])
  · intro dataId content held
    exact keyed.store bytes dataId content (by rwa [← stored])

theorem mem_owe {other : Connection} {duties : List Duty}
    (owed : duty ∈ (state.owe other duties).duties connection) :
    duty ∈ state.duties connection ∨ connection = other ∧ duty ∈ duties := by
  by_cases same : connection = other
  · subst same
    simp only [State.owe, Function.update_self] at owed
    exact .inr ⟨rfl, owed⟩
  · simp only [State.owe, Function.update_of_ne same] at owed
    exact .inl owed

theorem mem_collect {other : Connection} {dataId : DataId}
    {collected : ChunkAssembler × DataStore × Except ChunkError (Option Bytes)}
    (owed : duty ∈ (collect state other dataId collected).duties connection) :
    duty ∈ state.duties connection ∨ connection = other ∧
      ∃ bytes, collected.2.2 = .ok (some bytes) ∧ duty = .finish dataId bytes := by
  unfold collect at owed
  dsimp only at owed
  split at owed
  · rename_i bytes done
    refine (mem_owe owed).imp_right ?_
    rintro ⟨here, listed⟩
    exact ⟨here, bytes, done, List.mem_singleton.mp listed⟩
  · exact .inl owed
  · exact .inl owed

inductive Origin (setup : Setup) (state : State) (event : Event) (after : State)
    (connection : Connection) : Duty → Prop
  | old {duty : Duty} (owed : duty ∈ state.duties connection) :
      Origin setup state event after connection duty
  | report (evicted : List DataId) : Origin setup state event after connection (.report evicted)
  | finish (message : Message) (dataId : DataId) (bytes : Bytes)
      (received : event = .receive connection message) (part : about message = some dataId)
      (named : setup.digest bytes = dataId) :
      Origin setup state event after connection (.finish dataId bytes)
  | announce (dataId : DataId) (bytes : Bytes)
      (owed : .finish dataId bytes ∈ state.duties connection)
      (stored : after.store.contains (setup.digest bytes) = true) :
      Origin setup state event after connection (.announce dataId)

theorem Origin.perform {other : Connection} {done : Duty} {rest : List Duty}
    (front : state.duties other = done :: rest)
    (owed : duty ∈ (perform setup state other rest done).duties connection) :
    Origin setup state event (perform setup state other rest done) connection duty := by
  have later : connection = other ∧ duty ∈ rest → duty ∈ state.duties connection := by
    rintro ⟨rfl, listed⟩
    rw [front]
    exact List.mem_cons_of_mem done listed
  cases done with
  | announce dataId =>
      rcases mem_owe owed with kept | more
      · exact .old kept
      · exact .old (later more)
  | report evicted =>
      rw [Agent.perform, (reportEvictions_frame _ evicted).2.2] at owed
      rcases mem_owe owed with kept | more
      · exact .old kept
      · exact .old (later more)
  | finish dataId bytes =>
      have stored : (Agent.perform setup state other rest (.finish dataId bytes)).store.contains
          (setup.digest bytes) = true := by
        rw [Agent.perform, finish_store]
        exact DataStore.contains_store _ _ _
      have announces : connection = other → duty = .announce dataId →
          Origin setup state event (Agent.perform setup state other rest (.finish dataId bytes))
            connection duty := by
        rintro rfl rfl
        refine .announce dataId bytes ?_ stored
        rw [front]
        exact List.mem_cons_self
      cases other with
      | control =>
          rcases mem_owe owed with kept | ⟨here, listed⟩
          · exact .old kept
          · rcases List.mem_cons.mp listed with same | listed
            · exact announces here same
            · rcases List.mem_cons.mp listed with rfl | listed
              · exact .report _
              · exact .old (later ⟨here, listed⟩)
      | channel number =>
          rcases mem_owe owed with kept | ⟨here, listed⟩
          · exact .old kept
          · rcases List.mem_cons.mp listed with same | listed
            · exact announces here same
            · exact .old (later ⟨here, listed⟩)

theorem Step.origin (step : Step setup state event after)
    (owed : duty ∈ after.duties connection) : Origin setup state event after connection duty := by
  cases step with
  | transfer nodeId descriptor codec bytes content idle =>
      rcases mem_owe owed with kept | ⟨-, listed⟩
      · exact .old kept
      · obtain rfl := List.mem_singleton.mp listed
        exact .report _
  | manifest nodeId manifest idle =>
      rcases mem_collect owed with kept | ⟨rfl, bytes, done, rfl⟩
      · exact .old kept
      · have framed := ChunkAssembler.beginWith_framed setup.digest state.assembler manifest
          state.store
        exact .finish _ _ bytes rfl rfl (framed.named bytes done)
  | chunk other nodeId dataId index codec bytes content idle =>
      rcases mem_collect owed with kept | ⟨rfl, whole, done, rfl⟩
      · exact .old kept
      · have framed := ChunkAssembler.addStored_framed setup.digest state.assembler dataId
          state.store index content
        exact .finish _ _ whole rfl rfl (framed.named whole done)
  | act other done rest front => exact .perform front owed
  | execute index outcome =>
      cases outcome with
      | ok output => exact .old owed
      | error message => exact .old owed
  | _ => exact .old owed

def Named (setup : Setup) (state : State) : Prop :=
  ∀ connection dataId bytes, .finish dataId bytes ∈ state.duties connection →
    setup.digest bytes = dataId

theorem Named.step (named : Named setup state) (step : Step setup state event after) :
    Named setup after := by
  intro connection dataId bytes owed
  cases step.origin owed with
  | old owed => exact named connection dataId bytes owed
  | finish message dataId bytes received part same => exact same

theorem Step.outbound (step : Step setup state event after) :
    ∃ more, after.outbound = state.outbound ++ more ∧
      ∀ nodeId dataId, .dataReady nodeId dataId ∈ more →
        ∃ connection, .announce dataId ∈ state.duties connection := by
  have quiet : ∃ more, state.outbound = state.outbound ++ more ∧
      ∀ nodeId dataId, .dataReady nodeId dataId ∈ more →
        ∃ connection, .announce dataId ∈ state.duties connection :=
    ⟨[], by simp, by simp⟩
  cases step with
  | manifest nodeId manifest =>
      refine ⟨[], ?_, by simp⟩
      unfold receiveManifest collect
      dsimp only
      split <;> simp [State.owe]
  | chunk connection nodeId dataId index codec bytes content =>
      refine ⟨[], ?_, by simp⟩
      unfold collect
      dsimp only
      split <;> simp [State.owe]
  | ping nonce padding => exact ⟨[.pong nonce], rfl, by simp⟩
  | act connection duty rest front =>
      cases duty with
      | finish dataId bytes => cases connection <;> exact quiet
      | announce dataId =>
          refine ⟨[.dataReady state.nodeId dataId], rfl, fun nodeId other listed => ?_⟩
          simp only [List.mem_singleton, Message.dataReady.injEq] at listed
          refine ⟨connection, ?_⟩
          rw [listed.2, front]
          exact List.mem_cons_self
      | report evicted =>
          simp only [perform, reportEvictions]
          split
          · exact quiet
          · exact ⟨[.dataEvicted state.nodeId evicted], rfl, by simp⟩
  | execute index outcome =>
      cases outcome with
      | ok output => exact quiet
      | error message => exact quiet
  | reply index result => exact ⟨[.taskCompleted result], rfl, by simp⟩
  | _ => exact quiet

theorem Step.pending_other (step : Step setup state event after) {dataId : DataId}
    (foreign : ∀ connection message, event = .receive connection message →
      about message ≠ some dataId) :
    after.assembler.pending.lookup dataId = state.assembler.pending.lookup dataId := by
  cases step with
  | manifest nodeId manifest =>
      have different : dataId ≠ manifest.data.id := by
        rintro rfl
        exact foreign _ _ rfl rfl
      rw [receiveManifest, collect_assembler]
      exact (ChunkAssembler.beginWith_framed setup.digest state.assembler manifest
        state.store).others dataId different
  | chunk connection nodeId other index codec bytes content =>
      have different : dataId ≠ other := by
        rintro rfl
        exact foreign _ _ rfl rfl
      rw [collect_assembler]
      exact (ChunkAssembler.addStored_framed setup.digest state.assembler other state.store index
        content).others dataId different
  | act connection duty rest =>
      cases duty with
      | finish other bytes => cases connection <;> rfl
      | announce other => rfl
      | report evicted => rw [perform, (reportEvictions_frame _ evicted).2.1]; rfl
  | execute index outcome => cases outcome <;> rfl
  | _ => rfl

def Settled (manifest : ChunkManifest) (pieces : List Bytes) (state : State) : Prop :=
  state.assembler.pending.lookup manifest.data.id = none ∨
    state.assembler.Collecting manifest pieces

theorem Settled.foreign (settled : Settled manifest pieces state)
    (step : Step setup state event after)
    (foreign : ∀ connection message, event = .receive connection message →
      about message ≠ some manifest.data.id) : Settled manifest pieces after := by
  have same := step.pending_other foreign
  exact settled.imp same.trans fun collecting => collecting_of_frame collecting same

theorem addStored_unknown {digest : Bytes → DataId} {assembler : ChunkAssembler}
    {store : DataStore} {dataId : DataId} {index : Nat} {bytes : Bytes}
    (unknown : assembler.pending.lookup dataId = none) :
    (assembler.addStored digest store dataId index bytes).1 = assembler := by
  simp [ChunkAssembler.addStored, ChunkAssembler.add, unknown]

theorem advanced_settled {before : ChunkAssembler} {complete : Prop}
    {collected : ChunkAssembler × DataStore × Except ChunkError (Option Bytes)}
    (advanced : Advanced manifest pieces before collected.1 complete collected.2.2) :
    Settled manifest pieces (collect state connection manifest.data.id collected) ∧
      (complete → (collect state connection manifest.data.id collected).assembler.pending.lookup
        manifest.data.id = none) := by
  rw [Settled, collect_assembler]
  refine ⟨?_, advanced.emptied⟩
  by_cases all : complete
  · exact .inl (advanced.emptied all)
  · exact .inr (advanced.waiting all).2

theorem Settled.proper (chunked : Chunked setup.digest manifest pieces)
    (keyed : state.store.Keyed setup.digest) {message : Message}
    (proper : Proper setup manifest pieces message)
    (step : Step setup state (.receive connection message) after)
    (read : connection = .control ∨ ∃ nodeId index codec bytes,
      message = .dataChunk nodeId manifest.data.id index codec bytes)
    (settled : Settled manifest pieces state) :
    Settled manifest pieces after ∧ (after.store.HoldsAll setup.digest pieces →
      after.assembler.pending.lookup manifest.data.id = none) := by
  cases proper with
  | manifest nodeId =>
      obtain rfl : connection = .control := by simpa using read
      obtain rfl := step.manifest_eq
      obtain ⟨next, emptied⟩ := @advanced_settled manifest pieces state .control _ _ _
        (chunked.beginWith state.assembler keyed)
      refine ⟨next, fun holds => emptied fun piece member => ?_⟩
      rw [← receiveManifest_contains state manifest]
      exact holds piece member
  | chunk nodeId index codec bytes content decoded right =>
      obtain rfl := step.chunk_eq decoded
      rcases settled with unknown | collecting
      · have same : (collect state connection manifest.data.id
            (state.assembler.addStored setup.digest state.store manifest.data.id index
              content)).assembler = state.assembler := by
          rw [collect_assembler, addStored_unknown unknown]
        rw [Settled, same]
        exact ⟨.inl unknown, fun _ => unknown⟩
      · obtain ⟨complete, all, advanced⟩ := chunked.addStored collecting keyed right
        obtain ⟨next, emptied⟩ := @advanced_settled manifest pieces state connection _ _ _
          advanced
        refine ⟨next, fun holds => emptied (all fun piece member => ?_)⟩
        rw [← addStored_contains state connection manifest.data.id index content]
        exact holds piece member

theorem manifest_completes (chunked : Chunked setup.digest manifest pieces)
    (keyed : state.store.Keyed setup.digest) (holds : state.store.HoldsAll setup.digest pieces)
    {nodeId : NodeId}
    (step : Step setup state (.receive .control (.dataManifest nodeId manifest)) after) :
    .finish manifest.data.id pieces.flatten ∈ after.duties .control := by
  obtain rfl := step.manifest_eq
  exact collect_completed ((chunked.beginWith state.assembler keyed).completed holds)

theorem manifest_begins (chunked : Chunked setup.digest manifest pieces)
    (keyed : state.store.Keyed setup.digest) {nodeId : NodeId}
    (step : Step setup state (.receive .control (.dataManifest nodeId manifest)) after) :
    Finishing manifest pieces after ∨ after.assembler.Collecting manifest pieces := by
  obtain rfl := step.manifest_eq
  exact (collect_advanced (chunked.beginWith state.assembler keyed)).2

/-- The agent has handled the manifest of the dataset, and the controller has not read the
announcement yet. -/
inductive Underway (manifest : ChunkManifest) (pieces : List Bytes) (heard : Nat)
    (state : State) : Prop
  | collecting (collecting : state.assembler.Collecting manifest pieces)
  | finishing (finishing : Finishing manifest pieces state)
  | announcing (connection : Connection)
      (owed : .announce manifest.data.id ∈ state.duties connection)
  | announced (nodeId : NodeId)
      (queued : .dataReady nodeId manifest.data.id ∈ state.outbound.drop heard)

theorem mem_finish_announce (connection : Connection) (dataId : DataId) (bytes : Bytes)
    (rest : List Duty) :
    .announce dataId ∈ (finish setup state connection dataId bytes rest).duties connection := by
  cases connection <;> simp [finish, State.owe]

theorem Underway.step {heard : Nat} (underway : Underway manifest pieces heard state)
    (chunked : Chunked setup.digest manifest pieces) (keyed : state.store.Keyed setup.digest)
    (step : Step setup state event after) (only : Only manifest [event])
    (caught : heard ≤ state.outbound.length) : Underway manifest pieces heard after := by
  cases underway with
  | collecting collecting =>
      rcases collecting_step chunked collecting keyed step only with finishing | collecting
      · exact .finishing finishing
      · exact .collecting collecting
  | finishing finishing =>
      obtain ⟨connection, owed⟩ := finishing
      rcases step.owed owed with kept | ⟨rest, rfl⟩
      · exact .finishing ⟨connection, kept⟩
      · exact .announcing connection (mem_finish_announce connection _ _ rest)
  | announcing connection owed =>
      rcases step.owed owed with kept | ⟨rest, rfl⟩
      · exact .announcing connection kept
      · refine .announced state.nodeId ?_
        change _ ∈ (state.outbound ++ [_]).drop heard
        rw [List.drop_append_of_le_length caught]
        exact List.mem_append_right _ List.mem_cons_self
  | announced nodeId queued =>
      obtain ⟨more, outbound, -⟩ := step.outbound
      refine .announced nodeId ?_
      rw [outbound, List.drop_append_of_le_length caught]
      exact List.mem_append_left _ queued

def Duty.effort : Duty → Nat
  | .finish _ _ => 5
  | .announce _ => 2
  | .report _ => 2

def toil (state : State) (connection : Connection) : Nat :=
  ((state.duties connection).map Duty.effort).sum

def backlog (state : State) : Nat :=
  state.outbound.length + 2 * state.running.length + state.finished.length

def Event.handler : Event → Connection
  | .receive connection _ => connection
  | .act connection => connection
  | _ => .control

def Event.isAct : Event → Bool
  | .act _ => true
  | _ => false

theorem collect_toil (state : State) (connection : Connection) (dataId : DataId)
    (collected : ChunkAssembler × DataStore × Except ChunkError (Option Bytes)) :
    (∀ other ≠ connection,
      (collect state connection dataId collected).duties other = state.duties other) ∧
    toil (collect state connection dataId collected) connection ≤ toil state connection + 5 ∧
    backlog (collect state connection dataId collected) = backlog state := by
  unfold collect
  dsimp only
  split
  · refine ⟨fun other different => Function.update_of_ne different _ _, ?_, rfl⟩
    simp [toil, State.owe, Duty.effort]
  · exact ⟨fun _ _ => rfl, Nat.le_add_right _ _, rfl⟩
  · exact ⟨fun _ _ => rfl, Nat.le_add_right _ _, rfl⟩

theorem Step.effort (step : Step setup state event after) :
    (∀ other ≠ event.handler, after.duties other = state.duties other) ∧
    toil after event.handler + backlog after + event.isAct.toNat ≤
      toil state event.handler + backlog state + 5 * event.isReceive.toNat := by
  have same : ∀ event : Event, event.isAct = false →
      (∀ other ≠ event.handler, state.duties other = state.duties other) ∧
      toil state event.handler + backlog state + event.isAct.toNat ≤
        toil state event.handler + backlog state + 5 * event.isReceive.toNat := by
    intro event quiet
    refine ⟨fun _ _ => rfl, ?_⟩
    rw [quiet]
    exact Nat.le_add_right _ _
  cases step with
  | transfer nodeId descriptor codec bytes content idle =>
      refine ⟨fun other different => Function.update_of_ne different _ _, ?_⟩
      simp only [toil, backlog, State.owe, Function.update_self, Event.handler, Event.isAct,
        Event.isReceive, Duty.effort, List.map_cons, List.map_nil, List.sum_cons, List.sum_nil,
        Bool.toNat_true, Bool.toNat_false]
      omega
  | manifest nodeId manifest idle =>
      obtain ⟨others, more, backlog⟩ := collect_toil state .control manifest.data.id
        (state.assembler.beginWith setup.digest manifest state.store)
      refine ⟨others, ?_⟩
      simp only [Event.handler, Event.isAct, Event.isReceive, Bool.toNat_false, Bool.toNat_true,
        receiveManifest, backlog]
      omega
  | chunk connection nodeId dataId index codec bytes content idle =>
      obtain ⟨others, more, backlog⟩ := collect_toil state connection dataId
        (state.assembler.addStored setup.digest state.store dataId index content)
      refine ⟨others, ?_⟩
      simp only [Event.handler, Event.isAct, Event.isReceive, Bool.toNat_false, Bool.toNat_true,
        backlog]
      omega
  | ping nonce padding =>
      refine ⟨fun _ _ => rfl, ?_⟩
      simp only [toil, backlog, State.send, Event.isAct, Event.isReceive, List.length_append,
        List.length_singleton, Bool.toNat_true, Bool.toNat_false]
      omega
  | assignment nodeId task =>
      refine ⟨fun _ _ => rfl, ?_⟩
      simp only [toil, backlog, Event.isAct, Event.isReceive, List.length_append,
        List.length_singleton, Bool.toNat_true, Bool.toNat_false]
      omega
  | act connection duty rest front =>
      cases duty with
      | finish dataId bytes =>
          cases connection with
          | control | channel number =>
              refine ⟨fun other different => Function.update_of_ne different _ _, ?_⟩
              simp only [toil, backlog, perform, finish, State.owe, Function.update_self,
                Event.handler, Event.isAct, Event.isReceive, Duty.effort, front, List.map_cons,
                List.sum_cons, Bool.toNat_true, Bool.toNat_false]
              omega
      | announce dataId =>
          refine ⟨fun other different => Function.update_of_ne different _ _, ?_⟩
          simp only [toil, backlog, perform, State.send, State.owe, Function.update_self,
            Event.handler, Event.isAct, Event.isReceive, Duty.effort, front, List.map_cons,
            List.sum_cons, List.length_append, List.length_singleton, Bool.toNat_true,
            Bool.toNat_false]
          omega
      | report evicted =>
          refine ⟨fun other different => ?_, ?_⟩
          · rw [perform, (reportEvictions_frame _ evicted).2.2]
            exact Function.update_of_ne different _ _
          · simp only [perform, reportEvictions]
            split <;> simp only [toil, backlog, State.send, State.owe, Function.update_self,
              Event.handler, Event.isAct, Event.isReceive, Duty.effort, front, List.map_cons,
              List.sum_cons, List.length_append, List.length_singleton, Bool.toNat_true,
              Bool.toNat_false] <;> omega
  | execute index outcome duration task found =>
      have inside := (List.getElem?_eq_some_iff.mp found).1
      cases outcome with
      | ok output =>
          refine ⟨fun _ _ => rfl, ?_⟩
          simp only [toil, backlog, Agent.execute, Event.isAct, Event.isReceive,
            List.length_eraseIdx, inside, if_true, List.length_append, List.length_singleton,
            Bool.toNat_false]
          omega
      | error message =>
          refine ⟨fun _ _ => rfl, ?_⟩
          simp only [toil, backlog, Agent.execute, Event.isAct, Event.isReceive,
            List.length_eraseIdx, inside, if_true, List.length_append, List.length_singleton,
            Bool.toNat_false]
          omega
  | reply index result found =>
      have inside := (List.getElem?_eq_some_iff.mp found).1
      refine ⟨fun _ _ => rfl, ?_⟩
      simp only [toil, backlog, State.send, Event.isAct, Event.isReceive, List.length_eraseIdx,
        inside, if_true, List.length_append, List.length_singleton, Bool.toNat_false]
      omega
  | _ => exact same _ rfl

end AetherMesh.Agent
