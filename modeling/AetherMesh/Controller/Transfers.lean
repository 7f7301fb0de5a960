import AetherMesh.Agent.Client
import AetherMesh.Controller.ChunkBatch
import Mathlib.Data.Finset.Basic

/-!
Several chunked datasets on their way to one node. Each dataset has a task of the
controller that is inside `ensure_inputs` for it; these tasks share the catalog and
the node's connections. No connection fails and the agent evicts nothing. The queues
between the parties deliver in order, and any party may be slow.
-/

namespace AetherMesh.Transfers

/-- `data` gives the dataset of each of the `count` tasks, and the agent has opened `channels`
data connections. -/
structure Setup where
  agent : Agent.Setup
  policy : CompressionPolicy
  bandwidth : Option Nat
  nodeId : NodeId
  reuseData : Bool
  chunkSize : Nat
  channels : Nat
  count : Nat
  data : Nat → Bytes

namespace Setup

def manifest (setup : Setup) (thread : Nat) : ChunkManifest :=
  ChunkManifest.split setup.agent.digest (setup.data thread) setup.chunkSize

def dataId (setup : Setup) (thread : Nat) : DataId := (setup.manifest thread).data.id

def chunk (setup : Setup) (thread index : Nat) : Message :=
  Dispatch.chunkMessage setup.policy setup.agent.lz4 setup.bandwidth setup.nodeId
    (setup.manifest thread) (setup.data thread) index

end Setup

/-- Where a task is in `ensure_inputs`. A finished one remembers how many messages had been
queued on the control connection when it returned. -/
inductive Phase
  | idle
  | missing
  | planning (index : Nat) (batch : List Nat)
  | crediting (index : Nat) (batch : List Nat)
  | sending (left : List Nat)
  | arrived
  | finished (mark : Nat)
deriving DecidableEq

/-- `told` are the datasets whose `DataReady` has reached the server since their manifest was
sent, and `ready` the waiters it has resolved. -/
structure State where
  catalog : DataCatalog
  phases : Nat → Phase
  waiters : Finset DataId
  ready : Finset DataId
  told : Finset DataId
  cursor : Nat
  control : List Message
  received : Nat
  channels : Nat → List Message
  agent : Agent.State
  heard : Nat

inductive Event
  | check (thread : Nat)
  | sendManifest (thread : Nat)
  | look (thread : Nat)
  | credit (thread : Nat)
  | expectData (thread : Nat)
  | sendChunk (thread : Nat)
  | await (thread : Nat)
  | record (thread : Nat)
  | assign (task : Task)
  | note (descriptor : DataDescriptor)
  | deliver (connection : Agent.Connection)
  | work (event : Agent.Event)
  | hear

variable (setup : Setup)

namespace State

def start (catalog : DataCatalog) (agent : Agent.State) : State where
  catalog
  phases := fun _ => .idle
  waiters := ∅
  ready := ∅
  told := ∅
  cursor := 0
  control := []
  received := 0
  channels := fun _ => []
  agent
  heard := agent.outbound.length

def move (state : State) (thread : Nat) (phase : Phase) : State :=
  { state with phases := Function.update state.phases thread phase }

def send (state : State) (message : Message) : State :=
  { state with control := state.control ++ [message] }

def sendBulk (state : State) (message : Message) : State :=
  if setup.channels = 0 then state.send message
  else
    { state with
      cursor := state.cursor + 1
      channels := Function.update state.channels (state.cursor % setup.channels)
        (state.channels (state.cursor % setup.channels) ++ [message]) }

def queue (state : State) : Agent.Connection → List Message
  | .control => state.control
  | .channel number => state.channels number

def taken (state : State) (rest : List Message) : Agent.Connection → State
  | .control => { state with control := rest, received := state.received + 1 }
  | .channel number => { state with channels := Function.update state.channels number rest }

def queued (state : State) : Nat := state.received + state.control.length

def completeData (state : State) (dataId : DataId) : State :=
  if dataId ∈ state.waiters then
    { state with waiters := state.waiters.erase dataId, ready := insert dataId state.ready }
  else state

def hear (state : State) : Message → State
  | .dataReady _ dataId =>
      { state with heard := state.heard + 1, told := insert dataId state.told }.completeData dataId
  | _ => { state with heard := state.heard + 1 }

end State

def next (state : State) : Event → Option State
  | .check thread =>
      if state.phases thread = .idle ∧ thread < setup.count then
        if setup.reuseData ∧ state.catalog.holds (setup.dataId thread) setup.nodeId then
          some (state.move thread (.finished state.queued))
        else some (state.move thread .missing)
      else none
  | .sendManifest thread =>
      match state.phases thread with
      | .missing =>
          some ({ state with told := state.told.erase (setup.dataId thread) }.send
            (.dataManifest setup.nodeId (setup.manifest thread)) |>.move thread (.planning 0 []))
      | _ => none
  | .look thread =>
      match state.phases thread with
      | .planning index batch =>
          match (setup.manifest thread).chunks[index]? with
          | some chunk =>
              if setup.reuseData ∧ state.catalog.holds chunk.id setup.nodeId then
                some (state.move thread (.planning (index + 1) batch))
              else some (state.move thread (.crediting index batch))
          | none => none
      | _ => none
  | .credit thread =>
      match state.phases thread with
      | .crediting index batch =>
          match (setup.manifest thread).chunks[index]? with
          | some chunk =>
              some ({ state with catalog := state.catalog.record chunk setup.nodeId }.move thread
                (.planning (index + 1) (batch ++ [index])))
          | none => none
      | _ => none
  | .expectData thread =>
      match state.phases thread with
      | .planning index batch =>
          if index = (setup.manifest thread).chunks.length then
            if batch = [] then some (state.move thread .arrived)
            else
              some ({ state with waiters := insert (setup.dataId thread) state.waiters }.move thread
                (.sending batch))
          else none
      | _ => none
  | .sendChunk thread =>
      match state.phases thread with
      | .sending (index :: left) =>
          some ((state.sendBulk setup (setup.chunk thread index)).move thread (.sending left))
      | _ => none
  | .await thread =>
      match state.phases thread with
      | .sending [] =>
          if setup.dataId thread ∈ state.ready then
            some ({ state with ready := state.ready.erase (setup.dataId thread) }.move thread
              .arrived)
          else none
      | _ => none
  | .record thread =>
      match state.phases thread with
      | .arrived =>
          some ({ state with
            catalog := state.catalog.record
              ⟨setup.dataId thread, (setup.data thread).length⟩ setup.nodeId }.move thread
            (.finished state.queued))
      | _ => none
  | .assign task => some (state.send (.taskAssignment setup.nodeId task))
  | .note descriptor =>
      some { state with catalog := state.catalog.record descriptor setup.nodeId }
  | .deliver connection =>
      match state.queue connection with
      | [] => none
      | message :: rest =>
          if state.agent.duties connection = [] then
            some { state.taken rest connection with
              agent := Agent.receive setup.agent state.agent connection message }
          else none
  | .work event =>
      if event.isReceive then none
      else (Agent.next setup.agent state.agent event).map fun agent => { state with agent }
  | .hear =>
      match state.agent.outbound[state.heard]? with
      | none => none
      | some message => some (state.hear message)

inductive Step (state : State) : Event → State → Prop
  | credited (thread : Nat) (atIdle : state.phases thread = .idle) (bound : thread < setup.count)
      (reuse : setup.reuseData = true)
      (held : state.catalog.holds (setup.dataId thread) setup.nodeId = true) :
      Step state (.check thread) (state.move thread (.finished state.queued))
  | check (thread : Nat) (atIdle : state.phases thread = .idle) (bound : thread < setup.count) :
      Step state (.check thread) (state.move thread .missing)
  | sendManifest (thread : Nat) (atMissing : state.phases thread = .missing) :
      Step state (.sendManifest thread)
        (({ state with told := state.told.erase (setup.dataId thread) }.send
          (.dataManifest setup.nodeId (setup.manifest thread))).move thread (.planning 0 []))
  | skip (thread index : Nat) (batch : List Nat) (chunk : DataDescriptor)
      (atPlanning : state.phases thread = .planning index batch)
      (found : (setup.manifest thread).chunks[index]? = some chunk)
      (reuse : setup.reuseData = true)
      (held : state.catalog.holds chunk.id setup.nodeId = true) :
      Step state (.look thread) (state.move thread (.planning (index + 1) batch))
  | choose (thread index : Nat) (batch : List Nat) (chunk : DataDescriptor)
      (atPlanning : state.phases thread = .planning index batch)
      (found : (setup.manifest thread).chunks[index]? = some chunk) :
      Step state (.look thread) (state.move thread (.crediting index batch))
  | credit (thread index : Nat) (batch : List Nat) (chunk : DataDescriptor)
      (atCrediting : state.phases thread = .crediting index batch)
      (found : (setup.manifest thread).chunks[index]? = some chunk) :
      Step state (.credit thread)
        ({ state with catalog := state.catalog.record chunk setup.nodeId }.move thread
          (.planning (index + 1) (batch ++ [index])))
  | nothing (thread index : Nat) (atPlanning : state.phases thread = .planning index [])
      (all : index = (setup.manifest thread).chunks.length) :
      Step state (.expectData thread) (state.move thread .arrived)
  | expectData (thread index : Nat) (batch : List Nat)
      (atPlanning : state.phases thread = .planning index batch)
      (all : index = (setup.manifest thread).chunks.length) (some : batch ≠ []) :
      Step state (.expectData thread)
        ({ state with waiters := insert (setup.dataId thread) state.waiters }.move thread
          (.sending batch))
  | sendChunk (thread index : Nat) (left : List Nat)
      (atSending : state.phases thread = .sending (index :: left)) :
      Step state (.sendChunk thread)
        ((state.sendBulk setup (setup.chunk thread index)).move thread (.sending left))
  | await (thread : Nat) (atSending : state.phases thread = .sending [])
      (resolved : setup.dataId thread ∈ state.ready) :
      Step state (.await thread)
        ({ state with ready := state.ready.erase (setup.dataId thread) }.move thread .arrived)
  | record (thread : Nat) (atArrived : state.phases thread = .arrived) :
      Step state (.record thread)
        ({ state with
          catalog := state.catalog.record
            ⟨setup.dataId thread, (setup.data thread).length⟩ setup.nodeId }.move thread
          (.finished state.queued))
  | assign (task : Task) :
      Step state (.assign task) (state.send (.taskAssignment setup.nodeId task))
  | note (descriptor : DataDescriptor) :
      Step state (.note descriptor)
        { state with catalog := state.catalog.record descriptor setup.nodeId }
  | deliver (connection : Agent.Connection) (message : Message) (rest : List Message)
      (front : state.queue connection = message :: rest)
      (idle : state.agent.duties connection = []) :
      Step state (.deliver connection)
        { state.taken rest connection with
          agent := Agent.receive setup.agent state.agent connection message }
  | work (event : Agent.Event) (agent : Agent.State) (internal : event.isReceive = false)
      (worked : Agent.next setup.agent state.agent event = some agent) :
      Step state (.work event) { state with agent }
  | hear (message : Message) (unheard : state.agent.outbound[state.heard]? = some message) :
      Step state .hear (state.hear message)

variable {setup} {state after : State} {event : Event}

section

variable (state : State) (thread other : Nat) (phase : Phase)

@[simp]
theorem State.move_self : (state.move thread phase).phases thread = phase :=
  Function.update_self _ _ _

theorem State.move_other (different : other ≠ thread) :
    (state.move thread phase).phases other = state.phases other :=
  Function.update_of_ne different _ _

@[simp]
theorem State.move_waiters : (state.move thread phase).waiters = state.waiters := rfl

@[simp]
theorem State.move_ready : (state.move thread phase).ready = state.ready := rfl

@[simp]
theorem State.move_told : (state.move thread phase).told = state.told := rfl

@[simp]
theorem State.move_agent : (state.move thread phase).agent = state.agent := rfl

end

theorem next_step (moved : next setup state event = some after) : Step setup state event after := by
  cases event with
  | check thread =>
      simp only [next] at moved
      split at moved
      · rename_i ready
        split at moved
        · rename_i held
          cases moved
          exact .credited thread ready.1 ready.2 held.1 held.2
        · cases moved
          exact .check thread ready.1 ready.2
      · cases moved
  | sendManifest thread =>
      simp only [next] at moved
      split at moved
      · rename_i atMissing
        cases moved
        exact .sendManifest thread atMissing
      · cases moved
  | look thread =>
      simp only [next] at moved
      split at moved
      · rename_i index batch atPlanning
        split at moved
        · rename_i chunk found
          split at moved
          · rename_i held
            cases moved
            exact .skip thread index batch chunk atPlanning found held.1 held.2
          · cases moved
            exact .choose thread index batch chunk atPlanning found
        · cases moved
      · cases moved
  | credit thread =>
      simp only [next] at moved
      split at moved
      · rename_i index batch atCrediting
        split at moved
        · rename_i chunk found
          cases moved
          exact .credit thread index batch chunk atCrediting found
        · cases moved
      · cases moved
  | expectData thread =>
      simp only [next] at moved
      split at moved
      · rename_i index batch atPlanning
        split at moved
        · rename_i all
          split at moved
          · rename_i none
            subst none
            cases moved
            exact .nothing thread index atPlanning all
          · rename_i some
            cases moved
            exact .expectData thread index batch atPlanning all some
        · cases moved
      · cases moved
  | sendChunk thread =>
      simp only [next] at moved
      split at moved
      · rename_i index left atSending
        cases moved
        exact .sendChunk thread index left atSending
      · cases moved
  | await thread =>
      simp only [next] at moved
      split at moved
      · rename_i atSending
        split at moved
        · rename_i resolved
          cases moved
          exact .await thread atSending resolved
        · cases moved
      · cases moved
  | record thread =>
      simp only [next] at moved
      split at moved
      · rename_i atArrived
        cases moved
        exact .record thread atArrived
      · cases moved
  | assign task =>
      cases moved
      exact .assign task
  | note descriptor =>
      cases moved
      exact .note descriptor
  | deliver connection =>
      simp only [next] at moved
      split at moved
      · cases moved
      · rename_i message rest front
        split at moved
        · rename_i idle
          cases moved
          exact .deliver connection message rest front idle
        · cases moved
  | work event =>
      simp only [next] at moved
      split at moved
      · cases moved
      · rename_i internal
        obtain ⟨agent, worked, rfl⟩ := Option.map_eq_some_iff.mp moved
        exact .work event agent (Bool.eq_false_of_not_eq_true internal) worked
  | hear =>
      simp only [next] at moved
      split at moved
      · cases moved
      · rename_i message unheard
        cases moved
        exact .hear message unheard

end AetherMesh.Transfers
