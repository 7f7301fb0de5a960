import AetherMesh.Library.Runs
import AetherMesh.Protocol.Message
import Mathlib.Logic.Function.Basic

/-!
The agent. It reads one message after another from each of its connections; the
store and the assembler are shared. A message is handled under the assembler's lock,
and what its handler does after that may be overtaken by the other connections.
-/

namespace AetherMesh.Agent

open Runs

inductive Connection
  | control
  | channel (number : Nat)
deriving DecidableEq

inductive Duty
  | finish (dataId : DataId) (bytes : Bytes)
  | announce (dataId : DataId)
  | report (evicted : List DataId)
deriving DecidableEq

structure Setup where
  digest : Bytes → DataId
  lz4 : Lz4
  wire : Wire

/-- `outbound` is what was sent to the task that writes to the controller. Where that task has
stopped the message is lost, which the handlers do not look at. -/
structure State where
  nodeId : NodeId
  store : DataStore
  assembler : ChunkAssembler
  duties : Connection → List Duty
  running : List Task
  finished : List TaskResult
  outbound : List Message

inductive Event
  | receive (connection : Connection) (message : Message)
  | act (connection : Connection)
  | read (dataId : DataId)
  | execute (index : Nat) (outcome : Except String Bytes) (duration : Nat)
  | reply (index : Nat)

def Event.isReceive : Event → Bool
  | .receive _ _ => true
  | _ => false

namespace State

def owe (state : State) (connection : Connection) (duties : List Duty) : State :=
  { state with duties := Function.update state.duties connection duties }

def send (state : State) (message : Message) : State :=
  { state with outbound := state.outbound ++ [message] }

end State

variable (setup : Setup)

def receiveTransfer (state : State) (descriptor : DataDescriptor) (codec : Codec)
    (bytes : Bytes) : State :=
  match decompress setup.lz4 codec bytes with
  | none => state
  | some content =>
      match state.store.insertEvicting setup.digest descriptor content with
      | (store, .ok (true, evicted)) =>
          { state with store }.owe .control [.report evicted]
      | (store, .ok (false, _)) => { state with store }
      | (store, .error _) => { state with store }

/-- A dataset that has come together is stored by whoever handled its last message. -/
def collect (state : State) (connection : Connection) (dataId : DataId)
    (collected : ChunkAssembler × DataStore × Except ChunkError (Option Bytes)) : State :=
  let kept := { state with assembler := collected.1, store := collected.2.1 }
  match collected.2.2 with
  | .ok (some bytes) => kept.owe connection [.finish dataId bytes]
  | .ok none => kept
  | .error _ => kept

def receiveManifest (state : State) (manifest : ChunkManifest) : State :=
  collect state .control manifest.data.id
    (state.assembler.beginWith setup.digest manifest state.store)

def receiveChunk (state : State) (connection : Connection) (dataId : DataId) (index : Nat)
    (codec : Codec) (bytes : Bytes) : State :=
  match decompress setup.lz4 codec bytes with
  | none => state
  | some content =>
      collect state connection dataId
        (state.assembler.addStored setup.digest state.store dataId index content)

/-- A data channel carries chunks and nothing else. -/
def receive (state : State) : Connection → Message → State
  | .control, .dataTransfer _ descriptor codec bytes =>
      receiveTransfer setup state descriptor codec bytes
  | .control, .dataManifest _ manifest => receiveManifest setup state manifest
  | connection, .dataChunk _ dataId index codec bytes =>
      receiveChunk setup state connection dataId index codec bytes
  | .control, .ping nonce _ => state.send (.pong nonce)
  | .control, .taskAssignment _ task => { state with running := state.running ++ [task] }
  | _, _ => state

/-- Only the control connection keeps the list of what was evicted. -/
def finish (state : State) (connection : Connection) (dataId : DataId) (bytes : Bytes)
    (rest : List Duty) : State :=
  let stored := state.store.putEvicting setup.digest bytes
  let kept := { state with store := stored.1 }
  match connection with
  | .control => kept.owe connection (.announce dataId :: .report stored.2.2 :: rest)
  | .channel _ => kept.owe connection (.announce dataId :: rest)

def reportEvictions (state : State) (evicted : List DataId) : State :=
  if evicted = [] then state else state.send (.dataEvicted state.nodeId evicted)

def perform (state : State) (connection : Connection) (rest : List Duty) : Duty → State
  | .finish dataId bytes => finish setup state connection dataId bytes rest
  | .announce dataId => (state.owe connection rest).send (.dataReady state.nodeId dataId)
  | .report evicted => reportEvictions (state.owe connection rest) evicted

/-- What a task computes is up to the environment, except that `echo` returns its payload. -/
def Computes (task : Task) (outcome : Except String Bytes) : Prop :=
  task.kind = "echo" → outcome = .ok task.payload

instance (task : Task) (outcome : Except String Bytes) : Decidable (Computes task outcome) :=
  match outcome with
  | .ok output =>
      decidable_of_iff (task.kind = "echo" → output = task.payload) (by simp [Computes])
  | .error _ => decidable_of_iff (¬ task.kind = "echo") (by simp [Computes])

/-- The output stays on the node as well as travelling back. -/
def execute (state : State) (task : Task) (outcome : Except String Bytes) (duration : Nat) :
    State :=
  match outcome with
  | .ok output =>
      let stored := state.store.put setup.digest output
      { state with
        store := stored.1
        finished := state.finished ++
          [{ taskId := task.id
             nodeId := state.nodeId
             outcome := .success output
             duration
             outputId := some stored.2.id }] }
  | .error message =>
      { state with
        finished := state.finished ++
          [{ taskId := task.id
             nodeId := state.nodeId
             outcome := .failure message
             duration
             outputId := none }] }

def next (state : State) : Event → Option State
  | .receive connection message =>
      if state.duties connection = [] ∧ setup.wire.fits message then
        some (receive setup state connection message)
      else none
  | .act connection =>
      match state.duties connection with
      | [] => none
      | duty :: rest => some (perform setup state connection rest duty)
  | .read dataId =>
      if state.running.any fun task => dataId ∈ task.inputs ∨ task.wasmModule = some dataId then
        some { state with store := (state.store.get dataId).1 }
      else none
  | .execute index outcome duration =>
      match state.running[index]? with
      | none => none
      | some task =>
          if Computes task outcome then
            some (execute setup { state with running := state.running.eraseIdx index } task outcome
              duration)
          else none
  | .reply index =>
      match state.finished[index]? with
      | none => none
      | some result =>
          some ({ state with finished := state.finished.eraseIdx index }.send
            (.taskCompleted result))

def brings : Connection → Message → Bool
  | .control, .dataTransfer _ _ _ _ => true
  | .control, .dataManifest _ _ => true
  | _, .dataChunk _ _ _ _ _ => true
  | _, _ => false

inductive Step (state : State) : Event → State → Prop
  | ignore (connection : Connection) (message : Message)
      (plain : brings connection message = false) :
      Step state (.receive connection message) state
  | refuse (nodeId : NodeId) (descriptor : DataDescriptor) (codec : Codec) (bytes : Bytes) :
      Step state (.receive .control (.dataTransfer nodeId descriptor codec bytes)) state
  | held (nodeId : NodeId) (descriptor : DataDescriptor) (codec : Codec) (bytes : Bytes) :
      Step state (.receive .control (.dataTransfer nodeId descriptor codec bytes))
        { state with store := state.store.touch descriptor.id }
  | transfer (nodeId : NodeId) (descriptor : DataDescriptor) (codec : Codec) (bytes content : Bytes)
      (idle : state.duties .control = []) (named : setup.digest content = descriptor.id) :
      Step state (.receive .control (.dataTransfer nodeId descriptor codec bytes))
        ({ state with store := (state.store.store descriptor.id content).1 }.owe .control
          [.report (state.store.store descriptor.id content).2])
  | manifest (nodeId : NodeId) (manifest : ChunkManifest) (idle : state.duties .control = []) :
      Step state (.receive .control (.dataManifest nodeId manifest))
        (receiveManifest setup state manifest)
  | chunk (connection : Connection) (nodeId : NodeId) (dataId : DataId) (index : Nat)
      (codec : Codec) (bytes content : Bytes) (idle : state.duties connection = [])
      (decoded : decompress setup.lz4 codec bytes = some content) :
      Step state (.receive connection (.dataChunk nodeId dataId index codec bytes))
        (collect state connection dataId
          (state.assembler.addStored setup.digest state.store dataId index content))
  | garbled (connection : Connection) (nodeId : NodeId) (dataId : DataId) (index : Nat)
      (codec : Codec) (bytes : Bytes) (refused : decompress setup.lz4 codec bytes = none) :
      Step state (.receive connection (.dataChunk nodeId dataId index codec bytes)) state
  | ping (nonce : Nat) (padding : Bytes) :
      Step state (.receive .control (.ping nonce padding)) (state.send (.pong nonce))
  | assignment (nodeId : NodeId) (task : Task) :
      Step state (.receive .control (.taskAssignment nodeId task))
        { state with running := state.running ++ [task] }
  | act (connection : Connection) (duty : Duty) (rest : List Duty)
      (owed : state.duties connection = duty :: rest) :
      Step state (.act connection) (perform setup state connection rest duty)
  | read (dataId : DataId) :
      Step state (.read dataId) { state with store := state.store.touch dataId }
  | execute (index : Nat) (outcome : Except String Bytes) (duration : Nat) (task : Task)
      (found : state.running[index]? = some task) (computes : Computes task outcome) :
      Step state (.execute index outcome duration)
        (execute setup { state with running := state.running.eraseIdx index } task outcome
          duration)
  | reply (index : Nat) (result : TaskResult) (found : state.finished[index]? = some result) :
      Step state (.reply index)
        ({ state with finished := state.finished.eraseIdx index }.send (.taskCompleted result))

variable {setup} {state after : State} {event : Event}

theorem Step.manifest_eq {nodeId : NodeId} {manifest : ChunkManifest}
    (step : Step setup state (.receive .control (.dataManifest nodeId manifest)) after) :
    after = receiveManifest setup state manifest := by
  cases step with
  | ignore _ _ plain => simp [brings] at plain
  | manifest => rfl

theorem Step.chunk_eq {connection : Connection} {nodeId : NodeId} {dataId : DataId} {index : Nat}
    {codec : Codec} {bytes content : Bytes} (decoded : decompress setup.lz4 codec bytes = some content)
    (step : Step setup state (.receive connection (.dataChunk nodeId dataId index codec bytes)) after) :
    after = collect state connection dataId
      (state.assembler.addStored setup.digest state.store dataId index content) := by
  cases step with
  | ignore _ _ plain => simp [brings] at plain
  | garbled _ _ _ _ _ _ refused =>
      rw [decoded] at refused
      cases refused
  | chunk _ _ _ _ _ _ other idle same =>
      rw [decoded, Option.some.injEq] at same
      rw [same]

theorem receiveTransfer_step (nodeId : NodeId) (descriptor : DataDescriptor) (codec : Codec)
    (bytes : Bytes) (idle : state.duties .control = []) :
    Step setup state (.receive .control (.dataTransfer nodeId descriptor codec bytes))
      (receiveTransfer setup state descriptor codec bytes) := by
  unfold receiveTransfer
  split
  · exact .refuse nodeId descriptor codec bytes
  · rename_i content decoded
    unfold DataStore.insertEvicting
    dsimp only
    by_cases named : setup.digest content = descriptor.id
    · by_cases present : state.store.contains descriptor.id = true
      · simp only [DataDescriptor.of, named, ne_eq, not_true, if_false, present, if_true]
        exact .held nodeId descriptor codec bytes
      · simp only [DataDescriptor.of, named, ne_eq, not_true, if_false, present]
        exact .transfer nodeId descriptor codec bytes content idle named
    · simp only [DataDescriptor.of, ne_eq, named, not_false_eq_true, if_true]
      exact .refuse nodeId descriptor codec bytes

theorem receiveChunk_step (connection : Connection) (nodeId : NodeId) (dataId : DataId)
    (index : Nat) (codec : Codec) (bytes : Bytes) (idle : state.duties connection = []) :
    Step setup state (.receive connection (.dataChunk nodeId dataId index codec bytes))
      (receiveChunk setup state connection dataId index codec bytes) := by
  unfold receiveChunk
  split
  · rename_i refused
    exact .garbled connection nodeId dataId index codec bytes refused
  · rename_i content decoded
    exact .chunk connection nodeId dataId index codec bytes content idle decoded

theorem receive_step (connection : Connection) (message : Message)
    (idle : state.duties connection = []) :
    Step setup state (.receive connection message) (receive setup state connection message) := by
  cases connection with
  | control =>
      cases message with
      | dataTransfer nodeId descriptor codec bytes =>
          exact receiveTransfer_step nodeId descriptor codec bytes idle
      | dataManifest nodeId manifest => exact .manifest nodeId manifest idle
      | dataChunk nodeId dataId index codec bytes =>
          exact receiveChunk_step .control nodeId dataId index codec bytes idle
      | ping nonce padding => exact .ping nonce padding
      | taskAssignment nodeId task => exact .assignment nodeId task
      | _ => exact .ignore _ _ rfl
  | channel number =>
      cases message with
      | dataChunk nodeId dataId index codec bytes =>
          exact receiveChunk_step (.channel number) nodeId dataId index codec bytes idle
      | _ => exact .ignore _ _ rfl

theorem next_step (moved : next setup state event = some after) : Step setup state event after := by
  cases event with
  | receive connection message =>
      simp only [next] at moved
      split at moved
      · rename_i ready
        cases moved
        exact receive_step connection message ready.1
      · cases moved
  | act connection =>
      simp only [next] at moved
      split at moved
      · cases moved
      · rename_i duty rest owed
        cases moved
        exact .act connection duty rest owed
  | read dataId =>
      simp only [next] at moved
      split at moved
      · cases moved
        exact .read dataId
      · cases moved
  | execute index outcome duration =>
      simp only [next] at moved
      split at moved
      · cases moved
      · rename_i task found
        split at moved
        · rename_i computes
          cases moved
          exact .execute index outcome duration task found computes
        · cases moved
  | reply index =>
      simp only [next] at moved
      split at moved
      · cases moved
      · rename_i result found
        cases moved
        exact .reply index result found

end AetherMesh.Agent
