import AetherMesh.Controller.Dispatch
import AetherMesh.Library.Runs

/-!
Any number of submissions at the same time, and the connections of the agents. The
submissions share the catalog, the counts of work in flight, the locks of their
transfers and the waiters for answers; every access to one of these is a step of its
own. A submission may be dropped wherever it waits. What arrives from the agents, and
when they come and go, is up to the environment.
-/

namespace AetherMesh.Submissions

structure Setup where
  count : Nat
  task : Nat → Task
  manifests : DataId → Option ChunkManifest
  reuseData : Bool
  maxAttempts : Nat
  digest : Bytes → DataId

structure Place where
  attempt : Nat
  unusable : List NodeId
  nodeId : NodeId
deriving DecidableEq

/-- Where the transfer of one input is. The mutex is held from `checking` to `unlocking`. -/
inductive Stage
  | locking
  | checking
  | sending
  | planning (chunk : Nat) (batch : List Nat)
  | crediting (chunk : Nat) (batch : List Nat)
  | sendingChunks (left : List Nat)
  | forgetting (error : DispatchError)
  | recording
  | unlocking (outcome : Except DispatchError Unit)
  | releasing
  | dropping (outcome : Except DispatchError Unit)
deriving DecidableEq

inductive Call
  | expecting
  | assigning
  | awaiting
  | forgetting (error : DispatchError)
deriving DecidableEq

/-- Where a submission is. A dropped one remembers the node it was counted on. -/
inductive Phase
  | idle
  | selecting (attempt : Nat) (unusable : List NodeId)
  | beginning (place : Place)
  | input (place : Place) (index : Nat)
  | transfer (place : Place) (index lock : Nat) (stage : Stage)
  | dispatch (place : Place) (call : Call)
  | finishing (place : Place) (outcome : Except DispatchError TaskResult)
  | returned (result : TaskResult)
  | retrying (place : Place)
  | sleeping (attempt : Nat) (unusable : List NodeId)
  | done (outcome : Except DispatchError TaskResult)
  | dropped (counted : Option NodeId)
deriving DecidableEq

/-- `transfers` is the map of locks, a lock being known by a number; `strong` are the reference
counts and `owners` says who holds the mutex. `attaching` and `forgetting` count the handlers
that are half done with a registration or with the end of a connection. `sent` and `landed`
count the transfers that were begun and recorded. -/
structure State where
  phases : Nat → Phase
  catalog : DataCatalog
  store : DataId → Option Bytes
  connected : Finset NodeId
  attaching : NodeId → Nat
  forgetting : NodeId → Nat
  inFlight : NodeId → Nat
  transfers : NodeId × DataId → Option Nat
  strong : Nat → Nat
  owners : Nat → Option Nat
  fresh : Nat
  pending : TaskId → Option Nat
  pendingData : NodeId × DataId → Option Nat
  mailbox : Nat → Option TaskResult
  arrived : Nat → Bool
  sent : NodeId × DataId → Nat
  landed : NodeId × DataId → Nat

inductive Event
  | start (thread : Nat)
  | select (thread : Nat) (node : Option NodeId)
  | begin (thread : Nat)
  | lookup (thread : Nat)
  | acquire (thread : Nat)
  | check (thread : Nat)
  | send (thread : Nat) (refused : Option String)
  | look (thread : Nat)
  | credit (thread : Nat)
  | expectData (thread : Nat)
  | sendChunk (thread : Nat) (refused : Option String)
  | awaitData (thread : Nat)
  | dataClosed (thread : Nat)
  | dataTimeout (thread : Nat) (reason : String)
  | forgetData (thread : Nat)
  | record (thread : Nat)
  | unlock (thread : Nat)
  | release (thread : Nat)
  | drop (thread : Nat)
  | expectResult (thread : Nat)
  | assign (thread : Nat) (refused : Option String)
  | receive (thread : Nat)
  | resultClosed (thread : Nat)
  | resultTimeout (thread : Nat)
  | forget (thread : Nat)
  | finish (thread : Nat)
  | recordOutput (thread : Nat)
  | retry (thread : Nat)
  | wake (thread : Nat)
  | cancel (thread : Nat)
  | register (nodeId : NodeId)
  | attach (nodeId : NodeId)
  | detach (nodeId : NodeId)
  | forgetNode (nodeId : NodeId)
  | held (nodeId : NodeId) (descriptor : DataDescriptor)
  | evicted (nodeId : NodeId) (dataId : DataId)
  | ready (nodeId : NodeId) (dataId : DataId)
  | complete (result : TaskResult)

namespace State

def start (catalog : DataCatalog) (store : DataId → Option Bytes) (connected : Finset NodeId) :
    State where
  phases := fun _ => .idle
  catalog
  store
  connected
  attaching := fun _ => 0
  forgetting := fun _ => 0
  inFlight := fun _ => 0
  transfers := fun _ => none
  strong := fun _ => 0
  owners := fun _ => none
  fresh := 0
  pending := fun _ => none
  pendingData := fun _ => none
  mailbox := fun _ => none
  arrived := fun _ => false
  sent := fun _ => 0
  landed := fun _ => 0

def move (state : State) (thread : Nat) (phase : Phase) : State :=
  { state with phases := Function.update state.phases thread phase }

def beginOn (state : State) (nodeId : NodeId) : State :=
  { state with inFlight := Function.update state.inFlight nodeId (state.inFlight nodeId + 1) }

def finishedOn (state : State) (nodeId : NodeId) : State :=
  { state with inFlight := Function.update state.inFlight nodeId (state.inFlight nodeId - 1) }

def transferLock (state : State) (key : NodeId × DataId) : State × Nat :=
  match state.transfers key with
  | some lock =>
      ({ state with strong := Function.update state.strong lock (state.strong lock + 1) }, lock)
  | none =>
      ({ state with
         transfers := Function.update state.transfers key (some state.fresh)
         strong := Function.update state.strong state.fresh 2
         owners := Function.update state.owners state.fresh none
         fresh := state.fresh + 1 }, state.fresh)

def dropLock (state : State) (lock : Nat) : State :=
  { state with strong := Function.update state.strong lock (state.strong lock - 1) }

def removeTransfer (state : State) (key : NodeId × DataId) : State :=
  match state.transfers key with
  | some lock => { state.dropLock lock with transfers := Function.update state.transfers key none }
  | none => state

def releaseTransfer (state : State) (key : NodeId × DataId) (lock : Nat) : State :=
  if state.strong lock ≤ 2 then state.removeTransfer key else state

def unlock (state : State) (lock : Nat) : State :=
  { state with owners := Function.update state.owners lock none }

def credit (state : State) (descriptor : DataDescriptor) (nodeId : NodeId) : State :=
  { state with catalog := state.catalog.record descriptor nodeId }

def forgetCredits (state : State) (nodeId : NodeId) : State :=
  { state with catalog := state.catalog.forgetNode nodeId }

def recordOutput (digest : Bytes → DataId) (state : State) (result : TaskResult) : State :=
  match result.outputId, result.output with
  | some outputId, some output =>
      if digest output = outputId then
        { state with
          store :=
            if (state.store outputId).isSome then state.store
            else Function.update state.store outputId (some output)
          catalog := state.catalog.record ⟨outputId, output.length⟩ result.nodeId }
      else state
  | _, _ => state

end State

namespace Setup

variable (setup : Setup)

def taskId (thread : Nat) : TaskId := (setup.task thread).id

def inputAt (thread index : Nat) : Option DataId := (setup.task thread).inputs[index]?

def chunks (dataId : DataId) : List DataDescriptor :=
  match setup.manifests dataId with
  | some manifest => manifest.chunks
  | none => []

/-- The id under which a chunked transfer waits for its announcement. -/
def announcedId (dataId : DataId) : DataId :=
  match setup.manifests dataId with
  | some manifest => manifest.data.id
  | none => dataId

end Setup

variable (setup : Setup)

def closedBeforeData : String := "connection closed before the data was assembled"

def closedBeforeResult : String := "connection closed before the result arrived"

def next (state : State) : Event → Option State
  | .start thread =>
      if state.phases thread = .idle ∧ thread < setup.count then
        some (state.move thread (.selecting 1 []))
      else none
  | .select thread node =>
      match state.phases thread, node with
      | .selecting attempt unusable, some nodeId =>
          if attempt ≤ setup.maxAttempts ∧ nodeId ∉ unusable ∧ nodeId ∈ state.connected then
            some (state.move thread (.beginning ⟨attempt, unusable, nodeId⟩))
          else none
      | .selecting _ _, none =>
          some (state.move thread (.done (.error (.noNodeAvailable (setup.taskId thread)))))
      | _, _ => none
  | .begin thread =>
      match state.phases thread with
      | .beginning place => some ((state.beginOn place.nodeId).move thread (.input place 0))
      | _ => none
  | .lookup thread =>
      match state.phases thread with
      | .input place index =>
          match setup.inputAt thread index with
          | some dataId =>
              let found := state.transferLock (place.nodeId, dataId)
              some (found.1.move thread (.transfer place index found.2 .locking))
          | none => some (state.move thread (.dispatch place .expecting))
      | _ => none
  | .acquire thread =>
      match state.phases thread with
      | .transfer place index lock .locking =>
          if state.owners lock = none then
            some ({ state with owners := Function.update state.owners lock (some thread) }.move
              thread (.transfer place index lock .checking))
          else none
      | _ => none
  | .check thread =>
      match state.phases thread with
      | .transfer place index lock .checking =>
          match setup.inputAt thread index with
          | some dataId =>
              if setup.reuseData ∧ state.catalog.holds dataId place.nodeId then
                some (state.move thread (.transfer place index lock (.unlocking (.ok ()))))
              else if state.store dataId = none then
                some (state.move thread
                  (.transfer place index lock (.unlocking (.error (.unknownInput dataId)))))
              else some (state.move thread (.transfer place index lock .sending))
          | none => none
      | _ => none
  | .send thread refused =>
      match state.phases thread, refused with
      | .transfer place index lock .sending, some reason =>
          some (state.move thread
            (.transfer place index lock (.unlocking (.error (.unreachable place.nodeId reason)))))
      | .transfer place index lock .sending, none =>
          match setup.inputAt thread index with
          | some dataId =>
              if place.nodeId ∈ state.connected then
                some ({ state with
                  sent := Function.update state.sent (place.nodeId, dataId)
                    (state.sent (place.nodeId, dataId) + 1) }.move thread
                  (.transfer place index lock
                    (if (setup.manifests dataId).isSome then .planning 0 [] else .recording)))
              else none
          | none => none
      | _, _ => none
  | .look thread =>
      match state.phases thread with
      | .transfer place index lock (.planning chunk batch) =>
          match setup.inputAt thread index with
          | some dataId =>
              match (setup.chunks dataId)[chunk]? with
              | some descriptor =>
                  if setup.reuseData ∧ state.catalog.holds descriptor.id place.nodeId then
                    some (state.move thread (.transfer place index lock (.planning (chunk + 1) batch)))
                  else some (state.move thread (.transfer place index lock (.crediting chunk batch)))
              | none => none
          | none => none
      | _ => none
  | .credit thread =>
      match state.phases thread with
      | .transfer place index lock (.crediting chunk batch) =>
          match setup.inputAt thread index with
          | some dataId =>
              match (setup.chunks dataId)[chunk]? with
              | some descriptor =>
                  some ((state.credit descriptor place.nodeId).move thread
                    (.transfer place index lock (.planning (chunk + 1) (batch ++ [chunk]))))
              | none => none
          | none => none
      | _ => none
  | .expectData thread =>
      match state.phases thread with
      | .transfer place index lock (.planning chunk batch) =>
          match setup.inputAt thread index with
          | some dataId =>
              if chunk = (setup.chunks dataId).length then
                if batch = [] then some (state.move thread (.transfer place index lock .recording))
                else
                  some ({ state with
                    pendingData := Function.update state.pendingData
                      (place.nodeId, setup.announcedId dataId) (some thread)
                    arrived := Function.update state.arrived thread false }.move thread
                    (.transfer place index lock (.sendingChunks batch)))
              else none
          | none => none
      | _ => none
  | .sendChunk thread refused =>
      match state.phases thread, refused with
      | .transfer place index lock (.sendingChunks (_ :: left)), none =>
          some (state.move thread (.transfer place index lock (.sendingChunks left)))
      | .transfer place index lock (.sendingChunks (_ :: _)), some reason =>
          some (state.move thread
            (.transfer place index lock (.forgetting (.unreachable place.nodeId reason))))
      | _, _ => none
  | .awaitData thread =>
      match state.phases thread with
      | .transfer place index lock (.sendingChunks []) =>
          if state.arrived thread then
            some (state.move thread (.transfer place index lock .recording))
          else none
      | _ => none
  | .dataClosed thread =>
      match state.phases thread with
      | .transfer place index lock (.sendingChunks []) =>
          match setup.inputAt thread index with
          | some dataId =>
              if state.arrived thread = false ∧
                  state.pendingData (place.nodeId, setup.announcedId dataId) ≠ some thread then
                some (state.move thread (.transfer place index lock
                  (.unlocking (.error (.unreachable place.nodeId closedBeforeData)))))
              else none
          | none => none
      | _ => none
  | .dataTimeout thread reason =>
      match state.phases thread with
      | .transfer place index lock (.sendingChunks []) =>
          if state.arrived thread = false then
            some (state.move thread
              (.transfer place index lock (.forgetting (.unreachable place.nodeId reason))))
          else none
      | _ => none
  | .forgetData thread =>
      match state.phases thread with
      | .transfer place index lock (.forgetting error) =>
          match setup.inputAt thread index with
          | some dataId =>
              some ({ state with
                pendingData := Function.update state.pendingData
                  (place.nodeId, setup.announcedId dataId) none }.move thread
                (.transfer place index lock (.unlocking (.error error))))
          | none => none
      | _ => none
  | .record thread =>
      match state.phases thread with
      | .transfer place index lock .recording =>
          match setup.inputAt thread index with
          | some dataId =>
              some ({ state.credit ⟨dataId, ((state.store dataId).getD []).length⟩ place.nodeId with
                landed := Function.update state.landed (place.nodeId, dataId)
                  (state.landed (place.nodeId, dataId) + 1) }.move thread
                (.transfer place index lock (.unlocking (.ok ()))))
          | none => none
      | _ => none
  | .unlock thread =>
      match state.phases thread with
      | .transfer place index lock (.unlocking (.ok ())) =>
          some ((state.unlock lock).move thread (.transfer place index lock .releasing))
      | .transfer place index lock (.unlocking (.error error)) =>
          some ((state.unlock lock).move thread (.transfer place index lock (.dropping (.error error))))
      | _ => none
  | .release thread =>
      match state.phases thread with
      | .transfer place index lock .releasing =>
          match setup.inputAt thread index with
          | some dataId =>
              some ((state.releaseTransfer (place.nodeId, dataId) lock).move thread
                (.transfer place index lock (.dropping (.ok ()))))
          | none => none
      | _ => none
  | .drop thread =>
      match state.phases thread with
      | .transfer place index lock (.dropping (.ok ())) =>
          some ((state.dropLock lock).move thread (.input place (index + 1)))
      | .transfer place _ lock (.dropping (.error error)) =>
          some ((state.dropLock lock).move thread (.finishing place (.error error)))
      | _ => none
  | .expectResult thread =>
      match state.phases thread with
      | .dispatch place .expecting =>
          some ({ state with
            pending := Function.update state.pending (setup.taskId thread) (some thread)
            mailbox := Function.update state.mailbox thread none }.move thread
            (.dispatch place .assigning))
      | _ => none
  | .assign thread refused =>
      match state.phases thread, refused with
      | .dispatch place .assigning, none =>
          if place.nodeId ∈ state.connected then
            some (state.move thread (.dispatch place .awaiting))
          else none
      | .dispatch place .assigning, some reason =>
          some (state.move thread
            (.dispatch place (.forgetting (.unreachable place.nodeId reason))))
      | _, _ => none
  | .receive thread =>
      match state.phases thread, state.mailbox thread with
      | .dispatch place .awaiting, some result =>
          some (state.move thread (.finishing place (.ok result)))
      | _, _ => none
  | .resultClosed thread =>
      match state.phases thread with
      | .dispatch place .awaiting =>
          if state.mailbox thread = none ∧ state.pending (setup.taskId thread) ≠ some thread then
            some (state.move thread
              (.finishing place (.error (.unreachable place.nodeId closedBeforeResult))))
          else none
      | _ => none
  | .resultTimeout thread =>
      match state.phases thread with
      | .dispatch place .awaiting =>
          if state.mailbox thread = none then
            some (state.move thread
              (.dispatch place (.forgetting (.timeout place.nodeId (setup.taskId thread)))))
          else none
      | _ => none
  | .forget thread =>
      match state.phases thread with
      | .dispatch place (.forgetting error) =>
          some ({ state with
            pending := Function.update state.pending (setup.taskId thread) none }.move thread
            (.finishing place (.error error)))
      | _ => none
  | .finish thread =>
      match state.phases thread with
      | .finishing place (.ok result) =>
          some ((state.finishedOn place.nodeId).move thread (.returned result))
      | .finishing place (.error error) =>
          some ((state.finishedOn place.nodeId).move thread
            (if place.attempt < setup.maxAttempts ∧ isRetryable error then .retrying place
              else .done (.error error)))
      | _ => none
  | .recordOutput thread =>
      match state.phases thread with
      | .returned result =>
          some ((state.recordOutput setup.digest result).move thread (.done (.ok result)))
      | _ => none
  | .retry thread =>
      match state.phases thread with
      | .retrying place =>
          some ((state.forgetCredits place.nodeId).move thread
            (.sleeping (place.attempt + 1) (place.nodeId :: place.unusable)))
      | _ => none
  | .wake thread =>
      match state.phases thread with
      | .sleeping attempt unusable => some (state.move thread (.selecting attempt unusable))
      | _ => none
  | .cancel thread =>
      match state.phases thread with
      | .transfer place _ lock .locking =>
          some ((state.dropLock lock).move thread (.dropped (some place.nodeId)))
      | .transfer place _ lock (.sendingChunks []) =>
          some (((state.unlock lock).dropLock lock).move thread (.dropped (some place.nodeId)))
      | .dispatch place .awaiting => some (state.move thread (.dropped (some place.nodeId)))
      | .sleeping _ _ => some (state.move thread (.dropped none))
      | _ => none
  | .register nodeId =>
      some { state.forgetCredits nodeId with
        attaching := Function.update state.attaching nodeId (state.attaching nodeId + 1) }
  | .attach nodeId =>
      if state.attaching nodeId = 0 then none
      else
        some { state with
          attaching := Function.update state.attaching nodeId (state.attaching nodeId - 1)
          connected := insert nodeId state.connected }
  | .detach nodeId =>
      some { state with
        connected := state.connected.erase nodeId
        forgetting := Function.update state.forgetting nodeId (state.forgetting nodeId + 1) }
  | .forgetNode nodeId =>
      if state.forgetting nodeId = 0 then none
      else
        some { state.forgetCredits nodeId with
          forgetting := Function.update state.forgetting nodeId (state.forgetting nodeId - 1) }
  | .held nodeId descriptor => some (state.credit descriptor nodeId)
  | .evicted nodeId dataId =>
      some { state with catalog := state.catalog.remove dataId nodeId }
  | .ready nodeId dataId =>
      match state.pendingData (nodeId, dataId) with
      | some thread =>
          some { state with
            pendingData := Function.update state.pendingData (nodeId, dataId) none
            arrived := Function.update state.arrived thread true }
      | none => some state
  | .complete result =>
      match state.pending result.taskId with
      | some thread =>
          some { state with
            pending := Function.update state.pending result.taskId none
            mailbox := Function.update state.mailbox thread (some result) }
      | none => some state

inductive Goes (state : State) (thread : Nat) : Event → Phase → Prop
  | start (atIdle : state.phases thread = .idle) (bound : thread < setup.count) :
      Goes state thread (.start thread) (.selecting 1 [])
  | select (attempt : Nat) (unusable : List NodeId) (nodeId : NodeId)
      (here : state.phases thread = .selecting attempt unusable)
      (usable : nodeId ∉ unusable) (connected : nodeId ∈ state.connected)
      (within : attempt ≤ setup.maxAttempts) :
      Goes state thread (.select thread (some nodeId)) (.beginning ⟨attempt, unusable, nodeId⟩)
  | noNode (attempt : Nat) (unusable : List NodeId)
      (here : state.phases thread = .selecting attempt unusable) :
      Goes state thread (.select thread none)
        (.done (.error (.noNodeAvailable (setup.taskId thread))))
  | noInput (place : Place) (index : Nat) (here : state.phases thread = .input place index)
      (last : setup.inputAt thread index = none) :
      Goes state thread (.lookup thread) (.dispatch place .expecting)
  | skip (place : Place) (index lock : Nat) (dataId : DataId)
      (here : state.phases thread = .transfer place index lock .checking)
      (input : setup.inputAt thread index = some dataId) (reuse : setup.reuseData = true)
      (held : state.catalog.holds dataId place.nodeId = true) :
      Goes state thread (.check thread) (.transfer place index lock (.unlocking (.ok ())))
  | unknown (place : Place) (index lock : Nat) (dataId : DataId)
      (here : state.phases thread = .transfer place index lock .checking)
      (input : setup.inputAt thread index = some dataId)
      (absent : ¬ (setup.reuseData = true ∧ state.catalog.holds dataId place.nodeId = true))
      (unstored : state.store dataId = none) :
      Goes state thread (.check thread)
        (.transfer place index lock (.unlocking (.error (.unknownInput dataId))))
  | missing (place : Place) (index lock : Nat) (dataId : DataId)
      (here : state.phases thread = .transfer place index lock .checking)
      (input : setup.inputAt thread index = some dataId)
      (absent : ¬ (setup.reuseData = true ∧ state.catalog.holds dataId place.nodeId = true)) :
      Goes state thread (.check thread) (.transfer place index lock .sending)
  | refused (place : Place) (index lock : Nat) (reason : String)
      (here : state.phases thread = .transfer place index lock .sending) :
      Goes state thread (.send thread (some reason))
        (.transfer place index lock (.unlocking (.error (.unreachable place.nodeId reason))))
  | leave (place : Place) (index lock chunk : Nat) (batch : List Nat)
      (here : state.phases thread = .transfer place index lock (.planning chunk batch)) :
      Goes state thread (.look thread) (.transfer place index lock (.planning (chunk + 1) batch))
  | choose (place : Place) (index lock chunk : Nat) (batch : List Nat)
      (here : state.phases thread = .transfer place index lock (.planning chunk batch)) :
      Goes state thread (.look thread) (.transfer place index lock (.crediting chunk batch))
  | nothing (place : Place) (index lock chunk : Nat)
      (here : state.phases thread = .transfer place index lock (.planning chunk [])) :
      Goes state thread (.expectData thread) (.transfer place index lock .recording)
  | sendChunk (place : Place) (index lock chunk : Nat) (left : List Nat)
      (here : state.phases thread = .transfer place index lock (.sendingChunks (chunk :: left))) :
      Goes state thread (.sendChunk thread none)
        (.transfer place index lock (.sendingChunks left))
  | chunkRefused (place : Place) (index lock chunk : Nat) (left : List Nat) (reason : String)
      (here : state.phases thread = .transfer place index lock (.sendingChunks (chunk :: left))) :
      Goes state thread (.sendChunk thread (some reason))
        (.transfer place index lock (.forgetting (.unreachable place.nodeId reason)))
  | awaitData (place : Place) (index lock : Nat)
      (here : state.phases thread = .transfer place index lock (.sendingChunks []))
      (arrived : state.arrived thread = true) :
      Goes state thread (.awaitData thread) (.transfer place index lock .recording)
  | dataClosed (place : Place) (index lock : Nat) (dataId : DataId)
      (here : state.phases thread = .transfer place index lock (.sendingChunks []))
      (input : setup.inputAt thread index = some dataId)
      (gone : state.pendingData (place.nodeId, setup.announcedId dataId) ≠ some thread) :
      Goes state thread (.dataClosed thread)
        (.transfer place index lock
          (.unlocking (.error (.unreachable place.nodeId closedBeforeData))))
  | dataTimeout (place : Place) (index lock : Nat) (reason : String)
      (here : state.phases thread = .transfer place index lock (.sendingChunks [])) :
      Goes state thread (.dataTimeout thread reason)
        (.transfer place index lock (.forgetting (.unreachable place.nodeId reason)))
  | assign (place : Place) (here : state.phases thread = .dispatch place .assigning)
      (connected : place.nodeId ∈ state.connected) :
      Goes state thread (.assign thread none) (.dispatch place .awaiting)
  | notAssigned (place : Place) (reason : String)
      (here : state.phases thread = .dispatch place .assigning) :
      Goes state thread (.assign thread (some reason))
        (.dispatch place (.forgetting (.unreachable place.nodeId reason)))
  | receive (place : Place) (result : TaskResult)
      (here : state.phases thread = .dispatch place .awaiting)
      (answered : state.mailbox thread = some result) :
      Goes state thread (.receive thread) (.finishing place (.ok result))
  | resultClosed (place : Place) (here : state.phases thread = .dispatch place .awaiting)
      (gone : state.pending (setup.taskId thread) ≠ some thread) :
      Goes state thread (.resultClosed thread)
        (.finishing place (.error (.unreachable place.nodeId closedBeforeResult)))
  | resultTimeout (place : Place) (here : state.phases thread = .dispatch place .awaiting) :
      Goes state thread (.resultTimeout thread)
        (.dispatch place (.forgetting (.timeout place.nodeId (setup.taskId thread))))
  | wake (attempt : Nat) (unusable : List NodeId)
      (here : state.phases thread = .sleeping attempt unusable) :
      Goes state thread (.wake thread) (.selecting attempt unusable)
  | dropAwaiting (place : Place) (here : state.phases thread = .dispatch place .awaiting) :
      Goes state thread (.cancel thread) (.dropped (some place.nodeId))
  | dropSleeping (attempt : Nat) (unusable : List NodeId)
      (here : state.phases thread = .sleeping attempt unusable) :
      Goes state thread (.cancel thread) (.dropped none)

inductive Step (state : State) : Event → State → Prop
  | go (thread : Nat) (event : Event) (phase : Phase) (goes : Goes setup state thread event phase) :
      Step state event (state.move thread phase)
  | begin (thread : Nat) (place : Place) (here : state.phases thread = .beginning place) :
      Step state (.begin thread) ((state.beginOn place.nodeId).move thread (.input place 0))
  | lookup (thread : Nat) (place : Place) (index : Nat) (dataId : DataId)
      (here : state.phases thread = .input place index)
      (input : setup.inputAt thread index = some dataId) :
      Step state (.lookup thread)
        ((state.transferLock (place.nodeId, dataId)).1.move thread
          (.transfer place index (state.transferLock (place.nodeId, dataId)).2 .locking))
  | acquire (thread : Nat) (place : Place) (index lock : Nat)
      (here : state.phases thread = .transfer place index lock .locking)
      (free : state.owners lock = none) :
      Step state (.acquire thread)
        ({ state with owners := Function.update state.owners lock (some thread) }.move thread
          (.transfer place index lock .checking))
  | send (thread : Nat) (place : Place) (index lock : Nat) (dataId : DataId) (stage : Stage)
      (here : state.phases thread = .transfer place index lock .sending)
      (input : setup.inputAt thread index = some dataId)
      (connected : place.nodeId ∈ state.connected)
      (later : stage = .planning 0 [] ∨ stage = .recording) :
      Step state (.send thread none)
        ({ state with
          sent := Function.update state.sent (place.nodeId, dataId)
            (state.sent (place.nodeId, dataId) + 1) }.move thread
          (.transfer place index lock stage))
  | credit (thread : Nat) (place : Place) (index lock chunk : Nat) (batch : List Nat)
      (descriptor : DataDescriptor)
      (here : state.phases thread = .transfer place index lock (.crediting chunk batch)) :
      Step state (.credit thread)
        ((state.credit descriptor place.nodeId).move thread
          (.transfer place index lock (.planning (chunk + 1) (batch ++ [chunk]))))
  | expectData (thread : Nat) (place : Place) (index lock chunk : Nat) (batch : List Nat)
      (dataId : DataId)
      (here : state.phases thread = .transfer place index lock (.planning chunk batch))
      (input : setup.inputAt thread index = some dataId) :
      Step state (.expectData thread)
        ({ state with
          pendingData := Function.update state.pendingData
            (place.nodeId, setup.announcedId dataId) (some thread)
          arrived := Function.update state.arrived thread false }.move thread
          (.transfer place index lock (.sendingChunks batch)))
  | forgetData (thread : Nat) (place : Place) (index lock : Nat) (dataId : DataId)
      (error : DispatchError)
      (here : state.phases thread = .transfer place index lock (.forgetting error))
      (input : setup.inputAt thread index = some dataId) :
      Step state (.forgetData thread)
        ({ state with
          pendingData := Function.update state.pendingData
            (place.nodeId, setup.announcedId dataId) none }.move thread
          (.transfer place index lock (.unlocking (.error error))))
  | record (thread : Nat) (place : Place) (index lock : Nat) (dataId : DataId) (size : Nat)
      (here : state.phases thread = .transfer place index lock .recording)
      (input : setup.inputAt thread index = some dataId) :
      Step state (.record thread)
        ({ state.credit ⟨dataId, size⟩ place.nodeId with
          landed := Function.update state.landed (place.nodeId, dataId)
            (state.landed (place.nodeId, dataId) + 1) }.move thread
          (.transfer place index lock (.unlocking (.ok ()))))
  | unlock (thread : Nat) (place : Place) (index lock : Nat) (outcome : Except DispatchError Unit)
      (stage : Stage)
      (here : state.phases thread = .transfer place index lock (.unlocking outcome))
      (later : outcome = .ok () ∧ stage = .releasing ∨
        ∃ error, outcome = .error error ∧ stage = .dropping (.error error)) :
      Step state (.unlock thread)
        ((state.unlock lock).move thread (.transfer place index lock stage))
  | release (thread : Nat) (place : Place) (index lock : Nat) (dataId : DataId)
      (here : state.phases thread = .transfer place index lock .releasing)
      (input : setup.inputAt thread index = some dataId) :
      Step state (.release thread)
        ((state.releaseTransfer (place.nodeId, dataId) lock).move thread
          (.transfer place index lock (.dropping (.ok ()))))
  | drop (thread : Nat) (place : Place) (index lock : Nat) (outcome : Except DispatchError Unit)
      (phase : Phase)
      (here : state.phases thread = .transfer place index lock (.dropping outcome))
      (later : outcome = .ok () ∧ phase = .input place (index + 1) ∨
        ∃ error, outcome = .error error ∧ phase = .finishing place (.error error)) :
      Step state (.drop thread) ((state.dropLock lock).move thread phase)
  | expectResult (thread : Nat) (place : Place)
      (here : state.phases thread = .dispatch place .expecting) :
      Step state (.expectResult thread)
        ({ state with
          pending := Function.update state.pending (setup.taskId thread) (some thread)
          mailbox := Function.update state.mailbox thread none }.move thread
          (.dispatch place .assigning))
  | forget (thread : Nat) (place : Place) (error : DispatchError)
      (here : state.phases thread = .dispatch place (.forgetting error)) :
      Step state (.forget thread)
        ({ state with
          pending := Function.update state.pending (setup.taskId thread) none }.move thread
          (.finishing place (.error error)))
  | finish (thread : Nat) (place : Place) (outcome : Except DispatchError TaskResult)
      (phase : Phase) (here : state.phases thread = .finishing place outcome)
      (later : (∃ result, outcome = .ok result ∧ phase = .returned result) ∨
        ∃ error, outcome = .error error ∧
          (isRetryable error = true ∧ phase = .retrying place ∨ phase = .done (.error error))) :
      Step state (.finish thread) ((state.finishedOn place.nodeId).move thread phase)
  | recordOutput (thread : Nat) (result : TaskResult)
      (here : state.phases thread = .returned result) :
      Step state (.recordOutput thread)
        ((state.recordOutput setup.digest result).move thread (.done (.ok result)))
  | retry (thread : Nat) (place : Place) (here : state.phases thread = .retrying place) :
      Step state (.retry thread)
        ((state.forgetCredits place.nodeId).move thread
          (.sleeping (place.attempt + 1) (place.nodeId :: place.unusable)))
  | dropLocking (thread : Nat) (place : Place) (index lock : Nat)
      (here : state.phases thread = .transfer place index lock .locking) :
      Step state (.cancel thread)
        ((state.dropLock lock).move thread (.dropped (some place.nodeId)))
  | dropSending (thread : Nat) (place : Place) (index lock : Nat)
      (here : state.phases thread = .transfer place index lock (.sendingChunks [])) :
      Step state (.cancel thread)
        (((state.unlock lock).dropLock lock).move thread (.dropped (some place.nodeId)))
  | register (nodeId : NodeId) :
      Step state (.register nodeId)
        { state.forgetCredits nodeId with
          attaching := Function.update state.attaching nodeId (state.attaching nodeId + 1) }
  | attach (nodeId : NodeId) :
      Step state (.attach nodeId)
        { state with
          attaching := Function.update state.attaching nodeId (state.attaching nodeId - 1)
          connected := insert nodeId state.connected }
  | detach (nodeId : NodeId) :
      Step state (.detach nodeId)
        { state with
          connected := state.connected.erase nodeId
          forgetting := Function.update state.forgetting nodeId (state.forgetting nodeId + 1) }
  | forgetNode (nodeId : NodeId) :
      Step state (.forgetNode nodeId)
        { state.forgetCredits nodeId with
          forgetting := Function.update state.forgetting nodeId (state.forgetting nodeId - 1) }
  | held (nodeId : NodeId) (descriptor : DataDescriptor) :
      Step state (.held nodeId descriptor) (state.credit descriptor nodeId)
  | evicted (nodeId : NodeId) (dataId : DataId) :
      Step state (.evicted nodeId dataId)
        { state with catalog := state.catalog.remove dataId nodeId }
  | ready (nodeId : NodeId) (dataId : DataId) (thread : Nat)
      (waited : state.pendingData (nodeId, dataId) = some thread) :
      Step state (.ready nodeId dataId)
        { state with
          pendingData := Function.update state.pendingData (nodeId, dataId) none
          arrived := Function.update state.arrived thread true }
  | complete (result : TaskResult) (thread : Nat)
      (waited : state.pending result.taskId = some thread) :
      Step state (.complete result)
        { state with
          pending := Function.update state.pending result.taskId none
          mailbox := Function.update state.mailbox thread (some result) }
  | unheard (nodeId : NodeId) (dataId : DataId) : Step state (.ready nodeId dataId) state
  | unexpected (result : TaskResult) : Step state (.complete result) state

variable {setup} {state after : State} {event : Event}

theorem transferLock_frame (key : NodeId × DataId) :
    ∃ transfers strong owners fresh, (state.transferLock key).1 =
      { state with transfers := transfers, strong := strong, owners := owners, fresh := fresh } := by
  unfold State.transferLock
  split
  · exact ⟨state.transfers, _, state.owners, state.fresh, rfl⟩
  · exact ⟨_, _, _, _, rfl⟩

theorem releaseTransfer_frame (key : NodeId × DataId) (lock : Nat) :
    ∃ transfers strong, state.releaseTransfer key lock =
      { state with transfers := transfers, strong := strong } := by
  unfold State.releaseTransfer State.removeTransfer
  split
  · split
    · exact ⟨_, _, rfl⟩
    · exact ⟨state.transfers, state.strong, rfl⟩
  · exact ⟨state.transfers, state.strong, rfl⟩

theorem recordOutput_frame (result : TaskResult) :
    ∃ catalog store, state.recordOutput setup.digest result =
      { state with catalog := catalog, store := store } := by
  unfold State.recordOutput
  split
  · split
    · exact ⟨_, _, rfl⟩
    · exact ⟨state.catalog, state.store, rfl⟩
  · exact ⟨state.catalog, state.store, rfl⟩

@[simp] theorem transferLock_phases (key : NodeId × DataId) :
    (state.transferLock key).1.phases = state.phases := by
  obtain ⟨_, _, _, _, frame⟩ := @transferLock_frame state key
  rw [frame]

@[simp] theorem releaseTransfer_phases (key : NodeId × DataId) (lock : Nat) :
    (state.releaseTransfer key lock).phases = state.phases := by
  obtain ⟨_, _, frame⟩ := @releaseTransfer_frame state key lock
  rw [frame]

@[simp] theorem recordOutput_phases (result : TaskResult) :
    (state.recordOutput setup.digest result).phases = state.phases := by
  obtain ⟨_, _, frame⟩ := @recordOutput_frame setup state result
  rw [frame]

variable {thread : Nat}

theorem select_step {node : Option NodeId}
    (moved : next setup state (.select thread node) = some after) :
    Step setup state (.select thread node) after := by
  dsimp only [next] at moved
  split at moved
  · rename_i attempt unusable nodeId here
    split at moved
    · rename_i ready
      cases moved
      exact .go thread _ _ (.select attempt unusable nodeId here ready.2.1 ready.2.2 ready.1)
    · cases moved
  · rename_i attempt unusable here
    cases moved
    exact .go thread _ _ (.noNode attempt unusable here)
  · cases moved

theorem check_step (moved : next setup state (.check thread) = some after) :
    Step setup state (.check thread) after := by
  dsimp only [next] at moved
  split at moved
  · rename_i place index lock here
    split at moved
    · rename_i dataId input
      split at moved
      · rename_i held
        cases moved
        exact .go thread _ _ (.skip place index lock dataId here input held.1 held.2)
      · rename_i absent
        split at moved
        · rename_i unstored
          cases moved
          exact .go thread _ _ (.unknown place index lock dataId here input absent unstored)
        · cases moved
          exact .go thread _ _ (.missing place index lock dataId here input absent)
    · cases moved
  · cases moved

theorem send_step {refused : Option String}
    (moved : next setup state (.send thread refused) = some after) :
    Step setup state (.send thread refused) after := by
  dsimp only [next] at moved
  split at moved
  · rename_i place index lock reason here
    cases moved
    exact .go thread _ _ (.refused place index lock reason here)
  · rename_i place index lock here
    split at moved
    · rename_i dataId input
      split at moved
      · rename_i connected
        cases moved
        refine .send thread place index lock dataId _ here input connected ?_
        split
        · exact .inl rfl
        · exact .inr rfl
      · cases moved
    · cases moved
  · cases moved

theorem look_step (moved : next setup state (.look thread) = some after) :
    Step setup state (.look thread) after := by
  dsimp only [next] at moved
  split at moved
  · rename_i place index lock chunk batch here
    split at moved
    · split at moved
      · split at moved
        · cases moved
          exact .go thread _ _ (.leave place index lock chunk batch here)
        · cases moved
          exact .go thread _ _ (.choose place index lock chunk batch here)
      · cases moved
    · cases moved
  · cases moved

theorem expectData_step (moved : next setup state (.expectData thread) = some after) :
    Step setup state (.expectData thread) after := by
  dsimp only [next] at moved
  split at moved
  · rename_i place index lock chunk batch here
    split at moved
    · rename_i dataId input
      split at moved
      · split at moved
        · rename_i none
          subst none
          cases moved
          exact .go thread _ _ (.nothing place index lock chunk here)
        · cases moved
          exact .expectData thread place index lock chunk batch dataId here input
      · cases moved
    · cases moved
  · cases moved

theorem sendChunk_step {refused : Option String}
    (moved : next setup state (.sendChunk thread refused) = some after) :
    Step setup state (.sendChunk thread refused) after := by
  dsimp only [next] at moved
  split at moved
  · rename_i place index lock chunk left here
    cases moved
    exact .go thread _ _ (.sendChunk place index lock chunk left here)
  · rename_i place index lock chunk left reason here
    cases moved
    exact .go thread _ _ (.chunkRefused place index lock chunk left reason here)
  · cases moved

theorem unlock_step (moved : next setup state (.unlock thread) = some after) :
    Step setup state (.unlock thread) after := by
  dsimp only [next] at moved
  split at moved
  · rename_i place index lock here
    cases moved
    exact .unlock thread place index lock _ _ here (.inl ⟨rfl, rfl⟩)
  · rename_i place index lock error here
    cases moved
    exact .unlock thread place index lock _ _ here (.inr ⟨error, rfl, rfl⟩)
  · cases moved

theorem drop_step (moved : next setup state (.drop thread) = some after) :
    Step setup state (.drop thread) after := by
  dsimp only [next] at moved
  split at moved
  · rename_i place index lock here
    cases moved
    exact .drop thread place index lock _ _ here (.inl ⟨rfl, rfl⟩)
  · rename_i place index lock error here
    cases moved
    exact .drop thread place index lock _ _ here (.inr ⟨error, rfl, rfl⟩)
  · cases moved

theorem assign_step {refused : Option String}
    (moved : next setup state (.assign thread refused) = some after) :
    Step setup state (.assign thread refused) after := by
  dsimp only [next] at moved
  split at moved
  · rename_i place here
    split at moved
    · rename_i connected
      cases moved
      exact .go thread _ _ (.assign place here connected)
    · cases moved
  · rename_i place reason here
    cases moved
    exact .go thread _ _ (.notAssigned place reason here)
  · cases moved

theorem finish_step (moved : next setup state (.finish thread) = some after) :
    Step setup state (.finish thread) after := by
  dsimp only [next] at moved
  split at moved
  · rename_i place result here
    cases moved
    exact .finish thread place _ _ here (.inl ⟨result, rfl, rfl⟩)
  · rename_i place error here
    cases moved
    refine .finish thread place _ _ here (.inr ⟨error, rfl, ?_⟩)
    split
    · rename_i again
      exact .inl ⟨again.2, rfl⟩
    · exact .inr rfl
  · cases moved

theorem cancel_step (moved : next setup state (.cancel thread) = some after) :
    Step setup state (.cancel thread) after := by
  dsimp only [next] at moved
  split at moved
  · rename_i place index lock here
    cases moved
    exact .dropLocking thread place index lock here
  · rename_i place index lock here
    cases moved
    exact .dropSending thread place index lock here
  · rename_i place here
    cases moved
    exact .go thread _ _ (.dropAwaiting place here)
  · rename_i attempt unusable here
    cases moved
    exact .go thread _ _ (.dropSleeping attempt unusable here)
  · cases moved

theorem next_step (moved : next setup state event = some after) : Step setup state event after := by
  cases event with
  | start thread =>
      simp only [next] at moved
      split at moved
      · rename_i ready
        cases moved
        exact .go thread _ _ (.start ready.1 ready.2)
      · cases moved
  | select thread node => exact select_step moved
  | begin thread =>
      simp only [next] at moved
      split at moved
      · rename_i place here
        cases moved
        exact .begin thread place here
      · cases moved
  | lookup thread =>
      simp only [next] at moved
      split at moved
      · rename_i place index here
        split at moved
        · rename_i dataId input
          cases moved
          exact .lookup thread place index dataId here input
        · rename_i last
          cases moved
          exact .go thread _ _ (.noInput place index here last)
      · cases moved
  | acquire thread =>
      simp only [next] at moved
      split at moved
      · rename_i place index lock here
        split at moved
        · rename_i free
          cases moved
          exact .acquire thread place index lock here free
        · cases moved
      · cases moved
  | check thread => exact check_step moved
  | send thread refused => exact send_step moved
  | look thread => exact look_step moved
  | credit thread =>
      simp only [next] at moved
      split at moved
      · rename_i place index lock chunk batch here
        split at moved
        · split at moved
          · rename_i descriptor found
            cases moved
            exact .credit thread place index lock chunk batch descriptor here
          · cases moved
        · cases moved
      · cases moved
  | expectData thread => exact expectData_step moved
  | sendChunk thread refused => exact sendChunk_step moved
  | awaitData thread =>
      simp only [next] at moved
      split at moved
      · rename_i place index lock here
        split at moved
        · rename_i arrived
          cases moved
          exact .go thread _ _ (.awaitData place index lock here arrived)
        · cases moved
      · cases moved
  | dataClosed thread =>
      simp only [next] at moved
      split at moved
      · rename_i place index lock here
        split at moved
        · rename_i dataId input
          split at moved
          · rename_i gone
            cases moved
            exact .go thread _ _ (.dataClosed place index lock dataId here input gone.2)
          · cases moved
        · cases moved
      · cases moved
  | dataTimeout thread reason =>
      simp only [next] at moved
      split at moved
      · rename_i place index lock here
        split at moved
        · cases moved
          exact .go thread _ _ (.dataTimeout place index lock reason here)
        · cases moved
      · cases moved
  | forgetData thread =>
      simp only [next] at moved
      split at moved
      · rename_i place index lock error here
        split at moved
        · rename_i dataId input
          cases moved
          exact .forgetData thread place index lock dataId error here input
        · cases moved
      · cases moved
  | record thread =>
      simp only [next] at moved
      split at moved
      · rename_i place index lock here
        split at moved
        · rename_i dataId input
          cases moved
          exact .record thread place index lock dataId _ here input
        · cases moved
      · cases moved
  | unlock thread => exact unlock_step moved
  | release thread =>
      simp only [next] at moved
      split at moved
      · rename_i place index lock here
        split at moved
        · rename_i dataId input
          cases moved
          exact .release thread place index lock dataId here input
        · cases moved
      · cases moved
  | drop thread => exact drop_step moved
  | expectResult thread =>
      simp only [next] at moved
      split at moved
      · rename_i place here
        cases moved
        exact .expectResult thread place here
      · cases moved
  | assign thread refused => exact assign_step moved
  | receive thread =>
      simp only [next] at moved
      split at moved
      · rename_i place result here answered
        cases moved
        exact .go thread _ _ (.receive place result here answered)
      · cases moved
  | resultClosed thread =>
      simp only [next] at moved
      split at moved
      · rename_i place here
        split at moved
        · rename_i gone
          cases moved
          exact .go thread _ _ (.resultClosed place here gone.2)
        · cases moved
      · cases moved
  | resultTimeout thread =>
      simp only [next] at moved
      split at moved
      · rename_i place here
        split at moved
        · cases moved
          exact .go thread _ _ (.resultTimeout place here)
        · cases moved
      · cases moved
  | forget thread =>
      simp only [next] at moved
      split at moved
      · rename_i place error here
        cases moved
        exact .forget thread place error here
      · cases moved
  | finish thread => exact finish_step moved
  | recordOutput thread =>
      simp only [next] at moved
      split at moved
      · rename_i result here
        cases moved
        exact .recordOutput thread result here
      · cases moved
  | retry thread =>
      simp only [next] at moved
      split at moved
      · rename_i place here
        cases moved
        exact .retry thread place here
      · cases moved
  | wake thread =>
      simp only [next] at moved
      split at moved
      · rename_i attempt unusable here
        cases moved
        exact .go thread _ _ (.wake attempt unusable here)
      · cases moved
  | cancel thread => exact cancel_step moved
  | register nodeId =>
      cases moved
      exact .register nodeId
  | attach nodeId =>
      simp only [next] at moved
      split at moved
      · cases moved
      · cases moved
        exact .attach nodeId
  | detach nodeId =>
      cases moved
      exact .detach nodeId
  | forgetNode nodeId =>
      simp only [next] at moved
      split at moved
      · cases moved
      · cases moved
        exact .forgetNode nodeId
  | held nodeId descriptor =>
      cases moved
      exact .held nodeId descriptor
  | evicted nodeId dataId =>
      cases moved
      exact .evicted nodeId dataId
  | ready nodeId dataId =>
      simp only [next] at moved
      split at moved
      · rename_i thread waited
        cases moved
        exact .ready nodeId dataId thread waited
      · cases moved
        exact .unheard nodeId dataId
  | complete result =>
      simp only [next] at moved
      split at moved
      · rename_i thread waited
        cases moved
        exact .complete result thread waited
      · cases moved
        exact .unexpected result

end AetherMesh.Submissions
