import AetherMesh.Controller.Catalog
import AetherMesh.Controller.Connections
import AetherMesh.Controller.Registry
import AetherMesh.Library.Runs
import AetherMesh.Protocol.Message

/-!
The controller's side of its agents: a handler for each connection, the monitor that evicts
silent nodes, and the calls that wait for an agent's answer. They share the registry, the
catalog and the connections; every access to one of these is a step of its own. What the
agents send, and when a connection is lost, is up to the environment.
-/

namespace AetherMesh.Server

/-- `timeout` is the silence after which a node is evicted, `heartbeatTimeout` what agents are told
about it, and `channelToken` the token made for each registration. -/
structure Setup where
  security : SecurityConfig
  timeout : Nat
  heartbeatTimeout : Option Nat
  channelToken : Nat → String

inductive Stage
  | unopened
  | reading
  | registering (nodeId : NodeId)
  | attaching (nodeId : NodeId)
  | answering (nodeId : NodeId) (token : String)
  | joining (nodeId : NodeId)
  | recording (nodeId : NodeId) (datasets : List DataDescriptor)
  | evicting (nodeId : NodeId) (dataIds : List DataId)
  | closing
  | forgetting (nodeId : NodeId)
  | closed
deriving DecidableEq

/-- A connection and the state of its handler. What the agent has sent is stamped with the moment;
`writing` says that the writer still empties the outbound queue. -/
structure Link where
  stage : Stage
  registeredId : Option NodeId
  channelFor : Option NodeId
  inbound : List (Nat × Message)
  outbound : List Message
  writing : Bool
deriving DecidableEq

def Link.unopened : Link := ⟨.unopened, none, none, [], [], false⟩

def Link.fresh : Link := ⟨.reading, none, none, [], [], true⟩

def Link.identity (link : Link) : Option NodeId := link.registeredId.or link.channelFor

inductive Pass
  | idle
  | removing (left : List NodeId)
  | detaching (nodeId : NodeId) (left : List NodeId)
  | forgetting (nodeId : NodeId) (left : List NodeId)
deriving DecidableEq

structure Delivery where
  result : TaskResult
  link : Nat
  speaker : NodeId
  stamp : Nat
deriving DecidableEq

/-- Where a call to `dispatch` is. An assignment is queued on a connection at some moment. -/
inductive Dispatching
  | idle
  | assigning (nodeId : NodeId) (task : Task)
  | awaiting (nodeId : NodeId) (task : Task) (link since : Nat)
  | forgetting (nodeId : NodeId) (task : Task) (error : DispatchError)
  | answered (nodeId : NodeId) (task : Task) (link since : Nat) (delivery : Delivery)
  | failed (nodeId : NodeId) (task : Task) (error : DispatchError)
deriving DecidableEq

/-- Where a call to `send_chunks` is. It waits once all chunks are queued. -/
inductive Batch
  | idle
  | sending (nodeId : NodeId) (dataId : DataId) (left : List Message)
  | forgetting (nodeId : NodeId) (dataId : DataId) (error : DispatchError)
  | ready (nodeId : NodeId) (dataId : DataId)
  | failed (nodeId : NodeId) (dataId : DataId) (error : DispatchError)
deriving DecidableEq

/-- `issued` counts the channel tokens. `owner` is the connection that registered a node last and
`heard` the time of its last registration or heartbeat; `stamp` is the next moment. -/
structure State where
  now : Nat
  registry : NodeRegistry
  catalog : DataCatalog
  connections : Connections
  links : Nat → Link
  pass : Pass
  issued : Nat
  dispatches : Nat → Dispatching
  mailbox : Nat → Option Delivery
  batches : Nat → Batch
  arrived : Nat → Bool
  owner : NodeId → Option Nat
  heard : NodeId → Option Nat
  stamp : Nat

inductive Event
  | accept (link : Nat)
  | arrive (link : Nat) (message : Message)
  | read (link : Nat)
  | proceed (link : Nat)
  | lose (link : Nat)
  | write (link : Nat)
  | failWrite (link : Nat)
  | tick
  | scan (order : List NodeId)
  | evict
  | dispatch (call : Nat) (nodeId : NodeId) (task : Task)
  | assign (call : Nat)
  | receive (call : Nat)
  | resultClosed (call : Nat)
  | resultTimeout (call : Nat)
  | forget (call : Nat)
  | sendChunks (call : Nat) (nodeId : NodeId) (dataId : DataId) (chunks : List Message)
  | sendChunk (call : Nat)
  | awaitData (call : Nat)
  | dataClosed (call : Nat)
  | dataTimeout (call : Nat) (reason : String)
  | forgetData (call : Nat)
  | expectPong (nodeId : NodeId) (nonce probe : Nat)
  | forgetPong (nodeId : NodeId) (nonce : Nat)
  | record (nodeId : NodeId) (descriptor : DataDescriptor)
  | forgetNode (nodeId : NodeId)

namespace State

def start : State where
  now := 0
  registry := .new
  catalog := .new
  connections := .new
  links := fun _ => .unopened
  pass := .idle
  issued := 0
  dispatches := fun _ => .idle
  mailbox := fun _ => none
  batches := fun _ => .idle
  arrived := fun _ => false
  owner := fun _ => none
  heard := fun _ => none
  stamp := 0

def place (state : State) (link : Nat) (new : Link) : State :=
  { state with links := Function.update state.links link new }

def turn (state : State) (link : Nat) (stage : Stage) : State :=
  state.place link { state.links link with stage }

/-- The queue of a connection takes a message as long as its writer is there. -/
def push (state : State) (link : Nat) (message : Message) : Option State :=
  if (state.links link).writing then
    some (state.place link
      { state.links link with outbound := (state.links link).outbound ++ [message] })
  else none

def send (state : State) (nodeId : NodeId) (message : Message) :
    State × Except DispatchError Nat :=
  match state.connections.senders nodeId with
  | none => (state, .error (.unreachable nodeId "no live connection"))
  | some link =>
      match state.push link message with
      | some after => (after, .ok link)
      | none => (state, .error (.unreachable nodeId "connection is shutting down"))

def sendBulk (state : State) (nodeId : NodeId) (message : Message) :
    State × Except DispatchError Nat :=
  match state.connections.rotate nodeId with
  | (_, none) => state.send nodeId message
  | (connections, some channel) =>
      let rotated := { state with connections }
      match rotated.push channel message with
      | some after => (after, .ok channel)
      | none => (rotated, .error (.unreachable nodeId "data channel is shutting down"))

def completeData (state : State) (nodeId : NodeId) (dataId : DataId) : State :=
  match state.connections.pendingData (nodeId, dataId) with
  | some call =>
      { state with
        connections := state.connections.forgetData nodeId dataId
        arrived := Function.update state.arrived call true }
  | none => state

def completePong (state : State) (nodeId : NodeId) (nonce : Nat) : State :=
  { state with connections := state.connections.forgetPong nodeId nonce }

def complete (state : State) (delivery : Delivery) : State :=
  match state.connections.pending delivery.result.taskId with
  | some call =>
      { state with
        connections := state.connections.forget delivery.result.taskId
        mailbox := Function.update state.mailbox call (some delivery) }
  | none => state

def reply (state : State) (link : Nat) (message : Message) : State :=
  (state.push link message).getD state

end State

variable (setup : Setup)

/-- What a handler does with a message up to its first access to shared state. -/
def receive (state : State) (link stamp : Nat) : Message → State
  | .registerNode version info token =>
      if version ≠ protocolVersion then
        (state.reply link (.registerRejected
          ("controller speaks protocol " ++ toString protocolVersion))).turn link .closing
      else
        match setup.security.authorize token with
        | .error error => (state.reply link (.registerRejected error.text)).turn link .closing
        | .ok () =>
            { state with
              registry := state.registry.register info state.now
              heard := Function.update state.heard info.id (some state.now) }.turn link
              (.registering info.id)
  | .registerDataChannel version nodeId token =>
      if version = protocolVersion ∧ state.connections.claimChannelToken nodeId token = true then
        state.turn link (.joining nodeId)
      else state.turn link .closing
  | .dataReady _ dataId =>
      match (state.links link).identity with
      | none => state.turn link .closing
      | some nodeId => state.completeData nodeId dataId
  | .heartbeat _ metrics =>
      match (state.links link).registeredId with
      | none => state.turn link .closing
      | some nodeId =>
          let heard := Function.update state.heard nodeId (some state.now)
          match state.registry.recordHeartbeat nodeId metrics state.now with
          | .ok registry => { state with registry, heard }
          | .error _ => { state with heard }
  | .dataHeld _ datasets =>
      match (state.links link).identity with
      | none => state.turn link .closing
      | some nodeId => state.turn link (.recording nodeId datasets)
  | .dataEvicted _ dataIds =>
      match (state.links link).identity with
      | none => state.turn link .closing
      | some nodeId => state.turn link (.evicting nodeId dataIds)
  | .pong nonce =>
      match (state.links link).registeredId with
      | none => state
      | some nodeId => state.completePong nodeId nonce
  | .taskCompleted result =>
      match (state.links link).registeredId with
      | none => state.turn link .closing
      | some nodeId =>
          if result.nodeId = nodeId then state.complete ⟨result, link, nodeId, stamp⟩
          else state.turn link .closing
  | _ => state

/-- The rest of what a handler has begun, one access to shared state at a time. -/
def proceed (state : State) (link : Nat) : Option State :=
  match (state.links link).stage with
  | .registering nodeId =>
      some ({ state with catalog := state.catalog.forgetNode nodeId }.turn link (.attaching nodeId))
  | .attaching nodeId =>
      let token := setup.channelToken state.issued
      some ({ state with
        connections := state.connections.attach nodeId link token
        issued := state.issued + 1
        owner := Function.update state.owner nodeId (some link) }.place link
        { state.links link with
          stage := .answering nodeId token
          registeredId := some nodeId })
  | .answering nodeId token =>
      match state.push link (.registerAccepted nodeId (some token)
          ((setup.heartbeatTimeout.map (· / 1000)).getD 0)) with
      | some after => some (after.turn link .reading)
      | none => some (state.turn link .closing)
  | .joining nodeId =>
      some ({ state with connections := state.connections.attachDataChannel nodeId link }.place link
        { state.links link with stage := .reading, channelFor := some nodeId })
  | .recording nodeId (descriptor :: rest) =>
      some ({ state with catalog := state.catalog.record descriptor nodeId }.turn link
        (.recording nodeId rest))
  | .recording _ [] => some (state.turn link .reading)
  | .evicting nodeId (dataId :: rest) =>
      some ({ state with catalog := state.catalog.remove dataId nodeId }.turn link
        (.evicting nodeId rest))
  | .evicting _ [] => some (state.turn link .reading)
  | .closing =>
      match (state.links link).registeredId with
      | some nodeId =>
          some ({ state with connections := state.connections.detach nodeId }.turn link
            (.forgetting nodeId))
      | none => some (state.turn link .closed)
  | .forgetting nodeId =>
      some ({ state with catalog := state.catalog.forgetNode nodeId }.turn link .closed)
  | _ => none

def evict (state : State) : Option State :=
  match state.pass with
  | .removing (nodeId :: rest) =>
      some { state with
        registry := state.registry.remove nodeId
        pass := .detaching nodeId rest }
  | .removing [] => some { state with pass := .idle }
  | .detaching nodeId rest =>
      some { state with
        connections := state.connections.detach nodeId
        pass := .forgetting nodeId rest }
  | .forgetting nodeId rest =>
      some { state with
        catalog := state.catalog.forgetNode nodeId
        pass := .removing rest }
  | .idle => none

def closedBeforeData : String := "connection closed before the data was assembled"

def closedBeforeResult : String := "connection closed before the result arrived"

def State.call (state : State) (call : Nat) (dispatching : Dispatching) : State :=
  { state with dispatches := Function.update state.dispatches call dispatching }

def State.batch (state : State) (call : Nat) (batch : Batch) : State :=
  { state with batches := Function.update state.batches call batch }

def next (state : State) : Event → Option State
  | .accept link =>
      if (state.links link).stage = .unopened then some (state.place link .fresh) else none
  | .arrive link message =>
      if (state.links link).stage = .unopened then none
      else
        some ({ state with stamp := state.stamp + 1 }.place link
          { state.links link with
            inbound := (state.links link).inbound ++ [(state.stamp, message)] })
  | .read link =>
      match (state.links link).stage, (state.links link).inbound with
      | .reading, (stamp, message) :: rest =>
          some (receive setup (state.place link { state.links link with inbound := rest }) link stamp
            message)
      | _, _ => none
  | .proceed link => proceed setup state link
  | .lose link =>
      if (state.links link).stage = .reading then some (state.turn link .closing) else none
  | .write link =>
      match (state.links link).writing, (state.links link).outbound with
      | true, _ :: rest => some (state.place link { state.links link with outbound := rest })
      | _, _ => none
  | .failWrite link =>
      if (state.links link).writing then
        some (state.place link { state.links link with writing := false })
      else none
  | .tick => some { state with now := state.now + 1 }
  | .scan order =>
      if state.pass = .idle ∧ order.Perm (state.registry.staleNodes state.now setup.timeout) then
        some { state with pass := .removing order }
      else none
  | .evict => evict state
  | .dispatch call nodeId task =>
      if state.dispatches call = .idle then
        some ({ state with
          connections := state.connections.expectResult task.id call
          mailbox := Function.update state.mailbox call none }.call call (.assigning nodeId task))
      else none
  | .assign call =>
      match state.dispatches call with
      | .assigning nodeId task =>
          match state.send nodeId (.taskAssignment nodeId task) with
          | (after, .ok link) =>
              some ({ after with stamp := after.stamp + 1 }.call call
                (.awaiting nodeId task link after.stamp))
          | (after, .error error) => some (after.call call (.forgetting nodeId task error))
      | _ => none
  | .receive call =>
      match state.dispatches call, state.mailbox call with
      | .awaiting nodeId task link since, some delivery =>
          some (state.call call (.answered nodeId task link since delivery))
      | _, _ => none
  | .resultClosed call =>
      match state.dispatches call with
      | .awaiting nodeId task _ _ =>
          if state.mailbox call = none ∧ state.connections.pending task.id ≠ some call then
            some (state.call call (.failed nodeId task (.unreachable nodeId closedBeforeResult)))
          else none
      | _ => none
  | .resultTimeout call =>
      match state.dispatches call with
      | .awaiting nodeId task _ _ =>
          if state.mailbox call = none then
            some (state.call call (.forgetting nodeId task (.timeout nodeId task.id)))
          else none
      | _ => none
  | .forget call =>
      match state.dispatches call with
      | .forgetting nodeId task error =>
          some ({ state with connections := state.connections.forget task.id }.call call
            (.failed nodeId task error))
      | _ => none
  | .sendChunks call nodeId dataId chunks =>
      if state.batches call = .idle then
        some ({ state with
          connections := state.connections.expectData nodeId dataId call
          arrived := Function.update state.arrived call false }.batch call
          (.sending nodeId dataId chunks))
      else none
  | .sendChunk call =>
      match state.batches call with
      | .sending nodeId dataId (message :: rest) =>
          match state.sendBulk nodeId message with
          | (after, .ok _) => some (after.batch call (.sending nodeId dataId rest))
          | (after, .error error) => some (after.batch call (.forgetting nodeId dataId error))
      | _ => none
  | .awaitData call =>
      match state.batches call with
      | .sending nodeId dataId [] =>
          if state.arrived call then some (state.batch call (.ready nodeId dataId)) else none
      | _ => none
  | .dataClosed call =>
      match state.batches call with
      | .sending nodeId dataId [] =>
          if state.arrived call = false ∧
              state.connections.pendingData (nodeId, dataId) ≠ some call then
            some (state.batch call
              (.failed nodeId dataId (.unreachable nodeId closedBeforeData)))
          else none
      | _ => none
  | .dataTimeout call reason =>
      match state.batches call with
      | .sending nodeId dataId [] =>
          if state.arrived call = false then
            some (state.batch call (.forgetting nodeId dataId (.unreachable nodeId reason)))
          else none
      | _ => none
  | .forgetData call =>
      match state.batches call with
      | .forgetting nodeId dataId error =>
          some ({ state with connections := state.connections.forgetData nodeId dataId }.batch call
            (.failed nodeId dataId error))
      | _ => none
  | .expectPong nodeId nonce probe =>
      some { state with connections := state.connections.expectPong nodeId nonce probe }
  | .forgetPong nodeId nonce =>
      some { state with connections := state.connections.forgetPong nodeId nonce }
  | .record nodeId descriptor =>
      some { state with catalog := state.catalog.record descriptor nodeId }
  | .forgetNode nodeId => some { state with catalog := state.catalog.forgetNode nodeId }

structure Reads (state : State) (link stamp : Nat) (message : Message)
    (rest : List (Nat × Message)) : Prop where
  here : (state.links link).stage = .reading
  first : (state.links link).inbound = (stamp, message) :: rest

inductive Turns (state : State) (link : Nat) : Event → Link → Prop
  | accept (here : (state.links link).stage = .unopened) : Turns state link (.accept link) .fresh
  | turnAway (stamp : Nat) (message : Message) (rest : List (Nat × Message)) (answer : List Message)
      (reads : Reads state link stamp message rest) :
      Turns state link (.read link)
        { state.links link with
          inbound := rest
          outbound := (state.links link).outbound ++ answer
          stage := .closing }
  | ignore (stamp : Nat) (message : Message) (rest : List (Nat × Message))
      (reads : Reads state link stamp message rest) :
      Turns state link (.read link) { state.links link with inbound := rest }
  | claim (stamp version : Nat) (nodeId : NodeId) (token : Option String)
      (rest : List (Nat × Message))
      (reads : Reads state link stamp (.registerDataChannel version nodeId token) rest)
      (claimed : state.connections.claimChannelToken nodeId token = true) :
      Turns state link (.read link)
        { state.links link with inbound := rest, stage := .joining nodeId }
  | hold (stamp : Nat) (named nodeId : NodeId) (datasets : List DataDescriptor)
      (rest : List (Nat × Message)) (reads : Reads state link stamp (.dataHeld named datasets) rest)
      (known : (state.links link).identity = some nodeId) :
      Turns state link (.read link)
        { state.links link with inbound := rest, stage := .recording nodeId datasets }
  | giveUp (stamp : Nat) (named nodeId : NodeId) (dataIds : List DataId)
      (rest : List (Nat × Message)) (reads : Reads state link stamp (.dataEvicted named dataIds) rest)
      (known : (state.links link).identity = some nodeId) :
      Turns state link (.read link)
        { state.links link with inbound := rest, stage := .evicting nodeId dataIds }
  | answer (nodeId : NodeId) (token : String) (message : Message)
      (here : (state.links link).stage = .answering nodeId token) :
      Turns state link (.proceed link)
        { state.links link with
          outbound := (state.links link).outbound ++ [message]
          stage := .reading }
  | unanswered (nodeId : NodeId) (token : String)
      (here : (state.links link).stage = .answering nodeId token) :
      Turns state link (.proceed link) { state.links link with stage := .closing }
  | recorded (nodeId : NodeId) (here : (state.links link).stage = .recording nodeId []) :
      Turns state link (.proceed link) { state.links link with stage := .reading }
  | evicted (nodeId : NodeId) (here : (state.links link).stage = .evicting nodeId []) :
      Turns state link (.proceed link) { state.links link with stage := .reading }
  | leave (here : (state.links link).stage = .closing)
      (unregistered : (state.links link).registeredId = none) :
      Turns state link (.proceed link) { state.links link with stage := .closed }
  | lose (here : (state.links link).stage = .reading) :
      Turns state link (.lose link) { state.links link with stage := .closing }
  | write (message : Message) (rest : List Message)
      (queued : (state.links link).outbound = message :: rest) :
      Turns state link (.write link) { state.links link with outbound := rest }

/-- The events after which a call to `dispatch` is somewhere else and nothing shared has changed. -/
inductive Calls (state : State) (call : Nat) : Event → Dispatching → Prop
  | refuse (nodeId : NodeId) (task : Task) (error : DispatchError)
      (here : state.dispatches call = .assigning nodeId task) :
      Calls state call (.assign call) (.forgetting nodeId task error)
  | receive (nodeId : NodeId) (task : Task) (link since : Nat) (delivery : Delivery)
      (here : state.dispatches call = .awaiting nodeId task link since)
      (answered : state.mailbox call = some delivery) :
      Calls state call (.receive call) (.answered nodeId task link since delivery)
  | closed (nodeId : NodeId) (task : Task) (link since : Nat)
      (here : state.dispatches call = .awaiting nodeId task link since)
      (empty : state.mailbox call = none)
      (gone : state.connections.pending task.id ≠ some call) :
      Calls state call (.resultClosed call)
        (.failed nodeId task (.unreachable nodeId closedBeforeResult))
  | timeout (nodeId : NodeId) (task : Task) (link since : Nat)
      (here : state.dispatches call = .awaiting nodeId task link since) :
      Calls state call (.resultTimeout call)
        (.forgetting nodeId task (.timeout nodeId task.id))

inductive Waits (state : State) (call : Nat) : Event → Batch → Prop
  | ready (nodeId : NodeId) (dataId : DataId)
      (here : state.batches call = .sending nodeId dataId []) (arrived : state.arrived call = true) :
      Waits state call (.awaitData call) (.ready nodeId dataId)
  | closed (nodeId : NodeId) (dataId : DataId)
      (here : state.batches call = .sending nodeId dataId [])
      (gone : state.connections.pendingData (nodeId, dataId) ≠ some call) :
      Waits state call (.dataClosed call)
        (.failed nodeId dataId (.unreachable nodeId closedBeforeData))
  | timeout (nodeId : NodeId) (dataId : DataId) (reason : String)
      (here : state.batches call = .sending nodeId dataId []) :
      Waits state call (.dataTimeout call reason)
        (.forgetting nodeId dataId (.unreachable nodeId reason))

def State.queued (state : State) (link : Nat) (message : Message) : State :=
  state.place link { state.links link with outbound := (state.links link).outbound ++ [message] }

def State.took (state : State) (link : Nat) (rest : List (Nat × Message)) : State :=
  state.place link { state.links link with inbound := rest }

inductive Step (state : State) : Event → State → Prop
  | turn (link : Nat) (event : Event) (new : Link) (turns : Turns state link event new) :
      Step state event (state.place link new)
  | calls (call : Nat) (event : Event) (dispatching : Dispatching)
      (calls : Calls state call event dispatching) : Step state event (state.call call dispatching)
  | waits (call : Nat) (event : Event) (batch : Batch) (waits : Waits state call event batch) :
      Step state event (state.batch call batch)
  | arrive (link : Nat) (message : Message) (here : (state.links link).stage ≠ .unopened) :
      Step state (.arrive link message)
        ({ state with stamp := state.stamp + 1 }.place link
          { state.links link with
            inbound := (state.links link).inbound ++ [(state.stamp, message)] })
  | register (link stamp version : Nat) (info : NodeDescription) (token : Option String)
      (rest : List (Nat × Message))
      (reads : Reads state link stamp (.registerNode version info token) rest)
      (authorized : setup.security.authorize token = .ok ()) :
      Step state (.read link)
        ({ state with
          registry := state.registry.register info state.now
          heard := Function.update state.heard info.id (some state.now) }.place link
          { state.links link with inbound := rest, stage := .registering info.id })
  | heartbeat (link stamp : Nat) (named nodeId : NodeId) (metrics : NodeMetrics)
      (rest : List (Nat × Message)) (registry : NodeRegistry)
      (reads : Reads state link stamp (.heartbeat named metrics) rest)
      (registered : (state.links link).registeredId = some nodeId)
      (recorded : state.registry.recordHeartbeat nodeId metrics state.now = .ok registry) :
      Step state (.read link)
        ({ state with
          registry
          heard := Function.update state.heard nodeId (some state.now) }.took link rest)
  | dropHeartbeat (link stamp : Nat) (named nodeId : NodeId) (metrics : NodeMetrics)
      (rest : List (Nat × Message)) (reads : Reads state link stamp (.heartbeat named metrics) rest)
      (registered : (state.links link).registeredId = some nodeId)
      (unknown : state.registry.get nodeId = none) :
      Step state (.read link)
        ({ state with heard := Function.update state.heard nodeId (some state.now) }.took link rest)
  | ready (link stamp : Nat) (named nodeId : NodeId) (dataId : DataId) (rest : List (Nat × Message))
      (call : Nat) (reads : Reads state link stamp (.dataReady named dataId) rest)
      (known : (state.links link).identity = some nodeId)
      (waited : state.connections.pendingData (nodeId, dataId) = some call) :
      Step state (.read link)
        ({ state with
          connections := state.connections.forgetData nodeId dataId
          arrived := Function.update state.arrived call true }.took link rest)
  | pong (link stamp : Nat) (nodeId : NodeId) (nonce : Nat) (rest : List (Nat × Message))
      (reads : Reads state link stamp (.pong nonce) rest)
      (registered : (state.links link).registeredId = some nodeId) :
      Step state (.read link)
        ({ state with connections := state.connections.forgetPong nodeId nonce }.took link rest)
  | complete (link stamp : Nat) (result : TaskResult) (rest : List (Nat × Message)) (call : Nat)
      (reads : Reads state link stamp (.taskCompleted result) rest)
      (registered : (state.links link).registeredId = some result.nodeId)
      (waited : state.connections.pending result.taskId = some call) :
      Step state (.read link)
        ({ state with
          connections := state.connections.forget result.taskId
          mailbox := Function.update state.mailbox call
            (some ⟨result, link, result.nodeId, stamp⟩) }.took link rest)
  | forgetStale (link : Nat) (nodeId : NodeId)
      (here : (state.links link).stage = .registering nodeId) :
      Step state (.proceed link)
        ({ state with catalog := state.catalog.forgetNode nodeId }.turn link (.attaching nodeId))
  | attach (link : Nat) (nodeId : NodeId) (here : (state.links link).stage = .attaching nodeId) :
      Step state (.proceed link)
        ({ state with
          connections := state.connections.attach nodeId link (setup.channelToken state.issued)
          issued := state.issued + 1
          owner := Function.update state.owner nodeId (some link) }.place link
          { state.links link with
            stage := .answering nodeId (setup.channelToken state.issued)
            registeredId := some nodeId })
  | join (link : Nat) (nodeId : NodeId) (here : (state.links link).stage = .joining nodeId) :
      Step state (.proceed link)
        ({ state with connections := state.connections.attachDataChannel nodeId link }.place link
          { state.links link with stage := .reading, channelFor := some nodeId })
  | record (link : Nat) (nodeId : NodeId) (descriptor : DataDescriptor) (rest : List DataDescriptor)
      (here : (state.links link).stage = .recording nodeId (descriptor :: rest)) :
      Step state (.proceed link)
        ({ state with catalog := state.catalog.record descriptor nodeId }.turn link
          (.recording nodeId rest))
  | evictData (link : Nat) (nodeId : NodeId) (dataId : DataId) (rest : List DataId)
      (here : (state.links link).stage = .evicting nodeId (dataId :: rest)) :
      Step state (.proceed link)
        ({ state with catalog := state.catalog.remove dataId nodeId }.turn link
          (.evicting nodeId rest))
  | detach (link : Nat) (nodeId : NodeId) (here : (state.links link).stage = .closing)
      (registered : (state.links link).registeredId = some nodeId) :
      Step state (.proceed link)
        ({ state with connections := state.connections.detach nodeId }.turn link
          (.forgetting nodeId))
  | forgetLink (link : Nat) (nodeId : NodeId) (here : (state.links link).stage = .forgetting nodeId) :
      Step state (.proceed link)
        ({ state with catalog := state.catalog.forgetNode nodeId }.turn link .closed)
  | failWrite (link : Nat) (writes : (state.links link).writing = true) :
      Step state (.failWrite link)
        (state.place link { state.links link with writing := false })
  | tick : Step state .tick { state with now := state.now + 1 }
  | scan (order : List NodeId) (idle : state.pass = .idle)
      (listed : order.Perm (state.registry.staleNodes state.now setup.timeout)) :
      Step state (.scan order) { state with pass := .removing order }
  | remove (nodeId : NodeId) (rest : List NodeId) (here : state.pass = .removing (nodeId :: rest)) :
      Step state .evict
        { state with registry := state.registry.remove nodeId, pass := .detaching nodeId rest }
  | passed (here : state.pass = .removing []) : Step state .evict { state with pass := .idle }
  | evictDetach (nodeId : NodeId) (rest : List NodeId) (here : state.pass = .detaching nodeId rest) :
      Step state .evict
        { state with
          connections := state.connections.detach nodeId
          pass := .forgetting nodeId rest }
  | evictForget (nodeId : NodeId) (rest : List NodeId)
      (here : state.pass = .forgetting nodeId rest) :
      Step state .evict
        { state with catalog := state.catalog.forgetNode nodeId, pass := .removing rest }
  | dispatch (call : Nat) (nodeId : NodeId) (task : Task) (idle : state.dispatches call = .idle) :
      Step state (.dispatch call nodeId task)
        ({ state with
          connections := state.connections.expectResult task.id call
          mailbox := Function.update state.mailbox call none }.call call (.assigning nodeId task))
  | assign (call : Nat) (nodeId : NodeId) (task : Task) (link : Nat)
      (here : state.dispatches call = .assigning nodeId task)
      (connected : state.connections.senders nodeId = some link) :
      Step state (.assign call)
        ({ state.queued link (.taskAssignment nodeId task) with stamp := state.stamp + 1 }.call call
          (.awaiting nodeId task link state.stamp))
  | forget (call : Nat) (nodeId : NodeId) (task : Task) (error : DispatchError)
      (here : state.dispatches call = .forgetting nodeId task error) :
      Step state (.forget call)
        ({ state with connections := state.connections.forget task.id }.call call
          (.failed nodeId task error))
  | sendChunks (call : Nat) (nodeId : NodeId) (dataId : DataId) (chunks : List Message)
      (idle : state.batches call = .idle) :
      Step state (.sendChunks call nodeId dataId chunks)
        ({ state with
          connections := state.connections.expectData nodeId dataId call
          arrived := Function.update state.arrived call false }.batch call
          (.sending nodeId dataId chunks))
  | sendChunk (call : Nat) (nodeId : NodeId) (dataId : DataId) (message : Message)
      (rest : List Message) (link : Nat) (cursors : NodeId → Option Nat)
      (here : state.batches call = .sending nodeId dataId (message :: rest)) :
      Step state (.sendChunk call)
        (({ state with connections := { state.connections with nextChannel := cursors } }.queued link
          message).batch call (.sending nodeId dataId rest))
  | refuseChunk (call : Nat) (nodeId : NodeId) (dataId : DataId) (message : Message)
      (rest : List Message) (error : DispatchError) (cursors : NodeId → Option Nat)
      (here : state.batches call = .sending nodeId dataId (message :: rest)) :
      Step state (.sendChunk call)
        ({ state with connections := { state.connections with nextChannel := cursors } }.batch call
          (.forgetting nodeId dataId error))
  | forgetData (call : Nat) (nodeId : NodeId) (dataId : DataId) (error : DispatchError)
      (here : state.batches call = .forgetting nodeId dataId error) :
      Step state (.forgetData call)
        ({ state with connections := state.connections.forgetData nodeId dataId }.batch call
          (.failed nodeId dataId error))
  | expectPong (nodeId : NodeId) (nonce probe : Nat) :
      Step state (.expectPong nodeId nonce probe)
        { state with connections := state.connections.expectPong nodeId nonce probe }
  | forgetPong (nodeId : NodeId) (nonce : Nat) :
      Step state (.forgetPong nodeId nonce)
        { state with connections := state.connections.forgetPong nodeId nonce }
  | credit (nodeId : NodeId) (descriptor : DataDescriptor) :
      Step state (.record nodeId descriptor)
        { state with catalog := state.catalog.record descriptor nodeId }
  | forgetNode (nodeId : NodeId) :
      Step state (.forgetNode nodeId) { state with catalog := state.catalog.forgetNode nodeId }

variable {setup} {state after : State} {event : Event} {link stamp : Nat} {message : Message}
  {rest : List (Nat × Message)}

theorem links_place (new : Link) : (state.place link new).links link = new :=
  Function.update_self ..

theorem place_place (old new : Link) : (state.place link old).place link new = state.place link new := by
  simp only [State.place, Function.update_idem]

theorem turn_took (stage : Stage) : (state.took link rest).turn link stage =
    state.place link { state.links link with inbound := rest, stage := stage } := by
  rw [State.turn, State.took, links_place, place_place]

theorem push_eq : state.push link message =
    if (state.links link).writing then some (state.queued link message) else none :=
  rfl

theorem reply_frame (state : State) (link : Nat) (message : Message) :
    ∃ links, state.reply link message = { state with links } := by
  unfold State.reply
  rw [push_eq]
  split
  · exact ⟨_, rfl⟩
  · exact ⟨_, rfl⟩

theorem reply_turn (stage : Stage) : ∃ answer,
    ((state.took link rest).reply link message).turn link stage = state.place link
      { state.links link with
        inbound := rest
        outbound := (state.links link).outbound ++ answer
        stage := stage } := by
  rw [State.reply, push_eq, State.queued, State.took, links_place]
  cases (state.links link).writing with
  | true => exact ⟨[message], by rw [if_pos rfl, Option.getD_some, State.turn, links_place, place_place,
      place_place]⟩
  | false => exact ⟨[], by rw [if_neg Bool.false_ne_true, Option.getD_none, State.turn, links_place,
      place_place, List.append_nil]⟩

theorem Reads.turnedAway (reads : Reads state link stamp message rest) :
    Step setup state (.read link) ((state.took link rest).turn link .closing) := by
  have away : Step setup state (.read link) _ :=
    .turn link _ _ (.turnAway stamp message rest [] reads)
  rw [List.append_nil] at away
  rw [turn_took]
  exact away

theorem Reads.rejected (reads : Reads state link stamp message rest) (answer : Message) :
    Step setup state (.read link)
      (((state.took link rest).reply link answer).turn link .closing) := by
  obtain ⟨answers, replied⟩ := @reply_turn state link answer rest .closing
  rw [replied]
  exact .turn link _ _ (.turnAway stamp message rest answers reads)

theorem Reads.ignored (reads : Reads state link stamp message rest) :
    Step setup state (.read link) (state.took link rest) :=
  .turn link _ _ (.ignore stamp message rest reads)

theorem took_links : (state.took link rest).links link = { state.links link with inbound := rest } :=
  links_place _

theorem Reads.next_eq (reads : Reads state link stamp message rest) :
    next setup state (.read link) =
      some (receive setup (state.took link rest) link stamp message) := by
  simp only [next, reads.here, reads.first, State.took]

theorem read_reads (moved : next setup state (.read link) = some after) :
    ∃ stamp message rest, Reads state link stamp message rest := by
  dsimp only [next] at moved
  split at moved
  · rename_i stamp message rest here first
    exact ⟨stamp, message, rest, here, first⟩
  · cases moved

theorem receive_step (reads : Reads state link stamp message rest) :
    Step setup state (.read link) (receive setup (state.took link rest) link stamp message) := by
  cases message with
  | registerNode version info token =>
      dsimp only [receive]
      split
      · exact reads.rejected _
      · split
        · exact reads.rejected _
        · rename_i authorized
          have registered : Step setup state (.read link) _ :=
            .register link stamp version info token rest reads authorized
          have turned := @turn_took
            { state with
              registry := state.registry.register info state.now
              heard := Function.update state.heard info.id (some state.now) } link rest
            (.registering info.id)
          exact (congrArg (Step setup state (.read link)) turned).mpr registered
  | registerDataChannel version nodeId token =>
      dsimp only [receive]
      split
      · rename_i claimed
        rw [turn_took]
        exact .turn link _ _ (.claim stamp version nodeId token rest reads claimed.2)
      · exact reads.turnedAway
  | dataReady named dataId =>
      dsimp only [receive]
      split
      · exact reads.turnedAway
      · rename_i nodeId known
        rw [took_links] at known
        unfold State.completeData
        split
        · rename_i call waited
          exact .ready link stamp named nodeId dataId rest call reads known waited
        · exact reads.ignored
  | heartbeat named metrics =>
      dsimp only [receive]
      split
      · exact reads.turnedAway
      · rename_i nodeId registered
        rw [took_links] at registered
        split
        · rename_i registry recorded
          exact .heartbeat link stamp named nodeId metrics rest registry reads registered recorded
        · rename_i error refused
          exact .dropHeartbeat link stamp named nodeId metrics rest reads registered
            (NodeRegistry.recordHeartbeat_error refused)
  | dataHeld named datasets =>
      dsimp only [receive]
      split
      · exact reads.turnedAway
      · rename_i nodeId known
        rw [took_links] at known
        rw [turn_took]
        exact .turn link _ _ (.hold stamp named nodeId datasets rest reads known)
  | dataEvicted named dataIds =>
      dsimp only [receive]
      split
      · exact reads.turnedAway
      · rename_i nodeId known
        rw [took_links] at known
        rw [turn_took]
        exact .turn link _ _ (.giveUp stamp named nodeId dataIds rest reads known)
  | pong nonce =>
      dsimp only [receive]
      split
      · exact reads.ignored
      · rename_i nodeId registered
        rw [took_links] at registered
        exact .pong link stamp nodeId nonce rest reads registered
  | taskCompleted result =>
      dsimp only [receive]
      split
      · exact reads.turnedAway
      · rename_i nodeId registered
        rw [took_links] at registered
        split
        · rename_i own
          subst own
          unfold State.complete
          split
          · rename_i call waited
            exact .complete link stamp result rest call reads registered waited
          · exact reads.ignored
        · exact reads.turnedAway
  | _ => exact reads.ignored

theorem proceed_step (moved : proceed setup state link = some after) :
    Step setup state (.proceed link) after := by
  dsimp only [proceed] at moved
  split at moved
  · rename_i nodeId here
    cases moved
    exact .forgetStale link nodeId here
  · rename_i nodeId here
    cases moved
    exact .attach link nodeId here
  · rename_i nodeId token here
    rw [push_eq] at moved
    cases writes : (state.links link).writing with
    | true =>
        rw [writes, if_pos rfl, Option.some.injEq, State.turn, State.queued, links_place,
          place_place] at moved
        rw [← moved]
        exact .turn link _ _ (.answer nodeId token _ here)
    | false =>
        rw [writes, if_neg Bool.false_ne_true] at moved
        cases moved
        exact .turn link _ _ (.unanswered nodeId token here)
  · rename_i nodeId here
    cases moved
    exact .join link nodeId here
  · rename_i nodeId descriptor rest here
    cases moved
    exact .record link nodeId descriptor rest here
  · rename_i nodeId here
    cases moved
    exact .turn link _ _ (.recorded nodeId here)
  · rename_i nodeId dataId rest here
    cases moved
    exact .evictData link nodeId dataId rest here
  · rename_i nodeId here
    cases moved
    exact .turn link _ _ (.evicted nodeId here)
  · rename_i here
    split at moved
    · rename_i nodeId registered
      cases moved
      exact .detach link nodeId here registered
    · rename_i unregistered
      cases moved
      exact .turn link _ _ (.leave here unregistered)
  · rename_i nodeId here
    cases moved
    exact .forgetLink link nodeId here
  · cases moved

theorem evict_step (moved : evict state = some after) : Step setup state .evict after := by
  unfold evict at moved
  split at moved
  · rename_i nodeId rest here
    cases moved
    exact .remove nodeId rest here
  · rename_i here
    cases moved
    exact .passed here
  · rename_i nodeId rest here
    cases moved
    exact .evictDetach nodeId rest here
  · rename_i nodeId rest here
    cases moved
    exact .evictForget nodeId rest here
  · cases moved

theorem send_spec (state : State) (nodeId : NodeId) (message : Message) :
    (∃ link, state.connections.senders nodeId = some link ∧ (state.links link).writing = true ∧
      state.send nodeId message = (state.queued link message, .ok link)) ∨
    ∃ error, state.send nodeId message = (state, .error error) := by
  unfold State.send
  cases found : state.connections.senders nodeId with
  | none => exact .inr ⟨_, rfl⟩
  | some link =>
      have pushed := @push_eq state link message
      cases writes : (state.links link).writing with
      | true =>
          rw [writes, if_pos rfl] at pushed
          exact .inl ⟨link, rfl, writes, by simp only [pushed]⟩
      | false =>
          rw [writes, if_neg Bool.false_ne_true] at pushed
          exact .inr ⟨_, by simp only [pushed]; rfl⟩

theorem sendBulk_spec (state : State) (nodeId : NodeId) (message : Message) :
    ∃ cursors,
      (∃ link, state.sendBulk nodeId message =
        (({ state with connections := { state.connections with nextChannel := cursors } }).queued link
          message, .ok link)) ∨
      ∃ error, state.sendBulk nodeId message =
        ({ state with connections := { state.connections with nextChannel := cursors } },
          .error error) := by
  unfold State.sendBulk
  rcases @Connections.rotate_spec state.connections nodeId with ⟨-, none⟩ | ⟨channel, -, cursors, some⟩
  · rw [none]
    refine ⟨state.connections.nextChannel, ?_⟩
    rcases send_spec state nodeId message with ⟨link, -, -, sent⟩ | ⟨error, refused⟩
    · exact .inl ⟨link, sent⟩
    · exact .inr ⟨error, refused⟩
  · rw [some]
    refine ⟨cursors, ?_⟩
    dsimp only
    rw [push_eq]
    split
    · rename_i taken
      split at taken
      · cases taken
        exact .inl ⟨channel, rfl⟩
      · cases taken
    · exact .inr ⟨_, rfl⟩

theorem assign_step {call : Nat} (moved : next setup state (.assign call) = some after) :
    Step setup state (.assign call) after := by
  dsimp only [next] at moved
  split at moved
  · rename_i nodeId task here
    rcases send_spec state nodeId (.taskAssignment nodeId task) with
      ⟨link, connected, -, sent⟩ | ⟨error, refused⟩
    · rw [sent] at moved
      cases moved
      exact .assign call nodeId task link here connected
    · rw [refused] at moved
      cases moved
      exact .calls call _ _ (.refuse nodeId task error here)
  · cases moved

theorem sendChunk_step {call : Nat} (moved : next setup state (.sendChunk call) = some after) :
    Step setup state (.sendChunk call) after := by
  dsimp only [next] at moved
  split at moved
  · rename_i nodeId dataId message rest here
    obtain ⟨cursors, ⟨link, sent⟩ | ⟨error, refused⟩⟩ := sendBulk_spec state nodeId message
    · rw [sent] at moved
      cases moved
      exact .sendChunk call nodeId dataId message rest link cursors here
    · rw [refused] at moved
      cases moved
      exact .refuseChunk call nodeId dataId message rest error cursors here
  · cases moved

theorem next_step (moved : next setup state event = some after) : Step setup state event after := by
  cases event with
  | accept link =>
      dsimp only [next] at moved
      split at moved
      · rename_i here
        cases moved
        exact .turn link _ _ (.accept here)
      · cases moved
  | arrive link message =>
      dsimp only [next] at moved
      split at moved
      · cases moved
      · rename_i here
        cases moved
        exact .arrive link message here
  | read link =>
      obtain ⟨stamp, message, rest, reads⟩ := read_reads moved
      rw [reads.next_eq] at moved
      cases moved
      exact receive_step reads
  | proceed link => exact proceed_step moved
  | lose link =>
      dsimp only [next] at moved
      split at moved
      · rename_i here
        cases moved
        exact .turn link _ _ (.lose here)
      · cases moved
  | write link =>
      dsimp only [next] at moved
      split at moved
      · rename_i message rest writes queued
        cases moved
        exact .turn link _ _ (.write message rest queued)
      · cases moved
  | failWrite link =>
      dsimp only [next] at moved
      split at moved
      · rename_i writes
        cases moved
        exact .failWrite link writes
      · cases moved
  | tick =>
      cases moved
      exact .tick
  | scan order =>
      dsimp only [next] at moved
      split at moved
      · rename_i ready
        cases moved
        exact .scan order ready.1 ready.2
      · cases moved
  | evict => exact evict_step moved
  | dispatch call nodeId task =>
      dsimp only [next] at moved
      split at moved
      · rename_i idle
        cases moved
        exact .dispatch call nodeId task idle
      · cases moved
  | assign call => exact assign_step moved
  | receive call =>
      dsimp only [next] at moved
      split at moved
      · rename_i nodeId task link since delivery here answered
        cases moved
        exact .calls call _ _ (.receive nodeId task link since delivery here answered)
      · cases moved
  | resultClosed call =>
      dsimp only [next] at moved
      split at moved
      · rename_i nodeId task link since here
        split at moved
        · rename_i gone
          cases moved
          exact .calls call _ _ (.closed nodeId task link since here gone.1 gone.2)
        · cases moved
      · cases moved
  | resultTimeout call =>
      dsimp only [next] at moved
      split at moved
      · rename_i nodeId task link since here
        split at moved
        · cases moved
          exact .calls call _ _ (.timeout nodeId task link since here)
        · cases moved
      · cases moved
  | forget call =>
      dsimp only [next] at moved
      split at moved
      · rename_i nodeId task error here
        cases moved
        exact .forget call nodeId task error here
      · cases moved
  | sendChunks call nodeId dataId chunks =>
      dsimp only [next] at moved
      split at moved
      · rename_i idle
        cases moved
        exact .sendChunks call nodeId dataId chunks idle
      · cases moved
  | sendChunk call => exact sendChunk_step moved
  | awaitData call =>
      dsimp only [next] at moved
      split at moved
      · rename_i nodeId dataId here
        split at moved
        · rename_i arrived
          cases moved
          exact .waits call _ _ (.ready nodeId dataId here arrived)
        · cases moved
      · cases moved
  | dataClosed call =>
      dsimp only [next] at moved
      split at moved
      · rename_i nodeId dataId here
        split at moved
        · rename_i gone
          cases moved
          exact .waits call _ _ (.closed nodeId dataId here gone.2)
        · cases moved
      · cases moved
  | dataTimeout call reason =>
      dsimp only [next] at moved
      split at moved
      · rename_i nodeId dataId here
        split at moved
        · cases moved
          exact .waits call _ _ (.timeout nodeId dataId reason here)
        · cases moved
      · cases moved
  | forgetData call =>
      dsimp only [next] at moved
      split at moved
      · rename_i nodeId dataId error here
        cases moved
        exact .forgetData call nodeId dataId error here
      · cases moved
  | expectPong nodeId nonce probe =>
      cases moved
      exact .expectPong nodeId nonce probe
  | forgetPong nodeId nonce =>
      cases moved
      exact .forgetPong nodeId nonce
  | record nodeId descriptor =>
      cases moved
      exact .credit nodeId descriptor
  | forgetNode nodeId =>
      cases moved
      exact .forgetNode nodeId

def openMesh : Setup where
  security := .openTo
  timeout := 2
  heartbeatTimeout := some 2
  channelToken := fun issued => String.ofList (List.replicate (issued + 1) 'x')

def described (nodeId : NodeId) : NodeDescription where
  id := nodeId
  labels := ∅
  hostname := "agent"
  address := "127.0.0.1:7001"
  cpuCores := 4
  bandwidthBytesPerSec := none
  latencyMs := none
  metrics := ⟨0, 0, 0⟩

def registers (link : Nat) (nodeId : NodeId) : List Event :=
  [.arrive link (.registerNode protocolVersion (described nodeId) none), .read link, .proceed link,
    .proceed link, .proceed link]

def helloTask : Task := Task.new ⟨0⟩ "echo" []

end AetherMesh.Server
