import AetherMesh.Controller.ClientRequests
import AetherMesh.Controller.Security
import AetherMesh.Library.Runs

/-!
Serving one client. `handle_client` reads a frame, answers it and reads the next. The client
sends bytes as it likes, closes its side or goes away; the gateway takes a command or has been
shut down, and what comes back on a reply channel is up to the dispatcher. Beside the code's own
variables the state keeps what has been read, sent and answered.
-/

namespace AetherMesh.ClientHandler

open Framing Dispatcher

inductive Taken
  | bad (message : String)
  | request (request : ClientRequest)
deriving DecidableEq

inductive Answer
  | published (descriptor : DataDescriptor)
  | nodes (nodes : List NodeSummary)
  | stats (response : ClientResponse)
  | recent (tasks : List FinishedTask)
  | result (result : Except DispatchError TaskResult)
  | flow (response : ClientResponse)

def respond : Command → Answer → Option ClientResponse
  | .read (.publish _) _, .published descriptor =>
      some (.published descriptor.id.display descriptor.sizeBytes)
  | .read .nodes _, .nodes nodes => some (.nodes nodes)
  | .read .stats _, .stats response => some response
  | .read (.recent _) _, .recent tasks => some (.recent tasks)
  | .submit _ _ _, .result result => some (submitResponse result)
  | .workflow _ _ _, .flow response => some response
  | _, _ => none

def dropped : Command → String
  | .read (.publish _) _ => "publish was dropped"
  | .read .nodes _ => "node listing was dropped"
  | .read .stats _ => "stats were dropped"
  | .read (.recent _) _ => "the task history was dropped"
  | .submit _ _ _ => "submission was dropped"
  | .workflow _ _ _ => "the workflow was dropped"

inductive Stage
  | reading
  | sending (command : Command)
  | awaiting (command : Command)
  | answering (response : ClientResponse)
  | returned
  | panicked

def Stage.isPanicked : Stage → Bool
  | .panicked => true
  | _ => false

theorem isPanicked_iff {stage : Stage} : stage.isPanicked = true ↔ stage = .panicked := by
  cases stage <;> simp [Stage.isPanicked]

/-- `ids` gives the ids of the tasks that are made for a frame. -/
structure Setup where
  security : SecurityConfig
  requests : SerdeJson ClientRequest
  base64 : String → Except String Bytes
  ids : Nat → Nat → TaskId

structure State where
  stage : Stage
  inbound : Bytes
  ended : Bool
  /-- How much of `inbound` has been read. -/
  offset : Nat
  authorized : Bool
  listening : Bool
  taken : List Taken
  sent : List (Nat × Command)
  /-- The responses given to `write_frame`, each with the frame it answers. -/
  answered : List (Nat × ClientResponse)

inductive Event
  | arrive (bytes : Bytes)
  | finish
  | leave
  | read
  | send (accepted : Bool)
  | reply (answer : Option Answer)
  | write

def Event.isOurs : Event → Bool
  | .send _ | .reply _ | .write => true
  | _ => false

def State.remaining (state : State) : Bytes := state.inbound.drop state.offset

def State.current (state : State) : Nat := state.taken.length - 1

def State.take (state : State) (taken : Taken) (rest : Bytes) : State :=
  { state with
    offset := state.inbound.length - rest.length
    taken := state.taken ++ [taken] }

section

variable (setup : Setup) (state : State)

def start : State where
  stage := .reading
  inbound := []
  ended := false
  offset := 0
  authorized := !setup.security.requiresAuth
  listening := true
  taken := []
  sent := []
  answered := []

def serveRequest (request : ClientRequest) : State :=
  match (prepare setup.base64 (setup.ids state.current) state.current request).run with
  | none => { state with stage := .panicked }
  | some (.error message) => { state with stage := .answering (.error message) }
  | some (.ok command) => { state with stage := .sending command }

def handle : ClientRequest → State
  | .hello token =>
      match setup.security.authorize token with
      | .ok _ =>
          { state with
            authorized := true
            stage := .answering (.welcome clientProtocolVersion) }
      | .error error => { state with stage := .answering (.error error.text) }
  | request =>
      if state.authorized then serveRequest setup state request
      else { state with stage := .answering (.error "send hello with a valid token first") }

def read : Option State :=
  match state.stage with
  | .reading =>
      if (lengthHeader.reading maxClientFrameBytes state.remaining).isShort && !state.ended then none
      else
        match readFrame setup.requests state.remaining with
        | (.ok (some request), rest) => some (handle setup (state.take (.request request) rest) request)
        | (.ok none, _) => some { state with stage := .returned }
        | (.error (.invalidData message), rest) =>
            some { state.take (.bad message) rest with stage := .answering (.error message) }
        | (.error _, _) => some { state with stage := .returned }
  | _ => none

def send (accepted : Bool) : Option State :=
  match state.stage with
  | .sending command =>
      if accepted then
        some { state with stage := .awaiting command, sent := state.sent ++ [(state.current, command)] }
      else some { state with stage := .answering (.error "controller is shutting down") }
  | _ => none

def reply (answer : Option Answer) : Option State :=
  match state.stage with
  | .awaiting command =>
      match answer with
      | none => some { state with stage := .answering (.error (dropped command)) }
      | some answer =>
          (respond command answer).map fun response => { state with stage := .answering response }
  | _ => none

def write : Option State :=
  match state.stage with
  | .answering response =>
      some { state with
        answered := state.answered ++ [(state.current, response)]
        stage := if state.listening then .reading else .returned }
  | _ => none

def next : Event → Option State
  | .arrive bytes => if state.ended then none else some { state with inbound := state.inbound ++ bytes }
  | .finish => some { state with ended := true }
  | .leave => some { state with listening := false }
  | .read => read setup state
  | .send accepted => send state accepted
  | .reply answer => reply state answer
  | .write => write state

end

def Setup.prepared (setup : Setup) (index : Nat) (request : ClientRequest) : Outcome Command :=
  prepare setup.base64 (setup.ids index) index request

/-- Everything a step can do. A request that is refused is a hello that is not accepted, one that
comes before it, or one that cannot be parsed. -/
inductive Step (setup : Setup) (state : State) : Event → State → Prop
  | arrive (bytes : Bytes) :
      Step setup state (.arrive bytes) { state with inbound := state.inbound ++ bytes }
  | finish : Step setup state .finish { state with ended := true }
  | leave : Step setup state .leave { state with listening := false }
  | readEnd (atRead : state.stage = .reading)
      (short : (lengthHeader.reading maxClientFrameBytes state.remaining).isShort = true) :
      Step setup state .read { state with stage := .returned }
  | readBad (message : String) (rest : Bytes) (atRead : state.stage = .reading)
      (found : readFrame setup.requests state.remaining = (.error (.invalidData message), rest)) :
      Step setup state .read
        { state.take (.bad message) rest with stage := .answering (.error message) }
  | readWelcome (token : Option String) (rest : Bytes) (atRead : state.stage = .reading)
      (found : readFrame setup.requests state.remaining = (.ok (some (.hello token)), rest))
      (accepted : setup.security.authorize token = .ok ()) :
      Step setup state .read
        { state.take (.request (.hello token)) rest with
          authorized := true
          stage := .answering (.welcome clientProtocolVersion) }
  | readRefused (request : ClientRequest) (rest : Bytes) (message : String)
      (atRead : state.stage = .reading)
      (found : readFrame setup.requests state.remaining = (.ok (some request), rest))
      (hello : ∀ token, request = .hello token →
        ∃ error, setup.security.authorize token = .error error ∧ message = error.text)
      (calm : state.authorized = true → ¬ (setup.prepared state.taken.length request).Panics) :
      Step setup state .read
        { state.take (.request request) rest with stage := .answering (.error message) }
  | readServed (request : ClientRequest) (rest : Bytes) (command : Command)
      (atRead : state.stage = .reading)
      (found : readFrame setup.requests state.remaining = (.ok (some request), rest))
      (authorized : state.authorized = true) (other : ∀ token, request ≠ .hello token)
      (prepared : (setup.prepared state.taken.length request).Yields command) :
      Step setup state .read { state.take (.request request) rest with stage := .sending command }
  | readPanics (request : ClientRequest) (rest : Bytes) (atRead : state.stage = .reading)
      (found : readFrame setup.requests state.remaining = (.ok (some request), rest))
      (authorized : state.authorized = true)
      (panics : (setup.prepared state.taken.length request).Panics) :
      Step setup state .read { state.take (.request request) rest with stage := .panicked }
  | send (command : Command) (atSend : state.stage = .sending command) :
      Step setup state (.send true) { state with
        stage := .awaiting command
        sent := state.sent ++ [(state.current, command)] }
  | respond (event : Event) (response : ClientResponse) (command : Command)
      (waiting : state.stage = .sending command ∨ state.stage = .awaiting command)
      (ours : event.isOurs = true) :
      Step setup state event { state with stage := .answering response }
  | write (response : ClientResponse) (atWrite : state.stage = .answering response) :
      Step setup state .write { state with
        answered := state.answered ++ [(state.current, response)]
        stage := if state.listening then .reading else .returned }

section

variable {setup : Setup} {state after : State} {event : Event}

theorem serveRequest_step {request : ClientRequest} {rest : Bytes} (atRead : state.stage = .reading)
    (found : readFrame setup.requests state.remaining = (.ok (some request), rest))
    (authorized : state.authorized = true) (other : ∀ token, request ≠ .hello token) :
    Step setup state .read (serveRequest setup (state.take (.request request) rest) request) := by
  have current : (state.take (.request request) rest).current = state.taken.length := by
    simp [State.current, State.take]
  unfold serveRequest
  rw [current]
  split
  · rename_i panics
    exact .readPanics request rest atRead found authorized panics
  · rename_i message failed
    refine .readRefused request rest message atRead found ?_ ?_
    · exact fun token same => absurd same (other token)
    · intro _ panics
      exact absurd (failed.symm.trans panics) (by simp)
  · rename_i command prepared
    exact .readServed request rest command atRead found authorized other prepared

theorem handle_step {request : ClientRequest} {rest : Bytes} (atRead : state.stage = .reading)
    (found : readFrame setup.requests state.remaining = (.ok (some request), rest)) :
    Step setup state .read (handle setup (state.take (.request request) rest) request) := by
  unfold handle
  split
  · rename_i token
    split
    · rename_i accepted
      exact .readWelcome token rest atRead found accepted
    · rename_i error refused
      refine .readRefused (.hello token) rest error.text atRead found ?_ fun _ => Outcome.panics_of
      intro other same
      obtain rfl := ClientRequest.hello.inj same
      exact ⟨error, refused, rfl⟩
  · rename_i other
    split
    · rename_i authorized
      exact serveRequest_step atRead found authorized other
    · rename_i stranger
      refine .readRefused request rest _ atRead found ?_ fun authorized => absurd authorized stranger
      exact fun token same => absurd same (other token)

theorem read_step (moved : read setup state = some after) : Step setup state .read after := by
  unfold read at moved
  split at moved
  · rename_i atRead
    split at moved
    · cases moved
    · split at moved
      · rename_i request rest found
        cases moved
        exact handle_step atRead found
      · rename_i rest found
        cases moved
        exact .readEnd atRead (readFrame_short found (by simp) (by simp))
      · rename_i message rest found
        cases moved
        exact .readBad message rest atRead found
      · rename_i error rest other found
        cases moved
        refine .readEnd atRead (readFrame_short found (by simp) ?_)
        intro message same
        exact other message (Except.error.inj same)
  · cases moved

theorem send_step {accepted : Bool} (moved : send state accepted = some after) :
    Step setup state (.send accepted) after := by
  unfold send at moved
  split at moved
  · rename_i command atSend
    cases accepted with
    | true =>
        cases moved
        exact .send command atSend
    | false =>
        cases moved
        exact .respond _ _ command (.inl atSend) rfl
  · cases moved

theorem reply_step {answer : Option Answer} (moved : reply state answer = some after) :
    Step setup state (.reply answer) after := by
  unfold reply at moved
  split at moved
  · rename_i command atReply
    split at moved
    · cases moved
      exact .respond _ _ command (.inr atReply) rfl
    · obtain ⟨response, -, rfl⟩ := Option.map_eq_some_iff.mp moved
      exact .respond _ response command (.inr atReply) rfl
  · cases moved

theorem write_step (moved : write state = some after) : Step setup state .write after := by
  unfold write at moved
  split at moved
  · rename_i response atWrite
    cases moved
    exact .write response atWrite
  · cases moved

theorem next_step (moved : next setup state event = some after) : Step setup state event after := by
  cases event with
  | arrive bytes =>
      simp only [next] at moved
      split at moved
      · cases moved
      · cases moved
        exact .arrive bytes
  | finish =>
      cases moved
      exact .finish
  | leave =>
      cases moved
      exact .leave
  | read => exact read_step moved
  | send accepted => exact send_step moved
  | reply answer => exact reply_step moved
  | write => exact write_step moved

end

end AetherMesh.ClientHandler
