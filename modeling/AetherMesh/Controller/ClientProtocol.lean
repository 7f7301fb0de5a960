import AetherMesh.Controller.Flow
import AetherMesh.Core.Node
import AetherMesh.Protocol.NetFrames

/-!
What clients ask for and are answered, and the frames it travels in: a length of four bytes
and one JSON object. The controller reads requests with `readFrame` and answers with
`writeFrame`; the client's `exchange` does both the other way round. Floats that a response
reports are taken exactly.
-/

namespace AetherMesh

open Framing

structure TaskRequest where
  kind : String
  payload : String
  inputs : List String
  constraints : List String
  priority : Option String
  wasmModule : Option String
deriving DecidableEq

structure Submission extends TaskRequest where
  timeoutMs : Option Nat
deriving DecidableEq

structure WorkflowStep extends TaskRequest where
  dependsOn : List Nat
deriving DecidableEq

inductive ClientRequest
  | hello (token : Option String)
  | publish (data : String)
  | submit (submission : Submission)
  | workflow (steps : List WorkflowStep) (run : Option String)
  | nodes
  | recent (limit : Option Nat)
  | stats
deriving DecidableEq

structure StepOutcome where
  step : Nat
  nodeId : String
  success : Bool
  output : String
  durationMs : ℚ
  error : Option String
deriving DecidableEq

structure FinishedTask where
  taskId : String
  kind : String
  nodeId : String
  success : Bool
  durationMs : ℚ
  outputBytes : Nat
  preview : String
  secondsAgo : ℚ
deriving DecidableEq

structure NodeSummary where
  nodeId : String
  hostname : String
  cpuCores : Nat
  cpuUsage : BitVec 32
  memoryUsage : BitVec 32
  labels : Labels
  address : String
  latencyMs : Option (BitVec 32)
  bandwidthBytesPerSec : Option Nat
  datasetsHeld : Nat
  bytesHeld : Nat
  connected : Bool
deriving DecidableEq

structure TrafficSummary where
  bytesSent : Nat
  bytesUncompressed : Nat
  bytesSavedByCompression : Nat
  compressionRatio : ℚ
  transfersSkipped : Nat
  chunksSkipped : Nat
  retries : Nat
deriving DecidableEq

structure MetricsSnapshot where
  nodesRegistered : Nat
  registrationsRejected : Nat
  nodesDisconnected : Nat
  nodesEvicted : Nat
  heartbeats : Nat
  tasksCompleted : Nat
  tasksFailed : Nat
  messagesReceived : Nat
deriving DecidableEq

structure QueueSnapshot where
  depth : Nat
  dequeued : Nat
  refused : Nat
  expired : Nat
  meanWaitMs : ℚ
  longestWaitMs : Nat
deriving DecidableEq

inductive ClientResponse
  | welcome (protocol : Nat)
  | published (dataId : String) (sizeBytes : Nat)
  | result (taskId nodeId : String) (success : Bool) (output : String) (durationMs : ℚ)
      (error : Option String)
  | nodes (nodes : List NodeSummary)
  | workflow (steps : List StepOutcome) (skipped resumed : List Nat) (success : Bool)
  | recent (tasks : List FinishedTask)
  | stats (traffic : TrafficSummary) (mesh : MetricsSnapshot) (queue : QueueSnapshot)
      (nodes nodesConnected datasets datasetBytes : Nat)
  | error (message : String)
deriving DecidableEq

def clientProtocolVersion : Nat := 1

def NodeId.display (nodeId : NodeId) : String := String.ofList (uuidText nodeId.uuid)

def TaskId.display (taskId : TaskId) : String := String.ofList (uuidText taskId.uuid)

def DispatchError.display : DispatchError → String
  | .noNodeAvailable taskId => "no node available for task " ++ taskId.display
  | .unreachable nodeId reason => "node " ++ nodeId.display ++ " is not reachable: " ++ reason
  | .timeout nodeId taskId =>
      "node " ++ nodeId.display ++ " did not return a result for task " ++ taskId.display ++ " in time"
  | .unknownInput dataId =>
      "task input " ++ dataId.display ++ " was never published to the controller"
  | .queueFull taskId => "the queue is full; task " ++ taskId.display ++ " was not accepted"
  | .queueTimeout taskId waitedMs =>
      "task " ++ taskId.display ++ " waited " ++ toString waitedMs ++ " ms for a node and gave up"

def WorkflowError.display : WorkflowError → String
  | .empty => "a workflow needs at least one step"
  | .unknownDependency step missing =>
      "step " ++ toString step ++ " depends on step " ++ toString missing ++ ", which does not exist"
  | .selfDependency step => "step " ++ toString step ++ " depends on itself"
  | .cycle stuck =>
      "steps " ++ " -> ".intercalate (stuck.map toString) ++
        " form a cycle; a workflow has to finish"

def CheckpointError.display : CheckpointError → String
  | .io path source => "checkpoint file " ++ path ++ ": " ++ source
  | .fingerprint run recorded submitted =>
      "run " ++ run ++ " was recorded against a different workflow (recorded " ++ recorded ++
        ", submitted " ++ submitted ++
        "); use a new run name, or resubmit the workflow it was recorded with"

def FlowError.display : FlowError → String
  | .invalid error => error.display
  | .dispatch step source => "step " ++ toString step ++ " could not be placed: " ++ source.display
  | .checkpoint error => error.display
  | .lost step reason => "step " ++ toString step ++ " did not finish: " ++ reason

def base64Char (value : Nat) : Char :=
  "ABCDEFGHIJKLMNOPQRSTUVWXYZabcdefghijklmnopqrstuvwxyz0123456789+/".toList.getD (value % 64) '='

def base64Chars : Bytes → List Char
  | [] => []
  | [first] => [base64Char (first.toNat / 4), base64Char (first.toNat * 16), '=', '=']
  | [first, second] =>
      [base64Char (first.toNat / 4), base64Char (first.toNat * 16 + second.toNat / 16),
        base64Char (second.toNat * 4), '=']
  | first :: second :: third :: rest =>
      base64Char (first.toNat / 4) :: base64Char (first.toNat * 16 + second.toNat / 16) ::
        base64Char (second.toNat * 4 + third.toNat / 64) :: base64Char third.toNat ::
          base64Chars rest

def base64Encode (bytes : Bytes) : String := String.ofList (base64Chars bytes)

def TaskResult.failure (result : TaskResult) : Option String :=
  match result.outcome with
  | .failure message => some message
  | .success _ => none

def TaskResult.encodedOutput (result : TaskResult) : String :=
  base64Encode (result.output.getD [])

def TaskResult.durationMs (result : TaskResult) : ℚ := result.duration / 10 ^ 6

def submitResponse : Except DispatchError TaskResult → ClientResponse
  | .ok result =>
      .result result.taskId.display result.nodeId.display result.isSuccess result.encodedOutput
        result.durationMs result.failure
  | .error error => .error error.display

def flowResponse : Except FlowError FlowResult → ClientResponse
  | .ok flow =>
      .workflow
        ((flow.results.zip flow.stepsRun).map fun entry =>
          { step := entry.2
            nodeId := entry.1.nodeId.display
            success := entry.1.isSuccess
            output := entry.1.encodedOutput
            durationMs := entry.1.durationMs
            error := entry.1.failure })
        flow.skipped flow.resumed flow.isSuccess
  | .error error => .error error.display

structure SerdeJson (T : Type) where
  toVec : T → Except String Bytes
  fromSlice : Bytes → Except String T

def SerdeJson.Undoes {T : Type} (json : SerdeJson T) : Prop :=
  ∀ value payload, json.toVec value = .ok payload → json.fromSlice payload = .ok value

/-- As much of `serde_json` as is needed for some values. -/
def SerdeJson.table {T : Type} [DecidableEq T] (known : List (T × Bytes)) : SerdeJson T where
  toVec value :=
    match known.find? fun entry => entry.1 = value with
    | some entry => .ok entry.2
    | none => .error "other"
  fromSlice payload :=
    match known.find? fun entry => entry.2 = payload with
    | some entry => .ok entry.1
    | none => .error "other"

theorem SerdeJson.table_undoes {T : Type} [DecidableEq T] {known : List (T × Bytes)}
    (distinct : ∀ left ∈ known, ∀ right ∈ known, left.2 = right.2 → left = right) :
    (SerdeJson.table known).Undoes := by
  intro value payload encoded
  unfold table at encoded ⊢
  dsimp only at encoded ⊢
  split at encoded
  · rename_i entry found
    obtain rfl := Except.ok.inj encoded
    have listed := List.mem_of_find?_eq_some found
    have same : entry.1 = value := by simpa using List.find?_some found
    cases also : known.find? fun other => other.2 = entry.2 with
    | none =>
        have missing := List.find?_eq_none.mp also entry listed
        simp at missing
    | some other =>
        have bytes : other.2 = entry.2 := by simpa using List.find?_some also
        have equal := distinct other (List.mem_of_find?_eq_some also) entry listed bytes
        simp only [equal, same]
  · cases encoded

theorem SerdeJson.table_fromSlice {T : Type} [DecidableEq T] {known : List (T × Bytes)}
    {payload : Bytes} {value : T} (decoded : (SerdeJson.table known).fromSlice payload = .ok value) :
    value ∈ known.map Prod.fst := by
  unfold table at decoded
  dsimp only at decoded
  split at decoded
  · rename_i entry found
    obtain rfl := Except.ok.inj decoded
    exact List.mem_map_of_mem (List.mem_of_find?_eq_some found)
  · cases decoded

theorem SerdeJson.table_toVec {T : Type} [DecidableEq T] (value : T) (payload : Bytes) :
    (SerdeJson.table [(value, payload)]).toVec value = .ok payload := by
  simp [table]

inductive IoError
  | invalidData (message : String)
  | unexpectedEof
  | brokenPipe
deriving DecidableEq

inductive ConnectionError
  | timeout
  | io (error : IoError)
  | json (message : String)
  | frameTooLarge (length : Nat)
deriving DecidableEq

variable {T : Type}

def tooLarge (length : Nat) : String :=
  "frame of " ++ toString length ++ " bytes exceeds the " ++ toString maxClientFrameBytes ++
    " byte limit"

/-- The outcome and what is left of the stream. A stream that ends before a length is complete is
a client that hung up. -/
def readFrame (json : SerdeJson T) (stream : Bytes) : Except IoError (Option T) × Bytes :=
  match lengthHeader.reading maxClientFrameBytes stream with
  | .noHeader => (.ok none, [])
  | .tooLong length rest => (.error (.invalidData (tooLarge length)), rest)
  | .noBody _ => (.error .unexpectedEof, [])
  | .body payload rest =>
      match json.fromSlice payload with
      | .ok value => (.ok (some value), rest)
      | .error reason => (.error (.invalidData reason), rest)

theorem readFrame_some {json : SerdeJson T} {stream rest : Bytes} {value : T}
    (read : readFrame json stream = (.ok (some value), rest)) :
    ∃ payload, lengthHeader.reading maxClientFrameBytes stream = .body payload rest ∧
      json.fromSlice payload = .ok value := by
  unfold readFrame at read
  split at read
  · cases read
  · cases read
  · cases read
  · rename_i payload left found
    split at read
    · rename_i decoded
      cases read
      exact ⟨payload, found, decoded⟩
    · cases read

theorem readFrame_invalid {json : SerdeJson T} {stream rest : Bytes} {message : String}
    (read : readFrame json stream = (.error (.invalidData message), rest)) :
    (∃ length, lengthHeader.reading maxClientFrameBytes stream = .tooLong length rest ∧
      message = tooLarge length) ∨
    ∃ payload, lengthHeader.reading maxClientFrameBytes stream = .body payload rest ∧
      json.fromSlice payload = .error message := by
  unfold readFrame at read
  split at read
  · cases read
  · rename_i length left found
    cases read
    exact .inl ⟨length, found, rfl⟩
  · cases read
  · rename_i payload left found
    split at read
    · cases read
    · rename_i refused
      cases read
      exact .inr ⟨payload, found, refused⟩

/-- Neither a value nor a bad frame is read of a stream that breaks off. -/
theorem readFrame_short {json : SerdeJson T} {stream rest : Bytes}
    {outcome : Except IoError (Option T)} (read : readFrame json stream = (outcome, rest))
    (nothing : ∀ value, outcome ≠ .ok (some value))
    (valid : ∀ message, outcome ≠ .error (.invalidData message)) :
    (lengthHeader.reading maxClientFrameBytes stream).isShort = true := by
  unfold readFrame at read
  split at read
  · rename_i found
    rw [found]
    rfl
  · cases read
    exact absurd rfl (valid _)
  · rename_i found
    rw [found]
    rfl
  · split at read
    · cases read
      exact absurd rfl (nothing _)
    · cases read
      exact absurd rfl (valid _)

/-- Of what is written, only whether all of it could be is kept. -/
def writeFrame (json : SerdeJson T) (stream : Stream) (value : T) : Stream × Except IoError Unit :=
  match json.toVec value with
  | .error reason => (stream, .error (.invalidData reason))
  | .ok payload =>
      if stream.up then
        ({ stream with written := stream.written ++ lengthPrefix payload.length ++ payload }, .ok ())
      else (stream, .error .brokenPipe)

def readReply (json : SerdeJson T) (stream : Bytes) : Except ConnectionError T × Bytes :=
  match lengthHeader.reading maxClientFrameBytes stream with
  | .noHeader => (.error (.io .unexpectedEof), [])
  | .tooLong length rest => (.error (.frameTooLarge length), rest)
  | .noBody _ => (.error (.io .unexpectedEof), [])
  | .body body rest =>
      match json.fromSlice body with
      | .ok value => (.ok value, rest)
      | .error reason => (.error (.json reason), rest)

/-- `incoming` is what the controller sends back until the connection ends. -/
def exchange (requests : SerdeJson ClientRequest) (responses : SerdeJson ClientResponse)
    (stream : Stream) (incoming : Bytes) (request : ClientRequest) :
    Stream × Except ConnectionError ClientResponse × Bytes :=
  match requests.toVec request with
  | .error reason => (stream, .error (.json reason), incoming)
  | .ok payload =>
      if stream.up then
        ({ stream with written := stream.written ++ lengthPrefix payload.length ++ payload },
          readReply responses incoming)
      else (stream, .error (.io .brokenPipe), incoming)

end AetherMesh
