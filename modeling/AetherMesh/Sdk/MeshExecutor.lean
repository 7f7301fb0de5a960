import AetherMesh.Core.Data
import AetherMesh.Library.Counting
import AetherMesh.Library.Runs

/-!
The pool of the Python client. `submit` puts a job into the queue, each worker takes
items from it until it takes a stop, and `shutdown` may be called by several threads,
each at its own place in it. The labels are the steps of all these threads, in any
order, and `cancel` on a future by whoever has it.
-/

namespace AetherMesh.MeshExecutor

structure MeshTask where
  kind : String
  moduleId : Option String
  inputs : List String
  constraints : List String
deriving DecidableEq

structure Job where
  task : MeshTask
  payload : Bytes
deriving DecidableEq

inductive Error
  | aetherMesh (message : String)
  | os (message : String)
  | other (message : String)
deriving DecidableEq

/-- What a request over the connection comes to: the `TaskResult`, or what is raised. -/
inductive Reply
  | result (success : Bool) (output : Bytes) (error : Option String)
  | raised (error : Error)
deriving DecidableEq

/-- The request that `_run` makes; with a module it is `run_wasm`, without one `run`. -/
def request (job : Job) : MeshTask × Bytes :=
  match job.task.moduleId with
  | some _ => ({ job.task with kind := "wasm" }, job.payload)
  | none => (job.task, job.payload)

def message (error : Option String) : String :=
  match error with
  | some text => if text = "" then "the task failed on the node" else text
  | none => "the task failed on the node"

def runReply : Reply → Except Error Bytes
  | .result true output _ => .ok output
  | .result false _ error => .error (.aetherMesh (message error))
  | .raised error => .error error

inductive Future
  | pending
  | running
  | cancelled
  | cancelledAndNotified
  | finished (outcome : Except Error Bytes)
deriving DecidableEq

namespace Future

def cancel : Future → Future
  | .pending => .cancelled
  | future => future

/-- `none` is the `RuntimeError` of a future in an unexpected state. -/
def setRunningOrNotifyCancel : Future → Option (Future × Bool)
  | .pending => some (.running, true)
  | .cancelled => some (.cancelledAndNotified, false)
  | _ => none

/-- `set_result` and `set_exception`. `none` is the `InvalidStateError`. -/
def set (outcome : Except Error Bytes) : Future → Option Future
  | .pending => some (.finished outcome)
  | .running => some (.finished outcome)
  | _ => none

def done : Future → Bool
  | .pending => false
  | .running => false
  | _ => true

def unstarted : Future → Bool
  | .pending => true
  | .cancelled => true
  | _ => false

end Future

inductive Item
  | job (index : Nat)
  | stop
deriving DecidableEq

/-- A worker owns a connection or none. `ended true` is a thread that an exception ended. -/
inductive Worker
  | waiting (connected : Bool)
  | holding (index : Nat) (connected : Bool)
  | running (index : Nat) (connected : Bool)
  | ended (crashed : Bool)
deriving DecidableEq

/-- A call of `shutdown`. `first` is a call that found the executor open. -/
inductive Caller
  | draining (first wait : Bool)
  | cancelling (index : Nat) (first wait : Bool)
  | replacing (first wait : Bool)
  | putting (left : Nat) (wait : Bool)
  | returned
deriving DecidableEq

structure State where
  queue : List Item
  shutdown : Bool
  jobs : List Job
  futures : Nat → Future
  workers : Nat → Worker
  callers : Nat → Caller
  called : Nat
  opened : Nat
  closed : Nat

inductive Event
  | submit (job : Job)
  | cancel (index : Nat)
  | shutdown (wait cancelFutures : Bool)
  | take (worker : Nat)
  | begin (worker : Nat)
  | connect (worker : Nat) (error : Option Error)
  | reply (worker : Nat) (reply : Reply)
  | drain (caller : Nat)
  | drained (caller : Nat)
  | put (caller : Nat)
  | join (caller : Nat)
deriving DecidableEq

def start : State where
  queue := []
  shutdown := false
  jobs := []
  futures := fun _ => .pending
  workers := fun _ => .waiting false
  callers := fun _ => .returned
  called := 0
  opened := 0
  closed := 0

def submit (state : State) (job : Job) : State :=
  if state.shutdown then state
  else { state with
    queue := state.queue ++ [.job state.jobs.length]
    jobs := state.jobs ++ [job] }

def cancel (state : State) (index : Nat) : State :=
  { state with futures := Function.update state.futures index (state.futures index).cancel }

def stopsOwed (maxWorkers : Nat) (first : Bool) : Nat := if first then maxWorkers else 0

def enter (maxWorkers : Nat) (state : State) (wait cancelFutures : Bool) : State :=
  let first := !state.shutdown
  let caller : Caller := if cancelFutures then .draining first wait
    else .putting (stopsOwed maxWorkers first) wait
  { state with
    shutdown := true
    callers := Function.update state.callers state.called caller
    called := state.called + 1 }

def setWorker (state : State) (worker : Nat) (standing : Worker) : State :=
  { state with workers := Function.update state.workers worker standing }

def setCaller (state : State) (caller : Nat) (standing : Caller) : State :=
  { state with callers := Function.update state.callers caller standing }

def setFuture (state : State) (index : Nat) (future : Future) : State :=
  { state with futures := Function.update state.futures index future }

def take (state : State) (worker : Nat) : Option State :=
  match state.workers worker, state.queue with
  | .waiting connected, .stop :: rest =>
      some (setWorker { state with queue := rest, closed := state.closed + connected.toNat } worker
        (.ended false))
  | .waiting connected, .job index :: rest =>
      some (setWorker { state with queue := rest } worker (.holding index connected))
  | _, _ => none

def crash (state : State) (worker : Nat) (connected : Bool) : State :=
  setWorker { state with closed := state.closed + connected.toNat } worker (.ended true)

def begin (state : State) (worker : Nat) : Option State :=
  match state.workers worker with
  | .holding index connected =>
      match (state.futures index).setRunningOrNotifyCancel with
      | none => some (crash state worker connected)
      | some (future, true) =>
          some (setWorker (setFuture state index future) worker (.running index connected))
      | some (future, false) =>
          some (setWorker (setFuture state index future) worker (.waiting connected))
  | _ => none

def connect (state : State) (worker : Nat) (error : Option Error) : Option State :=
  match state.workers worker with
  | .running index false =>
      match error with
      | none => some (setWorker { state with opened := state.opened + 1 } worker (.running index true))
      | some error =>
          match (state.futures index).set (.error error) with
          | none => some (crash state worker false)
          | some future => some (setWorker (setFuture state index future) worker (.waiting false))
  | _ => none

/-- The connection is kept unless the error is an `OSError` or an `AetherMeshError`. -/
def keeps : Except Error Bytes → Bool
  | .ok _ => true
  | .error (.other _) => true
  | .error _ => false

/-- After a failed `set_result` the `set_exception` fails as well, and the worker ends. -/
def reply (state : State) (worker : Nat) (reply : Reply) : Option State :=
  match state.workers worker with
  | .running index true =>
      let outcome := runReply reply
      match (state.futures index).set outcome with
      | none => some (crash state worker true)
      | some future =>
          some (setWorker (setFuture { state with closed := state.closed + (!keeps outcome).toNat }
            index future) worker (.waiting (keeps outcome)))
  | _ => none

def drain (maxWorkers : Nat) (state : State) (caller : Nat) : Option State :=
  match state.callers caller, state.queue with
  | .draining first wait, [] =>
      some (setCaller state caller (.putting (stopsOwed maxWorkers first) wait))
  | .draining first wait, .stop :: rest =>
      some (setCaller { state with queue := rest } caller (.replacing first wait))
  | .draining first wait, .job index :: rest =>
      some (setCaller { state with queue := rest } caller (.cancelling index first wait))
  | _, _ => none

def drained (maxWorkers : Nat) (state : State) (caller : Nat) : Option State :=
  match state.callers caller with
  | .cancelling index first wait => some (setCaller (cancel state index) caller (.draining first wait))
  | .replacing first wait =>
      some (setCaller { state with queue := state.queue ++ [.stop] } caller
        (.putting (stopsOwed maxWorkers first) wait))
  | _ => none

def put (state : State) (caller : Nat) : Option State :=
  match state.callers caller with
  | .putting (left + 1) wait =>
      some (setCaller { state with queue := state.queue ++ [.stop] } caller (.putting left wait))
  | _ => none

def Worker.hasEnded : Worker → Bool
  | .ended _ => true
  | _ => false

def join (maxWorkers : Nat) (state : State) (caller : Nat) : Option State :=
  match state.callers caller with
  | .putting 0 wait =>
      if wait = true → ∀ worker < maxWorkers, (state.workers worker).hasEnded = true then
        some (setCaller state caller .returned)
      else none
  | _ => none

def next (maxWorkers : Nat) (state : State) : Event → Option State
  | .submit job => some (submit state job)
  | .cancel index => if index < state.jobs.length then some (cancel state index) else none
  | .shutdown wait cancelFutures => some (enter maxWorkers state wait cancelFutures)
  | .take worker => if worker < maxWorkers then take state worker else none
  | .begin worker => if worker < maxWorkers then begin state worker else none
  | .connect worker error => if worker < maxWorkers then connect state worker error else none
  | .reply worker answer => if worker < maxWorkers then reply state worker answer else none
  | .drain caller => if caller < state.called then drain maxWorkers state caller else none
  | .drained caller => if caller < state.called then drained maxWorkers state caller else none
  | .put caller => if caller < state.called then put state caller else none
  | .join caller => if caller < state.called then join maxWorkers state caller else none

section

variable {maxWorkers : Nat} {state after : State} {event : Event}

/-- The worker has a job whose future is not in the state that the next call on it needs. -/
def Misfit (state : State) (worker : Nat) : Prop :=
  (∃ index connected, state.workers worker = .holding index connected ∧
    (state.futures index).unstarted = false) ∨
  ∃ index connected, state.workers worker = .running index connected ∧
    (state.futures index).done = true

inductive Moves (maxWorkers : Nat) (state after : State) : Event → Prop
  | refused (job) : state.shutdown = true → after = state → Moves maxWorkers state after (.submit job)
  | submitted (job) : state.shutdown = false →
      after = { state with
        queue := state.queue ++ [.job state.jobs.length]
        jobs := state.jobs ++ [job] } →
      Moves maxWorkers state after (.submit job)
  | cancelled (index) : index < state.jobs.length → after = cancel state index →
      Moves maxWorkers state after (.cancel index)
  | entered (wait cancelFutures) : after = enter maxWorkers state wait cancelFutures →
      Moves maxWorkers state after (.shutdown wait cancelFutures)
  | stopped (worker connected rest) : worker < maxWorkers →
      state.workers worker = .waiting connected → state.queue = .stop :: rest →
      after = setWorker { state with queue := rest, closed := state.closed + connected.toNat } worker
        (.ended false) →
      Moves maxWorkers state after (.take worker)
  | taken (worker connected index rest) : worker < maxWorkers →
      state.workers worker = .waiting connected → state.queue = .job index :: rest →
      after = setWorker { state with queue := rest } worker (.holding index connected) →
      Moves maxWorkers state after (.take worker)
  | begun (worker index connected) : worker < maxWorkers →
      state.workers worker = .holding index connected → state.futures index = .pending →
      after = setWorker (setFuture state index .running) worker (.running index connected) →
      Moves maxWorkers state after (.begin worker)
  | notified (worker index connected) : worker < maxWorkers →
      state.workers worker = .holding index connected → state.futures index = .cancelled →
      after = setWorker (setFuture state index .cancelledAndNotified) worker (.waiting connected) →
      Moves maxWorkers state after (.begin worker)
  | connected (worker index) : worker < maxWorkers →
      state.workers worker = .running index false →
      after = setWorker { state with opened := state.opened + 1 } worker (.running index true) →
      Moves maxWorkers state after (.connect worker none)
  | unconnected (worker index error) : worker < maxWorkers →
      state.workers worker = .running index false → (state.futures index).done = false →
      after = setWorker (setFuture state index (.finished (.error error))) worker (.waiting false) →
      Moves maxWorkers state after (.connect worker (some error))
  | replied (worker index answer) : worker < maxWorkers →
      state.workers worker = .running index true → (state.futures index).done = false →
      after = setWorker (setFuture
        { state with closed := state.closed + (!keeps (runReply answer)).toNat } index
        (.finished (runReply answer))) worker (.waiting (keeps (runReply answer))) →
      Moves maxWorkers state after (.reply worker answer)
  | crashed (event worker) : worker < maxWorkers → Misfit state worker →
      Moves maxWorkers state after event
  | emptied (caller first wait) : caller < state.called →
      state.callers caller = .draining first wait → state.queue = [] →
      after = setCaller state caller (.putting (stopsOwed maxWorkers first) wait) →
      Moves maxWorkers state after (.drain caller)
  | drewStop (caller first wait rest) : caller < state.called →
      state.callers caller = .draining first wait → state.queue = .stop :: rest →
      after = setCaller { state with queue := rest } caller (.replacing first wait) →
      Moves maxWorkers state after (.drain caller)
  | drewJob (caller first wait index rest) : caller < state.called →
      state.callers caller = .draining first wait → state.queue = .job index :: rest →
      after = setCaller { state with queue := rest } caller (.cancelling index first wait) →
      Moves maxWorkers state after (.drain caller)
  | dropped (caller index first wait) : caller < state.called →
      state.callers caller = .cancelling index first wait →
      after = setCaller (cancel state index) caller (.draining first wait) →
      Moves maxWorkers state after (.drained caller)
  | replaced (caller first wait) : caller < state.called →
      state.callers caller = .replacing first wait →
      after = setCaller { state with queue := state.queue ++ [.stop] } caller
        (.putting (stopsOwed maxWorkers first) wait) →
      Moves maxWorkers state after (.drained caller)
  | put (caller left wait) : caller < state.called →
      state.callers caller = .putting (left + 1) wait →
      after = setCaller { state with queue := state.queue ++ [.stop] } caller (.putting left wait) →
      Moves maxWorkers state after (.put caller)
  | joined (caller wait) : caller < state.called → state.callers caller = .putting 0 wait →
      (wait = true → ∀ worker < maxWorkers, (state.workers worker).hasEnded = true) →
      after = setCaller state caller .returned →
      Moves maxWorkers state after (.join caller)

theorem moves_of_submit {job : Job} : Moves maxWorkers state (submit state job) (.submit job) := by
  unfold submit
  split
  next closed => exact .refused job closed rfl
  next opened => exact .submitted job (Bool.eq_false_iff.mpr opened) rfl

theorem moves_of_take {worker : Nat} (inside : worker < maxWorkers)
    (moved : take state worker = some after) : Moves maxWorkers state after (.take worker) := by
  unfold take at moved
  split at moved
  · exact .stopped _ _ _ inside ‹_› ‹_› (Option.some.inj moved).symm
  · exact .taken _ _ _ _ inside ‹_› ‹_› (Option.some.inj moved).symm
  · cases moved

theorem moves_of_begin {worker : Nat} (inside : worker < maxWorkers)
    (moved : begin state worker = some after) : Moves maxWorkers state after (.begin worker) := by
  unfold begin at moved
  split at moved
  next index connected holding =>
    cases future : state.futures index with
    | pending =>
        simp only [future, Future.setRunningOrNotifyCancel, Option.some.injEq] at moved
        exact .begun _ _ _ inside holding future moved.symm
    | cancelled =>
        simp only [future, Future.setRunningOrNotifyCancel, Option.some.injEq] at moved
        exact .notified _ _ _ inside holding future moved.symm
    | running | cancelledAndNotified | finished =>
        simp only [future, Future.setRunningOrNotifyCancel, Option.some.injEq] at moved
        refine .crashed _ _ inside (.inl ⟨index, connected, holding, ?_⟩)
        rw [future]
        rfl
  next => cases moved

theorem Future.set_cases (future : Future) (outcome : Except Error Bytes) :
    (future.done = false ∧ future.set outcome = some (.finished outcome)) ∨
      (future.done = true ∧ future.set outcome = none) := by
  cases future with
  | pending | running => exact .inl ⟨rfl, rfl⟩
  | cancelled | cancelledAndNotified | finished => exact .inr ⟨rfl, rfl⟩

theorem moves_of_connect {worker : Nat} {error : Option Error} (inside : worker < maxWorkers)
    (moved : connect state worker error = some after) :
    Moves maxWorkers state after (.connect worker error) := by
  unfold connect at moved
  split at moved
  next index running =>
    cases error with
    | none => exact .connected _ _ inside running (Option.some.inj moved).symm
    | some error =>
        rcases (state.futures index).set_cases (.error error) with ⟨undone, set⟩ | ⟨done, set⟩
        · simp only [set, Option.some.injEq] at moved
          exact .unconnected _ _ _ inside running undone moved.symm
        · simp only [set, Option.some.injEq] at moved
          exact .crashed _ _ inside (.inr ⟨_, _, running, done⟩)
  next => cases moved

theorem moves_of_reply {worker : Nat} {answer : Reply} (inside : worker < maxWorkers)
    (moved : reply state worker answer = some after) :
    Moves maxWorkers state after (.reply worker answer) := by
  unfold reply at moved
  split at moved
  next index running =>
    rcases (state.futures index).set_cases (runReply answer) with ⟨undone, set⟩ | ⟨done, set⟩
    · simp only [set, Option.some.injEq] at moved
      exact .replied _ _ _ inside running undone moved.symm
    · simp only [set, Option.some.injEq] at moved
      exact .crashed _ _ inside (.inr ⟨_, _, running, done⟩)
  next => cases moved

theorem moves_of_drain {caller : Nat} (inside : caller < state.called)
    (moved : drain maxWorkers state caller = some after) :
    Moves maxWorkers state after (.drain caller) := by
  unfold drain at moved
  split at moved
  · exact .emptied _ _ _ inside ‹_› ‹_› (Option.some.inj moved).symm
  · exact .drewStop _ _ _ _ inside ‹_› ‹_› (Option.some.inj moved).symm
  · exact .drewJob _ _ _ _ _ inside ‹_› ‹_› (Option.some.inj moved).symm
  · cases moved

theorem moves_of_drained {caller : Nat} (inside : caller < state.called)
    (moved : drained maxWorkers state caller = some after) :
    Moves maxWorkers state after (.drained caller) := by
  unfold drained at moved
  split at moved
  · exact .dropped _ _ _ _ inside ‹_› (Option.some.inj moved).symm
  · exact .replaced _ _ _ inside ‹_› (Option.some.inj moved).symm
  · cases moved

theorem moves_of_join {caller : Nat} (inside : caller < state.called)
    (moved : join maxWorkers state caller = some after) :
    Moves maxWorkers state after (.join caller) := by
  unfold join at moved
  split at moved
  · split at moved
    · exact .joined _ _ inside ‹_› ‹_› (Option.some.inj moved).symm
    · cases moved
  · cases moved

theorem moves_of_put {caller : Nat} (inside : caller < state.called)
    (moved : MeshExecutor.put state caller = some after) :
    Moves maxWorkers state after (.put caller) := by
  unfold MeshExecutor.put at moved
  split at moved
  · exact .put _ _ _ inside ‹_› (Option.some.inj moved).symm
  · cases moved

theorem moves_of_next (moved : next maxWorkers state event = some after) :
    Moves maxWorkers state after event := by
  cases event with
  | submit job => exact Option.some.inj moved ▸ moves_of_submit
  | shutdown wait cancelFutures => exact .entered wait cancelFutures (Option.some.inj moved).symm
  | cancel index =>
      obtain ⟨inside, same⟩ := Option.ite_none_right_eq_some.mp moved
      exact .cancelled index inside (Option.some.inj same).symm
  | take worker =>
      obtain ⟨inside, taken⟩ := Option.ite_none_right_eq_some.mp moved
      exact moves_of_take inside taken
  | begin worker =>
      obtain ⟨inside, begun⟩ := Option.ite_none_right_eq_some.mp moved
      exact moves_of_begin inside begun
  | connect worker error =>
      obtain ⟨inside, connected⟩ := Option.ite_none_right_eq_some.mp moved
      exact moves_of_connect inside connected
  | reply worker answer =>
      obtain ⟨inside, replied⟩ := Option.ite_none_right_eq_some.mp moved
      exact moves_of_reply inside replied
  | drain caller =>
      obtain ⟨inside, drained⟩ := Option.ite_none_right_eq_some.mp moved
      exact moves_of_drain inside drained
  | drained caller =>
      obtain ⟨inside, drained⟩ := Option.ite_none_right_eq_some.mp moved
      exact moves_of_drained inside drained
  | put caller =>
      obtain ⟨inside, put⟩ := Option.ite_none_right_eq_some.mp moved
      exact moves_of_put inside put
  | join caller =>
      obtain ⟨inside, joined⟩ := Option.ite_none_right_eq_some.mp moved
      exact moves_of_join inside joined

end

end AetherMesh.MeshExecutor
