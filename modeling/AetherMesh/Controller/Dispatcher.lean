import AetherMesh.Controller.Queue
import AetherMesh.Core.Workflow
import AetherMesh.Library.Runs

/-!
The dispatcher. `run_dispatcher_concurrent` owns the receiving end of the command
channel and is a machine whose labels are of two kinds. The environment sends
commands, clones and drops senders, lets time pass and ends dispatched tasks and
workflows; the loop takes its own steps from one point where it may be interrupted
to the next. The channel is first in, first out, and gives out what it buffers even
when every sender is gone. A reply channel is a number, handed out with the command.
-/

namespace AetherMesh

structure QueueStats where
  depth : Nat
  dequeued : Nat
  refused : Nat
  expired : Nat
  waitedMs : Nat
  longestWaitMs : Nat
deriving DecidableEq

namespace QueueStats

def new : QueueStats := ⟨0, 0, 0, 0, 0, 0⟩

def setDepth (stats : QueueStats) (depth : Nat) : QueueStats := { stats with depth }

def recordDequeued (stats : QueueStats) (waited : Nat) : QueueStats :=
  { stats with
    dequeued := stats.dequeued + 1
    waitedMs := stats.waitedMs + waited / 10 ^ 6
    longestWaitMs := max stats.longestWaitMs (waited / 10 ^ 6) }

def recordRefused (stats : QueueStats) : QueueStats := { stats with refused := stats.refused + 1 }

def recordExpired (stats : QueueStats) : QueueStats := { stats with expired := stats.expired + 1 }

end QueueStats

namespace Dispatcher

inductive Read
  | publish (bytes : Bytes)
  | nodes
  | stats
  | recent (limit : Nat)
deriving DecidableEq

inductive Command
  | submit (task : Task) (timeout : Option Nat) (reply : Nat)
  | read (kind : Read) (reply : Nat)
  | workflow (workflow : Workflow) (run : Option String) (reply : Nat)

def Command.reply : Command → Nat
  | .submit _ _ reply => reply
  | .read _ reply => reply
  | .workflow _ _ reply => reply

inductive Control
  | top
  | select
  | drain
  | flowing (pending : List (Workflow × Option String × Nat))
  | choose
  /-- Waiting for a permit to run the task that was popped at `now`. -/
  | permit (entry : Queued Nat) (now : Nat)
  | closing
  | returned

def Control.isReturned : Control → Bool
  | .returned => true
  | _ => false

theorem isReturned_iff {control : Control} : control.isReturned = true ↔ control = .returned := by
  cases control <;> simp [Control.isReturned]

structure State where
  control : Control
  clock : Nat
  channel : List Command
  senders : Nat
  queue : Queue Nat
  flows : List (Workflow × Option String × Nat)
  /-- The dispatched tasks that have not ended; each holds a permit. -/
  running : List (Queued Nat)
  /-- How many tasks have ended and are still in the join set. -/
  ended : Nat
  closed : Bool
  nextReply : Nat
  stats : QueueStats
  results : List (Nat × Except DispatchError TaskResult)
  reads : List (Nat × Read)
  flowReplies : List Nat

structure Setup where
  queue : Queue Nat
  empty : queue.entries = []
  capacity : Nat
  inFlight : Nat
  senders : Nat
  clock : Nat

inductive Event
  | send (command : Command)
  | clone
  | hangUp
  | pass (elapsed : Nat)
  | finish (index : Nat) (outcome : Except DispatchError TaskResult)
  | finishFlow
  | enter
  | receive
  | reap
  | drain
  | check
  | choose
  | handOver
  | join

def start (setup : Setup) : State where
  control := .top
  clock := setup.clock
  channel := []
  senders := setup.senders
  queue := setup.queue
  flows := []
  running := []
  ended := 0
  closed := false
  nextReply := 0
  stats := .new
  results := []
  reads := []
  flowReplies := []

def refuse (state : State) (reply : Nat) (taskId : TaskId) : State :=
  { state with
    results := state.results ++ [(reply, .error (.queueFull taskId))]
    stats := state.stats.recordRefused }

def admitSubmission (state : State) (task : Task) (timeout : Option Nat) (reply : Nat) : State :=
  match state.queue.pushWithTimeout floatLevels task reply state.clock timeout with
  | (queue, .queued) => { state with queue }
  | (queue, .refused _ payload) => refuse { state with queue } payload task.id
  | (queue, .displaced entry) => refuse { state with queue } entry.payload entry.task.id

def setDepth (state : State) : State :=
  { state with stats := state.stats.setDepth state.queue.entries.length }

/-- The source's `admit`. -/
def admitCommand (state : State) : Command → State
  | .submit task timeout reply => setDepth (admitSubmission state task timeout reply)
  | .read kind reply => { state with reads := state.reads ++ [(reply, kind)] }
  | .workflow workflow run reply => { state with flows := state.flows ++ [(workflow, run, reply)] }

def timedOut (now : Nat) (entry : Queued Nat) : Nat × Except DispatchError TaskResult :=
  (entry.payload, .error (.queueTimeout entry.task.id (entry.waited now / 10 ^ 6)))

def giveUp (now : Nat) (state : State) (entry : Queued Nat) : State :=
  { state with
    results := state.results ++ [timedOut now entry]
    stats := state.stats.recordExpired }

def expireLate (state : State) : State :=
  let scanned := state.queue.expire state.clock
  setDepth (scanned.2.foldl (giveUp state.clock) { state with queue := scanned.1 })

def takeNext (state : State) : State :=
  match state.queue.pop floatLevels state.clock with
  | none => { state with control := if state.closed then .closing else .top }
  | some (queue, entry) =>
      setDepth { state with
        control := .permit entry state.clock
        queue
        stats := state.stats.recordDequeued (entry.waited state.clock) }

section

variable (setup : Setup) (state : State)

def send (command : Command) : Option State :=
  if 0 < state.senders ∧ state.channel.length < max setup.capacity 1 ∧
      command.reply = state.nextReply ∧ state.control.isReturned = false then
    some { state with
      channel := state.channel ++ [command]
      nextReply := state.nextReply + 1 }
  else none

def finish (index : Nat) (outcome : Except DispatchError TaskResult) : Option State :=
  state.running[index]?.map fun entry =>
    { state with
      running := state.running.eraseIdx index
      ended := state.ended + 1
      results := state.results ++ [(entry.payload, outcome)] }

def finishFlow : Option State :=
  match state.control with
  | .flowing ((_, _, reply) :: pending) =>
      some { state with
        control := .flowing pending
        flowReplies := state.flowReplies ++ [reply] }
  | _ => none

def enter : Option State :=
  match state.control with
  | .top =>
      if state.queue.entries = [] ∧ state.flows.isEmpty then some { state with control := .select }
      else some { state with control := .drain }
  | _ => none

/-- `recv` in the `select!`: it yields nothing only when the senders are gone. -/
def receive : Option State :=
  match state.control, state.channel with
  | .select, command :: rest =>
      some (admitCommand { state with control := .drain, channel := rest } command)
  | .select, [] =>
      if state.senders = 0 then
        if state.running = [] ∧ state.ended = 0 then some { state with control := .returned }
        else some { state with control := .drain, closed := true }
      else none
  | _, _ => none

def reap : Option State :=
  match state.control, state.ended with
  | .select, ended + 1 => some { state with control := .drain, ended }
  | _, _ => none

def drain : Option State :=
  match state.control, state.channel with
  | .drain, command :: rest => some (admitCommand { state with channel := rest } command)
  | .drain, [] => some { state with control := .flowing state.flows, flows := [] }
  | _, _ => none

/-- `is_closed` holds as soon as the senders are gone, whatever is still buffered. -/
def check : Option State :=
  match state.control with
  | .flowing [] =>
      some { state with
        control := .choose
        closed := state.closed || state.senders == 0 }
  | _ => none

def choose : Option State :=
  match state.control with
  | .choose => some (takeNext (expireLate state))
  | _ => none

def handOver : Option State :=
  match state.control with
  | .permit entry _ =>
      if state.running.length < max setup.inFlight 1 then
        some { state with control := .top, running := state.running ++ [entry], ended := 0 }
      else none
  | _ => none

def join : Option State :=
  match state.control, state.ended with
  | .closing, ended + 1 => some { state with ended }
  | .closing, 0 => if state.running = [] then some { state with control := .returned } else none
  | _, _ => none

def next : Event → Option State
  | .send command => send setup state command
  | .clone => if 0 < state.senders then some { state with senders := state.senders + 1 } else none
  | .hangUp => if 0 < state.senders then some { state with senders := state.senders - 1 } else none
  | .pass elapsed => some { state with clock := state.clock + elapsed }
  | .finish index outcome => finish state index outcome
  | .finishFlow => finishFlow state
  | .enter => enter state
  | .receive => receive state
  | .reap => reap state
  | .drain => drain state
  | .check => check state
  | .choose => choose state
  | .handOver => handOver setup state
  | .join => join state

end

structure Outside (state after : State) : Prop where
  clock : after.clock = state.clock
  channel : after.channel = state.channel
  senders : after.senders = state.senders
  running : after.running = state.running
  ended : after.ended = state.ended
  closed : after.closed = state.closed
  nextReply : after.nextReply = state.nextReply

theorem admitSubmission_outside (state : State) (task : Task) (timeout : Option Nat) (reply : Nat) :
    Outside state (admitSubmission state task timeout reply) ∧
      (admitSubmission state task timeout reply).control = state.control := by
  unfold admitSubmission
  split <;> exact ⟨⟨rfl, rfl, rfl, rfl, rfl, rfl, rfl⟩, rfl⟩

theorem admitCommand_outside (state : State) (command : Command) :
    Outside state (admitCommand state command) ∧
      (admitCommand state command).control = state.control := by
  cases command with
  | submit task timeout reply =>
      obtain ⟨same, control⟩ := admitSubmission_outside state task timeout reply
      exact ⟨⟨same.clock, same.channel, same.senders, same.running, same.ended, same.closed,
        same.nextReply⟩, control⟩
  | read kind reply => exact ⟨⟨rfl, rfl, rfl, rfl, rfl, rfl, rfl⟩, rfl⟩
  | workflow workflow run reply => exact ⟨⟨rfl, rfl, rfl, rfl, rfl, rfl, rfl⟩, rfl⟩

def State.onTime (state : State) : List (Queued Nat) :=
  state.queue.entries.filter fun entry => !entry.expired state.clock

def State.late (state : State) : List (Queued Nat) :=
  state.queue.entries.filter fun entry => entry.expired state.clock

theorem giveUp_foldl (now : Nat) (late : List (Queued Nat)) (state : State) :
    ∃ stats, late.foldl (giveUp now) state =
      { state with results := state.results ++ late.map (timedOut now), stats } := by
  induction late generalizing state with
  | nil => exact ⟨state.stats, by simp⟩
  | cons entry rest ih =>
      obtain ⟨stats, given⟩ := ih (giveUp now state entry)
      refine ⟨stats, ?_⟩
      rw [List.foldl_cons, given]
      simp [giveUp]

theorem expireLate_eq (state : State) :
    ∃ stats, expireLate state =
      { state with
        queue := { state.queue with entries := state.onTime }
        results := state.results ++ state.late.map (timedOut state.clock)
        stats } := by
  obtain ⟨stats, given⟩ := giveUp_foldl state.clock state.late
    { state with queue := { state.queue with entries := state.onTime } }
  refine ⟨stats.setDepth state.onTime.length, ?_⟩
  unfold expireLate
  rw [Queue.expire_eq]
  exact congrArg setDepth given

/-- Everything a step can do, with the guards it was taken under. -/
inductive Step (setup : Setup) (state : State) : Event → State → Prop
  | send (command : Command) (connected : 0 < state.senders)
      (fresh : command.reply = state.nextReply) (here : state.control.isReturned = false) :
      Step setup state (.send command) { state with
        channel := state.channel ++ [command]
        nextReply := state.nextReply + 1 }
  | clone (connected : 0 < state.senders) :
      Step setup state .clone { state with senders := state.senders + 1 }
  | hangUp (connected : 0 < state.senders) :
      Step setup state .hangUp { state with senders := state.senders - 1 }
  | pass (elapsed : Nat) :
      Step setup state (.pass elapsed) { state with clock := state.clock + elapsed }
  | finish (index : Nat) (outcome : Except DispatchError TaskResult) (entry : Queued Nat)
      (found : state.running[index]? = some entry) :
      Step setup state (.finish index outcome) { state with
        running := state.running.eraseIdx index
        ended := state.ended + 1
        results := state.results ++ [(entry.payload, outcome)] }
  | finishFlow (workflow : Workflow) (run : Option String) (reply : Nat)
      (pending : List (Workflow × Option String × Nat))
      (atFlow : state.control = .flowing ((workflow, run, reply) :: pending)) :
      Step setup state .finishFlow { state with
        control := .flowing pending
        flowReplies := state.flowReplies ++ [reply] }
  | enterIdle (atTop : state.control = .top) (empty : state.queue.entries = [])
      (noFlows : state.flows = []) :
      Step setup state .enter { state with control := .select }
  | enterBusy (atTop : state.control = .top) :
      Step setup state .enter { state with control := .drain }
  | receive (command : Command) (rest : List Command) (atSelect : state.control = .select)
      (buffered : state.channel = command :: rest) :
      Step setup state .receive
        (admitCommand { state with control := .drain, channel := rest } command)
  | receiveLast (atSelect : state.control = .select) (buffered : state.channel = [])
      (alone : state.senders = 0) (idle : state.running = []) :
      Step setup state .receive { state with control := .returned }
  | receiveClosed (atSelect : state.control = .select) (buffered : state.channel = [])
      (alone : state.senders = 0) :
      Step setup state .receive { state with control := .drain, closed := true }
  | reap (ended : Nat) (atSelect : state.control = .select) (some : state.ended = ended + 1) :
      Step setup state .reap { state with control := .drain, ended }
  | drain (command : Command) (rest : List Command) (atDrain : state.control = .drain)
      (buffered : state.channel = command :: rest) :
      Step setup state .drain (admitCommand { state with channel := rest } command)
  | drained (atDrain : state.control = .drain) (buffered : state.channel = []) :
      Step setup state .drain { state with control := .flowing state.flows, flows := [] }
  | check (atEnd : state.control = .flowing []) :
      Step setup state .check { state with
        control := .choose
        closed := state.closed || state.senders == 0 }
  | chooseNone (stats : QueueStats) (atChoose : state.control = .choose)
      (nothing : state.onTime = []) :
      Step setup state .choose { state with
        control := if state.closed then .closing else .top
        queue := { state.queue with entries := [] }
        results := state.results ++ state.late.map (timedOut state.clock)
        stats }
  | choose (stats : QueueStats) (index : Nat) (entry : Queued Nat)
      (atChoose : state.control = .choose) (found : state.onTime[index]? = some entry)
      (highest : ∀ other ∈ state.onTime,
        other.effectivePriority floatLevels state.clock state.queue.aging ≤
          entry.effectivePriority floatLevels state.clock state.queue.aging) :
      Step setup state .choose { state with
        control := .permit entry state.clock
        queue := { state.queue with entries := state.onTime.eraseIdx index }
        results := state.results ++ state.late.map (timedOut state.clock)
        stats }
  | handOver (entry : Queued Nat) (now : Nat) (atPermit : state.control = .permit entry now)
      (free : state.running.length < max setup.inFlight 1) :
      Step setup state .handOver { state with
        control := .top
        running := state.running ++ [entry]
        ended := 0 }
  | join (ended : Nat) (atClosing : state.control = .closing) (some : state.ended = ended + 1) :
      Step setup state .join { state with ended }
  | joinLast (atClosing : state.control = .closing) (idle : state.running = []) :
      Step setup state .join { state with control := .returned }

section

variable {setup : Setup} {state after : State} {event : Event}

theorem send_step {command : Command} (moved : send setup state command = some after) :
    Step setup state (.send command) after := by
  unfold send at moved
  split at moved
  · rename_i guard
    cases moved
    exact .send command guard.1 guard.2.2.1 guard.2.2.2
  · cases moved

theorem finish_step {index : Nat} {outcome : Except DispatchError TaskResult}
    (moved : finish state index outcome = some after) :
    Step setup state (.finish index outcome) after := by
  simp only [finish, Option.map_eq_some_iff] at moved
  obtain ⟨entry, found, rfl⟩ := moved
  exact .finish index outcome entry found

theorem finishFlow_step (moved : finishFlow state = some after) :
    Step setup state .finishFlow after := by
  unfold finishFlow at moved
  split at moved
  · rename_i workflow run reply pending atFlow
    cases moved
    exact .finishFlow workflow run reply pending atFlow
  · cases moved

theorem enter_step (moved : enter state = some after) : Step setup state .enter after := by
  unfold enter at moved
  split at moved
  · rename_i atTop
    split at moved
    · rename_i nothing
      cases moved
      exact .enterIdle atTop nothing.1 (List.isEmpty_iff.mp nothing.2)
    · cases moved
      exact .enterBusy atTop
  · cases moved

theorem receive_step (moved : receive state = some after) : Step setup state .receive after := by
  unfold receive at moved
  split at moved
  · rename_i command rest atSelect buffered
    cases moved
    exact .receive command rest atSelect buffered
  · rename_i atSelect buffered
    split at moved
    · rename_i alone
      split at moved
      · rename_i idle
        cases moved
        exact .receiveLast atSelect buffered alone idle.1
      · cases moved
        exact .receiveClosed atSelect buffered alone
    · cases moved
  · cases moved

theorem reap_step (moved : reap state = some after) : Step setup state .reap after := by
  unfold reap at moved
  split at moved
  · rename_i ended atSelect someEnded
    cases moved
    exact .reap ended atSelect someEnded
  · cases moved

theorem drain_step (moved : drain state = some after) : Step setup state .drain after := by
  unfold drain at moved
  split at moved
  · rename_i command rest atDrain buffered
    cases moved
    exact .drain command rest atDrain buffered
  · rename_i atDrain buffered
    cases moved
    exact .drained atDrain buffered
  · cases moved

theorem check_step (moved : check state = some after) : Step setup state .check after := by
  unfold check at moved
  split at moved
  · rename_i atEnd
    cases moved
    exact .check atEnd
  · cases moved

theorem choose_step (moved : choose state = some after) : Step setup state .choose after := by
  unfold choose at moved
  split at moved
  · rename_i atChoose
    cases moved
    obtain ⟨stats, expired⟩ := expireLate_eq state
    rw [expired, takeNext]
    split
    · rename_i nothing
      have empty : state.onTime = [] := Queue.pop_eq_none.mp nothing
      simp only [empty]
      exact .chooseNone stats atChoose empty
    · rename_i queue entry popped
      obtain ⟨index, found, rfl, highest⟩ := Queue.pop_eq_some popped
      refine .choose _ index entry atChoose found ?_
      intro other waiting
      exact Queued.level_le_of_rank_le (highest other waiting)
  · cases moved

theorem handOver_step (moved : handOver setup state = some after) :
    Step setup state .handOver after := by
  unfold handOver at moved
  split at moved
  · rename_i entry now atPermit
    split at moved
    · rename_i free
      cases moved
      exact .handOver entry now atPermit free
    · cases moved
  · cases moved

theorem join_step (moved : join state = some after) : Step setup state .join after := by
  unfold join at moved
  split at moved
  · rename_i ended atClosing someEnded
    cases moved
    exact .join ended atClosing someEnded
  · rename_i atClosing noneEnded
    split at moved
    · rename_i idle
      cases moved
      exact .joinLast atClosing idle
    · cases moved
  · cases moved

theorem next_step (moved : next setup state event = some after) : Step setup state event after := by
  cases event with
  | send command => exact send_step moved
  | clone =>
      simp only [next] at moved
      split at moved
      · rename_i connected
        cases moved
        exact .clone connected
      · cases moved
  | hangUp =>
      simp only [next] at moved
      split at moved
      · rename_i connected
        cases moved
        exact .hangUp connected
      · cases moved
  | pass elapsed =>
      cases moved
      exact .pass elapsed
  | finish index outcome => exact finish_step moved
  | finishFlow => exact finishFlow_step moved
  | enter => exact enter_step moved
  | receive => exact receive_step moved
  | reap => exact reap_step moved
  | drain => exact drain_step moved
  | check => exact check_step moved
  | choose => exact choose_step moved
  | handOver => exact handOver_step moved
  | join => exact join_step moved

end

end Dispatcher

end AetherMesh
