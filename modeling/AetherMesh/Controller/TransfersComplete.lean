import AetherMesh.Controller.TransfersShared
import AetherMesh.Library.Counting

/-!
Transfers come to an end. Everything that the tasks and the agent still have to do
for them is counted, and what stands still is finished.
-/

namespace AetherMesh.Transfers

open Runs Counting

variable {setup : Setup} {state after : State} {event : Event} {thread : Nat}

def Event.isBusy : Event → Bool
  | .assign _ => false
  | .note _ => false
  | .work (.act _) => true
  | .work _ => false
  | _ => true

def Event.isAssign : Event → Bool
  | .assign _ => true
  | _ => false

def Quiet (setup : Setup) (state : State) : Prop :=
  ∀ event, event.isBusy = true → next setup state event = none

theorem Quiet.duties (quiet : Quiet setup state) (connection : Agent.Connection) :
    state.agent.duties connection = [] := by
  have stuck := quiet (.work (.act connection)) rfl
  simp only [next, Agent.Event.isReceive, Bool.false_eq_true, if_false, Option.map_eq_none_iff,
    Agent.next] at stuck
  split at stuck
  · assumption
  · cases stuck

theorem Quiet.queues (quiet : Quiet setup state) (connection : Agent.Connection) :
    state.queue connection = [] := by
  have stuck := quiet (.deliver connection) rfl
  simp only [next, quiet.duties connection, if_true] at stuck
  split at stuck
  · assumption
  · cases stuck

theorem Quiet.heard (quiet : Quiet setup state) :
    state.agent.outbound.drop state.heard = [] := by
  have stuck := quiet .hear rfl
  simp only [next] at stuck
  split at stuck
  · rename_i none
    exact List.drop_eq_nil_of_le (List.getElem?_eq_none_iff.mp none)
  · cases stuck

theorem Sending.woken (sending : Sending setup state thread [])
    (atSending : state.phases thread = .sending []) (shares : Shares setup state)
    (quiet : Quiet setup state) : setup.dataId thread ∈ state.ready := by
  refine shares.resolved thread (by rw [atSending]; rfl) ?_
  rcases sending.onItsWay with queued | underway | told
  · rw [show state.control = [] from quiet.queues .control] at queued
    cases queued
  · cases underway with
    | collecting collecting =>
        obtain ⟨pending, found, -⟩ := collecting
        rcases sending.waking with none | ⟨piece, index, -, left | ⟨connection, queued⟩⟩
        · exact absurd (none.symm.trans found) nofun
        · cases left
        · rw [quiet.queues connection] at queued
          cases queued
    | finishing finishing =>
        obtain ⟨connection, owed⟩ := finishing
        rw [quiet.duties connection] at owed
        cases owed
    | announcing connection owed =>
        rw [quiet.duties connection] at owed
        cases owed
    | announced nodeId queued =>
        rw [quiet.heard] at queued
        cases queued
  · exact told

theorem Shares.completes (shares : Shares setup state) (sendable : setup.Sendable)
    (quiet : Quiet setup state) (bound : thread < setup.count) :
    ∃ mark, state.phases thread = .finished mark := by
  have stage := shares.tasks thread bound
  cases phase : state.phases thread with
  | finished mark => exact ⟨mark, rfl⟩
  | idle =>
      have stuck := quiet (.check thread) rfl
      simp only [next, phase, bound, and_self, if_true] at stuck
      split at stuck <;> cases stuck
  | missing =>
      have stuck := quiet (.sendManifest thread) rfl
      simp [next, phase] at stuck
  | planning index batch =>
      rw [phase] at stage
      rcases Nat.lt_or_eq_of_le stage.1 with before | last
      · have stuck := quiet (.look thread) rfl
        rw [← sendable.length_chunks bound] at before
        simp only [next, phase, List.getElem?_eq_getElem before] at stuck
        split at stuck <;> cases stuck
      · have stuck := quiet (.expectData thread) rfl
        rw [← sendable.length_chunks bound] at last
        simp only [next, phase, last, if_true] at stuck
        split at stuck <;> cases stuck
  | crediting index batch =>
      rw [phase] at stage
      have inside := stage.1
      have stuck := quiet (.credit thread) rfl
      rw [← sendable.length_chunks bound] at inside
      simp [next, phase, List.getElem?_eq_getElem inside] at stuck
  | sending left =>
      rw [phase] at stage
      cases left with
      | cons index left =>
          have stuck := quiet (.sendChunk thread) rfl
          simp [next, phase] at stuck
      | nil =>
          have stuck := quiet (.await thread) rfl
          simp [next, phase, Sending.woken stage phase shares quiet] at stuck
  | arrived =>
      have stuck := quiet (.record thread) rfl
      simp [next, phase] at stuck

theorem Shares.arrives (shares : Shares setup state) (sendable : setup.Sendable)
    (bound : thread < setup.count) {mark : Nat} (finished : state.phases thread = .finished mark)
    (past : mark ≤ state.received) (idle : state.agent.duties .control = []) :
    state.agent.store.bytesOf (setup.dataId thread) = some (setup.data thread) := by
  have due := shares.tasks thread bound
  rw [finished] at due
  rcases due with held | ⟨-, ⟨bytes, owed⟩ | ⟨queued, -⟩⟩
  · obtain ⟨bytes, found⟩ := DataStore.contains_iff.mp held
    have named : setup.agent.digest bytes = setup.agent.digest (setup.data thread) :=
      shares.keyed _ _ found
    rw [found, sendable.collisionFree thread bound _ List.mem_cons_self bytes named]
  · rw [idle] at owed
    cases owed
  · rw [Nat.sub_eq_zero_of_le past] at queued
    cases queued

def Phase.effort (chunks : Nat) : Phase → Nat
  | .idle => 9 * chunks + 11
  | .missing => 9 * chunks + 10
  | .planning index batch => 9 * (chunks - index) + 7 * batch.length + 3
  | .crediting index batch => 9 * (chunks - index) + 7 * batch.length + 2
  | .sending left => 7 * left.length + 2
  | .arrived => 1
  | .finished _ => 0

def Setup.connections (setup : Setup) : Finset Agent.Connection :=
  insert .control ((Finset.range setup.channels).image .channel)

def load (state : State) (connection : Agent.Connection) : Nat :=
  6 * (state.queue connection).length + Agent.toil state.agent connection

def tasksLeft (setup : Setup) (state : State) : Nat :=
  ∑ thread ∈ Finset.range setup.count,
    (state.phases thread).effort (setup.manifest thread).chunks.length

def loads (setup : Setup) (state : State) : Nat :=
  ∑ connection ∈ setup.connections, load state connection

def effort (setup : Setup) (state : State) : Nat :=
  tasksLeft setup state + loads setup state + (Agent.backlog state.agent - state.heard)

structure Contained (setup : Setup) (state : State) : Prop where
  unused : ∀ thread, setup.count ≤ thread → state.phases thread = .idle
  queues : ∀ connection ∉ setup.connections, state.queue connection = []
  duties : ∀ connection ∉ setup.connections, state.agent.duties connection = []
  caught : state.heard ≤ state.agent.outbound.length

theorem tasksLeft_move (bound : thread < setup.count) {phase : Phase}
    (phases : after.phases = Function.update state.phases thread phase) :
    tasksLeft setup after +
        (state.phases thread).effort (setup.manifest thread).chunks.length =
      tasksLeft setup state + phase.effort (setup.manifest thread).chunks.length := by
  have shifted := @sum_shift Nat _ (Finset.range setup.count) thread (Finset.mem_range.mpr bound)
    (fun other => (state.phases other).effort (setup.manifest other).chunks.length)
    (fun other => (after.phases other).effort (setup.manifest other).chunks.length)
    (fun other different => by simp only [phases, Function.update_of_ne different])
  simpa [tasksLeft, phases] using shifted

theorem loads_push {connection : Agent.Connection} {message : Message}
    (member : connection ∈ setup.connections) (agent : after.agent = state.agent)
    (here : after.queue connection = state.queue connection ++ [message])
    (others : ∀ other ≠ connection, after.queue other = state.queue other) :
    loads setup after = loads setup state + 6 := by
  have shifted := @sum_shift Agent.Connection _ setup.connections connection member (load state)
    (load after) (fun other different => by rw [load, load, others other different, agent])
  have more : load after connection = load state connection + 6 := by
    rw [load, load, here, agent, List.length_append, List.length_singleton]
    omega
  rw [loads, loads]
  omega

theorem loads_same (agent : after.agent = state.agent)
    (queues : ∀ connection, after.queue connection = state.queue connection) :
    loads setup after = loads setup state := by
  refine Finset.sum_congr rfl fun connection _ => ?_
  rw [load, load, queues, agent]

theorem loads_handled {action : Agent.Event} (member : action.handler ∈ setup.connections)
    (step : Agent.Step setup.agent state.agent action after.agent)
    (others : ∀ other ≠ action.handler, after.queue other = state.queue other)
    (here : (after.queue action.handler).length + action.isReceive.toNat =
      (state.queue action.handler).length) :
    loads setup after + Agent.backlog after.agent + action.isAct.toNat + action.isReceive.toNat ≤
      loads setup state + Agent.backlog state.agent := by
  obtain ⟨kept, less⟩ := step.effort
  have shifted := @sum_shift Agent.Connection _ setup.connections action.handler member
    (load state) (load after) (fun other different => by
      rw [load, load, others other different, Agent.toil, kept other different, Agent.toil])
  have before : load state action.handler = 6 * (state.queue action.handler).length +
      Agent.toil state.agent action.handler := rfl
  have later : load after action.handler = 6 * (after.queue action.handler).length +
      Agent.toil after.agent action.handler := rfl
  rw [loads, loads]
  omega

structure Spent (setup : Setup) (state : State) (event : Event) (after : State) : Prop where
  contained : Contained setup after
  less : effort setup after + event.isBusy.toNat ≤ effort setup state + 6 * event.isAssign.toNat

theorem Contained.bound (contained : Contained setup state)
    (busy : state.phases thread ≠ .idle) : thread < setup.count := by
  by_contra outside
  exact busy (contained.unused thread (Nat.le_of_not_lt outside))

theorem Contained.move (contained : Contained setup state) (bound : thread < setup.count)
    {phase : Phase} (phases : after.phases = Function.update state.phases thread phase)
    (agent : after.agent = state.agent)
    (queues : ∀ connection ∉ setup.connections,
      after.queue connection = state.queue connection)
    (heard : after.heard = state.heard) : Contained setup after where
  unused other outside := by
    rw [phases, Function.update_of_ne (by omega)]
    exact contained.unused other outside
  queues connection none := (queues connection none).trans (contained.queues connection none)
  duties := by rw [agent]; exact contained.duties
  caught := by rw [heard, agent]; exact contained.caught

theorem Spent.move (contained : Contained setup state) (bound : thread < setup.count)
    {phase : Phase} (phases : after.phases = Function.update state.phases thread phase)
    (agent : after.agent = state.agent)
    (queues : ∀ connection, after.queue connection = state.queue connection)
    (heard : after.heard = state.heard)
    (less : phase.effort (setup.manifest thread).chunks.length <
      (state.phases thread).effort (setup.manifest thread).chunks.length) :
    Spent setup state event after := by
  refine ⟨contained.move bound phases agent (fun connection _ => queues connection) heard, ?_⟩
  have tasks := tasksLeft_move bound phases
  have same := @loads_same setup state after agent queues
  have one := Bool.toNat_le event.isBusy
  simp only [effort, agent, heard, same]
  omega

theorem Spent.send (contained : Contained setup state) (bound : thread < setup.count)
    {phase : Phase} (phases : after.phases = Function.update state.phases thread phase)
    (agent : after.agent = state.agent) {connection : Agent.Connection} {message : Message}
    (member : connection ∈ setup.connections)
    (here : after.queue connection = state.queue connection ++ [message])
    (others : ∀ other ≠ connection, after.queue other = state.queue other)
    (heard : after.heard = state.heard)
    (less : phase.effort (setup.manifest thread).chunks.length + 7 ≤
      (state.phases thread).effort (setup.manifest thread).chunks.length) :
    Spent setup state event after := by
  refine ⟨contained.move bound phases agent (fun other none => others other ?_) heard, ?_⟩
  · rintro rfl
    exact none member
  · have tasks := tasksLeft_move bound phases
    have more := loads_push member agent here others
    have one := Bool.toNat_le event.isBusy
    simp only [effort, agent, heard, more]
    omega

theorem control_mem (setup : Setup) : .control ∈ setup.connections :=
  Finset.mem_insert_self _ _

theorem send_queue (state : State) (message : Message) (other : Agent.Connection)
    (different : other ≠ .control) : (state.send message).queue other = state.queue other := by
  cases other with
  | control => exact absurd rfl different
  | channel number => rfl

theorem sendBulk_place (setup : Setup) (state : State) (message : Message) :
    ∃ connection ∈ setup.connections,
      (state.sendBulk setup message).queue connection = state.queue connection ++ [message] ∧
      ∀ other ≠ connection, (state.sendBulk setup message).queue other = state.queue other := by
  unfold State.sendBulk
  split
  · exact ⟨.control, control_mem setup, rfl, send_queue state message⟩
  · rename_i some
    refine ⟨.channel (state.cursor % setup.channels), ?_, ?_, fun other different => ?_⟩
    · refine Finset.mem_insert_of_mem (Finset.mem_image_of_mem _ (Finset.mem_range.mpr ?_))
      exact Nat.mod_lt _ (Nat.pos_of_ne_zero some)
    · exact Function.update_self _ _ _
    · cases other with
      | control => rfl
      | channel number => exact Function.update_of_ne (fun same => different (by rw [same])) _ _

theorem Contained.handled (contained : Contained setup state) {action : Agent.Event}
    (member : action.handler ∈ setup.connections)
    (step : Agent.Step setup.agent state.agent action after.agent)
    (phases : after.phases = state.phases) (heard : after.heard = state.heard)
    (others : ∀ other ≠ action.handler, after.queue other = state.queue other) :
    Contained setup after where
  unused := by rw [phases]; exact contained.unused
  queues connection none := by
    rw [others connection fun same => none (same ▸ member)]
    exact contained.queues connection none
  duties connection none := by
    rw [step.effort.1 connection fun same => none (same ▸ member)]
    exact contained.duties connection none
  caught := by
    obtain ⟨more, outbound, -⟩ := step.outbound
    rw [heard, outbound, List.length_append]
    exact Nat.le_add_right_of_le contained.caught

theorem Spent.handled (contained : Contained setup state) {action : Agent.Event}
    (member : action.handler ∈ setup.connections)
    (step : Agent.Step setup.agent state.agent action after.agent)
    (phases : after.phases = state.phases) (heard : after.heard = state.heard)
    (others : ∀ other ≠ action.handler, after.queue other = state.queue other)
    (here : (after.queue action.handler).length + action.isReceive.toNat =
      (state.queue action.handler).length)
    (busy : event.isBusy.toNat ≤ action.isAct.toNat + action.isReceive.toNat) :
    Spent setup state event after := by
  have next := contained.handled member step phases heard others
  refine ⟨next, ?_⟩
  have less := loads_handled member step others here
  have before := contained.caught
  have later := next.caught
  simp only [effort, tasksLeft, phases, heard, Agent.backlog] at less later ⊢
  omega

theorem Spent.assign (contained : Contained setup state) (task : Task) :
    Spent setup state (.assign task) (state.send (.taskAssignment setup.nodeId task)) := by
  have others := send_queue state (.taskAssignment setup.nodeId task)
  have more := @loads_push setup state (state.send (.taskAssignment setup.nodeId task)) .control
    _ (control_mem setup) rfl rfl others
  refine ⟨⟨contained.unused, fun connection none => ?_, contained.duties, contained.caught⟩, ?_⟩
  · rw [others connection fun same => none (same ▸ control_mem setup)]
    exact contained.queues connection none
  · rw [effort, more]
    change tasksLeft setup state + _ + (Agent.backlog state.agent - state.heard) + 0 ≤
      tasksLeft setup state + _ + (Agent.backlog state.agent - state.heard) + 6 * 1
    omega

theorem Spent.deliver (contained : Contained setup state) {connection : Agent.Connection}
    {message : Message} {rest : List Message} (front : state.queue connection = message :: rest)
    (idle : state.agent.duties connection = []) :
    Spent setup state (.deliver connection)
      { state.taken rest connection with
        agent := Agent.receive setup.agent state.agent connection message } := by
  have member : connection ∈ setup.connections := by
    by_contra none
    rw [contained.queues connection none] at front
    cases front
  obtain ⟨phases, -, -, -, heard⟩ := taken_frame state rest connection
  have queue : ∀ other, State.queue { state.taken rest connection with
      agent := Agent.receive setup.agent state.agent connection message } other =
        if other = connection then rest else state.queue other := by
    intro other
    rw [← taken_queue state rest connection other]
    cases other <;> rfl
  have step := @Agent.receive_step setup.agent state.agent connection message idle
  refine @Spent.handled setup state _ _ contained (.receive connection message) member step
    phases heard ?_ ?_ (Nat.le_refl 1)
  · intro other different
    have away : other ≠ connection := different
    rw [queue, if_neg away]
  · rw [Agent.Event.handler, queue, if_pos rfl, front]
    rfl

theorem Spent.work (contained : Contained setup state) {action : Agent.Event} {agent : Agent.State}
    (internal : action.isReceive = false)
    (worked : Agent.next setup.agent state.agent action = some agent) :
    Spent setup state (.work action) { state with agent } := by
  have step := Agent.next_step worked
  have member : action.handler ∈ setup.connections := by
    cases action with
    | receive connection message => cases internal
    | act connection =>
        by_contra none
        have stuck : state.agent.duties connection = [] := contained.duties connection none
        simp [Agent.next, stuck] at worked
    | _ => exact control_mem setup
  refine @Spent.handled setup state { state with agent } _ contained action member step rfl rfl
    (fun other _ => by cases other <;> rfl) ?_ ?_
  · rw [internal]
    cases action.handler <;> rfl
  · cases action with
    | receive connection message => cases internal
    | act connection => exact Nat.le_refl 1
    | _ => exact Nat.zero_le _

theorem Spent.hear (contained : Contained setup state) {message : Message}
    (unheard : state.agent.outbound[state.heard]? = some message) :
    Spent setup state .hear (state.hear message) := by
  obtain ⟨phases, agent, control, channels, -, heard⟩ := hear_frame state message
  have inside := (List.getElem?_eq_some_iff.mp unheard).1
  have queues : ∀ connection, (state.hear message).queue connection = state.queue connection := by
    intro connection
    cases connection with
    | control => exact control
    | channel number => exact congrFun channels number
  have loads := @loads_same setup state (state.hear message) agent queues
  refine ⟨⟨?_, fun connection none => ?_, ?_, ?_⟩, ?_⟩
  · rw [phases]; exact contained.unused
  · rw [queues]; exact contained.queues connection none
  · rw [agent]; exact contained.duties
  · rw [heard, agent]; exact inside
  · simp only [effort, tasksLeft, phases, loads, agent, heard, Event.isBusy, Event.isAssign,
      Agent.backlog, Bool.toNat_true, Bool.toNat_false]
    omega

theorem Spent.step (contained : Contained setup state) (step : Step setup state event after) :
    Spent setup state event after := by
  have bound : ∀ {thread phase}, state.phases thread = phase → phase ≠ .idle →
      thread < setup.count := by
    rintro thread _ rfl busy
    exact contained.bound busy
  have same : ∀ connection, state.queue connection = state.queue connection := fun _ => rfl
  cases step with
  | credited thread atIdle inside =>
      exact .move contained inside rfl rfl same rfl (by simp [atIdle, Phase.effort])
  | check thread atIdle inside =>
      exact .move contained inside rfl rfl same rfl (by simp [atIdle, Phase.effort])
  | sendManifest thread atMissing =>
      exact .send contained (bound atMissing (by simp)) rfl rfl (control_mem setup) rfl
        (send_queue state _) rfl (by simp [atMissing, Phase.effort])
  | skip thread index batch chunk atPlanning found =>
      have inside := (List.getElem?_eq_some_iff.mp found).1
      refine .move contained (bound atPlanning (by simp)) rfl rfl same rfl ?_
      simp only [atPlanning, Phase.effort]
      omega
  | choose thread index batch chunk atPlanning found =>
      exact .move contained (bound atPlanning (by simp)) rfl rfl same rfl
        (by simp [atPlanning, Phase.effort])
  | credit thread index batch chunk atCrediting found =>
      have inside := (List.getElem?_eq_some_iff.mp found).1
      refine .move contained (bound atCrediting (by simp)) rfl rfl same rfl ?_
      simp only [atCrediting, Phase.effort, List.length_append, List.length_singleton]
      omega
  | nothing thread index atPlanning =>
      refine .move contained (bound atPlanning (by simp)) rfl rfl same rfl ?_
      simp only [atPlanning, Phase.effort]
      omega
  | expectData thread index batch atPlanning =>
      refine .move contained (bound atPlanning (by simp)) rfl rfl same rfl ?_
      simp only [atPlanning, Phase.effort]
      omega
  | sendChunk thread index left atSending =>
      obtain ⟨phases, -, -, -, agent, heard, -⟩ :=
        @sendBulk_frame setup state (setup.chunk thread index)
      obtain ⟨connection, member, here, others⟩ := sendBulk_place setup state
        (setup.chunk thread index)
      refine @Spent.send setup state _ _ thread contained (bound atSending (by simp)) (.sending left) ?_
        agent connection _ member here others heard ?_
      · rw [State.move, phases]
      · simp only [atSending, Phase.effort, List.length_cons]
        omega
  | await thread atSending =>
      exact .move contained (bound atSending (by simp)) rfl rfl same rfl
        (by simp [atSending, Phase.effort])
  | record thread atArrived =>
      exact .move contained (bound atArrived (by simp)) rfl rfl same rfl
        (by simp [atArrived, Phase.effort])
  | assign task => exact .assign contained task
  | note descriptor =>
      refine ⟨⟨contained.unused, contained.queues, contained.duties, contained.caught⟩, ?_⟩
      exact Nat.le_add_right _ _
  | deliver connection message rest front idle => exact .deliver contained front idle
  | work action agent internal worked => exact .work contained internal worked
  | hear message unheard => exact .hear contained unheard

theorem contained_start {catalog : DataCatalog} {agent : Agent.State}
    (idle : ∀ connection, agent.duties connection = []) :
    Contained setup (.start catalog agent) where
  unused _ _ := rfl
  queues connection _ := by cases connection <;> rfl
  duties connection _ := idle connection
  caught := Nat.le_refl _

/-- Transfers that nothing is added to come to rest. -/
theorem effort_bounds {catalog : DataCatalog} {agent : Agent.State}
    (idle : ∀ connection, agent.duties connection = []) {events : List Event} {final : State}
    (ran : run (next setup) (.start catalog agent) events = some final) :
    events.countP Event.isBusy ≤
      effort setup (.start catalog agent) + 6 * events.countP Event.isAssign := by
  have spent := @run_reached State Event (next setup)
    (fun past state => Contained setup state ∧
      effort setup state + past.countP Event.isBusy ≤
        effort setup (.start catalog agent) + 6 * past.countP Event.isAssign)
    (.start catalog agent) final events ⟨contained_start idle, by simp⟩ ?_ ran
  · omega
  · rintro past state event after - ⟨contained, bounded⟩ moved
    have spent := Spent.step contained (next_step moved)
    refine ⟨spent.contained, ?_⟩
    have less := spent.less
    rw [List.countP_append, List.countP_append, List.countP_singleton, List.countP_singleton]
    cases busy : event.isBusy <;> cases assign : event.isAssign <;>
      simp only [busy, assign, Bool.toNat_true, Bool.toNat_false, if_true, Bool.false_eq_true,
        if_false] at less ⊢ <;> omega

def Keeps (setup : Setup) (state : State) (event : Event) : Prop :=
  ∀ after, next setup state event = some after → ∀ dataId,
    state.agent.store.contains dataId = true → after.agent.store.contains dataId = true

/-- Shared chunks do not break concurrent transfers whose steps are borne out: what a task has
returned for is there before the agent goes on to anything queued afterwards, no transfer is
left behind when nothing can go on, and only new assignments can keep it from that. -/
theorem shared_chunks_arrive (setup : Setup) (sendable : setup.Sendable) (catalog : DataCatalog)
    (agent : Agent.State) (keyed : agent.store.Keyed setup.agent.digest)
    (fresh : ∀ thread < setup.count,
      agent.assembler.pending.lookup (setup.dataId thread) = none)
    (idle : ∀ connection, agent.duties connection = []) (events : List Event) (final : State)
    (ran : run (next setup) (.start catalog agent) events = some final)
    (kept : Along (next setup) (Keeps setup) (.start catalog agent) events)
    (borne : Along (next setup) (fun state event => borneOut setup state event = true)
      (.start catalog agent) events) :
    (∀ thread < setup.count, ∀ mark, final.phases thread = .finished mark →
      mark ≤ final.received → final.agent.duties .control = [] →
        final.agent.store.bytesOf (setup.dataId thread) = some (setup.data thread)) ∧
    (Quiet setup final → ∀ thread < setup.count, ∃ mark, final.phases thread = .finished mark) ∧
    events.countP Event.isBusy ≤
      effort setup (.start catalog agent) + 6 * events.countP Event.isAssign := by
  have shares : Shares setup final := by
    refine @run_history State Event (next setup) _ (fun _ => Shares setup) (.start catalog agent)
      final events (shares_start keyed fresh idle) ?_ (along_and kept borne) ran
    intro past state event after shares moved met
    exact shares.step sendable (next_step moved) met.2 (met.1 after moved)
  refine ⟨fun thread bound mark finished past free => ?_, fun quiet thread bound => ?_,
    effort_bounds idle ran⟩
  · exact shares.arrives sendable bound finished past free
  · exact shares.completes sendable quiet bound

theorem keeps_unbounded {catalog : DataCatalog} {agent : Agent.State}
    (unbounded : agent.store.budget = none) (keyed : agent.store.Keyed setup.agent.digest)
    (events : List Event) : Along (next setup) (Keeps setup) (.start catalog agent) events := by
  have grown : ∀ state event after, state.agent.store.budget = none ∧
      state.agent.store.Keyed setup.agent.digest → next setup state event = some after →
        DataStore.Grown setup.agent.digest state.agent.store after.agent.store := by
    rintro state event after ⟨unbounded, keyed⟩ moved
    have same : DataStore.Grown setup.agent.digest state.agent.store state.agent.store :=
      .of_same unbounded keyed rfl rfl
    cases next_step moved with
    | deliver connection message rest front idle =>
        exact (Agent.receive_step connection message idle).grown unbounded keyed
    | work action agent internal worked =>
        exact (Agent.next_step worked).grown unbounded keyed
    | sendChunk thread index =>
        rw [State.move_agent, (@sendBulk_frame setup state (setup.chunk thread index)).2.2.2.2.1]
        exact same
    | hear message =>
        rw [(hear_frame state message).2.1]
        exact same
    | _ => exact same
  refine @along_invariant State Event (next setup) (Keeps setup)
    (fun state => state.agent.store.budget = none ∧ state.agent.store.Keyed setup.agent.digest)
    (.start catalog agent) ⟨unbounded, keyed⟩ ?_ ?_ events
  · intro state event holds after moved dataId held
    exact (grown state event after holds moved).contains held
  · intro state event after holds moved
    have more := grown state event after holds moved
    exact ⟨more.unbounded, more.keyed⟩

def twoDatasets (first second : Bytes) : Setup where
  agent := Agent.plainSetup
  policy := Agent.neverCompress
  bandwidth := none
  nodeId := ⟨0⟩
  reuseData := true
  chunkSize := 1
  channels := 1
  count := 2
  data := fun thread => if thread = 0 then first else second

theorem twoDatasets_sendable (first second : Bytes) (different : first ≠ second)
    (two : first.length = 2 ∧ second.length = 2) : (twoDatasets first second).Sendable := by
  have short : ∀ thread, ((twoDatasets first second).data thread).length = 2 := by
    intro thread
    by_cases zero : thread = 0
    · simp [twoDatasets, zero, two.1]
    · simp [twoDatasets, zero, two.2]
  refine ⟨?_, Nat.one_pos, (by decide : 1 < 2 ^ 32), ?_, ?_, ?_⟩
  · intro left small right also same
    have equal : (twoDatasets first second).data left = (twoDatasets first second).data right :=
      Agent.shortDigest_unique (by rw [short]; decide) same
    have bounds : left < 2 ∧ right < 2 := ⟨small, also⟩
    by_contra apart
    have split : left = 0 ∧ right = 1 ∨ left = 1 ∧ right = 0 := by omega
    rcases split with ⟨rfl, rfl⟩ | ⟨rfl, rfl⟩
    · exact different equal
    · exact different equal.symm
  · intro thread _
    rw [short]
    exact (by decide : 1 < 2)
  · intro thread _
    have chunks : ((twoDatasets first second).manifest thread).chunks.length = 2 := by
      simp [Setup.manifest, ChunkManifest.split, twoDatasets, length_chunksOf]
      exact short thread
    have length : Agent.plainWire.encodedLen (.dataManifest ⟨0⟩
        ((twoDatasets first second).manifest thread)) = 64 + 40 * 2 := by
      rw [← chunks]
      rfl
    simp only [Wire.fits, decide_eq_true_eq]
    rw [show (twoDatasets first second).agent.wire = Agent.plainWire from rfl,
      show (twoDatasets first second).nodeId = ⟨0⟩ from rfl, length]
    decide
  · intro thread _ piece member other same
    refine Agent.shortDigest_unique ?_ same
    rcases List.mem_cons.mp member with rfl | member
    · rw [short]
      decide
    · obtain ⟨index, -, rfl⟩ := List.mem_map.mp member
      simp [twoDatasets]

theorem emptyAgent_keyed : Agent.emptyAgent.store.Keyed Agent.shortDigest := nofun

def sharesInTime : List Event :=
  [.check 0, .sendManifest 0, .look 0, .credit 0, .look 0, .credit 0, .expectData 0,
    .check 1, .sendManifest 1, .deliver .control, .deliver .control,
    .sendChunk 0, .sendChunk 0, .deliver (.channel 0), .deliver (.channel 0),
    .look 1, .look 1, .credit 1, .expectData 1, .sendChunk 1,
    .work (.act (.channel 0)), .work (.act (.channel 0)), .hear, .await 0, .record 0,
    .deliver (.channel 0), .work (.act (.channel 0)), .work (.act (.channel 0)), .hear,
    .await 1, .record 1]

def bothReturned (state : State) : Bool :=
  state.phases 0 = .finished 2 ∧ state.phases 1 = .finished 2 ∧ state.received = 2 ∧
    state.agent.duties .control = []

theorem shared_chunk_in_time :
    ∃ final, run (next (twoDatasets [1, 2] [2, 3])) (.start .new Agent.emptyAgent) sharesInTime =
        some final ∧
      final.agent.store.bytesOf (Agent.shortDigest [1, 2]) = some [1, 2] ∧
      final.agent.store.bytesOf (Agent.shortDigest [2, 3]) = some [2, 3] := by
  have tested : (run (next (twoDatasets [1, 2] [2, 3])) (.start .new Agent.emptyAgent)
      sharesInTime).any bothReturned = true := by decide
  obtain ⟨final, ran, returned⟩ := run_tested tested
  obtain ⟨first, second, received, idle⟩ := of_decide_eq_true returned
  have arrives := (shared_chunks_arrive (twoDatasets [1, 2] [2, 3])
    (twoDatasets_sendable [1, 2] [2, 3] (by decide) ⟨rfl, rfl⟩) .new Agent.emptyAgent emptyAgent_keyed
    (fun _ _ => rfl) (fun _ => rfl) sharesInTime final ran
    (keeps_unbounded rfl emptyAgent_keyed sharesInTime) (by decide)).1
  exact ⟨final, ran, arrives 0 (by decide) 2 first (Nat.le_of_eq received.symm) idle,
    arrives 1 (by decide) 2 second (Nat.le_of_eq received.symm) idle⟩

def emptyBatch : List Event :=
  [.check 0, .sendManifest 0, .look 0, .credit 0, .look 0, .credit 0,
    .check 1, .sendManifest 1, .look 1, .look 1, .expectData 1, .record 1,
    .deliver .control, .deliver .control]

def returnedWithout (state : State) : Bool :=
  state.phases 1 = .finished 2 ∧ state.received = 2 ∧ state.agent.duties .control = [] ∧
    state.agent.store.bytesOf (Agent.shortDigest [2, 1]) = none

theorem empty_batch_returns_early :
    (twoDatasets [1, 2] [2, 1]).Sendable ∧
    ∃ final, run (next (twoDatasets [1, 2] [2, 1])) (.start .new Agent.emptyAgent) emptyBatch =
        some final ∧
      Along (next (twoDatasets [1, 2] [2, 1])) (Keeps (twoDatasets [1, 2] [2, 1]))
        (.start .new Agent.emptyAgent) emptyBatch ∧
      final.phases 1 = .finished 2 ∧ 2 ≤ final.received ∧ final.agent.duties .control = [] ∧
      final.agent.store.bytesOf ((twoDatasets [1, 2] [2, 1]).dataId 1) = none := by
  refine ⟨twoDatasets_sendable [1, 2] [2, 1] (by decide) ⟨rfl, rfl⟩, ?_⟩
  have tested : (run (next (twoDatasets [1, 2] [2, 1])) (.start .new Agent.emptyAgent)
      emptyBatch).any returnedWithout = true := by decide
  obtain ⟨final, ran, without⟩ := run_tested tested
  obtain ⟨returned, received, idle, missing⟩ := of_decide_eq_true without
  exact ⟨final, ran, keeps_unbounded rfl emptyAgent_keyed emptyBatch, returned,
    Nat.le_of_eq received.symm, idle, missing⟩

end AetherMesh.Transfers
