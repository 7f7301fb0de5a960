import AetherMesh.Controller.FlowHandover
import AetherMesh.Controller.SubmissionsInputs
import AetherMesh.Library.Counting

/-!
A run of a workflow together with the submissions of its steps, and with those of anybody else.
The figures of a placement are read from the catalog when the step is joined, after its own
transfers.
-/

namespace AetherMesh.FlowPlacements

open Runs
open Submissions (Setup)

structure State where
  flow : Flow.State
  mesh : Submissions.State

/-- A step is submitted by the thread of its number. `cached` is an answer of the result cache,
before anything is chosen. -/
inductive Event
  | flow (event : Flow.Event)
  | join (step : Nat) (outcome : Except DispatchError TaskResult)
  | cached (step : Nat) (result : TaskResult)
  | mesh (event : Submissions.Event)

/-- What the threads run is told in advance by the setup, so the flow has to agree. -/
def agrees (setup : Setup) : Flow.Event → Bool
  | .submit step task => setup.task step = task
  | .join _ _ _ => false
  | _ => true

def spawned (workflow : Workflow) (state : State) : Submissions.Event → Bool
  | .start thread => thread < workflow.len → thread ∈ state.flow.running.map Prod.fst
  | _ => true

def next (setup : Setup) (workflow : Workflow) (state : State) : Event → Option State
  | .flow event =>
      if agrees setup event then
        (Flow.next workflow state.flow event).map fun flow => { state with flow }
      else none
  | .join step outcome =>
      if state.mesh.phases step = .done outcome then
        (Flow.next workflow state.flow (.join step outcome state.mesh.catalog)).map fun flow =>
          { state with flow }
      else none
  | .cached step result =>
      if state.mesh.phases step = .idle ∧ step ∈ state.flow.running.map Prod.fst then
        some { state with mesh := state.mesh.move step (.done (.ok result)) }
      else none
  | .mesh event =>
      if spawned workflow state event then
        (Submissions.next setup state.mesh event).map fun mesh => { state with mesh }
      else none

variable {setup : Setup} {workflow : Workflow} {state after : State} {event : Event} {step : Nat}
  {nodeId : NodeId}

inductive Moves (setup : Setup) (workflow : Workflow) (state : State) : Event → State → Prop
  | flow {event : Flow.Event} {flow : Flow.State} (agreed : agrees setup event = true)
      (moved : Flow.next workflow state.flow event = some flow) :
      Moves setup workflow state (.flow event) { state with flow }
  | join {step : Nat} {outcome : Except DispatchError TaskResult} {flow : Flow.State}
      (ended : state.mesh.phases step = .done outcome)
      (moved : Flow.next workflow state.flow (.join step outcome state.mesh.catalog) =
        some flow) :
      Moves setup workflow state (.join step outcome) { state with flow }
  | cached {step : Nat} {result : TaskResult} (idle : state.mesh.phases step = .idle)
      (running : step ∈ state.flow.running.map Prod.fst) :
      Moves setup workflow state (.cached step result)
        { state with mesh := state.mesh.move step (.done (.ok result)) }
  | mesh {event : Submissions.Event} {mesh : Submissions.State}
      (allowed : spawned workflow state event = true)
      (moved : Submissions.Step setup state.mesh event mesh) :
      Moves setup workflow state (.mesh event) { state with mesh }

theorem next_moves (moved : next setup workflow state event = some after) :
    Moves setup workflow state event after := by
  cases event with
  | flow event =>
      obtain ⟨agreed, moved⟩ := Option.ite_none_right_eq_some.mp moved
      obtain ⟨flow, stepped, rfl⟩ := Option.map_eq_some_iff.mp moved
      exact .flow agreed stepped
  | join step outcome =>
      obtain ⟨ended, moved⟩ := Option.ite_none_right_eq_some.mp moved
      obtain ⟨flow, stepped, rfl⟩ := Option.map_eq_some_iff.mp moved
      exact .join ended stepped
  | cached step result =>
      obtain ⟨⟨idle, running⟩, moved⟩ := Option.ite_none_right_eq_some.mp moved
      obtain rfl := Option.some.inj moved
      exact .cached idle running
  | mesh event =>
      obtain ⟨allowed, moved⟩ := Option.ite_none_right_eq_some.mp moved
      obtain ⟨mesh, stepped, rfl⟩ := Option.map_eq_some_iff.mp moved
      exact .mesh allowed (Submissions.next_step stepped)

/-- The flow stays where it is or makes a step of its own. -/
theorem Moves.flow_cases (moves : Moves setup workflow state event after) :
    after.flow = state.flow ∨ ∃ event, Flow.next workflow state.flow event = some after.flow := by
  cases moves with
  | flow _ moved | join _ moved => exact .inr ⟨_, moved⟩
  | cached | mesh => exact .inl rfl

structure Sound (workflow : Workflow) (state : State) : Prop where
  handed : Flow.Handed state.flow
  submitted : ∀ step < workflow.len, state.mesh.phases step ≠ .idle →
    Flow.Clear state.flow step ∧ step ∉ state.flow.ready

theorem Sound.flow (sound : Sound workflow state) {event : Flow.Event} {flow : Flow.State}
    (moved : Flow.next workflow state.flow event = some flow) :
    Sound workflow { state with flow } := by
  refine ⟨sound.handed.preserved moved, fun step inside busy => ?_⟩
  obtain ⟨clear, unready⟩ := sound.submitted step inside busy
  refine ⟨Flow.next_clear moved clear, fun ready => ?_⟩
  obtain old | ⟨waits, -⟩ := Flow.next_ready moved ready
  · exact unready old
  · exact waits clear

theorem Sound.mesh (sound : Sound workflow state) {mesh : Submissions.State}
    (started : ∀ step < workflow.len, state.mesh.phases step = .idle → mesh.phases step ≠ .idle →
      step ∈ state.flow.running.map Prod.fst) :
    Sound workflow { state with mesh } := by
  refine ⟨sound.handed, fun step inside busy => ?_⟩
  by_cases idle : state.mesh.phases step = .idle
  · exact sound.handed.running step (started step inside idle busy)
  · exact sound.submitted step inside idle

theorem Sound.preserved (sound : Sound workflow state)
    (moves : Moves setup workflow state event after) : Sound workflow after := by
  cases moves with
  | flow _ moved | join _ moved => exact sound.flow moved
  | @cached step result idle running =>
      refine sound.mesh fun other _ idle busy => ?_
      by_cases same : other = step
      · rw [same]
        exact running
      · exact absurd ((Function.update_of_ne same _ _).trans idle) busy
  | @mesh event mesh allowed moved =>
      refine sound.mesh fun step inside idle busy => ?_
      by_cases starts : event = .start step
      · subst starts
        exact of_decide_eq_true allowed inside
      · exact absurd (moved.idle idle starts) busy

theorem Sound.idle (sound : Sound workflow state) (inside : step < workflow.len)
    (ready : step ∈ state.flow.ready) : state.mesh.phases step = .idle := by
  by_contra busy
  exact (sound.submitted step inside busy).2 ready

def Unchanged (workflow : Workflow) (outputs : Nat → Option DataId) (step : Nat)
    (flow : Flow.State) : Prop :=
  Flow.Clear flow step ∧
    ((∀ dependency ∈ workflow.dependsOn step, flow.outputs dependency = outputs dependency) ∨
      Flow.Doomed flow)

theorem Unchanged.preserved {outputs : Nat → Option DataId}
    (unchanged : Unchanged workflow outputs step state.flow)
    (moves : Moves setup workflow state event after) :
    Unchanged workflow outputs step after.flow := by
  obtain same | ⟨event, moved⟩ := moves.flow_cases
  · rw [same]
    exact unchanged
  · obtain ⟨clear, same | doomed⟩ := unchanged
    · refine ⟨Flow.next_clear moved clear, ?_⟩
      obtain kept | doomed := Flow.next_outputs moved clear
      · exact .inl fun dependency named => (kept dependency named).trans (same dependency named)
      · exact .inr doomed
    · exact ⟨Flow.next_clear moved clear, .inr (doomed.preserved moved)⟩

def withdraws (nodeId : NodeId) (state : State) : Event → Bool
  | .mesh event => Submissions.withdraws state.mesh nodeId event
  | _ => false

theorem Moves.holds (moves : Moves setup workflow state event after)
    (kept : withdraws nodeId state event = false) {input : DataId}
    (held : state.mesh.catalog.holds input nodeId = true) :
    after.mesh.catalog.holds input nodeId = true := by
  cases moves with
  | flow | join | cached => exact held
  | mesh _ moved => exact moved.holds kept held

theorem run_holds {start final : State} {events : List Event} {input : DataId}
    (undrawn : Along (next setup workflow) (fun state event => withdraws nodeId state event = false)
      start events)
    (ran : run (next setup workflow) start events = some final)
    (held : start.mesh.catalog.holds input nodeId = true) :
    final.mesh.catalog.holds input nodeId = true :=
  @run_history State Event (next setup workflow) _
    (fun _ state => state.mesh.catalog.holds input nodeId = true) start final events held
    (fun _ _ _ _ held moved kept => (next_moves moved).holds kept held) undrawn ran

/-- No credit of the node is withdrawn, and the step is answered by the node it was sent to. -/
def keeps (step : Nat) (nodeId : NodeId) (state : State) : Event → Bool
  | .mesh event =>
      !Submissions.withdraws state.mesh nodeId event &&
        Submissions.answeredThere state.mesh step event
  | .cached other _ => other ≠ step
  | _ => true

theorem Moves.credited (moves : Moves setup workflow state event after)
    (kept : keeps step nodeId state event = true)
    (credited : Submissions.Credited setup state.mesh step nodeId) :
    Submissions.Credited setup after.mesh step nodeId := by
  cases moves with
  | flow | join => exact credited
  | @cached other result idle running =>
      have different : step ≠ other := Ne.symm (of_decide_eq_true kept)
      have same : (state.mesh.move other (.done (.ok result))).phases step =
          state.mesh.phases step := Function.update_of_ne different _ _
      intro count found
      exact credited count (same ▸ found)
  | mesh allowed moved =>
      simp only [keeps, Bool.and_eq_true, Bool.not_eq_true'] at kept
      exact credited.step moved kept.1 kept.2

/-- A step of the workflow from the event that hands it over to the one that joins its result. -/
structure Submission (setup : Setup) (workflow : Workflow) (opened : State)
    (trace : List Event) where
  step : Nat
  task : Task
  result : TaskResult
  front : List Event
  middle : List Event
  back : List Event
  submitted : State
  reached : State
  split : trace = front ++ .flow (.submit step task) :: (middle ++ .join step (.ok result) :: back)
  began : run (next setup workflow) opened front = some submitted
  ended : run (next setup workflow) opened (front ++ .flow (.submit step task) :: middle) =
    some reached

def dependencyOutputs (workflow : Workflow) (step : Nat) (state : State) : List DataId :=
  (workflow.dependsOn step).filterMap state.flow.outputs

def onNode (state : State) (nodeId : NodeId) (inputs : List DataId) : Nat :=
  inputs.countP fun input => state.mesh.catalog.holds input nodeId

def notOnNode (state : State) (nodeId : NodeId) (inputs : List DataId) : Nat :=
  inputs.countP fun input => ¬state.mesh.catalog.holds input nodeId

theorem onNode_add_notOnNode (state : State) (nodeId : NodeId) (inputs : List DataId) :
    onNode state nodeId inputs + notOnNode state nodeId inputs = inputs.length :=
  (List.length_eq_countP_add_countP _).symm

namespace Submission

variable {opened final : State} {trace : List Event}

def inputs (made : Submission setup workflow opened trace) : List DataId :=
  dependencyOutputs workflow made.step made.submitted

def placement (made : Submission setup workflow opened trace) : Placement :=
  Flow.placementFor made.reached.mesh.catalog workflow made.step made.reached.flow.outputs
    made.result

/-- The figures say where the inputs were when the step was submitted. -/
def Right (made : Submission setup workflow opened trace) : Prop :=
  made.placement.inputsMoved = notOnNode made.submitted made.result.nodeId made.inputs ∧
    made.placement.inputsLocal = onNode made.submitted made.result.nodeId made.inputs

/-- From its submission on until its result is joined no step credits the node with an output that
the step depends on, or withdraws such a credit. -/
def Untouched (made : Submission setup workflow opened trace) : Prop :=
  Along (next setup workflow)
    (fun state event => ∀ after, next setup workflow state event = some after →
      ∀ input ∈ made.inputs, after.mesh.catalog.holds input made.result.nodeId =
        state.mesh.catalog.holds input made.result.nodeId)
    made.submitted (.flow (.submit made.step made.task) :: made.middle)

def Undrawn (made : Submission setup workflow opened trace) : Prop :=
  Along (next setup workflow) (fun state event => withdraws made.result.nodeId state event = false)
    made.submitted (.flow (.submit made.step made.task) :: made.middle)

def Kept (made : Submission setup workflow opened trace) : Prop :=
  Along (next setup workflow) (fun state event => keeps made.step made.result.nodeId state event)
    made.submitted (.flow (.submit made.step made.task) :: made.middle)

variable {made : Submission setup workflow opened trace}

theorem stages (ran : run (next setup workflow) opened trace = some final) :
    ∃ handed joined, next setup workflow made.submitted (.flow (.submit made.step made.task)) =
        some handed ∧
      run (next setup workflow) handed made.middle = some made.reached ∧
      next setup workflow made.reached (.join made.step (.ok made.result)) = some joined := by
  have regrouped : trace = (made.front ++ .flow (.submit made.step made.task) :: made.middle) ++
      .join made.step (.ok made.result) :: made.back :=
    made.split.trans (by rw [List.append_assoc, List.cons_append])
  rw [regrouped] at ran
  obtain ⟨reached, whole, later⟩ := run_split ran
  obtain rfl := Option.some.inj (made.ended.symm.trans whole)
  obtain ⟨submitted, began, onwards⟩ := run_split made.ended
  obtain rfl := Option.some.inj (made.began.symm.trans began)
  obtain ⟨handed, moved, rest⟩ := Option.bind_eq_some_iff.mp onwards
  obtain ⟨joined, last, -⟩ := Option.bind_eq_some_iff.mp later
  exact ⟨handed, joined, moved, rest, last⟩

theorem handed_over (sound : Sound workflow made.submitted) {handed : State}
    (first : next setup workflow made.submitted (.flow (.submit made.step made.task)) =
      some handed) :
    setup.task made.step = made.task ∧ made.step < workflow.len ∧
      Flow.taskFor workflow made.step made.submitted.flow.outputs = some made.task ∧
      made.submitted.mesh.phases made.step = .idle ∧ handed.mesh = made.submitted.mesh ∧
      Flow.Clear handed.flow made.step ∧
      handed.flow.outputs = made.submitted.flow.outputs := by
  cases next_moves first with
  | flow agreed moved =>
      obtain ⟨_, rest, front, given, rfl⟩ := Flow.next_submit moved
      have ready : made.step ∈ made.submitted.flow.ready := by
        rw [front]
        exact List.mem_cons_self
      have inside : made.step < workflow.len := by
        by_contra outside
        rw [Flow.taskFor, List.getElem?_eq_none (Nat.le_of_not_lt outside)] at given
        cases given
      exact ⟨of_decide_eq_true agreed, inside, given, sound.idle inside ready, rfl,
        sound.handed.ready _ ready, rfl⟩

theorem joined_here {joined : State}
    (last : next setup workflow made.reached (.join made.step (.ok made.result)) = some joined) :
    made.reached.mesh.phases made.step = .done (.ok made.result) ∧
      made.reached.flow.control = .looping := by
  cases next_moves last with
  | join ended moved => exact ⟨ended, (Flow.next_join moved).1⟩

theorem same_outputs (sound : Sound workflow made.submitted)
    (ran : run (next setup workflow) opened trace = some final) :
    dependencyOutputs workflow made.step made.reached = made.inputs := by
  obtain ⟨handed, joined, first, middle, last⟩ := made.stages ran
  obtain ⟨-, -, -, -, -, clear, outputs⟩ := handed_over sound first
  have unchanged : Unchanged workflow made.submitted.flow.outputs made.step made.reached.flow :=
    @run_invariant _ _ (next setup workflow)
      (fun state => Unchanged workflow made.submitted.flow.outputs made.step state.flow) handed
      made.reached made.middle ⟨clear, .inl fun _ _ => by rw [outputs]⟩
      (fun _ _ _ unchanged moved => unchanged.preserved (next_moves moved)) middle
  obtain ⟨-, same | doomed⟩ := unchanged
  · exact List.filterMap_congr same
  · obtain panicked | ⟨_, _, _, _, releasing, -⟩ := doomed
    · cases (joined_here last).2.symm.trans panicked
    · cases (joined_here last).2.symm.trans releasing

/-- An input that was sent is credited before the task runs, so it counts as having been there. -/
theorem Kept.all_on_node (kept : made.Kept) (sound : Sound workflow made.submitted)
    (ran : run (next setup workflow) opened trace = some final) {input : DataId}
    (needed : input ∈ made.inputs) :
    made.reached.mesh.catalog.holds input made.result.nodeId = true := by
  obtain ⟨handed, joined, first, middle, last⟩ := made.stages ran
  obtain ⟨agreed, -, given, idle, mesh, -, -⟩ := handed_over sound first
  have stretch := kept
  simp only [Kept, Along, first] at stretch
  have credited : Submissions.Credited setup made.reached.mesh made.step made.result.nodeId := by
    refine @run_history _ _ (next setup workflow) _
      (fun _ state => Submissions.Credited setup state.mesh made.step made.result.nodeId)
      handed made.reached made.middle ?_
      (fun _ _ _ _ credited moved kept => (next_moves moved).credited kept credited)
      stretch.2 middle
    intro count found
    rw [mesh, idle] at found
    cases found
  obtain ⟨dependency, named, produced⟩ := List.mem_filterMap.mp needed
  obtain ⟨index, below, found⟩ :=
    List.getElem_of_mem (Flow.mem_inputs_of_taskFor given named produced)
  refine credited (setup.task made.step).inputs.length ?_ index ?_ input ?_
  · rw [(joined_here last).1]
    rfl
  · rw [agreed]
    exact below
  · rw [Setup.inputAt, agreed, List.getElem?_eq_getElem below, found]

theorem placement_eq (sound : Sound workflow made.submitted)
    (ran : run (next setup workflow) opened trace = some final) :
    made.placement.inputsLocal = onNode made.reached made.result.nodeId made.inputs ∧
      made.placement.inputsMoved = notOnNode made.reached made.result.nodeId made.inputs := by
  have whole := onNode_add_notOnNode made.reached made.result.nodeId made.inputs
  have same := made.same_outputs sound ran
  have here : made.placement.inputsLocal = onNode made.reached made.result.nodeId made.inputs := by
    rw [← same]
    rfl
  refine ⟨here, ?_⟩
  have rest : made.placement.inputsMoved = made.inputs.length - made.placement.inputsLocal := by
    rw [← same]
    rfl
  omega

def SameCredits (made : Submission setup workflow opened trace) (state : State) : Prop :=
  ∀ input ∈ made.inputs, state.mesh.catalog.holds input made.result.nodeId =
    made.submitted.mesh.catalog.holds input made.result.nodeId

theorem onwards (made : Submission setup workflow opened trace) :
    run (next setup workflow) made.submitted
      (.flow (.submit made.step made.task) :: made.middle) = some made.reached := by
  obtain ⟨submitted, began, onwards⟩ := run_split made.ended
  obtain rfl := Option.some.inj (made.began.symm.trans began)
  exact onwards

theorem untouched_iff (made : Submission setup workflow opened trace) :
    made.Untouched ↔ Always (next setup workflow) made.SameCredits made.submitted
      (.flow (.submit made.step made.task) :: made.middle) := by
  refine (@always_iff_along State Event (next setup workflow) _ made.SameCredits made.submitted
    made.reached _ (fun _ => True) trivial (fun _ _ => rfl) ?_ made.onwards).symm
  intro state event after _ moved
  refine ⟨trivial, fun same => ?_⟩
  constructor
  · intro later other also input needed
    obtain rfl := Option.some.inj (moved.symm.trans also)
    rw [later input needed, same input needed]
  · intro untouched input needed
    rw [untouched after moved input needed, same input needed]

/-- Without withdrawals what is credited at the join alone was credited by some step. -/
theorem Undrawn.untouched_iff (undrawn : made.Undrawn) :
    made.Untouched ↔ made.SameCredits made.reached := by
  rw [made.untouched_iff]
  constructor
  · intro always
    exact always_last always made.onwards
  · intro same front back state split ran input needed
    have along : Along (next setup workflow)
        (fun state event => withdraws made.result.nodeId state event = false) made.submitted
        (front ++ back) := split ▸ undrawn
    have whole : run (next setup workflow) made.submitted (front ++ back) = some made.reached :=
      split ▸ made.onwards
    obtain ⟨first, rest⟩ := (along_append _ _ _).mp along
    obtain ⟨middle, also, later⟩ := run_split whole
    obtain rfl := Option.some.inj (ran.symm.trans also)
    have here := same input needed
    rw [Bool.eq_iff_iff] at here ⊢
    exact ⟨fun held => here.mp (run_holds (rest state ran) later held), run_holds first ran⟩

theorem right_iff (sound : Sound workflow made.submitted)
    (ran : run (next setup workflow) opened trace = some final) :
    made.Right ↔ notOnNode made.submitted made.result.nodeId made.inputs =
      notOnNode made.reached made.result.nodeId made.inputs := by
  obtain ⟨here, there⟩ := made.placement_eq sound ran
  have whole := onNode_add_notOnNode made.reached made.result.nodeId made.inputs
  have before := onNode_add_notOnNode made.submitted made.result.nodeId made.inputs
  rw [Submission.Right, here, there]
  omega

theorem Untouched.right (untouched : made.Untouched) (sound : Sound workflow made.submitted)
    (ran : run (next setup workflow) opened trace = some final) : made.Right := by
  have same := always_last (made.untouched_iff.mp untouched) made.onwards
  rw [right_iff sound ran, notOnNode, notOnNode]
  refine List.countP_congr fun input needed => ?_
  rw [same input needed]

theorem Undrawn.right_iff (undrawn : made.Undrawn) (sound : Sound workflow made.submitted)
    (ran : run (next setup workflow) opened trace = some final) : made.Right ↔ made.Untouched := by
  refine ⟨fun right => ?_, fun untouched => untouched.right sound ran⟩
  rw [undrawn.untouched_iff]
  rw [Submission.right_iff sound ran, notOnNode, notOnNode] at right
  have fewer : ∀ input ∈ made.inputs,
      decide (¬made.reached.mesh.catalog.holds input made.result.nodeId = true) = true →
        decide (¬made.submitted.mesh.catalog.holds input made.result.nodeId = true) = true := by
    intro input needed missing
    rw [decide_eq_true_eq] at missing ⊢
    exact fun held => missing (run_holds undrawn made.onwards held)
  intro input needed
  have same := (Counting.countP_eq_iff fewer).mp right.symm input needed
  rwa [decide_eq_decide, not_iff_not, ← Bool.eq_iff_iff] at same

def extend (made : Submission setup workflow opened trace) (event : Event) :
    Submission setup workflow opened (trace ++ [event]) :=
  { made with
    back := made.back ++ [event]
    split := (congrArg (· ++ [event]) made.split).trans (by simp) }

end Submission

section Record

variable {opened final : State} {trace : List Event}

structure Recorded (setup : Setup) (workflow : Workflow) (opened : State) (past : List Event)
    (state : State) : Prop where
  running : ∀ step ∈ state.flow.running.map Prod.fst, ∃ front task middle,
    past = front ++ .flow (.submit step task) :: middle
  placements : ∀ placement ∈ state.flow.placements,
    ∃ made : Submission setup workflow opened past, made.placement = placement

theorem Recorded.still {past : List Event} (recorded : Recorded setup workflow opened past state)
    (running : after.flow.running = state.flow.running)
    (placements : after.flow.placements = state.flow.placements) :
    Recorded setup workflow opened (past ++ [event]) after := by
  refine ⟨fun step runs => ?_, fun placement placed => ?_⟩
  · obtain ⟨front, task, middle, rfl⟩ := recorded.running step (running ▸ runs)
    exact ⟨front, task, middle ++ [event], by simp⟩
  · obtain ⟨made, rfl⟩ := recorded.placements placement (placements ▸ placed)
    exact ⟨made.extend event, rfl⟩

theorem Recorded.flow {past : List Event} (recorded : Recorded setup workflow opened past state)
    {event : Flow.Event} {flow : Flow.State} (agreed : agrees setup event = true)
    (moved : Flow.next workflow state.flow event = some flow) :
    Recorded setup workflow opened (past ++ [.flow event]) { state with flow } := by
  refine ⟨fun step runs => ?_, fun placement placed => ?_⟩
  · obtain old | ⟨task, rfl⟩ := Flow.next_running moved runs
    · obtain ⟨front, task, middle, rfl⟩ := recorded.running step old
      exact ⟨front, task, middle ++ [.flow event], by simp⟩
    · exact ⟨past, task, [], rfl⟩
  · obtain same | ⟨_, _, _, rfl, -⟩ := Flow.next_placements moved
    · obtain ⟨made, rfl⟩ := recorded.placements placement (same ▸ placed)
      exact ⟨made.extend (.flow event), rfl⟩
    · cases agreed

theorem Recorded.join {past : List Event} (recorded : Recorded setup workflow opened past state)
    (ran : run (next setup workflow) opened past = some state)
    {outcome : Except DispatchError TaskResult} {flow : Flow.State}
    (moved : Flow.next workflow state.flow (.join step outcome state.mesh.catalog) = some flow) :
    Recorded setup workflow opened (past ++ [.join step outcome]) { state with flow } := by
  refine ⟨fun other runs => ?_, fun placement placed => ?_⟩
  · obtain old | ⟨_, impossible⟩ := Flow.next_running moved runs
    · obtain ⟨front, task, middle, rfl⟩ := recorded.running other old
      exact ⟨front, task, middle ++ [.join step outcome], by simp⟩
    · cases impossible
  · obtain same | ⟨_, result, _, ⟨⟩, running, more⟩ := Flow.next_placements moved
    · obtain ⟨made, rfl⟩ := recorded.placements placement (same ▸ placed)
      exact ⟨made.extend (.join step outcome), rfl⟩
    · change placement ∈ flow.placements at placed
      rw [more, List.mem_append, List.mem_singleton] at placed
      obtain old | rfl := placed
      · obtain ⟨made, rfl⟩ := recorded.placements placement old
        exact ⟨made.extend _, rfl⟩
      · obtain ⟨front, task, middle, rfl⟩ := recorded.running step running
        obtain ⟨submitted, began, -⟩ := run_split ran
        exact ⟨{ step, task, result, front, middle, back := [], submitted, reached := state
                 split := by simp, began, ended := ran }, rfl⟩

theorem run_recorded (idle : opened.flow.running = []) (nothing : opened.flow.placements = [])
    (ran : run (next setup workflow) opened trace = some final) :
    Recorded setup workflow opened trace final := by
  refine @run_reached _ _ (next setup workflow) (Recorded setup workflow opened) opened final trace
    ⟨by simp [idle], by simp [nothing]⟩ ?_ ran
  intro past state event after reached recorded moved
  cases next_moves moved with
  | flow agreed stepped => exact recorded.flow agreed stepped
  | join _ stepped => exact recorded.join reached stepped
  | cached | mesh => exact recorded.still rfl rfl

theorem run_answer {flow : FlowResult} (looping : opened.flow.control = .looping)
    (ran : run (next setup workflow) opened trace = some final)
    (answered : final.flow.answer = some (.ok flow)) :
    ∃ bytes, flow = Flow.flowResult workflow final.flow bytes := by
  refine @run_invariant _ _ (next setup workflow)
    (fun state => state.flow.answer = some (.ok flow) →
      ∃ bytes, flow = Flow.flowResult workflow state.flow bytes) opened final trace ?_ ?_ ran answered
  · intro answered
    simp [Flow.State.answer, looping] at answered
  · intro state event after before moved answered
    obtain same | ⟨event, stepped⟩ := (next_moves moved).flow_cases
    · rw [same] at answered ⊢
      exact before answered
    · exact (Flow.next_answer stepped answered).2.2

end Record

theorem start_sound {opened : State} {digest : Bytes → DataId}
    {resume : Option (String × Except CheckpointError (List Record))} {catalog : DataCatalog}
    {before : Nat} (started : Flow.start digest workflow resume catalog before = .ok opened.flow)
    (unused : ∀ step < workflow.len, opened.mesh.phases step = .idle) : Sound workflow opened :=
  ⟨Flow.start_handed started, fun step inside busy => absurd (unused step inside) busy⟩

/-- The figures of a placement are right if no step until the join credits the node with an input or
withdraws such a credit, and without withdrawals only then. When the node that the step was sent
to answers, every input counts as local, and the figures are right exactly if none was sent. -/
theorem placements_right_iff {opened final : State} {trace : List Event} {digest : Bytes → DataId}
    {resume : Option (String × Except CheckpointError (List Record))} {catalog : DataCatalog}
    {before : Nat} {flow : FlowResult}
    (started : Flow.start digest workflow resume catalog before = .ok opened.flow)
    (unused : ∀ step < workflow.len, opened.mesh.phases step = .idle)
    (ran : run (next setup workflow) opened trace = some final)
    (answered : final.flow.answer = some (.ok flow)) :
    (∀ placement ∈ flow.placements,
      ∃ made : Submission setup workflow opened trace, made.placement = placement) ∧
    ∀ made : Submission setup workflow opened trace,
      made.placement.inputsLocal + made.placement.inputsMoved = made.inputs.length ∧
      (made.Untouched → made.Right) ∧ (made.Undrawn → (made.Right ↔ made.Untouched)) ∧
      (made.Kept → made.placement.inputsMoved = 0 ∧
        (made.Right ↔ ∀ input ∈ made.inputs,
          made.submitted.mesh.catalog.holds input made.result.nodeId = true)) := by
  constructor
  · intro placement listed
    obtain ⟨bytes, rfl⟩ := run_answer (Flow.start_tally started).2 ran answered
    obtain ⟨_, _, _, _, resuming, opening⟩ := Flow.start_resuming started
    have idle : opened.flow.running = [] := by
      rw [opening]
      exact resuming.idle.1
    exact (run_recorded idle (Flow.start_placements started) ran).placements placement
      ((List.mem_insertionSort _).mp listed)
  · intro made
    have sound : Sound workflow made.submitted :=
      @run_invariant _ _ (next setup workflow) (Sound workflow) opened made.submitted made.front
        (start_sound started unused)
        (fun _ _ _ sound moved => sound.preserved (next_moves moved)) made.began
    obtain ⟨here, there⟩ := made.placement_eq sound ran
    have whole := onNode_add_notOnNode made.reached made.result.nodeId made.inputs
    refine ⟨by omega, fun untouched => untouched.right sound ran,
      fun undrawn => undrawn.right_iff sound ran, fun kept => ?_⟩
    have none : notOnNode made.reached made.result.nodeId made.inputs = 0 := by
      refine List.countP_eq_zero.mpr fun input needed => ?_
      simp [kept.all_on_node sound ran needed]
    refine ⟨there.trans none, ?_⟩
    rw [made.right_iff sound ran, none, notOnNode, List.countP_eq_zero]
    simp

def firstNode : NodeId := ⟨0⟩

def otherNode : NodeId := ⟨1⟩

def makes : Task := Task.new ⟨0⟩ "echo" [7]

def produced : TaskResult := ⟨⟨0⟩, firstNode, .success [7], 0, some (leadingBytes [7])⟩

def reads : Task := (Task.new ⟨1⟩ "hash" []).withInputs [leadingBytes [7]]

def readOn (nodeId : NodeId) : TaskResult :=
  ⟨⟨1⟩, nodeId, .success [8], 0, some (leadingBytes [8])⟩

def twoSteps : Workflow := ⟨[⟨makes, []⟩, ⟨Task.new ⟨1⟩ "hash" [], [0]⟩]⟩

def twoThreads : Setup where
  count := 2
  task := fun thread => if thread = 0 then makes else reads
  manifests := fun _ => none
  reuseData := true
  maxAttempts := 1
  digest := leadingBytes

def twoNodes : State where
  flow := Flow.openReady twoSteps (Flow.fresh twoSteps 0)
  mesh := .start .new (fun _ => none) {firstNode, otherNode}

def makesFirst : List Event :=
  [.flow (.submit 0 makes), .mesh (.start 0), .mesh (.select 0 (some firstNode)),
    .mesh (.begin 0), .mesh (.lookup 0), .mesh (.expectResult 0), .mesh (.assign 0 none),
    .mesh (.complete produced), .mesh (.receive 0), .mesh (.finish 0), .mesh (.recordOutput 0),
    .join 0 (.ok produced), .flow .release, .flow .release]

def thenReads (nodeId : NodeId) (transfer : List Submissions.Event) : List Event :=
  let before : List Submissions.Event :=
    [.start 1, .select 1 (some nodeId), .begin 1, .lookup 1, .acquire 1, .check 1]
  let after : List Submissions.Event :=
    [.unlock 1, .release 1, .drop 1, .lookup 1, .expectResult 1, .assign 1 none,
      .complete (readOn nodeId), .receive 1, .finish 1, .recordOutput 1]
  (before ++ transfer ++ after).map .mesh

def chainOn (nodeId : NodeId) (transfer : List Submissions.Event) : List Event :=
  makesFirst ++ .flow (.submit 1 reads) ::
    (thenReads nodeId transfer ++
      [.join 1 (.ok (readOn nodeId)), .flow .release, .flow (.leave 0)])

def reported (nodeId : NodeId) : Placement := ⟨1, nodeId, 1, 1, 0⟩

def atSubmission (nodeId : NodeId) (missing : Nat) (state : State) : Bool :=
  dependencyOutputs twoSteps 1 state = [leadingBytes [7]] ∧
    notOnNode state nodeId [leadingBytes [7]] = missing

def atJoin (nodeId : NodeId) (state : State) : Bool :=
  Flow.placementFor state.mesh.catalog twoSteps 1 state.flow.outputs (readOn nodeId) =
      reported nodeId

def reports (nodeId : NodeId) (state : State) : Bool :=
  match state.flow.answer with
  | some (.ok flow) => flow.isSuccess && reported nodeId ∈ flow.placements
  | _ => false

theorem chain_placed {nodeId : NodeId} {transfer : List Submissions.Event} {missing : Nat}
    (before : (run (next twoThreads twoSteps) twoNodes makesFirst).any
      (atSubmission nodeId missing) = true)
    (joining : (run (next twoThreads twoSteps) twoNodes (makesFirst ++
      .flow (.submit 1 reads) :: thenReads nodeId transfer)).any (atJoin nodeId) = true)
    (kept : Along (next twoThreads twoSteps) (fun state event => keeps 1 nodeId state event) twoNodes
      (makesFirst ++ .flow (.submit 1 reads) :: thenReads nodeId transfer))
    (ending : (run (next twoThreads twoSteps) twoNodes (chainOn nodeId transfer)).any
      (reports nodeId) = true) :
    ∃ (final : State) (flow : FlowResult)
      (made : Submission twoThreads twoSteps twoNodes (chainOn nodeId transfer)),
      run (next twoThreads twoSteps) twoNodes (chainOn nodeId transfer) = some final ∧
      final.flow.answer = some (.ok flow) ∧ flow.isSuccess = true ∧
      made.placement ∈ flow.placements ∧ made.placement = reported nodeId ∧
      notOnNode made.submitted made.result.nodeId made.inputs = missing ∧ made.Kept := by
  obtain ⟨submitted, began, known⟩ := run_tested before
  obtain ⟨reached, ended, figures⟩ := run_tested joining
  obtain ⟨final, ran, reported⟩ := run_tested ending
  obtain ⟨inputs, absent⟩ := of_decide_eq_true known
  have placed := of_decide_eq_true figures
  unfold reports at reported
  split at reported
  · rename_i flow answered
    obtain ⟨success, listed⟩ := (Bool.and_eq_true _ _).mp reported
    refine ⟨final, flow, ⟨1, reads, readOn nodeId, makesFirst, thenReads nodeId transfer, _,
      submitted, reached, rfl, began, ended⟩, ran, answered, success, ?_, placed, ?_, ?_⟩
    · rw [Submission.placement, placed]
      exact of_decide_eq_true listed
    · rw [Submission.inputs, inputs]
      exact absent
    · exact ((along_append _ _ _).mp kept).2 submitted began
  · cases reported

/-- The input was sent to the other node for the step, and counts as having been there. -/
theorem sent_input_counts_as_local :
    ∃ (final : State) (flow : FlowResult)
      (made : Submission twoThreads twoSteps twoNodes
        (chainOn otherNode [.send 1 none, .record 1])),
      twoThreads.reuseData = true ∧
      run (next twoThreads twoSteps) twoNodes (chainOn otherNode [.send 1 none, .record 1]) =
        some final ∧
      final.flow.answer = some (.ok flow) ∧ flow.isSuccess = true ∧
      made.placement ∈ flow.placements ∧ made.placement.inputsMoved = 0 ∧
      notOnNode made.submitted made.result.nodeId made.inputs = 1 ∧ ¬made.Right := by
  obtain ⟨final, flow, made, ran, answered, success, listed, placed, absent, -⟩ :=
    @chain_placed otherNode [.send 1 none, .record 1] 1 (by decide +kernel) (by decide +kernel)
      (by decide +kernel) (by decide +kernel)
  have moved : made.placement.inputsMoved = 0 := by
    rw [placed]
    rfl
  refine ⟨final, flow, made, rfl, ran, answered, success, listed, moved, absent, fun right => ?_⟩
  rw [Submission.Right, moved, absent] at right
  cases right.1

theorem chain_on_one_node_right :
    ∃ (final : State) (flow : FlowResult)
      (made : Submission twoThreads twoSteps twoNodes (chainOn firstNode [])),
      run (next twoThreads twoSteps) twoNodes (chainOn firstNode []) = some final ∧
      final.flow.answer = some (.ok flow) ∧ made.placement ∈ flow.placements ∧ made.Right := by
  obtain ⟨final, flow, made, ran, answered, -, listed, -, before, kept⟩ :=
    @chain_placed firstNode [] 0 (by decide +kernel) (by decide +kernel) (by decide +kernel)
      (by decide +kernel)
  have started : Flow.start leadingBytes twoSteps none .new 0 = .ok twoNodes.flow := rfl
  refine ⟨final, flow, made, ran, answered, listed, ?_⟩
  refine (((placements_right_iff started (fun _ _ => rfl) ran answered).2 made).2.2.2 kept).2.mpr ?_
  intro input needed
  have there := List.countP_eq_zero.mp before input needed
  simpa using there

end AetherMesh.FlowPlacements
