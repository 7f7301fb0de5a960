import AetherMesh.Controller.Catalog
import AetherMesh.Controller.Checkpoint
import AetherMesh.Library.Runs
import Mathlib.Data.List.Destutter

/-!
Running a workflow. `run_inner` is a machine whose labels are what happens at its
loop: a step is handed to `Controller::submit`, a running step is joined, one
dependent of the joined step is released, or the loop is left. In which order
running steps are joined, how they end and what the catalog says then is up to
the environment, so it is part of the labels.
-/

namespace AetherMesh

inductive FlowError
  | invalid (error : WorkflowError)
  | dispatch (step : Nat) (source : DispatchError)
  | checkpoint (error : CheckpointError)
  | lost (step : Nat) (reason : String)
deriving DecidableEq

structure Placement where
  step : Nat
  nodeId : NodeId
  outputBytes : Nat
  inputsLocal : Nat
  inputsMoved : Nat
deriving DecidableEq

structure FlowResult where
  results : List TaskResult
  stepsRun : List Nat
  skipped : List Nat
  resumed : List Nat
  placements : List Placement
  bytesMoved : Nat
deriving DecidableEq

def FlowResult.isSuccess (flow : FlowResult) : Bool :=
  flow.skipped.isEmpty && flow.results.all TaskResult.isSuccess

namespace Flow

/-- Where the loop stands. A counter that would pass below zero panics. -/
inductive Control
  | looping
  | releasing (step : Nat) (succeeded : Bool) (todo : List Nat)
  | returned (result : Except FlowError FlowResult)
  | panicked

structure State where
  control : Control
  waiting : List Nat
  outputs : Nat → Option DataId
  results : Nat → Option TaskResult
  placements : List Placement
  abandoned : List Nat
  resumed : List Nat
  ready : List Nat
  running : List (Nat × Task)
  /-- The run's name and fingerprint, when there is a journal to write to. -/
  journal : Option (String × String)
  appended : List Record
  before : Nat

inductive Event
  | submit (step : Nat) (task : Task)
  | join (step : Nat) (outcome : Except DispatchError TaskResult) (catalog : DataCatalog)
  | lost (reason : String)
  | release
  | leave (after : Nat)
deriving DecidableEq

def addInput (outputs : Nat → Option DataId) (task : Task) (dependency : Nat) : Task :=
  match outputs dependency with
  | some outputId =>
      if outputId ∈ task.inputs then task
      else { task with inputs := task.inputs ++ [outputId] }
  | none => task

def taskFor (workflow : Workflow) (step : Nat) (outputs : Nat → Option DataId) : Option Task :=
  workflow.steps[step]?.map fun entry => entry.dependsOn.foldl (addInput outputs) entry.task

def placementFor (catalog : DataCatalog) (workflow : Workflow) (step : Nat)
    (outputs : Nat → Option DataId) (result : TaskResult) : Placement :=
  let dependencies := (workflow.dependsOn step).filterMap outputs
  let inputsLocal := dependencies.countP fun input => catalog.holds input result.nodeId
  { step
    nodeId := result.nodeId
    outputBytes := (result.output.map List.length).getD 0
    inputsLocal
    inputsMoved := dependencies.length - inputsLocal }

def decrement (waiting : List Nat) (step : Nat) : Option (List Nat) :=
  match waiting[step]? with
  | some (count + 1) => some (waiting.set step count)
  | _ => none

def resumeStep (workflow : Workflow) (known : Nat → Option Record) (catalog : DataCatalog)
    (state : State) (step : Nat) : State :=
  match known step with
  | none => state
  | some record =>
      if catalog.locations record.outputId = ∅ then state
      else
        match (workflow.dependentsOf step).foldlM decrement state.waiting with
        | none => { state with control := .panicked }
        | some waiting =>
            { state with
              waiting
              outputs := Function.update state.outputs step (some record.outputId)
              resumed := state.resumed ++ [step] }

def fresh (workflow : Workflow) (before : Nat) : State where
  control := .looping
  waiting := workflow.steps.map fun step => step.dependsOn.length
  outputs := fun _ => none
  results := fun _ => none
  placements := []
  abandoned := []
  resumed := []
  ready := []
  running := []
  journal := none
  appended := []
  before

def openReady (workflow : Workflow) (state : State) : State :=
  { state with
    ready := (List.range workflow.len).filter fun step =>
      state.waiting[step]? = some 0 ∧ step ∉ state.resumed }

/-- Everything before the loop. `resume` is the run's name and what reading the journal gave. -/
def start (digest : Bytes → DataId) (workflow : Workflow)
    (resume : Option (String × Except CheckpointError (List Record))) (catalog : DataCatalog)
    (before : Nat) : Except FlowError State :=
  match workflow.order with
  | .error error => .error (.invalid error)
  | .ok order =>
      match resume with
      | none => .ok (openReady workflow (fresh workflow before))
      | some (run, records) =>
          let submitted := fingerprint digest workflow
          match records.bind fun records => completed records run submitted with
          | .error error => .error (.checkpoint error)
          | .ok known =>
              .ok (openReady workflow (order.foldl (resumeStep workflow known catalog)
                { fresh workflow before with journal := some (run, submitted) }))

def abandonFurther (state : State) (further : Nat) : Option State :=
  (decrement state.waiting further).map fun waiting =>
    if waiting[further]? = some 0 then
      { state with waiting, abandoned := state.abandoned ++ [further] }
    else { state with waiting }

def releaseOne (workflow : Workflow) (step : Nat) (succeeded : Bool) (state : State)
    (dependent : Nat) : Option State :=
  (decrement state.waiting dependent).bind fun waiting =>
    if waiting[dependent]? ≠ some 0 then some { state with waiting }
    else if succeeded ∧ step ∉ state.abandoned then
      some { state with waiting, ready := state.ready ++ [dependent] }
    else
      (workflow.dependentsOf dependent).foldlM abandonFurther
        { state with waiting, abandoned := state.abandoned ++ [dependent] }

def recordFor (journal : Option (String × String)) (step : Nat) (result : TaskResult) :
    List Record :=
  match journal, result.outputId with
  | some (run, fingerprint), some outputId =>
      if result.isSuccess then
        [{ run
           fingerprint
           step
           taskId := result.taskId
           nodeId := result.nodeId
           outputId
           durationMs := result.duration / 1000000 }]
      else []
  | _, _ => []

def joined (workflow : Workflow) (state : State) (step : Nat) (result : TaskResult)
    (catalog : DataCatalog) : State :=
  { state with
    control := .releasing step result.isSuccess (workflow.dependentsOf step)
    running := state.running.eraseP fun entry => entry.1 = step
    placements := state.placements ++
      [placementFor catalog workflow step state.outputs result]
    outputs :=
      match result.outputId with
      | some outputId => Function.update state.outputs step (some outputId)
      | none => state.outputs
    appended := state.appended ++ recordFor state.journal step result
    results := Function.update state.results step (some result) }

def flowResult (workflow : Workflow) (state : State) (after : Nat) : FlowResult where
  results := (List.range workflow.len).filterMap state.results
  stepsRun := (List.range workflow.len).filter fun step => (state.results step).isSome
  skipped := (state.abandoned.insertionSort (· ≤ ·)).destutter (· ≠ ·)
  resumed := state.resumed.insertionSort (· ≤ ·)
  placements := state.placements.insertionSort fun left right => left.step ≤ right.step
  bytesMoved := after - state.before

def usizeMax : Nat := 2 ^ 64 - 1

def next (workflow : Workflow) (state : State) : Event → Option State
  | .submit step task =>
      match state.control, state.ready with
      | .looping, first :: rest =>
          if first = step ∧ taskFor workflow step state.outputs = some task then
            some { state with ready := rest, running := state.running ++ [(step, task)] }
          else none
      | _, _ => none
  | .join step outcome catalog =>
      match state.control, state.ready with
      | .looping, [] =>
          if step ∈ state.running.map Prod.fst then
            match outcome with
            | .error source =>
                some { state with control := .returned (.error (.dispatch step source)) }
            | .ok result => some (joined workflow state step result catalog)
          else none
      | _, _ => none
  | .lost reason =>
      match state.control, state.ready, state.running with
      | .looping, [], _ :: _ =>
          some { state with control := .returned (.error (.lost usizeMax reason)) }
      | _, _, _ => none
  | .release =>
      match state.control with
      | .releasing step succeeded (dependent :: todo) =>
          match releaseOne workflow step succeeded state dependent with
          | none => some { state with control := .panicked }
          | some released => some { released with control := .releasing step succeeded todo }
      | .releasing _ _ [] =>
          some { state with control := .looping, ready := state.ready.insertionSort (· ≤ ·) }
      | _ => none
  | .leave after =>
      match state.control, state.ready, state.running with
      | .looping, [], [] =>
          some { state with control := .returned (.ok (flowResult workflow state after)) }
      | _, _, _ => none

def State.answer (state : State) : Option (Except FlowError FlowResult) :=
  match state.control with
  | .returned result => some result
  | _ => none

def submissions (trace : List Event) : List (Nat × Task) :=
  trace.filterMap fun event =>
    match event with
    | .submit step task => some (step, task)
    | _ => none

section Inversion

variable {workflow : Workflow} {state after : State}

theorem next_submit {step : Nat} {task : Task}
    (moved : next workflow state (.submit step task) = some after) :
    state.control = .looping ∧ ∃ rest, state.ready = step :: rest ∧
      taskFor workflow step state.outputs = some task ∧
      after = { state with ready := rest, running := state.running ++ [(step, task)] } := by
  simp only [next] at moved
  split at moved
  · rename_i first rest looping ready
    split at moved
    · rename_i both
      obtain ⟨rfl, given⟩ := both
      exact ⟨looping, rest, ready, given, (Option.some.inj moved).symm⟩
    · simp at moved
  · simp at moved

theorem next_join {step : Nat} {outcome : Except DispatchError TaskResult} {catalog : DataCatalog}
    (moved : next workflow state (.join step outcome catalog) = some after) :
    state.control = .looping ∧ state.ready = [] ∧ step ∈ state.running.map Prod.fst ∧
      ((∃ source, outcome = .error source ∧
          after = { state with control := .returned (.error (.dispatch step source)) }) ∨
        ∃ result, outcome = .ok result ∧ after = joined workflow state step result catalog) := by
  simp only [next] at moved
  split at moved
  · rename_i looping idle
    split at moved
    · rename_i running
      refine ⟨looping, idle, running, ?_⟩
      cases outcome with
      | error source => exact Or.inl ⟨source, rfl, (Option.some.inj moved).symm⟩
      | ok result => exact Or.inr ⟨result, rfl, (Option.some.inj moved).symm⟩
    · simp at moved
  · simp at moved

theorem next_lost {reason : String} (moved : next workflow state (.lost reason) = some after) :
    state.control = .looping ∧ state.ready = [] ∧
      after = { state with control := .returned (.error (.lost usizeMax reason)) } := by
  simp only [next] at moved
  split at moved
  · rename_i looping idle _
    exact ⟨looping, idle, (Option.some.inj moved).symm⟩
  · simp at moved

theorem next_leave {bytes : Nat} (moved : next workflow state (.leave bytes) = some after) :
    state.control = .looping ∧ state.ready = [] ∧ state.running = [] ∧
      after = { state with control := .returned (.ok (flowResult workflow state bytes)) } := by
  simp only [next] at moved
  split at moved
  · rename_i looping idle finished
    exact ⟨looping, idle, finished, (Option.some.inj moved).symm⟩
  · simp at moved

theorem next_release (moved : next workflow state .release = some after) :
    (∃ step succeeded, state.control = .releasing step succeeded [] ∧
      after = { state with control := .looping, ready := state.ready.insertionSort (· ≤ ·) }) ∨
    ∃ step succeeded dependent todo,
      state.control = .releasing step succeeded (dependent :: todo) ∧
      ((releaseOne workflow step succeeded state dependent = none ∧
          after = { state with control := .panicked }) ∨
        ∃ released, releaseOne workflow step succeeded state dependent = some released ∧
          after = { released with control := .releasing step succeeded todo }) := by
  simp only [next] at moved
  split at moved
  · rename_i step succeeded dependent todo releasing
    refine Or.inr ⟨step, succeeded, dependent, todo, releasing, ?_⟩
    cases found : releaseOne workflow step succeeded state dependent with
    | none =>
        rw [found] at moved
        exact Or.inl ⟨rfl, (Option.some.inj moved).symm⟩
    | some released =>
        rw [found] at moved
        exact Or.inr ⟨released, rfl, (Option.some.inj moved).symm⟩
  · rename_i step succeeded releasing
    exact Or.inl ⟨step, succeeded, releasing, (Option.some.inj moved).symm⟩
  · simp at moved

theorem abandonFurther_frame {further : Nat} (moved : abandonFurther state further = some after) :
    after = { state with waiting := after.waiting, abandoned := after.abandoned } := by
  simp only [abandonFurther, Option.map_eq_some_iff] at moved
  obtain ⟨waiting, _, rfl⟩ := moved
  split <;> rfl

theorem foldlM_abandonFurther_frame {steps : List Nat}
    (moved : steps.foldlM abandonFurther state = some after) :
    after = { state with waiting := after.waiting, abandoned := after.abandoned } := by
  induction steps generalizing state with
  | nil =>
      obtain rfl := Option.some.inj moved
      rfl
  | cons step rest ih =>
      rw [List.foldlM_cons] at moved
      obtain ⟨middle, first, later⟩ := Option.bind_eq_some_iff.mp moved
      rw [ih later, abandonFurther_frame first]

theorem releaseOne_frame {step dependent : Nat} {succeeded : Bool}
    (moved : releaseOne workflow step succeeded state dependent = some after) :
    after = { state with
      waiting := after.waiting, ready := after.ready, abandoned := after.abandoned } := by
  simp only [releaseOne, Option.bind_eq_some_iff] at moved
  obtain ⟨waiting, _, moved⟩ := moved
  split at moved
  · obtain rfl := Option.some.inj moved
    rfl
  · split at moved
    · obtain rfl := Option.some.inj moved
      rfl
    · rw [foldlM_abandonFurther_frame moved]

end Inversion

end Flow

end AetherMesh
