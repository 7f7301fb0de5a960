import AetherMesh.Controller.FlowDispatch

/-!
The order in which running steps complete does not matter. Where what a task
comes to is a function of what it is asked to do, a run hands over the tasks of
the run that takes the steps one at a time in the order Kahn's algorithm gives,
and reports its outcomes.
-/

namespace AetherMesh.Flow

/-- How a task ends and what output it leaves, from its kind, payload and inputs. -/
abbrev Meaning := String → Bytes → List DataId → TaskOutcome × Option DataId

def Meaning.of (meaning : Meaning) (task : Task) : TaskOutcome × Option DataId :=
  meaning task.kind task.payload task.inputs

structure Done where
  step : Nat
  task : Task
  outcome : TaskOutcome
deriving DecidableEq

structure Sequential where
  outputs : Nat → Option DataId
  done : List Done

def runOne (meaning : Meaning) (workflow : Workflow) (sofar : Sequential) (step : Nat) :
    Sequential :=
  match taskFor workflow step sofar.outputs with
  | none => sofar
  | some task =>
      { outputs := Function.update sofar.outputs step (meaning.of task).2
        done := sofar.done ++ [⟨step, task, (meaning.of task).1⟩] }

def runInOrder (meaning : Meaning) (workflow : Workflow) (order : List Nat) : Sequential :=
  order.foldl (runOne meaning workflow) ⟨fun _ => none, []⟩

def Sequential.outcomes (sequential : Sequential) (size : Nat) : List TaskOutcome :=
  (List.range size).filterMap fun step =>
    (sequential.done.find? fun entry => entry.step = step).map Done.outcome

theorem foldl_addInput_congr {outputs others : Nat → Option DataId} {dependencies : List Nat}
    (same : ∀ dependency ∈ dependencies, outputs dependency = others dependency) (task : Task) :
    dependencies.foldl (addInput outputs) task = dependencies.foldl (addInput others) task := by
  induction dependencies generalizing task with
  | nil => rfl
  | cons dependency rest ih =>
      have first : addInput outputs task dependency = addInput others task dependency := by
        simp only [addInput, same dependency (by simp)]
      rw [List.foldl_cons, List.foldl_cons, first]
      exact ih (fun other member => same other (List.mem_cons_of_mem _ member)) _

theorem taskFor_congr {workflow : Workflow} {step : Nat} {outputs others : Nat → Option DataId}
    (same : ∀ dependency ∈ workflow.dependsOn step, outputs dependency = others dependency) :
    taskFor workflow step outputs = taskFor workflow step others := by
  unfold taskFor
  cases found : workflow.steps[step]? with
  | none => rfl
  | some entry =>
      have named : workflow.dependsOn step = entry.dependsOn := by simp [Workflow.dependsOn, found]
      rw [named] at same
      simp only [Option.map_some]
      rw [foldl_addInput_congr same]

theorem taskFor_of_lt {workflow : Workflow} {step : Nat} (inside : step < workflow.len)
    (outputs : Nat → Option DataId) : ∃ task, taskFor workflow step outputs = some task := by
  have found := List.getElem?_eq_getElem (show step < workflow.steps.length from inside)
  simp only [taskFor, found, Option.map_some, Option.some.injEq, exists_eq']

structure Settled (meaning : Meaning) (workflow : Workflow) (front : List Nat)
    (sofar : Sequential) : Prop where
  steps : sofar.done.map Done.step = front
  entry : ∀ entry ∈ sofar.done, taskFor workflow entry.step sofar.outputs = some entry.task ∧
    (entry.outcome, sofar.outputs entry.step) = meaning.of entry.task

theorem Settled.step {meaning : Meaning} {workflow : Workflow} {front : List Nat}
    {sofar : Sequential} (settled : Settled meaning workflow front sofar) {index : Nat}
    (new : index ∉ front) (inside : index < workflow.len)
    (unread : ∀ other ∈ front ++ [index], index ∉ workflow.dependsOn other) :
    Settled meaning workflow (front ++ [index]) (runOne meaning workflow sofar index) := by
  obtain ⟨task, given⟩ := taskFor_of_lt inside sofar.outputs
  have same (other : Nat) (member : other ∈ front ++ [index]) :
      taskFor workflow other (Function.update sofar.outputs index (meaning.of task).2) =
        taskFor workflow other sofar.outputs := by
    apply taskFor_congr
    intro dependency named
    have different : dependency ≠ index := fun equal => unread other member (equal ▸ named)
    rw [Function.update_of_ne different]
  simp only [runOne, given]
  refine ⟨by simp [settled.steps], ?_⟩
  intro entry member
  rcases List.mem_append.mp member with old | last
  · obtain ⟨asked, left⟩ := settled.entry entry old
    have placed : entry.step ∈ front := settled.steps ▸ List.mem_map_of_mem old
    have different : entry.step ≠ index := fun equal => new (equal ▸ placed)
    refine ⟨(same entry.step (List.mem_append_left _ placed)).trans asked, ?_⟩
    simpa only [Function.update_of_ne different] using left
  · obtain rfl := List.mem_singleton.mp last
    exact ⟨(same index (by simp)).trans given, by simp only [Function.update_self]⟩

theorem foldl_runOne_settled {meaning : Meaning} {workflow : Workflow} {order : List Nat}
    (ordered : workflow.order = .ok order) (front back : List Nat) (split : order = front ++ back) :
    Settled meaning workflow front
      (front.foldl (runOne meaning workflow) ⟨fun _ => none, []⟩) := by
  induction front using List.reverseRecOn generalizing back with
  | nil => exact ⟨rfl, by simp⟩
  | append_singleton front index ih =>
      have regrouped : order = front ++ index :: back := by simp [split]
      have unique := regrouped ▸ Workflow.order_nodup ordered
      have new : index ∉ front :=
        fun member => (List.nodup_append.mp unique).2.2 index member index (by simp) rfl
      rw [List.foldl_append, List.foldl_cons, List.foldl_nil]
      refine (ih (index :: back) regrouped).step new ?_ ?_
      · have member : index ∈ order := by simp [regrouped]
        exact List.mem_range.mp ((Workflow.order_perm ordered).subset member)
      · intro other member named
        rcases List.mem_append.mp member with earlier | last
        · exact new (Workflow.order_closed ordered regrouped earlier named)
        · obtain rfl := List.mem_singleton.mp last
          exact Workflow.order_irrefl ordered other named

theorem runInOrder_settled (meaning : Meaning) {workflow : Workflow} {order : List Nat}
    (ordered : workflow.order = .ok order) :
    Settled meaning workflow order (runInOrder meaning workflow order) :=
  foldl_runOne_settled ordered order [] (by simp)

theorem runInOrder_entry (meaning : Meaning) {workflow : Workflow} {order : List Nat}
    (ordered : workflow.order = .ok order) {step : Nat} (inside : step < workflow.len) :
    ∃ entry ∈ (runInOrder meaning workflow order).done, entry.step = step ∧
      taskFor workflow step (runInOrder meaning workflow order).outputs = some entry.task ∧
      (entry.outcome, (runInOrder meaning workflow order).outputs step) = meaning.of entry.task := by
  have settled := runInOrder_settled meaning ordered
  have member : step ∈ order := (Workflow.order_perm ordered).mem_iff.mpr (List.mem_range.mpr inside)
  rw [← settled.steps] at member
  obtain ⟨entry, present, rfl⟩ := List.mem_map.mp member
  obtain ⟨asked, left⟩ := settled.entry entry present
  exact ⟨entry, present, rfl, asked, left⟩

/-- No dispatch fails, no step is lost, and a step that is joined comes to what its task means. -/
def Conforms (meaning : Meaning) (state : State) : Event → Prop
  | .join step (.ok result) _ => ∀ entry ∈ state.running, entry.1 = step →
      (result.outcome, result.outputId) = meaning.of entry.2
  | .join _ (.error _) _ => False
  | .lost _ => False
  | _ => True

instance (meaning : Meaning) (state : State) (event : Event) :
    Decidable (Conforms meaning state event) :=
  match event with
  | .join _ (.ok _) _ => inferInstanceAs (Decidable (∀ entry ∈ _, _))
  | .join _ (.error _) _ => inferInstanceAs (Decidable False)
  | .lost _ => inferInstanceAs (Decidable False)
  | .submit _ _ => inferInstanceAs (Decidable True)
  | .release => inferInstanceAs (Decidable True)
  | .leave _ => inferInstanceAs (Decidable True)

structure Follows (workflow : Workflow) (meaning : Meaning) (outputs : Nat → Option DataId)
    (past : List Event) (state : State) : Prop where
  left : ∀ step, state.outputs step = if (state.results step).isSome then outputs step else none
  finished : ∀ step result, state.results step = some result →
    ∃ task, taskFor workflow step outputs = some task ∧
      (result.outcome, result.outputId) = meaning.of task
  running : ∀ entry ∈ state.running, taskFor workflow entry.1 outputs = some entry.2
  submitted : ∀ entry ∈ submissions past, taskFor workflow entry.1 outputs = some entry.2

section Follows

variable {workflow : Workflow} {meaning : Meaning} {outputs : Nat → Option DataId}
  {past : List Event} {state after : State} {event : Event} {first second : List Nat}

theorem Follows.asked (follows : Follows workflow meaning outputs past state)
    (fresh : state.resumed = []) {step : Nat} {task : Task}
    (clean : Clean workflow TaskResult.isSuccess state step)
    (given : taskFor workflow step state.outputs = some task) :
    taskFor workflow step outputs = some task := by
  rw [← given]
  apply taskFor_congr
  intro dependency named
  rcases clean dependency named with old | ⟨result, found, _⟩
  · simp [fresh] at old
  · rw [follows.left dependency, found]
    rfl

theorem Follows.joined_left (follows : Follows workflow meaning outputs past state) {step : Nat}
    {result : TaskResult} {catalog : DataCatalog} (unfinished : state.results step = none)
    (own : outputs step = result.outputId) (other : Nat) :
    (joined workflow state step result catalog).outputs other =
      if ((joined workflow state step result catalog).results other).isSome then outputs other
      else none := by
  have left := follows.left other
  by_cases same : other = step
  · subst same
    rw [unfinished] at left
    simp only [joined, Function.update_self, Option.isSome_some, if_true, own]
    cases named : result.outputId with
    | none => simpa using left
    | some outputId => simp
  · simp only [joined, Function.update_of_ne same]
    rw [← left]
    cases result.outputId with
    | none => rfl
    | some outputId => simp [Function.update_of_ne same]

theorem Follows.step (follows : Follows workflow meaning outputs past state)
    (fixed : ∀ step task, taskFor workflow step outputs = some task →
      outputs step = (meaning.of task).2)
    (clean : ∀ step ∈ state.ready, Clean workflow TaskResult.isSuccess state step)
    (fresh : state.resumed = []) (tally : Tally workflow state first second)
    (conforms : Conforms meaning state event)
    (moved : next workflow state event = some after) :
    Follows workflow meaning outputs (past ++ [event]) after := by
  rcases next_work moved with ⟨step, task, rest, rfl, ready, given, rfl⟩ |
    ⟨step, result, catalog, rfl, running, rfl⟩ | ⟨silent, results, underWay, outputsKept⟩
  · have asked := follows.asked fresh (clean step (by simp [ready])) given
    refine ⟨follows.left, follows.finished, ?_, ?_⟩
    · intro entry member
      rcases List.mem_append.mp member with old | last
      · exact follows.running entry old
      · obtain rfl := List.mem_singleton.mp last
        exact asked
    · intro entry member
      rw [submissions_snoc] at member
      rcases List.mem_append.mp member with old | last
      · exact follows.submitted entry old
      · obtain rfl : entry = (step, task) := by simpa [submissions] using last
        exact asked
  · obtain ⟨entry, member, rfl⟩ := List.mem_map.mp running
    have came := conforms entry member rfl
    have asked := follows.running entry member
    have unfinished := (tally.unfinished_of_running running).2.1
    refine ⟨?_, ?_, ?_, ?_⟩
    · refine follows.joined_left unfinished ?_
      rw [fixed _ _ asked, ← came]
    · intro other earlier found
      by_cases same : other = entry.1
      · subst same
        obtain rfl : result = earlier := by simpa [joined] using found
        exact ⟨entry.2, asked, came⟩
      · exact follows.finished other earlier (by simpa [joined, Function.update_of_ne same] using found)
    · intro other member
      exact follows.running other (List.mem_of_mem_eraseP member)
    · intro other member
      rw [submissions_snoc] at member
      exact follows.submitted other (by simpa [submissions] using member)
  · refine ⟨?_, ?_, ?_, ?_⟩
    · rw [outputsKept, results]
      exact follows.left
    · rw [results]
      exact follows.finished
    · rw [underWay]
      exact follows.running
    · rw [submissions_snoc, silent, List.append_nil]
      exact follows.submitted

def owed (state : State) : Nat :=
  match state.control with
  | .releasing _ _ todo => todo.length + 1
  | _ => 0

def hasReturned (state : State) : Nat :=
  match state.control with
  | .returned _ => 1
  | _ => 0

def Paid (workflow : Workflow) (past : List Event) (state : State) : Prop :=
  past.length + owed state + state.running.length * (workflow.len + 2) ≤
    (submissions past).length * (workflow.len + 3) + hasReturned state

theorem Paid.step (paid : Paid workflow past state)
    (moved : next workflow state event = some after) : Paid workflow (past ++ [event]) after := by
  unfold Paid at paid ⊢
  rw [List.length_append, List.length_singleton, submissions_snoc, List.length_append]
  cases event with
  | submit step task =>
      have single : (submissions [.submit step task]).length = 1 := rfl
      obtain ⟨looping, rest, _, _, rfl⟩ := next_submit moved
      simp only [owed, hasReturned, looping] at paid
      simp only [owed, hasReturned, looping, single, List.length_append, List.length_singleton,
        Nat.add_mul]
      omega
  | join step outcome catalog =>
      have silent : (submissions [.join step outcome catalog]).length = 0 := rfl
      obtain ⟨looping, _, running, ⟨_, _, rfl⟩ | ⟨result, _, rfl⟩⟩ := next_join moved
      · simp only [owed, hasReturned, looping] at paid
        simp only [owed, hasReturned, silent, Nat.add_zero]
        omega
      · obtain ⟨entry, member, rfl⟩ := List.mem_map.mp running
        have erased : (state.running.eraseP fun other => other.1 = entry.1).length + 1 =
            state.running.length := by
          rw [List.length_eraseP_of_mem member (by simp)]
          have := List.length_pos_of_mem member
          omega
        have few := Workflow.dependentsOf_length_le workflow entry.1
        rw [← erased, Nat.add_mul] at paid
        simp only [owed, hasReturned, looping] at paid
        simp only [owed, hasReturned, joined, silent, Nat.add_zero]
        omega
  | lost reason =>
      have silent : (submissions [.lost reason]).length = 0 := rfl
      obtain ⟨looping, _, rfl⟩ := next_lost moved
      simp only [owed, hasReturned, looping] at paid
      simp only [owed, hasReturned, silent, Nat.add_zero]
      omega
  | leave bytes =>
      have silent : (submissions [.leave bytes]).length = 0 := rfl
      obtain ⟨looping, _, _, rfl⟩ := next_leave moved
      simp only [owed, hasReturned, looping] at paid
      simp only [owed, hasReturned, silent, Nat.add_zero]
      omega
  | release =>
      have silent : (submissions [.release]).length = 0 := rfl
      rcases next_release moved with
        ⟨_, _, releasing, rfl⟩ | ⟨_, _, _, _, releasing, ⟨_, rfl⟩ | ⟨_, found, rfl⟩⟩
      · simp only [owed, hasReturned, releasing, List.length_nil] at paid
        simp only [owed, hasReturned, silent, Nat.add_zero]
        omega
      · simp only [owed, hasReturned, releasing, List.length_cons] at paid
        simp only [owed, hasReturned, silent, Nat.add_zero]
        omega
      · rw [releaseOne_frame found]
        simp only [owed, hasReturned, releasing, List.length_cons] at paid
        simp only [owed, hasReturned, silent, Nat.add_zero]
        omega

structure InStep (workflow : Workflow) (meaning : Meaning) (outputs : Nat → Option DataId)
    (past : List Event) (state : State) : Prop where
  tally : Tally workflow state [] []
  sound : state.control ≠ .panicked
  fresh : state.resumed = []
  dispatched : Dispatched workflow TaskResult.isSuccess past state
  follows : Follows workflow meaning outputs past state
  paid : Paid workflow past state
  answered : ∀ answer, state.answer = some answer → ∃ flow, answer = .ok flow

structure Meant (workflow : Workflow) (meaning : Meaning) (outputs : Nat → Option DataId) : Prop where
  fixed : ∀ step task, taskFor workflow step outputs = some task →
    outputs step = (meaning.of task).2
  succeeds : ∀ step task, taskFor workflow step outputs = some task →
    ∃ output, (meaning.of task).1 = .success output

theorem InStep.succeeded (meant : Meant workflow meaning outputs)
    (inStep : InStep workflow meaning outputs past state) {step : Nat} {result : TaskResult}
    (found : state.results step = some result) : result.isSuccess = true := by
  obtain ⟨task, asked, came⟩ := inStep.follows.finished step result found
  obtain ⟨output, succeeds⟩ := meant.succeeds step task asked
  have outcome : result.outcome = .success output := by rw [← succeeds, ← came]
  simp [TaskResult.isSuccess, outcome]

theorem InStep.keepsAll (meant : Meant workflow meaning outputs)
    (inStep : InStep workflow meaning outputs past state) : givesUp state = [] := by
  unfold givesUp completes
  split
  · rename_i step succeeded dependent todo releasing
    obtain ⟨⟨result, found, same⟩, _⟩ := inStep.tally.current _ _ _ releasing
    rw [inStep.succeeded meant found] at same
    simp [← same]
  · rfl

theorem InStep.none_abandoned (inStep : InStep workflow meaning outputs past state) :
    state.abandoned = [] := by
  rw [List.eq_nil_iff_forall_not_mem]
  intro step
  apply List.count_eq_zero.mp
  simp [inStep.tally.given step]

theorem InStep.step (meant : Meant workflow meaning outputs)
    (irreflexive : ∀ item, item ∉ workflow.dependsOn item)
    (inStep : InStep workflow meaning outputs past state)
    (conforms : Conforms meaning state event)
    (moved : next workflow state event = some after) :
    InStep workflow meaning outputs (past ++ [event]) after := by
  have spares := spares_of_fresh inStep.fresh
  have nothing := inStep.keepsAll meant
  have clean : ReleasesClean workflow TaskResult.isSuccess state := by
    intro dependent _ dependency _
    refine Or.inr ⟨by simp [inStep.none_abandoned], ?_⟩
    cases found : state.results dependency with
    | none => rfl
    | some result => exact inStep.succeeded meant found
  obtain ⟨tally, sound⟩ := inStep.tally.step irreflexive spares moved
  refine ⟨?_, sound, (next_resumed moved).trans inStep.fresh,
    inStep.dispatched.step inStep.tally irreflexive spares clean moved,
    inStep.follows.step meant.fixed inStep.dispatched.clean inStep.fresh inStep.tally conforms moved,
    inStep.paid.step moved, ?_⟩
  · simpa [givesUpNext, nothing] using tally
  · intro answer answered
    cases event with
    | submit step task =>
        obtain ⟨looping, _, _, _, rfl⟩ := next_submit moved
        simp [State.answer, looping] at answered
    | join step outcome catalog =>
        obtain ⟨_, _, _, ⟨_, rfl, rfl⟩ | ⟨_, rfl, rfl⟩⟩ := next_join moved
        · exact absurd conforms (by simp [Conforms])
        · simp [State.answer, joined] at answered
    | lost reason => exact absurd conforms (by simp [Conforms])
    | leave bytes =>
        obtain ⟨_, _, _, rfl⟩ := next_leave moved
        exact ⟨_, (Option.some.inj answered).symm⟩
    | release =>
        rcases next_release moved with ⟨_, _, _, rfl⟩ | ⟨_, _, _, _, _, ⟨_, rfl⟩ | ⟨_, _, rfl⟩⟩ <;>
          simp [State.answer] at answered

theorem InStep.enabled (inStep : InStep workflow meaning outputs past state)
    (waits : state.answer = none) :
    ∃ event, Conforms meaning state event ∧ (next workflow state event).isSome = true := by
  cases control : state.control with
  | panicked => exact absurd control inStep.sound
  | returned result => simp [State.answer, control] at waits
  | releasing step succeeded todo =>
      refine ⟨.release, trivial, ?_⟩
      cases todo with
      | nil => simp [next, control]
      | cons dependent rest =>
          cases found : releaseOne workflow step succeeded state dependent <;>
            simp [next, control, found]
  | looping =>
      cases ready : state.ready with
      | cons step rest =>
          have zero := inStep.tally.zero_of_ready (show step ∈ state.ready by simp [ready])
          have inside := (List.getElem?_eq_some_iff.mp zero).1
          rw [inStep.tally.size] at inside
          obtain ⟨task, given⟩ := taskFor_of_lt inside state.outputs
          exact ⟨.submit step task, trivial, by simp [next, control, ready, given]⟩
      | nil =>
          cases running : state.running with
          | nil => exact ⟨.leave 0, trivial, by simp [next, control, ready, running]⟩
          | cons entry rest =>
              let result : TaskResult :=
                ⟨entry.2.id, ⟨0⟩, (meaning.of entry.2).1, 0, (meaning.of entry.2).2⟩
              refine ⟨.join entry.1 (.ok result) .new, ?_, ?_⟩
              · intro other member same
                have asked := inStep.follows.running other member
                have own := inStep.follows.running entry (by simp [running])
                rw [same, own, Option.some.injEq] at asked
                rw [← asked]
              · have present : entry.1 ∈ state.running.map Prod.fst := by simp [running]
                simp only [next, control, ready, present, if_true, Option.isSome_some]

end Follows

structure MatchesSequential (workflow : Workflow) (meaning : Meaning) (sequential : Sequential)
    (trace : List Event) (final : State) : Prop where
  once : ((submissions trace).map Prod.fst).Nodup
  tasks : submissions trace ⊆ sequential.done.map fun entry => (entry.step, entry.task)
  ordered : Runs.Preceded (AfterDependencies workflow TaskResult.isSuccess []) trace
  report : ∀ answer, final.answer = some answer → ∃ flow, answer = .ok flow ∧
    (submissions trace).Perm (sequential.done.map fun entry => (entry.step, entry.task)) ∧
    flow.stepsRun = List.range workflow.len ∧ flow.skipped = [] ∧
    flow.results.map TaskResult.outcome = sequential.outcomes workflow.len
  progress : final.answer = none →
    ∃ event, Conforms meaning final event ∧ (next workflow final event).isSome = true
  bounded : trace.length ≤ workflow.len * (workflow.len + 3) + 1

section Matches

variable {workflow : Workflow} {meaning : Meaning} {order : List Nat}
  {trace : List Event} {final : State}

theorem runInOrder_meant (ordered : workflow.order = .ok order)
    (succeeds : ∀ entry ∈ (runInOrder meaning workflow order).done,
      ∃ output, entry.outcome = .success output) :
    Meant workflow meaning (runInOrder meaning workflow order).outputs := by
  have entries (step : Nat) (task : Task)
      (asked : taskFor workflow step (runInOrder meaning workflow order).outputs = some task) :
      ∃ entry ∈ (runInOrder meaning workflow order).done, entry.step = step ∧
        (entry.outcome, (runInOrder meaning workflow order).outputs step) = meaning.of task := by
    have inside : step < workflow.len := by
      by_contra outside
      have missing : workflow.steps[step]? = none := List.getElem?_eq_none (Nat.le_of_not_lt outside)
      simp [taskFor, missing] at asked
    obtain ⟨entry, member, named, own, came⟩ := runInOrder_entry meaning ordered inside
    rw [asked, Option.some.injEq] at own
    exact ⟨entry, member, named, own ▸ came⟩
  constructor
  · intro step task asked
    obtain ⟨entry, _, _, came⟩ := entries step task asked
    rw [← came]
  · intro step task asked
    obtain ⟨entry, member, _, came⟩ := entries step task asked
    rw [← came]
    exact succeeds entry member

theorem InStep.submitted_nodup {outputs : Nat → Option DataId}
    (inStep : InStep workflow meaning outputs trace final) :
    ((submissions trace).map Prod.fst).Nodup := by
  apply List.nodup_iff_count_le_one.mpr
  intro step
  have bound := inStep.tally.elsewhere (show step ∉ final.resumed by simp [inStep.fresh])
  have once := inStep.dispatched.once step
  omega

theorem InStep.submitted_lt {outputs : Nat → Option DataId}
    (inStep : InStep workflow meaning outputs trace final) {entry : Nat × Task}
    (member : entry ∈ submissions trace) : entry.1 < workflow.len := by
  have asked := inStep.follows.submitted entry member
  by_contra outside
  have missing : workflow.steps[entry.1]? = none := List.getElem?_eq_none (Nat.le_of_not_lt outside)
  simp [taskFor, missing] at asked

theorem InStep.submitted_tasks (ordered : workflow.order = .ok order)
    (inStep : InStep workflow meaning (runInOrder meaning workflow order).outputs trace final) :
    submissions trace ⊆
      (runInOrder meaning workflow order).done.map fun entry => (entry.step, entry.task) := by
  intro entry member
  obtain ⟨own, present, named, asked, _⟩ :=
    runInOrder_entry meaning ordered (inStep.submitted_lt member)
  rw [inStep.follows.submitted entry member, Option.some.injEq] at asked
  exact List.mem_map.mpr ⟨own, present, Prod.ext named asked.symm⟩

theorem InStep.trace_bound {outputs : Nat → Option DataId}
    (inStep : InStep workflow meaning outputs trace final) :
    trace.length ≤ workflow.len * (workflow.len + 3) + 1 := by
  have paid := inStep.paid
  have few : (submissions trace).length ≤ workflow.len := by
    have inside : (submissions trace).map Prod.fst ⊆ List.range workflow.len := by
      intro step member
      obtain ⟨entry, present, rfl⟩ := List.mem_map.mp member
      exact List.mem_range.mpr (inStep.submitted_lt present)
    simpa using (List.subperm_of_subset inStep.submitted_nodup inside).length_le
  have scaled := Nat.mul_le_mul_right (workflow.len + 3) few
  have last : hasReturned final ≤ 1 := by
    unfold hasReturned
    split <;> omega
  unfold Paid at paid
  omega

theorem InStep.all_ran {outputs : Nat → Option DataId}
    (inStep : InStep workflow meaning outputs trace final)
    (meant : Meant workflow meaning outputs)
    (ordered : workflow.order = .ok order)
    (unique : ∀ step < workflow.len, (workflow.dependsOn step).Nodup)
    (idle : final.ready = []) (finished : final.running = [])
    (settled : ∀ step, final.todo step = []) (bytes : Nat) :
    (flowResult workflow final bytes).stepsRun = List.range workflow.len ∧
      (flowResult workflow final bytes).skipped = [] := by
  have zero := (inStep.tally.zero_iff inStep.fresh ordered idle finished settled).mpr
    ⟨unique, by simp⟩
  have accounted := (accounted_iff_zero inStep.tally inStep.fresh idle finished bytes).mpr zero
  have skipped : (flowResult workflow final bytes).skipped = [] := by
    simp [flowResult, inStep.none_abandoned]
  refine ⟨(accounted.success ?_).1, skipped⟩
  simp only [FlowResult.isSuccess, skipped, List.isEmpty_nil, Bool.true_and, List.all_eq_true]
  intro result member
  obtain ⟨step, _, found⟩ := List.mem_filterMap.mp member
  exact inStep.succeeded meant found

theorem InStep.outcomes_eq (ordered : workflow.order = .ok order)
    (inStep : InStep workflow meaning (runInOrder meaning workflow order).outputs trace final)
    (all : ∀ step < workflow.len, (final.results step).isSome = true) (bytes : Nat) :
    (flowResult workflow final bytes).results.map TaskResult.outcome =
      (runInOrder meaning workflow order).outcomes workflow.len := by
  unfold flowResult Sequential.outcomes
  rw [List.map_filterMap]
  apply List.filterMap_congr
  intro step member
  have inside := List.mem_range.mp member
  obtain ⟨result, found⟩ := Option.isSome_iff_exists.mp (all step inside)
  obtain ⟨task, asked, came⟩ := inStep.follows.finished step result found
  cases search : (runInOrder meaning workflow order).done.find? fun entry => entry.step = step with
  | none =>
      obtain ⟨entry, member, named, _⟩ := runInOrder_entry meaning ordered inside
      have absent := List.find?_eq_none.mp search entry member
      simp [named] at absent
  | some entry =>
      have named : entry.step = step := by simpa using List.find?_some search
      obtain ⟨own, left⟩ := (runInOrder_settled meaning ordered).entry entry
        (List.mem_of_find?_eq_some search)
      rw [named, asked, Option.some.injEq] at own
      have same : result.outcome = entry.outcome := by
        rw [own, ← left] at came
        exact (Prod.mk.inj came).1
      simp [found, same]

theorem InStep.submitted_perm (ordered : workflow.order = .ok order)
    (inStep : InStep workflow meaning (runInOrder meaning workflow order).outputs trace final)
    (all : ∀ step < workflow.len, (final.results step).isSome = true) :
    (submissions trace).Perm
      ((runInOrder meaning workflow order).done.map fun entry => (entry.step, entry.task)) := by
  have settled := runInOrder_settled meaning ordered
  have unique : ((runInOrder meaning workflow order).done.map fun entry =>
      (entry.step, entry.task)).Nodup := by
    apply List.Nodup.of_map Prod.fst
    rw [List.map_map, show Prod.fst ∘ (fun entry : Done => (entry.step, entry.task)) = Done.step
      from rfl, settled.steps]
    exact Workflow.order_nodup ordered
  refine (List.perm_ext_iff_of_nodup (List.Nodup.of_map _ inStep.submitted_nodup) unique).mpr ?_
  intro entry
  refine ⟨fun member => inStep.submitted_tasks ordered member, ?_⟩
  intro member
  obtain ⟨own, present, rfl⟩ := List.mem_map.mp member
  have inside : own.step < workflow.len := by
    have placed : own.step ∈ order := settled.steps ▸ List.mem_map_of_mem present
    exact List.mem_range.mp ((Workflow.order_perm ordered).subset placed)
  have handed : own.step ∈ (submissions trace).map Prod.fst := by
    apply List.count_pos_iff.mp
    rw [inStep.dispatched.once own.step, if_pos (all own.step inside)]
    omega
  obtain ⟨other, submitted, same⟩ := List.mem_map.mp handed
  have asked := inStep.follows.submitted other submitted
  rw [same, (settled.entry own present).1, Option.some.injEq] at asked
  rwa [← same, asked]

end Matches

theorem run_matches_sequential {digest : Bytes → DataId} {workflow : Workflow}
    {catalog : DataCatalog} {before : Nat} {order : List Nat} {state final : State}
    {trace : List Event} (meaning : Meaning) (ordered : workflow.order = .ok order)
    (unique : ∀ step < workflow.len, (workflow.dependsOn step).Nodup)
    (succeeds : ∀ entry ∈ (runInOrder meaning workflow order).done,
      ∃ output, entry.outcome = .success output)
    (started : start digest workflow none catalog before = .ok state)
    (conforms : Runs.Along (next workflow) (Conforms meaning) state trace)
    (ran : Runs.run (next workflow) state trace = some final) :
    MatchesSequential workflow meaning (runInOrder meaning workflow order) trace final := by
  obtain ⟨tally, looping⟩ := start_tally started
  obtain ⟨fresh, noOutputs⟩ := start_none started
  obtain ⟨_, opened, seen, _, resuming, same⟩ := start_resuming started
  have unfinished (step : Nat) : state.results step = none := by
    rw [same]
    exact resuming.unfinished step
  have idle : state.running = [] := by
    rw [same]
    exact resuming.idle.1
  have meant := runInOrder_meant ordered succeeds
  have inStep : InStep workflow meaning (runInOrder meaning workflow order).outputs trace final := by
    refine Runs.run_history ?_ ?_ conforms ran
    · refine ⟨tally, by simp [looping], fresh, start_dispatched _ started, ?_, ?_, ?_⟩
      · refine ⟨?_, ?_, ?_, ?_⟩
        · intro step
          simp [noOutputs, unfinished]
        · intro step result found
          simp [unfinished] at found
        · simp [idle]
        · simp [submissions]
      · simp [Paid, owed, looping, idle]
      · intro answer answered
        simp [State.answer, looping] at answered
    · intro past reached event after inStep moved conforms
      exact inStep.step meant (Workflow.order_irrefl ordered) conforms moved
  constructor
  · exact inStep.submitted_nodup
  · exact inStep.submitted_tasks ordered
  · exact inStep.fresh ▸ inStep.dispatched.preceded
  · intro answer answered
    obtain ⟨flow, rfl⟩ := inStep.answered answer answered
    obtain ⟨noneReady, noneRunning, bytes, rfl⟩ := run_answer looping ran answered
    obtain ⟨whole, skipped⟩ := inStep.all_ran meant ordered unique noneReady noneRunning
      (todo_of_answer answered) bytes
    have all : ∀ step < workflow.len, (final.results step).isSome = true := by
      intro step inside
      have member : step ∈ (flowResult workflow final bytes).stepsRun := by
        rw [whole]
        exact List.mem_range.mpr inside
      exact (List.mem_filter.mp member).2
    exact ⟨_, rfl, inStep.submitted_perm ordered all, whole, skipped,
      inStep.outcomes_eq ordered all bytes⟩
  · exact inStep.enabled
  · exact inStep.trace_bound

def givesBack : Meaning := fun _ payload _ => (.success payload, some (leadingBytes payload))

def gaveBack : TaskResult := ⟨⟨0⟩, ⟨0⟩, .success [], 0, some (leadingBytes [])⟩

def firstArmLast : List Event :=
  [.submit 0 (echo 0), .submit 1 (echo 1), .join 1 (.ok gaveBack) .new, .release, .release,
    .join 0 (.ok gaveBack) .new, .release, .release,
    .submit 2 ((echo 2).withInputs [leadingBytes []]), .join 2 (.ok gaveBack) .new, .release, .leave 0]

theorem arms_match_sequential :
    ∃ state final, start leadingBytes bothArms none .new 0 = .ok state ∧
      Runs.run (next bothArms) state firstArmLast = some final ∧
      MatchesSequential bothArms givesBack (runInOrder givesBack bothArms [0, 1, 2])
        firstArmLast final := by
  have outcomes : ∀ entry ∈ (runInOrder givesBack bothArms [0, 1, 2]).done,
      entry.outcome = .success [] := by decide
  refine ⟨_, _, rfl, rfl, ?_⟩
  exact @run_matches_sequential leadingBytes bothArms .new 0 [0, 1, 2] _ _ firstArmLast givesBack
    (by decide) (by decide) (fun entry member => ⟨[], outcomes entry member⟩) rfl (by decide) rfl

end AetherMesh.Flow
