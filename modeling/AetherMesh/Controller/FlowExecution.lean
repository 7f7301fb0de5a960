import AetherMesh.Agent.Executor
import AetherMesh.Controller.FlowSequential

/-!
A workflow on the mesh and a workflow in one place. Each step of a run is executed
by some node over the store of that node. What the run reports is what one node
comes to that executes the steps one after another over one store.
-/

namespace AetherMesh.Flow

open Executor

/-- A wasm task has its module as the first of its inputs; `with_inputs` keeps the order it is given. -/
def ModuleFirst (task : Task) : Prop :=
  task.kind = "wasm" → ∃ moduleId rest, task.wasmModule = some moduleId ∧
    task.inputs = moduleId :: rest

structure Ran where
  step : Nat
  task : Task
  result : TaskResult

structure Here where
  store : DataStore
  outputs : Nat → Option DataId
  done : List Ran

section

variable (runtime : Runtime) (nodeId : NodeId) (elapsed : Nat → Nat) (workflow : Workflow)

def runHere (sofar : Here) (step : Nat) : Here :=
  match taskFor workflow step sofar.outputs with
  | none => sofar
  | some task =>
      let ran := execute runtime nodeId task sofar.store (elapsed step)
      { store := ran.1
        outputs := Function.update sofar.outputs step ran.2.outputId
        done := sofar.done ++ [⟨step, task, ran.2⟩] }

def runAllHere (order : List Nat) (store : DataStore) : Here :=
  order.foldl (runHere runtime nodeId elapsed workflow) ⟨store, fun _ => none, []⟩

end

def Here.report (here : Here) (size : Nat) : List (TaskOutcome × Option DataId) :=
  (List.range size).filterMap fun step =>
    (here.done.find? fun ran => ran.step = step).map fun ran =>
      (ran.result.outcome, ran.result.outputId)

def Executed (runtime : Runtime) (known : Set Bytes) (state : State) : Event → Prop
  | .join step (.ok result) _ => ∀ entry ∈ state.running, entry.1 = step →
      ∃ nodeId store elapsed, Sound runtime.digest known store ∧
        (∀ dataId ∈ consults entry.2, store.contains dataId = true) ∧
        result = (execute runtime nodeId entry.2 store elapsed).2
  | .join _ (.error _) _ => False
  | .lost _ => False
  | _ => True

def meant (runtime : Runtime) (contents : DataId → Option Bytes) : Meaning :=
  fun kind payload inputs => runtime.finish
    (Executor.meaning runtime contents
      { Task.new ⟨0⟩ kind payload with inputs, wasmModule := inputs.head? })

section

variable {runtime : Runtime} {nodeId : NodeId} {elapsed : Nat → Nat} {workflow : Workflow}
  {contents : DataId → Option Bytes} {outputs : Nat → Option DataId} {task : Task}

theorem meant_of (first : ModuleFirst task) :
    (meant runtime contents).of task = runtime.finish (Executor.meaning runtime contents task) := by
  unfold Meaning.of meant Executor.meaning
  congr 1
  by_cases wasm : task.kind = "wasm"
  · obtain ⟨moduleId, rest, named, inputs⟩ := first wasm
    simp only [Task.new, wasm, hashMeaning, wasmMeaning, named, inputs, List.head?_cons]
  · simp only [Task.new, wasm, if_false, hashMeaning]

theorem ModuleFirst.addInput (first : ModuleFirst task) (dependency : Nat) :
    ModuleFirst (addInput outputs task dependency) := by
  unfold Flow.addInput
  split
  · split
    · exact first
    · intro wasm
      obtain ⟨moduleId, rest, named, inputs⟩ := first wasm
      exact ⟨moduleId, rest ++ _, named, by rw [inputs]; rfl⟩
  · exact first

theorem ModuleFirst.foldl_addInput (dependencies : List Nat) (first : ModuleFirst task) :
    ModuleFirst (dependencies.foldl (Flow.addInput outputs) task) := by
  induction dependencies generalizing task with
  | nil => exact first
  | cons dependency rest ih => exact ih (first.addInput dependency)

theorem consults_addInput {dependency : Nat} {dataId : DataId}
    (member : dataId ∈ consults (addInput outputs task dependency)) :
    dataId ∈ consults task ∨ outputs dependency = some dataId := by
  unfold addInput at member
  split at member
  next outputId produced =>
    split at member
    · exact .inl member
    · rw [consults, ← List.append_assoc] at member
      rcases List.mem_append.mp member with old | last
      · exact .inl old
      · exact .inr (List.mem_singleton.mp last ▸ produced)
  next => exact .inl member

theorem consults_foldl_addInput {dependencies : List Nat} {dataId : DataId}
    (member : dataId ∈ consults (dependencies.foldl (addInput outputs) task)) :
    dataId ∈ consults task ∨ ∃ dependency, outputs dependency = some dataId := by
  induction dependencies generalizing task with
  | nil => exact .inl member
  | cons dependency rest ih =>
      rcases ih member with sooner | produced
      · exact (consults_addInput sooner).imp id fun produced => ⟨dependency, produced⟩
      · exact .inr produced

structure Stocked (digest : Bytes → DataId) (store : DataStore) (sofar : Here) : Prop where
  grown : DataStore.Grown digest store sofar.store
  outputs : ∀ step dataId, sofar.outputs step = some dataId → sofar.store.contains dataId = true

theorem Stocked.step {store : DataStore} {sofar : Here}
    (stocked : Stocked runtime.digest store sofar) (step : Nat) :
    Stocked runtime.digest sofar.store (runHere runtime nodeId elapsed workflow sofar step) := by
  have unbounded := stocked.grown.unbounded
  have keyed := stocked.grown.keyed
  unfold runHere
  split
  · exact ⟨.of_same unbounded keyed rfl rfl, stocked.outputs⟩
  next task _ =>
    obtain ⟨grown, holds⟩ := execute_store runtime nodeId task (elapsed step) unbounded keyed
    refine ⟨grown, fun other dataId produced => ?_⟩
    by_cases same : other = step
    · subst same
      exact holds dataId (by simpa using produced)
    · have older := stocked.outputs other dataId (by simpa [Function.update_of_ne same] using produced)
      exact grown.contains older

theorem Stocked.foldl {store : DataStore} {sofar : Here}
    (stocked : Stocked runtime.digest store sofar) (steps : List Nat) :
    Stocked runtime.digest sofar.store
      (steps.foldl (runHere runtime nodeId elapsed workflow) sofar) := by
  induction steps generalizing store sofar with
  | nil => exact ⟨.of_same stocked.grown.unbounded stocked.grown.keyed rfl rfl, stocked.outputs⟩
  | cons step rest ih =>
      have moved : Stocked runtime.digest sofar.store
          (runHere runtime nodeId elapsed workflow sofar step) := stocked.step step
      obtain ⟨grown, outputs⟩ := ih moved
      exact ⟨moved.grown.trans grown, outputs⟩

/-- One node can start on the workflow: it holds what the steps name themselves. -/
structure Equipped (digest : Bytes → DataId) (workflow : Workflow) (store : DataStore) : Prop where
  unbounded : store.budget = none
  keyed : store.Keyed digest
  declared : ∀ entry ∈ workflow.steps, ∀ dataId ∈ consults entry.task, store.contains dataId = true

theorem Equipped.start {store : DataStore} (equipped : Equipped runtime.digest workflow store) :
    Stocked runtime.digest store ⟨store, fun _ => none, []⟩ :=
  ⟨.of_same equipped.unbounded equipped.keyed rfl rfl, nofun⟩

theorem Equipped.held {store : DataStore} (equipped : Equipped runtime.digest workflow store)
    {sofar : Here} (stocked : Stocked runtime.digest store sofar) {step : Nat}
    (given : taskFor workflow step sofar.outputs = some task) :
    ∀ dataId ∈ consults task, sofar.store.contains dataId = true := by
  intro dataId member
  obtain ⟨entry, found, rfl⟩ := Option.map_eq_some_iff.mp given
  rcases consults_foldl_addInput member with own | ⟨dependency, produced⟩
  · exact stocked.grown.contains (equipped.declared entry (List.mem_of_getElem? found) dataId own)
  · exact stocked.outputs dependency dataId produced

theorem ModuleFirst.taskFor (first : ∀ entry ∈ workflow.steps, ModuleFirst entry.task) {step : Nat}
    (given : taskFor workflow step outputs = some task) : ModuleFirst task := by
  obtain ⟨entry, found, rfl⟩ := Option.map_eq_some_iff.mp given
  exact (first entry (List.mem_of_getElem? found)).foldl_addInput _

structure Alike (meaning : Meaning) (sofar : Here) (sequential : Sequential) : Prop where
  outputs : sofar.outputs = sequential.outputs
  done : sequential.done = sofar.done.map fun ran => ⟨ran.step, ran.task, ran.result.outcome⟩
  came : ∀ ran ∈ sofar.done, (ran.result.outcome, ran.result.outputId) = meaning.of ran.task

theorem Alike.step {sofar : Here} {sequential : Sequential} {step : Nat}
    (alike : Alike (meant runtime contents) sofar sequential)
    (same : ∀ task, Flow.taskFor workflow step sofar.outputs = some task →
      (meant runtime contents).of task =
        runtime.finish (Executor.meaning runtime sofar.store.bytesOf task)) :
    Alike (meant runtime contents) (runHere runtime nodeId elapsed workflow sofar step)
      (runOne (meant runtime contents) workflow sequential step) := by
  unfold runHere runOne
  rw [← alike.outputs]
  cases given : Flow.taskFor workflow step sofar.outputs with
  | none => exact alike
  | some task =>
      have came := (execute_spec runtime nodeId task sofar.store (elapsed step)).trans
        (same task given).symm
      refine ⟨?_, ?_, ?_⟩
      · simp only [← came]
      · simp only [← came, alike.done, List.map_append, List.map_cons, List.map_nil]
      · intro ran member
        rcases List.mem_append.mp member with old | last
        · exact alike.came ran old
        · obtain rfl := List.mem_singleton.mp last
          exact came

theorem runAllHere_append (front back : List Nat) (store : DataStore) :
    runAllHere runtime nodeId elapsed workflow (front ++ back) store =
      back.foldl (runHere runtime nodeId elapsed workflow)
        (runAllHere runtime nodeId elapsed workflow front store) :=
  List.foldl_append

theorem Equipped.stocked {store : DataStore} (equipped : Equipped runtime.digest workflow store)
    (front back : List Nat) :
    Stocked runtime.digest (runAllHere runtime nodeId elapsed workflow front store).store
      (runAllHere runtime nodeId elapsed workflow (front ++ back) store) := by
  rw [runAllHere_append]
  exact (equipped.start.foldl front).foldl back

theorem foldl_runHere_alike {store : DataStore} (nodeId : NodeId) (elapsed : Nat → Nat)
    (equipped : Equipped runtime.digest workflow store)
    (first : ∀ entry ∈ workflow.steps, ModuleFirst entry.task) (front back : List Nat) :
    let meaning := meant runtime
      (runAllHere runtime nodeId elapsed workflow (front ++ back) store).store.bytesOf
    Alike meaning (runAllHere runtime nodeId elapsed workflow front store)
      (runInOrder meaning workflow front) := by
  dsimp only
  induction front using List.reverseRecOn generalizing back with
  | nil => exact ⟨rfl, rfl, by simp [runAllHere]⟩
  | append_singleton front index ih =>
      have regrouped : front ++ [index] ++ back = front ++ index :: back := by simp
      rw [regrouped]
      have before := ih (index :: back)
      have stocked : Stocked runtime.digest store
          (runAllHere runtime nodeId elapsed workflow front store) := equipped.stocked [] front
      have later : Stocked runtime.digest _ (runAllHere runtime nodeId elapsed workflow
        (front ++ index :: back) store) := equipped.stocked front (index :: back)
      rw [runAllHere_append front [index], runInOrder, List.foldl_append]
      refine before.step fun task given => ?_
      rw [meant_of (ModuleFirst.taskFor first given)]
      congr 1
      apply meaning_congr
      intro dataId member
      obtain ⟨bytes, found⟩ := DataStore.contains_iff.mp (equipped.held stocked given dataId member)
      rw [found]
      exact later.grown.within dataId bytes found

theorem Alike.succeeds {meaning : Meaning} {sofar : Here} {sequential : Sequential}
    (alike : Alike meaning sofar sequential)
    (succeeds : ∀ ran ∈ sofar.done, ran.result.isSuccess = true) :
    ∀ entry ∈ sequential.done, ∃ output, entry.outcome = .success output := by
  rw [alike.done]
  intro entry member
  obtain ⟨ran, present, rfl⟩ := List.mem_map.mp member
  have success := succeeds ran present
  unfold TaskResult.isSuccess at success
  cases outcome : ran.result.outcome with
  | success output => exact ⟨output, rfl⟩
  | failure message => simp [outcome] at success

/-- What is executed over any sound store comes to what the task means over this one. -/
theorem Executed.conforms {known : Set Bytes} {state : State} {event : Event} {store : DataStore}
    (executed : Executed runtime known state event) (apart : Set.InjOn runtime.digest known)
    (sound : Sound runtime.digest known store)
    (held : ∀ entry ∈ state.running, ∀ dataId ∈ consults entry.2, store.contains dataId = true)
    (first : ∀ entry ∈ state.running, ModuleFirst entry.2) :
    Conforms (meant runtime store.bytesOf) state event := by
  match event with
  | .submit _ _ => trivial
  | .release => trivial
  | .leave _ => trivial
  | .lost _ => exact executed
  | .join _ (.error _) _ => exact executed
  | .join step (.ok result) _ =>
      intro entry member named
      obtain ⟨nodeId, other, elapsed, good, holds, rfl⟩ := executed entry member named
      rw [execute_spec, meant_of (first entry member)]
      congr 1
      apply meaning_congr
      intro dataId read
      exact good.agree apart sound (holds dataId read) (held entry member dataId read)

theorem InStep.start {digest : Bytes → DataId} {catalog : DataCatalog} {before : Nat}
    {state : State} (meaning : Meaning) (outputs : Nat → Option DataId)
    (started : start digest workflow none catalog before = .ok state) :
    InStep workflow meaning outputs [] state := by
  obtain ⟨tally, looping⟩ := start_tally started
  obtain ⟨fresh, noOutputs⟩ := start_none started
  obtain ⟨_, opened, seen, _, resuming, same⟩ := start_resuming started
  have unfinished (step : Nat) : state.results step = none := by
    rw [same]
    exact resuming.unfinished step
  have idle : state.running = [] := by
    rw [same]
    exact resuming.idle.1
  refine ⟨tally, by simp [looping], fresh, start_dispatched _ started, ?_, ?_, ?_⟩
  · exact ⟨by simp [noOutputs, unfinished], by simp [unfinished], by simp [idle], by simp [submissions]⟩
  · simp [Paid, owed, looping, idle]
  · intro answer answered
    simp [State.answer, looping] at answered

theorem InStep.report_eq {meaning : Meaning} {order : List Nat} {here : Here} {past : List Event}
    {final : State} (ordered : workflow.order = .ok order)
    (alike : Alike meaning here (runInOrder meaning workflow order))
    (inStep : InStep workflow meaning (runInOrder meaning workflow order).outputs past final)
    (all : ∀ step < workflow.len, (final.results step).isSome = true) (bytes : Nat) :
    ((flowResult workflow final bytes).results.map fun result =>
      (result.outcome, result.outputId)) = here.report workflow.len := by
  unfold flowResult Here.report
  rw [List.map_filterMap]
  apply List.filterMap_congr
  intro step member
  have inside := List.mem_range.mp member
  obtain ⟨result, found⟩ := Option.isSome_iff_exists.mp (all step inside)
  obtain ⟨task, asked, came⟩ := inStep.follows.finished step result found
  obtain ⟨entry, present, named, own, _⟩ := runInOrder_entry meaning ordered inside
  rw [alike.done] at present
  obtain ⟨ran, done, rfl⟩ := List.mem_map.mp present
  cases search : here.done.find? fun ran => ran.step = step with
  | none =>
      have absent := List.find?_eq_none.mp search ran done
      exact absurd named (by simpa using absent)
  | some first =>
      have placed : first.step = step := by simpa using List.find?_some search
      have kept := List.mem_of_find?_eq_some search
      have listed : (⟨first.step, first.task, first.result.outcome⟩ : Done) ∈
          (runInOrder meaning workflow order).done := by
        rw [alike.done]
        exact List.mem_map.mpr ⟨first, kept, rfl⟩
      have given := ((runInOrder_settled meaning ordered).entry _ listed).1
      dsimp only at given
      rw [placed, asked, Option.some.injEq] at given
      rw [found, Option.map_some, Option.map_some, came, alike.came first kept, given]

end

/-- Whichever nodes execute the steps, and in whichever order they come back, a run reports what
one node comes to over one store. -/
theorem run_reports_here {runtime : Runtime} {workflow : Workflow} {catalog : DataCatalog}
    {before : Nat} {order : List Nat} {state final : State} {trace : List Event}
    {known : Set Bytes} {store : DataStore} {answer : Except FlowError FlowResult}
    (nodeId : NodeId) (elapsed : Nat → Nat) (ordered : workflow.order = .ok order)
    (unique : ∀ step < workflow.len, (workflow.dependsOn step).Nodup)
    (first : ∀ entry ∈ workflow.steps, ModuleFirst entry.task)
    (equipped : Equipped runtime.digest workflow store)
    (sound : Sound runtime.digest known
      (runAllHere runtime nodeId elapsed workflow order store).store)
    (apart : Set.InjOn runtime.digest known)
    (succeeds : ∀ ran ∈ (runAllHere runtime nodeId elapsed workflow order store).done,
      ran.result.isSuccess = true)
    (started : start runtime.digest workflow none catalog before = .ok state)
    (executed : Runs.Along (next workflow) (Executed runtime known) state trace)
    (ran : Runs.run (next workflow) state trace = some final)
    (answered : final.answer = some answer) :
    ∃ flow, answer = .ok flow ∧ flow.stepsRun = List.range workflow.len ∧ flow.skipped = [] ∧
      (flow.results.map fun result => (result.outcome, result.outputId)) =
        (runAllHere runtime nodeId elapsed workflow order store).report workflow.len := by
  have stocked : Stocked runtime.digest store
      (runAllHere runtime nodeId elapsed workflow order store) := equipped.stocked [] order
  have alike := foldl_runHere_alike nodeId elapsed equipped first order []
  rw [List.append_nil] at alike
  generalize runAllHere runtime nodeId elapsed workflow order store = here at *
  have meant := runInOrder_meant ordered (alike.succeeds succeeds)
  have inStep : InStep workflow (Flow.meant runtime here.store.bytesOf)
      (runInOrder (Flow.meant runtime here.store.bytesOf) workflow order).outputs trace final := by
    refine Runs.run_history (InStep.start _ _ started) ?_ executed ran
    intro past reached event after inStep moved executed
    refine inStep.step meant (Workflow.order_irrefl ordered) ?_ moved
    -- what is running consults declared inputs and outputs of earlier steps, and this store has both
    have asked := inStep.follows.running
    rw [← alike.outputs] at asked
    apply executed.conforms apart sound
    · exact fun entry member => equipped.held stocked (asked entry member)
    · exact fun entry member => ModuleFirst.taskFor first (asked entry member)
  obtain ⟨flow, rfl⟩ := inStep.answered answer answered
  obtain ⟨noneReady, noneRunning, bytes, rfl⟩ := run_answer (start_tally started).2 ran answered
  obtain ⟨whole, skipped⟩ := inStep.all_ran meant ordered unique noneReady noneRunning
    (todo_of_answer answered) bytes
  have all : ∀ step < workflow.len, (final.results step).isSome = true := by
    intro step inside
    have member : step ∈ (flowResult workflow final bytes).stepsRun := by
      rw [whole]
      exact List.mem_range.mpr inside
    exact (List.mem_filter.mp member).2
  exact ⟨_, rfl, whole, skipped, inStep.report_eq ordered alike all bytes⟩

def bare : Runtime := ⟨leadingBytes, fun _ _ _ => .error "no module"⟩

def relay : Workflow := ⟨[⟨Task.new ⟨0⟩ "echo" [7], []⟩, ⟨Task.new ⟨1⟩ "hash" [9], [0]⟩]⟩

def relayHash : Task := { Task.new ⟨1⟩ "hash" [9] with inputs := [leadingBytes [7]] }

def relayStores : Nat → DataStore
  | 0 => .new
  | _ => (DataStore.new.put leadingBytes [7]).1

def relayTask : Nat → Task
  | 0 => Task.new ⟨0⟩ "echo" [7]
  | _ => relayHash

def relayResult (step : Nat) : TaskResult :=
  (execute bare ⟨BitVec.ofNat 128 step⟩ (relayTask step) (relayStores step) step).2

def relayed : List Event :=
  [.submit 0 (relayTask 0), .join 0 (.ok (relayResult 0)) .new, .release, .release,
    .submit 1 relayHash, .join 1 (.ok (relayResult 1)) .new, .release, .leave 0]

def AsRelayed (state : State) : Event → Prop
  | .join step (.ok result) _ => result = relayResult step ∧
      ∀ entry ∈ state.running, entry.1 = step → entry.2 = relayTask step ∧
        ∀ dataId ∈ consults entry.2, (relayStores step).contains dataId = true
  | .join _ (.error _) _ => False
  | .lost _ => False
  | _ => True

def relayKnown : Set Bytes := {[7], (leadingBytes [9, 7]).asBytes}

theorem relay_known_apart : Set.InjOn bare.digest relayKnown := by
  have apart : leadingBytes [7] ≠ leadingBytes (leadingBytes [9, 7]).asBytes := by decide
  rintro left (rfl | rfl) right (rfl | rfl) same
  · rfl
  · exact absurd same apart
  · exact absurd same.symm apart
  · rfl

instance (state : State) (event : Event) : Decidable (AsRelayed state event) :=
  match event with
  | .join _ (.ok _) _ => inferInstanceAs (Decidable (_ ∧ ∀ entry ∈ _, _))
  | .join _ (.error _) _ => inferInstanceAs (Decidable False)
  | .lost _ => inferInstanceAs (Decidable False)
  | .submit _ _ => inferInstanceAs (Decidable True)
  | .release => inferInstanceAs (Decidable True)
  | .leave _ => inferInstanceAs (Decidable True)

theorem relayStores_sound (step : Nat) : Sound leadingBytes relayKnown (relayStores step) := by
  apply Sound.of_entries
  match step with
  | 0 => exact nofun
  | _ + 1 =>
      have only : ∀ entry ∈ (relayStores 1).blobs.entries,
          leadingBytes entry.2.bytes = entry.1 ∧ entry.2.bytes = [7] := by decide
      exact fun entry member => ⟨(only entry member).1, .inl (only entry member).2⟩

theorem AsRelayed.executed {state : State} {event : Event} (relayed : AsRelayed state event) :
    Executed bare relayKnown state event := by
  match event with
  | .submit _ _ => trivial
  | .release => trivial
  | .leave _ => trivial
  | .lost _ => exact relayed
  | .join _ (.error _) _ => exact relayed
  | .join step (.ok result) _ =>
      intro entry member named
      obtain ⟨rfl, all⟩ := relayed
      obtain ⟨task, held⟩ := all entry member named
      refine ⟨⟨BitVec.ofNat 128 step⟩, relayStores step, step, relayStores_sound step, held, ?_⟩
      rw [task]
      rfl

theorem relay_reports_here :
    ∃ state final flow, start leadingBytes relay none .new 0 = .ok state ∧
      Runs.run (next relay) state relayed = some final ∧ final.answer = some (.ok flow) ∧
      (flow.results.map fun result => (result.outcome, result.outputId)) =
        (runAllHere bare ⟨9⟩ (fun _ => 0) relay [0, 1] .new).report 2 := by
  have sound : Sound leadingBytes relayKnown
      (runAllHere bare ⟨9⟩ (fun _ => 0) relay [0, 1] .new).store := by
    apply Sound.of_entries
    exact (by decide :
      ∀ entry ∈ (runAllHere bare ⟨9⟩ (fun _ => 0) relay [0, 1] .new).store.blobs.entries,
        leadingBytes entry.2.bytes = entry.1 ∧
          (entry.2.bytes = [7] ∨ entry.2.bytes = (leadingBytes [9, 7]).asBytes))
  have noModule : ∀ entry ∈ relay.steps, entry.task.kind ≠ "wasm" := by decide
  obtain ⟨flow, answered, _, _, same⟩ := @run_reports_here bare relay .new 0 [0, 1] _ _ relayed
    relayKnown .new _ ⟨9⟩ (fun _ => 0) (by decide) (by decide)
    (fun entry member wasm => absurd wasm (noModule entry member)) ⟨rfl, nofun, by decide⟩ sound relay_known_apart (by decide) rfl
    (Runs.along_mono (fun _ _ => AsRelayed.executed) (by decide)) rfl rfl
  exact ⟨_, _, flow, rfl, rfl, congrArg some answered, same⟩
end AetherMesh.Flow
