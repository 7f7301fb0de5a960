import AetherMesh.Controller.Dispatch
import AetherMesh.Library.Retrying

/-!
A submission goes from node to node while its failures are failures of delivery. What is
registered, what can be reached and what an attempt comes to may all change with the state,
and between any two attempts.
-/

namespace AetherMesh

/-- What a submission meets: the nodes it is told of, the transport, and what it leaves noted. -/
structure Surroundings (σ : Type) where
  cached : σ → Task → Option TaskResult
  nodesWithPendingWork : σ → List NodeInfo
  isAvailable : σ → NodeId → Bool
  ensureInputs : σ → NodeId → Task → σ × Except DispatchError Unit
  dispatch : σ → NodeId → Task → σ × Except DispatchError TaskResult
  recordResult : σ → Task → TaskResult → σ
  forgetNode : σ → NodeId → σ

structure EligibleScheduler (σ : Type) where
  selectNode : σ → List NodeInfo → Task → Option NodeId
  eligible : ∀ state nodes task nodeId, selectNode state nodes task = some nodeId →
    ∃ node ∈ nodes, node.id = nodeId ∧ satisfiesAll node.labels task.constraints = true
  picks : ∀ state nodes task, selectNode state nodes task = none →
    ∀ node ∈ nodes, satisfiesAll node.labels task.constraints = false

structure Attempt (σ : Type) where
  found : σ
  nodeId : NodeId
  outcome : Except DispatchError TaskResult

structure Submitted (σ : Type) where
  attempts : List (Attempt σ)
  answer : Except DispatchError TaskResult
  last : σ

variable {σ : Type}

namespace Surroundings

variable (world : Surroundings σ) (selectNode : σ → List NodeInfo → Task → Option NodeId)
variable (task : Task)

def tryOnce (state : σ) (nodeId : NodeId) : σ × Except DispatchError TaskResult :=
  match world.ensureInputs state nodeId task with
  | (after, .error error) => (after, .error error)
  | (after, .ok ()) => world.dispatch after nodeId task

def candidates (state : σ) (unusable : List NodeId) : List NodeInfo :=
  (world.nodesWithPendingWork state).filter fun node =>
    node.id ∉ unusable ∧ world.isAvailable state node.id

def submitFrom : (left : Nat) → List NodeId → σ → Submitted σ
  | 0, _, state => ⟨[], .error (.noNodeAvailable task.id), state⟩
  | left + 1, unusable, state =>
      match selectNode state (world.candidates state unusable) task with
      | none => ⟨[], .error (.noNodeAvailable task.id), state⟩
      | some nodeId =>
          match world.tryOnce task state nodeId with
          | (after, .ok result) =>
              ⟨[⟨state, nodeId, .ok result⟩], .ok result,
                world.recordResult after task result⟩
          | (after, .error error) =>
              if 0 < left ∧ isRetryable error then
                let rest := submitFrom left (nodeId :: unusable) (world.forgetNode after nodeId)
                { rest with attempts := ⟨state, nodeId, .error error⟩ :: rest.attempts }
              else ⟨[⟨state, nodeId, .error error⟩], .error error, after⟩

def submit (maxAttempts : Nat) (state : σ) : Submitted σ :=
  match world.cached state task with
  | some result => ⟨[], .ok result, state⟩
  | none => world.submitFrom selectNode task maxAttempts [] state

/-- The node is registered, can be reached, and satisfies the constraints of the task. -/
def Usable (state : σ) (nodeId : NodeId) : Prop :=
  ∃ node ∈ world.nodesWithPendingWork state, node.id = nodeId ∧
    world.isAvailable state nodeId ∧ satisfiesAll node.labels task.constraints

def method : Retrying.Method σ NodeId DispatchError TaskResult where
  choose state unusable := selectNode state (world.candidates state unusable) task
  attempt := world.tryOnce task
  hopeful := isRetryable
  between := world.forgetNode

end Surroundings

def Attempt.ofRetrying (attempt : Retrying.Attempt σ NodeId DispatchError TaskResult) :
    Attempt σ :=
  ⟨attempt.found, attempt.place, attempt.outcome⟩

def Undelivered (outcome : Except DispatchError TaskResult) : Prop :=
  (∃ nodeId reason, outcome = .error (.unreachable nodeId reason)) ∨
    ∃ nodeId taskId, outcome = .error (.timeout nodeId taskId)

theorem isRetryable_iff {error : DispatchError} :
    isRetryable error ↔ Undelivered (.error error) := by
  cases error <;> simp [isRetryable, Undelivered]

namespace Surroundings

variable {world : Surroundings σ} {scheduler : EligibleScheduler σ} {task : Task}
variable {selectNode : σ → List NodeInfo → Task → Option NodeId} {state : σ}
variable {unusable : List NodeId} {nodeId : NodeId} {left : Nat}

theorem mem_candidates {node : NodeInfo} :
    node ∈ world.candidates state unusable ↔ node ∈ world.nodesWithPendingWork state ∧
      node.id ∉ unusable ∧ world.isAvailable state node.id := by
  simp [candidates]

theorem chosen_usable
    (chosen : scheduler.selectNode state (world.candidates state unusable) task = some nodeId) :
    world.Usable task state nodeId ∧ nodeId ∉ unusable := by
  obtain ⟨node, candidate, rfl, satisfied⟩ := scheduler.eligible _ _ _ _ chosen
  obtain ⟨registered, untried, available⟩ := mem_candidates.mp candidate
  exact ⟨⟨node, registered, rfl, available, satisfied⟩, untried⟩

theorem stranded_tried
    (nowhere : scheduler.selectNode state (world.candidates state unusable) task = none)
    (usable : world.Usable task state nodeId) : nodeId ∈ unusable := by
  obtain ⟨node, registered, rfl, available, satisfied⟩ := usable
  by_contra untried
  have refused := scheduler.picks _ _ _ nowhere node
    (mem_candidates.mpr ⟨registered, untried, available⟩)
  rw [refused] at satisfied
  cases satisfied

def answerOf (task : Task) :
    Retrying.Ending DispatchError TaskResult → Except DispatchError TaskResult
  | .spent | .stranded => .error (.noNodeAvailable task.id)
  | .answered outcome => outcome

theorem submitFrom_run :
    let history := Retrying.run (world.method selectNode task) left unusable state
    let submitted := world.submitFrom selectNode task left unusable state
    submitted.attempts = history.attempts.map Attempt.ofRetrying ∧
      submitted.answer = answerOf task history.ending ∧
      (history.ending = .stranded → submitted.last = history.last) := by
  induction left generalizing unusable state with
  | zero => exact ⟨rfl, rfl, fun _ => rfl⟩
  | succ left ih =>
      rw [submitFrom]
      cases chosen : selectNode state (world.candidates state unusable) task with
      | none =>
          rw [Retrying.run_nowhere chosen]
          exact ⟨rfl, rfl, fun _ => rfl⟩
      | some nodeId =>
          dsimp only
          rcases tried : world.tryOnce task state nodeId with ⟨after, error | result⟩
          · dsimp only
            by_cases more : 0 < left ∧ isRetryable error
            · obtain ⟨attempts, answer, last⟩ :=
                @ih (world.forgetNode after nodeId) (nodeId :: unusable)
              rw [if_pos more, Retrying.run_again chosen tried more]
              exact ⟨congrArg _ attempts, answer, last⟩
            · rw [if_neg more, Retrying.run_failed chosen tried more]
              exact ⟨rfl, rfl, nofun⟩
          · rw [Retrying.run_answered chosen tried]
            exact ⟨rfl, rfl, nofun⟩

theorem submitFrom_attempts : (world.submitFrom selectNode task left unusable state).attempts =
    (Retrying.run (world.method selectNode task) left unusable state).attempts.map
      Attempt.ofRetrying :=
  submitFrom_run.1

theorem submitFrom_nodes :
    (world.submitFrom selectNode task left unusable state).attempts.map Attempt.nodeId =
      (Retrying.run (world.method selectNode task) left unusable state).attempts.map
        Retrying.Attempt.place := by
  rw [submitFrom_attempts, List.map_map]
  rfl

theorem submitFrom_bounded :
    (world.submitFrom selectNode task left unusable state).attempts.length ≤ left := by
  rw [submitFrom_attempts, List.length_map]
  exact Retrying.run_length_le

theorem submitFrom_different :
    ((world.submitFrom scheduler.selectNode task left [] state).attempts.map
      Attempt.nodeId).Nodup := by
  have fresh := @Retrying.run_fresh _ _ _ _ (world.method scheduler.selectNode task) left [] state
    fun _ _ _ chosen => (chosen_usable chosen).2
  rw [List.reverse_nil, List.nil_append] at fresh
  rw [submitFrom_nodes, fresh]
  exact List.nodup_nil

theorem submitFrom_usable {attempt : Attempt σ}
    (made : attempt ∈ (world.submitFrom scheduler.selectNode task left unusable state).attempts) :
    world.Usable task attempt.found attempt.nodeId := by
  rw [submitFrom_attempts, List.mem_map] at made
  obtain ⟨retried, made, rfl⟩ := made
  obtain ⟨⟨before, chosen⟩, -⟩ := Retrying.run_chosen made
  exact (chosen_usable chosen).1

theorem submitFrom_stops {before rest : List (Attempt σ)} {attempt : Attempt σ}
    (made : (world.submitFrom selectNode task left unusable state).attempts =
      before ++ attempt :: rest) (delivered : ¬Undelivered attempt.outcome) :
    rest = [] ∧
      (world.submitFrom selectNode task left unusable state).answer = attempt.outcome := by
  rw [submitFrom_attempts, List.map_eq_append_iff] at made
  obtain ⟨earlier, later, split, -, made⟩ := made
  obtain ⟨retried, others, rfl, rfl, rfl⟩ := List.map_eq_cons_iff.mp made
  obtain ⟨failure, failed, hope⟩ | ⟨rfl, ends⟩ := Retrying.run_stops split
  · refine absurd (isRetryable_iff.mp hope) ?_
    rw [← failed]
    exact delivered
  · refine ⟨rfl, ?_⟩
    rw [submitFrom_run.2.1, ends]
    rfl

/-- The controller says that there is no node when it found none, or no attempt was allowed;
otherwise the last attempt said so. -/
theorem submitFrom_refused {taskId : TaskId}
    (refused : (world.submitFrom scheduler.selectNode task left [] state).answer =
      .error (.noNodeAvailable taskId)) :
    let submitted := world.submitFrom scheduler.selectNode task left [] state
    left = 0 ∨
      (∀ nodeId, world.Usable task submitted.last nodeId →
        nodeId ∈ submitted.attempts.map Attempt.nodeId) ∨
      ∃ final ∈ submitted.attempts.getLast?,
        final.outcome = .error (.noNodeAvailable taskId) := by
  have ends := @Retrying.run_ends _ _ _ _ (world.method scheduler.selectNode task) left [] state
  rw [submitFrom_run.2.1] at refused
  unfold Retrying.History.Ends at ends
  dsimp only
  cases how : (Retrying.run (world.method scheduler.selectNode task) left [] state).ending with
  | spent =>
      rw [how] at ends
      exact .inl ends
  | stranded =>
      rw [how, List.append_nil] at ends
      refine .inr (.inl fun nodeId usable => ?_)
      rw [submitFrom_run.2.2 how] at usable
      rw [submitFrom_nodes]
      exact List.mem_reverse.mp (stranded_tried ends usable)
  | answered outcome =>
      rw [how] at ends refused
      obtain ⟨final, last, same⟩ := ends
      refine .inr (.inr ⟨Attempt.ofRetrying final, ?_, same.trans refused⟩)
      rw [submitFrom_attempts, List.getLast?_map, last]
      rfl

theorem retry_discipline (world : Surroundings σ) (scheduler : EligibleScheduler σ) (task : Task)
    (maxAttempts : Nat) (state : σ) :
    let submitted := world.submit scheduler.selectNode task maxAttempts state
    submitted.attempts.length ≤ maxAttempts ∧
      (submitted.attempts.map Attempt.nodeId).Nodup ∧
      (∀ attempt ∈ submitted.attempts, world.Usable task attempt.found attempt.nodeId) ∧
      (∀ before attempt rest, submitted.attempts = before ++ attempt :: rest →
        ¬Undelivered attempt.outcome → rest = [] ∧ submitted.answer = attempt.outcome) ∧
      ∀ taskId, submitted.answer = .error (.noNodeAvailable taskId) →
        maxAttempts = 0 ∨
          (∀ nodeId, world.Usable task submitted.last nodeId →
            nodeId ∈ submitted.attempts.map Attempt.nodeId) ∨
          ∃ final ∈ submitted.attempts.getLast?,
            final.outcome = .error (.noNodeAvailable taskId) := by
  dsimp only
  rw [submit]
  cases world.cached state task with
  | some result => simp
  | none =>
      exact ⟨submitFrom_bounded, submitFrom_different, fun _ => submitFrom_usable,
        fun _ _ _ => submitFrom_stops, fun _ => submitFrom_refused⟩

/-- Where no attempt answers like that, the answer is the controller's own. -/
theorem refused_only_when_stranded
    (own : ∀ found nodeId taskId,
      (world.tryOnce task found nodeId).2 ≠ .error (.noNodeAvailable taskId))
    {taskId : TaskId} (refused : (world.submitFrom scheduler.selectNode task left [] state).answer =
      .error (.noNodeAvailable taskId)) :
    let submitted := world.submitFrom scheduler.selectNode task left [] state
    left = 0 ∨ ∀ nodeId, world.Usable task submitted.last nodeId →
      nodeId ∈ submitted.attempts.map Attempt.nodeId := by
  obtain none | tried | ⟨final, last, same⟩ := submitFrom_refused refused
  · exact .inl none
  · exact .inr tried
  · have made := List.mem_of_getLast? last
    rw [submitFrom_attempts, List.mem_map] at made
    obtain ⟨retried, made, rfl⟩ := made
    exact absurd ((Retrying.run_chosen made).2.symm.trans same) (own _ _ _)

end Surroundings

def eligible (nodes : List NodeInfo) (task : Task) : List NodeInfo :=
  nodes.filter fun node => satisfiesAll node.labels task.constraints

/-- Goes through the nodes and over to the next one where that compares as better. -/
def selectBy (better : NodeInfo → NodeInfo → Bool) : List NodeInfo → Option NodeInfo
  | [] => none
  | node :: rest =>
      some (rest.foldl (fun best next => if better next best then next else best) node)

theorem selectBy_mem {better : NodeInfo → NodeInfo → Bool} {nodes : List NodeInfo}
    {node : NodeInfo} (selected : selectBy better nodes = some node) : node ∈ nodes := by
  cases nodes with
  | nil => cases selected
  | cons head rest =>
      cases selected
      refine List.foldlRecOn rest _ List.mem_cons_self fun best known next listed => ?_
      split
      · exact List.mem_cons_of_mem head listed
      · exact known

/-- All the schedulers of the source are of this form. -/
def comparing (better : σ → Task → NodeInfo → NodeInfo → Bool) : EligibleScheduler σ where
  selectNode state nodes task :=
    (selectBy (better state task) (eligible nodes task)).map NodeInfo.id
  eligible state nodes task nodeId selected := by
    obtain ⟨node, selected, same⟩ := Option.map_eq_some_iff.mp selected
    have allowed := List.mem_filter.mp (selectBy_mem selected)
    exact ⟨node, allowed.1, same, allowed.2⟩
  picks state nodes task nowhere node listed := by
    rw [Option.map_eq_none_iff] at nowhere
    cases allowed : AetherMesh.eligible nodes task with
    | nil => exact Bool.eq_false_iff.mpr (List.filter_eq_nil_iff.mp allowed node listed)
    | cons head rest =>
        rw [allowed] at nowhere
        cases nowhere

/-- A transport that answers so is believed, and the second node is not asked. -/
theorem refuses_with_a_node_left :
    ¬∀ (world : Surroundings Unit) (scheduler : EligibleScheduler Unit) (task : Task)
      (maxAttempts : Nat),
      let submitted := world.submit scheduler.selectNode task maxAttempts ()
      ∀ taskId, submitted.answer = .error (.noNodeAvailable taskId) →
        maxAttempts = 0 ∨ ∀ nodeId, world.Usable task submitted.last nodeId →
          nodeId ∈ submitted.attempts.map Attempt.nodeId := by
  intro claimed
  let world : Surroundings Unit :=
    { cached := fun _ _ => none
      nodesWithPendingWork := fun _ => [⟨⟨1⟩, ∅⟩, ⟨⟨2⟩, ∅⟩]
      isAvailable := fun _ _ => true
      ensureInputs := fun _ _ _ => ((), .ok ())
      dispatch := fun _ _ task => ((), .error (.noNodeAvailable task.id))
      recordResult := fun _ _ _ => ()
      forgetNode := fun _ _ => () }
  have refused :=
    claimed world (comparing fun _ _ _ _ => false) (Task.new ⟨7⟩ "echo" []) 3 ⟨7⟩ rfl
  have untried := refused.resolve_left (by decide) ⟨2⟩
    ⟨⟨⟨2⟩, ∅⟩, List.mem_cons_of_mem _ List.mem_cons_self, rfl, rfl, rfl⟩
  exact absurd untried (by decide)

namespace Dispatch

variable (transport : Transport) (scheduler : Scheduler) (digest : Bytes → DataId)

/-- The submission of one mesh that nothing else changes, by the number of the attempt. -/
def surroundings (cached : Option TaskResult) : Surroundings (Nat × Mesh) where
  cached _ task := cached.map fun result => { result with taskId := task.id }
  nodesWithPendingWork state := state.2.nodes
  isAvailable state := transport.isAvailable state.1
  ensureInputs state nodeId task :=
    let ensured := ensureInputs transport state.1 nodeId task.inputs.zipIdx state.2
    ((state.1, ensured.1), ensured.2)
  dispatch state nodeId task :=
    (state, (transport.dispatch state.1 nodeId task).mapError Subtype.val)
  recordResult state _ result := (state.1, recordOutput digest state.2 result)
  forgetNode state nodeId :=
    (state.1 + 1, { state.2 with catalog := state.2.catalog.forgetNode nodeId })

theorem tryOnce_eq {task : Task} {attempt : Nat} {mesh : Mesh} {nodeId : NodeId}
    {cached : Option TaskResult} :
    (surroundings transport digest cached).tryOnce task (attempt, mesh) nodeId =
      let tried := tryOnce transport attempt mesh nodeId task
      ((attempt, tried.1), tried.2) := by
  unfold Surroundings.tryOnce tryOnce surroundings
  dsimp only
  rcases ensureInputs transport attempt nodeId task.inputs.zipIdx mesh with
    ⟨after, error | ⟨⟩⟩
  · rfl
  · dsimp only
    cases transport.dispatch attempt nodeId task <;> rfl

theorem submitFrom_eq {task : Task} {left attempt : Nat} {unusable : List NodeId} {mesh : Mesh}
    {cached : Option TaskResult} :
    let submitted := (surroundings transport digest cached).submitFrom
      (fun state => scheduler.selectNode state.1) task left unusable (attempt, mesh)
    submitFrom transport scheduler digest task left attempt unusable mesh =
      (submitted.last.2, submitted.answer) := by
  induction left generalizing attempt unusable mesh with
  | zero => rfl
  | succ left ih =>
      rw [submitFrom, Surroundings.submitFrom]
      have same : (surroundings transport digest cached).candidates (attempt, mesh) unusable =
        mesh.nodes.filter fun node => node.id ∉ unusable ∧ transport.isAvailable attempt node.id :=
        rfl
      rw [same]
      dsimp only
      cases scheduler.selectNode attempt (mesh.nodes.filter fun node =>
          node.id ∉ unusable ∧ transport.isAvailable attempt node.id) task with
      | none => rfl
      | some nodeId =>
          dsimp only
          rw [tryOnce_eq]
          dsimp only
          rcases tryOnce transport attempt mesh nodeId task with ⟨after, error | result⟩
          · dsimp only
            by_cases more : 0 < left ∧ isRetryable error
            · rw [if_pos more, if_pos more]
              exact ih
            · rw [if_neg more, if_neg more]
          · rfl

section OwnAnswer

variable {transport : Transport} {scheduler : EligibleScheduler (Nat × Mesh)}
variable {digest : Bytes → DataId} {attempt position : Nat} {mesh after : Mesh}
variable {nodeId : NodeId} {error : DispatchError}

/-- An attempt fails by delivery, or for an input that was never published. -/
def Expected (error : DispatchError) : Prop :=
  isRetryable error ∨ ∃ dataId, error = .unknownInput dataId

theorem sendInput_expected {descriptor : DataDescriptor}
    (failed : sendInput transport attempt position mesh nodeId descriptor = (after, .error error)) :
    isRetryable error := by
  unfold sendInput sendChunked at failed
  grind

theorem ensureInput_expected {dataId : DataId}
    (failed : ensureInput transport attempt position mesh nodeId dataId = (after, .error error)) :
    Expected error := by
  unfold ensureInput at failed
  split at failed
  · cases failed
  · cases stored : mesh.store dataId with
    | none =>
        rw [stored] at failed
        cases failed
        exact .inr ⟨dataId, rfl⟩
    | some bytes =>
        rw [stored] at failed
        dsimp only at failed
        split at failed
        · cases failed
          exact .inl (sendInput_expected ‹_›)
        · cases failed

theorem ensureInputs_expected {inputs : List (DataId × Nat)}
    (failed : ensureInputs transport attempt nodeId inputs mesh = (after, .error error)) :
    Expected error := by
  induction inputs generalizing mesh with
  | nil => cases failed
  | cons input rest ih =>
      rw [ensureInputs] at failed
      split at failed
      · cases failed
        exact ensureInput_expected ‹_›
      · exact ih failed

theorem tryOnce_expected {task : Task}
    (failed : tryOnce transport attempt mesh nodeId task = (after, .error error)) :
    Expected error := by
  unfold tryOnce at failed
  split at failed
  · cases failed
    exact ensureInputs_expected ‹_›
  · cases answered : transport.dispatch attempt nodeId task with
    | error error =>
        rw [answered] at failed
        cases failed
        exact .inl error.property
    | ok result =>
        rw [answered] at failed
        cases failed

theorem mesh_refused_only_when_stranded {task : Task} {maxAttempts : Nat} {taskId : TaskId}
    {cached : Option TaskResult} :
    let submitted := (surroundings transport digest cached).submitFrom scheduler.selectNode task
      maxAttempts [] (1, mesh)
    submitted.answer = .error (.noNodeAvailable taskId) →
      maxAttempts = 0 ∨
        ∀ nodeId, (surroundings transport digest cached).Usable task submitted.last nodeId →
          nodeId ∈ submitted.attempts.map Attempt.nodeId := by
  intro submitted refused
  refine Surroundings.refused_only_when_stranded (fun state nodeId taskId answered => ?_) refused
  obtain ⟨attempt, mesh⟩ := state
  rw [tryOnce_eq] at answered
  have expected := tryOnce_expected (Prod.ext rfl answered)
  simp [Expected, isRetryable] at expected

end OwnAnswer

end Dispatch

end AetherMesh
