import AetherMesh.Controller.FlowDispatch

/-!
What a step is handed of what came before it. An output that is an input already is left out,
so two dependencies that came to the same bytes are read once.
-/

namespace AetherMesh.Flow

def Produced (opened reached : State) (dependency : Nat) (outputId : DataId) : Prop :=
  (∃ result, reached.results dependency = some result ∧ result.isSuccess = true ∧
    result.outputId = some outputId) ∨
  reached.results dependency = none ∧ opened.outputs dependency = some outputId

def Remembers (opened reached : State) : Prop :=
  ∀ dependency outputId, Produced opened reached dependency outputId →
    reached.outputs dependency = some outputId

def readingAll (task : Task) (outputIds : List DataId) : Task :=
  { task with inputs := task.inputs ++ outputIds }

/-- No two of the outputs are the same and none is declared as an input. -/
def AllDistinct (task : Task) (outputIds : List DataId) : Prop :=
  outputIds.Nodup ∧ ∀ outputId ∈ outputIds, outputId ∉ task.inputs

variable {workflow : Workflow} {opened state after : State} {event : Event}

theorem Remembers.step (remembers : Remembers opened state)
    (moved : next workflow state event = some after) : Remembers opened after := by
  rcases next_work moved with ⟨_, _, _, _, _, _, rfl⟩ | ⟨step, result, catalog, _, _, rfl⟩ |
    ⟨_, results, _, outputs⟩
  · exact remembers
  · intro dependency outputId produced
    by_cases same : dependency = step
    · subst same
      rcases produced with ⟨other, found, _, left⟩ | ⟨unfinished, _⟩
      · obtain rfl : result = other := by simpa [joined] using found
        simp [joined, left]
      · simp [joined] at unfinished
    · have before : Produced opened state dependency outputId := by
        simpa only [Produced, joined, Function.update_of_ne same] using produced
      have known := remembers dependency outputId before
      cases left : result.outputId with
      | none => simpa [joined, left] using known
      | some other => simpa [joined, left, Function.update_of_ne same] using known
  · intro dependency outputId produced
    rw [outputs]
    refine remembers dependency outputId ?_
    simpa only [Produced, results] using produced

theorem start_remembers {digest : Bytes → DataId}
    {resume : Option (String × Except CheckpointError (List Record))} {catalog : DataCatalog}
    {before : Nat} (started : start digest workflow resume catalog before = .ok opened) :
    Remembers opened opened := by
  obtain ⟨_, first, _, _, resuming, rfl⟩ := start_resuming started
  rintro dependency outputId (⟨result, found, _⟩ | ⟨_, known⟩)
  · have unfinished : first.results dependency = none := resuming.unfinished dependency
    simp [openReady, unfinished] at found
  · exact known

theorem addInput_eq {outputs : Nat → Option DataId} {task : Task} {dependency : Nat}
    {outputId : DataId} (known : outputs dependency = some outputId) :
    addInput outputs task dependency =
      if outputId ∈ task.inputs then task else readingAll task [outputId] := by
  simp only [addInput, known, readingAll]

theorem readingAll_append (task : Task) (left right : List DataId) :
    readingAll (readingAll task left) right = readingAll task (left ++ right) := by
  simp [readingAll]

theorem foldl_addInput_length_le {outputs : Nat → Option DataId} {dependencies : List Nat}
    {outputIds : List DataId}
    (known : List.Forall₂ (fun dependency outputId => outputs dependency = some outputId)
      dependencies outputIds) (task : Task) :
    (dependencies.foldl (addInput outputs) task).inputs.length ≤
      task.inputs.length + outputIds.length := by
  induction known generalizing task with
  | nil => exact Nat.le_refl _
  | cons first rest ih =>
      rw [List.foldl_cons, addInput_eq first]
      refine (ih _).trans ?_
      split
      · simp only [List.length_cons]
        omega
      · simp only [readingAll, List.length_append, List.length_cons, List.length_nil]
        omega

theorem foldl_addInput_iff {outputs : Nat → Option DataId} {dependencies : List Nat}
    {outputIds : List DataId}
    (known : List.Forall₂ (fun dependency outputId => outputs dependency = some outputId)
      dependencies outputIds) (task : Task) :
    dependencies.foldl (addInput outputs) task = readingAll task outputIds ↔
      AllDistinct task outputIds := by
  induction known generalizing task with
  | nil => simp [readingAll, AllDistinct]
  | @cons dependency outputId rest outputIds first later ih =>
      rw [List.foldl_cons, addInput_eq first]
      by_cases held : outputId ∈ task.inputs
      · -- one entry is left out, and the rest cannot make up for it
        rw [if_pos held]
        constructor
        · intro same
          have bound := foldl_addInput_length_le later task
          rw [same] at bound
          simp only [readingAll, List.length_append, List.length_cons] at bound
          omega
        · intro distinct
          exact absurd held (distinct.2 outputId List.mem_cons_self)
      · rw [if_neg held]
        have whole : readingAll task (outputId :: outputIds) =
            readingAll (readingAll task [outputId]) outputIds := by
          rw [readingAll_append, List.singleton_append]
        rw [whole, ih]
        simp only [AllDistinct, readingAll, List.mem_append, List.mem_singleton, List.nodup_cons,
          List.forall_mem_cons]
        constructor
        · rintro ⟨unique, apart⟩
          refine ⟨⟨?_, unique⟩, held, fun other member => fun old => apart other member (.inl old)⟩
          exact fun twice => apart outputId twice (.inr rfl)
        · rintro ⟨⟨once, unique⟩, -, apart⟩
          refine ⟨unique, ?_⟩
          rintro other member (old | rfl)
          · exact apart other member old
          · exact once member

/-- A step is handed the outputs of all its dependencies, in their order and one entry for each,
exactly when no two of them are the same and none is an input already. -/
theorem submits_every_output_iff {digest : Bytes → DataId}
    {resume : Option (String × Except CheckpointError (List Record))} {catalog : DataCatalog}
    {before : Nat} {reached : State} {front : List Event} {step : Nat} {task : Task}
    {entry : Step} {outputIds : List DataId}
    (started : start digest workflow resume catalog before = .ok opened)
    (ran : Runs.run (next workflow) opened front = some reached)
    (submitted : next workflow reached (.submit step task) = some after)
    (found : workflow.steps[step]? = some entry)
    (produced : List.Forall₂ (Produced opened reached) entry.dependsOn outputIds) :
    task = readingAll entry.task outputIds ↔ AllDistinct entry.task outputIds := by
  have remembers : Remembers opened reached :=
    Runs.run_invariant (start_remembers started) (fun _ _ _ kept moved => kept.step moved) ran
  obtain ⟨_, _, _, given, _⟩ := next_submit submitted
  rw [taskFor, found, Option.map_some, Option.some.injEq] at given
  rw [← given]
  exact foldl_addInput_iff (produced.imp remembers) entry.task

def joinOf (arms : List Task) : Workflow :=
  ⟨arms.map (fun arm => ⟨arm, []⟩) ++ [⟨Task.new ⟨2⟩ "hash" [], [0, 1]⟩]⟩

def arm (number : Nat) (payload : Bytes) : Task := Task.new ⟨BitVec.ofNat 128 number⟩ "echo" payload

def came (number : Nat) (payload : Bytes) : TaskResult :=
  ⟨⟨BitVec.ofNat 128 number⟩, ⟨0⟩, .success payload, 0, some (leadingBytes payload)⟩

def joins (left right : Bytes) : List Event :=
  [.submit 0 (arm 0 left), .submit 1 (arm 1 right), .join 0 (.ok (came 0 left)) .new, .release,
    .release, .join 1 (.ok (came 1 right)) .new, .release, .release]

theorem equal_arms_read_once :
    ∃ opened reached after, (joinOf [arm 0 [5], arm 1 [5]]).validate = .ok () ∧
      start leadingBytes (joinOf [arm 0 [5], arm 1 [5]]) none .new 0 = .ok opened ∧
      Runs.run (next (joinOf [arm 0 [5], arm 1 [5]])) opened (joins [5] [5]) = some reached ∧
      next (joinOf [arm 0 [5], arm 1 [5]]) reached
        (.submit 2 ((Task.new ⟨2⟩ "hash" []).withInputs [leadingBytes [5]])) = some after ∧
      List.Forall₂ (Produced opened reached) [0, 1] [leadingBytes [5], leadingBytes [5]] ∧
      (Task.new ⟨2⟩ "hash" []).withInputs [leadingBytes [5]] ≠
        readingAll (Task.new ⟨2⟩ "hash" []) [leadingBytes [5], leadingBytes [5]] := by
  refine ⟨_, _, _, by decide, rfl, rfl, rfl, ?_, by decide⟩
  refine .cons (.inl ⟨came 0 [5], rfl, rfl, rfl⟩) (.cons (.inl ⟨came 1 [5], rfl, rfl, rfl⟩) .nil)

theorem different_arms_read_both :
    ∃ opened reached after,
      start leadingBytes (joinOf [arm 0 [5], arm 1 [6]]) none .new 0 = .ok opened ∧
      Runs.run (next (joinOf [arm 0 [5], arm 1 [6]])) opened (joins [5] [6]) = some reached ∧
      next (joinOf [arm 0 [5], arm 1 [6]]) reached
        (.submit 2 ((Task.new ⟨2⟩ "hash" []).withInputs [leadingBytes [5], leadingBytes [6]])) =
          some after ∧
      (Task.new ⟨2⟩ "hash" []).withInputs [leadingBytes [5], leadingBytes [6]] =
        readingAll (Task.new ⟨2⟩ "hash" []) [leadingBytes [5], leadingBytes [6]] := by
  refine ⟨_, _, _, rfl, rfl, rfl, ?_⟩
  refine (@submits_every_output_iff (joinOf [arm 0 [5], arm 1 [6]]) _ _ leadingBytes none .new 0 _
    (joins [5] [6]) 2 _ ⟨Task.new ⟨2⟩ "hash" [], [0, 1]⟩ _ rfl rfl rfl rfl
    (.cons (.inl ⟨came 0 [5], rfl, rfl, rfl⟩)
      (.cons (.inl ⟨came 1 [6], rfl, rfl, rfl⟩) .nil))).mpr ?_
  exact ⟨by decide, by decide⟩

end AetherMesh.Flow
