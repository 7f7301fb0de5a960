import AetherMesh.Controller.FlowPartition
import AetherMesh.Controller.FlowReads

/-!
What does not change any more once a step is handed over. It waits for nothing, and the loop would
panic before it took in another outcome of a step that this one depends on.
-/

namespace AetherMesh.Flow

variable {workflow : Workflow} {state after : State} {event : Event} {step : Nat}

def Clear (state : State) (step : Nat) : Prop := state.waiting[step]? = some 0

theorem decrement_clear {waiting lowered : List Nat}
    (moved : decrement waiting step = some lowered) :
    waiting[step]? ≠ some 0 ∧
      ∀ other : Nat, waiting[other]? = some 0 → lowered[other]? = some 0 := by
  unfold decrement at moved
  split at moved
  · rename_i count found
    obtain rfl := Option.some.inj moved
    refine ⟨by simp [found], fun other clear => ?_⟩
    have different : step ≠ other := by
      rintro rfl
      simp [found] at clear
    rwa [List.getElem?_set_ne different]
  · cases moved

theorem abandonFurther_clear {further : Nat} (moved : abandonFurther state further = some after)
    (clear : Clear state step) : Clear after step := by
  unfold abandonFurther at moved
  obtain ⟨waiting, lowered, rfl⟩ := Option.map_eq_some_iff.mp moved
  have kept := (decrement_clear lowered).2 step clear
  split <;> exact kept

theorem foldlM_abandonFurther_clear {steps : List Nat}
    (moved : steps.foldlM abandonFurther state = some after) (clear : Clear state step) :
    Clear after step := by
  induction steps generalizing state with
  | nil =>
      obtain rfl := Option.some.inj moved
      exact clear
  | cons further rest ih =>
      rw [List.foldlM_cons] at moved
      obtain ⟨middle, first, later⟩ := Option.bind_eq_some_iff.mp moved
      exact ih later (abandonFurther_clear first clear)

theorem releaseOne_clear {dependency dependent : Nat} {succeeded : Bool}
    (moved : releaseOne workflow dependency succeeded state dependent = some after) :
    ¬Clear state dependent ∧ (∀ other, Clear state other → Clear after other) ∧
      (after.ready = state.ready ∨
        after.ready = state.ready ++ [dependent] ∧ Clear after dependent) := by
  unfold releaseOne at moved
  obtain ⟨waiting, lowered, moved⟩ := Option.bind_eq_some_iff.mp moved
  obtain ⟨waits, kept⟩ := decrement_clear lowered
  refine ⟨waits, ?_⟩
  split at moved
  · obtain rfl := Option.some.inj moved
    exact ⟨kept, .inl rfl⟩
  · rename_i last
    split at moved
    · obtain rfl := Option.some.inj moved
      exact ⟨kept, .inr ⟨rfl, not_not.mp last⟩⟩
    · refine ⟨fun other clear => foldlM_abandonFurther_clear moved (kept other clear), .inl ?_⟩
      rw [foldlM_abandonFurther_frame moved]

/-- What one event does to the counters and to the steps that are ready. -/
theorem next_handover (moved : next workflow state event = some after) :
    (after.waiting = state.waiting ∧ ∃ handed, state.ready.Perm (handed ++ after.ready)) ∨
      ∃ dependent, ¬Clear state dependent ∧ (∀ other, Clear state other → Clear after other) ∧
        (after.ready = state.ready ∨
          after.ready = state.ready ++ [dependent] ∧ Clear after dependent) := by
  cases event with
  | submit other task =>
      obtain ⟨_, rest, front, _, rfl⟩ := next_submit moved
      exact .inl ⟨rfl, [other], by rw [front]; exact .refl _⟩
  | join other outcome catalog =>
      obtain ⟨_, _, _, ⟨_, _, rfl⟩ | ⟨_, _, rfl⟩⟩ := next_join moved
      · exact .inl ⟨rfl, [], .refl _⟩
      · exact .inl ⟨rfl, [], .refl _⟩
  | lost reason =>
      obtain ⟨_, _, rfl⟩ := next_lost moved
      exact .inl ⟨rfl, [], .refl _⟩
  | leave bytes =>
      obtain ⟨_, _, _, rfl⟩ := next_leave moved
      exact .inl ⟨rfl, [], .refl _⟩
  | release =>
      obtain ⟨_, _, _, rfl⟩ | ⟨_, _, dependent, _, _, ⟨_, rfl⟩ | ⟨_, released, rfl⟩⟩ :=
        next_release moved
      · exact .inl ⟨rfl, [], (List.perm_insertionSort _ _).symm⟩
      · exact .inl ⟨rfl, [], .refl _⟩
      · obtain ⟨waits, kept, grown⟩ := releaseOne_clear released
        exact .inr ⟨dependent, waits, kept, grown⟩

theorem next_clear (moved : next workflow state event = some after) (clear : Clear state step) :
    Clear after step := by
  obtain ⟨same, -⟩ | ⟨_, -, kept, -⟩ := next_handover moved
  · rw [Clear, same]
    exact clear
  · exact kept step clear

theorem next_ready (moved : next workflow state event = some after) (ready : step ∈ after.ready) :
    step ∈ state.ready ∨ ¬Clear state step ∧ Clear after step := by
  obtain ⟨-, _, split⟩ | ⟨_, waits, -, same | ⟨more, clear⟩⟩ := next_handover moved
  · exact .inl (split.mem_iff.mpr (List.mem_append_right _ ready))
  · exact .inl (same ▸ ready)
  · rw [more, List.mem_append, List.mem_singleton] at ready
    obtain old | rfl := ready
    · exact .inl old
    · exact .inr ⟨waits, clear⟩

theorem next_running (moved : next workflow state event = some after)
    (running : step ∈ after.running.map Prod.fst) :
    step ∈ state.running.map Prod.fst ∨ ∃ task, event = .submit step task := by
  obtain ⟨other, task, rest, rfl, -, -, rfl⟩ | ⟨other, result, catalog, -, -, rfl⟩ |
    ⟨-, -, same, -⟩ := next_work moved
  · rw [List.map_append, List.mem_append, List.map_singleton, List.mem_singleton] at running
    obtain old | rfl := running
    · exact .inl old
    · exact .inr ⟨task, rfl⟩
  · exact .inl ((List.eraseP_sublist.map Prod.fst).subset running)
  · rw [same] at running
    exact .inl running

/-- The steps that are ready or run, each of them once, wait for nothing. -/
structure Handed (state : State) : Prop where
  once : state.ready.Nodup
  ready : ∀ step ∈ state.ready, Clear state step
  running : ∀ step ∈ state.running.map Prod.fst, Clear state step ∧ step ∉ state.ready

theorem Handed.once_step (handed : Handed state) (moved : next workflow state event = some after) :
    after.ready.Nodup := by
  obtain ⟨-, _, split⟩ | ⟨dependent, waits, -, same | ⟨more, -⟩⟩ := next_handover moved
  · exact (List.nodup_append.mp (split.nodup_iff.mp handed.once)).2.1
  · rw [same]
    exact handed.once
  · rw [more, ← List.concat_eq_append]
    exact handed.once.concat fun listed => waits (handed.ready dependent listed)

theorem Handed.preserved (handed : Handed state) (moved : next workflow state event = some after) :
    Handed after where
  once := handed.once_step moved
  ready step ready := by
    obtain old | ⟨-, clear⟩ := next_ready moved ready
    · exact next_clear moved (handed.ready step old)
    · exact clear
  running step running := by
    obtain old | ⟨task, rfl⟩ := next_running moved running
    · obtain ⟨clear, unready⟩ := handed.running step old
      refine ⟨next_clear moved clear, fun ready => ?_⟩
      obtain old | ⟨waits, -⟩ := next_ready moved ready
      · exact unready old
      · exact waits clear
    · obtain ⟨_, rest, front, _, rfl⟩ := next_submit moved
      exact ⟨handed.ready step (by rw [front]; exact List.mem_cons_self),
        (List.nodup_cons.mp (front ▸ handed.once)).1⟩

theorem start_handed {digest : Bytes → DataId}
    {resume : Option (String × Except CheckpointError (List Record))} {catalog : DataCatalog}
    {before : Nat} (started : start digest workflow resume catalog before = .ok state) :
    Handed state := by
  obtain ⟨_, opened, _, _, resuming, rfl⟩ := start_resuming started
  refine ⟨List.nodup_range.filter _, fun step ready => ?_, fun step running => ?_⟩
  · exact (of_decide_eq_true (List.mem_filter.mp ready).2).1
  · rw [openReady, resuming.idle.1] at running
    cases running

def Doomed (state : State) : Prop :=
  state.control = .panicked ∨ ∃ dependency succeeded todo step,
    state.control = .releasing dependency succeeded todo ∧ step ∈ todo ∧ Clear state step

theorem Doomed.preserved (doomed : Doomed state) (moved : next workflow state event = some after) :
    Doomed after := by
  obtain panicked | ⟨dependency, succeeded, todo, step, releasing, listed, clear⟩ := doomed
  · cases event <;> simp [next, panicked] at moved
  · cases event with
    | release =>
        obtain ⟨_, _, control, -⟩ | ⟨_, _, dependent, rest, control, fate⟩ := next_release moved
        · cases releasing.symm.trans control
          cases listed
        · cases releasing.symm.trans control
          obtain ⟨-, rfl⟩ | ⟨released, told, rfl⟩ := fate
          · exact .inl rfl
          · obtain ⟨waits, kept, -⟩ := releaseOne_clear told
            have later : step ∈ rest := by
              obtain rfl | later := List.mem_cons.mp listed
              · exact absurd clear waits
              · exact later
            exact .inr ⟨dependency, succeeded, rest, step, rfl, later, kept step clear⟩
    | submit | join | lost | leave => simp [next, releasing] at moved

/-- What a step that was handed over depends on has the output it had, or the loop panics. -/
theorem next_outputs (moved : next workflow state event = some after) (clear : Clear state step) :
    (∀ dependency ∈ workflow.dependsOn step, after.outputs dependency = state.outputs dependency) ∨
      Doomed after := by
  obtain ⟨_, _, _, _, _, _, rfl⟩ | ⟨other, result, catalog, -, -, rfl⟩ | ⟨-, -, -, same⟩ :=
    next_work moved
  · exact .inl fun _ _ => rfl
  · by_cases needed : other ∈ workflow.dependsOn step
    · refine .inr (.inr ⟨other, result.isSuccess, _, step, rfl, ?_, clear⟩)
      exact Workflow.mem_dependentsOf.mpr needed
    · refine .inl fun dependency named => ?_
      have different : dependency ≠ other := by
        rintro rfl
        exact needed named
      simp only [joined]
      cases result.outputId with
      | none => rfl
      | some outputId => exact Function.update_of_ne different _ _
  · exact .inl fun _ _ => by rw [same]

theorem mem_foldl_addInput {outputs : Nat → Option DataId} {dependencies : List Nat} {task : Task}
    {input : DataId} (known : input ∈ task.inputs ∨
      ∃ dependency ∈ dependencies, outputs dependency = some input) :
    input ∈ (dependencies.foldl (addInput outputs) task).inputs := by
  induction dependencies generalizing task with
  | nil => simpa using known
  | cons first rest ih =>
      rw [List.foldl_cons]
      refine ih ?_
      obtain given | ⟨dependency, named, produced⟩ := known
      · left
        unfold addInput
        split
        · split
          · exact given
          · exact List.mem_append_left _ given
        · exact given
      · obtain rfl | later := List.mem_cons.mp named
        · left
          rw [addInput_eq produced]
          split
          · assumption
          · exact List.mem_append_right _ (List.mem_singleton.mpr rfl)
        · exact .inr ⟨dependency, later, produced⟩

theorem mem_inputs_of_taskFor {outputs : Nat → Option DataId} {task : Task} {dependency : Nat}
    {input : DataId} (given : taskFor workflow step outputs = some task)
    (named : dependency ∈ workflow.dependsOn step) (produced : outputs dependency = some input) :
    input ∈ task.inputs := by
  obtain ⟨entry, found, rfl⟩ := Option.map_eq_some_iff.mp given
  rw [Workflow.dependsOn, found] at named
  exact mem_foldl_addInput (.inr ⟨dependency, named, produced⟩)

theorem next_placements (moved : next workflow state event = some after) :
    after.placements = state.placements ∨
      ∃ step result catalog, event = .join step (.ok result) catalog ∧
        step ∈ state.running.map Prod.fst ∧ after.placements =
          state.placements ++ [placementFor catalog workflow step state.outputs result] := by
  cases event with
  | submit other task =>
      obtain ⟨_, _, _, _, rfl⟩ := next_submit moved
      exact .inl rfl
  | join other outcome catalog =>
      obtain ⟨_, _, running, ⟨_, _, rfl⟩ | ⟨result, rfl, rfl⟩⟩ := next_join moved
      · exact .inl rfl
      · exact .inr ⟨other, result, catalog, rfl, running, rfl⟩
  | lost reason =>
      obtain ⟨_, _, rfl⟩ := next_lost moved
      exact .inl rfl
  | leave bytes =>
      obtain ⟨_, _, _, rfl⟩ := next_leave moved
      exact .inl rfl
  | release =>
      obtain ⟨_, _, _, rfl⟩ | ⟨_, _, _, _, _, ⟨_, rfl⟩ | ⟨_, released, rfl⟩⟩ := next_release moved
      · exact .inl rfl
      · exact .inl rfl
      · rw [releaseOne_frame released]
        exact .inl rfl

theorem resumeStep_placements (known : Nat → Option Record) (catalog : DataCatalog) :
    (resumeStep workflow known catalog state step).placements = state.placements := by
  unfold resumeStep
  split
  · rfl
  · split
    · rfl
    · split <;> rfl

theorem start_placements {digest : Bytes → DataId}
    {resume : Option (String × Except CheckpointError (List Record))} {catalog : DataCatalog}
    {before : Nat} (started : start digest workflow resume catalog before = .ok state) :
    state.placements = [] := by
  unfold start at started
  split at started
  · cases started
  · split at started
    · obtain rfl := Except.ok.inj started
      rfl
    · dsimp only at started
      split at started
      · cases started
      · rename_i order _ _ run _ _ known _
        obtain rfl := Except.ok.inj started
        exact List.foldlRecOn order _ (motive := fun state : State => state.placements = []) rfl
          fun _ nothing _ _ => (resumeStep_placements known catalog).trans nothing

end AetherMesh.Flow
