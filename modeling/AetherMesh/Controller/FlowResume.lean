import AetherMesh.Controller.FlowCounters

/-!
The pass over the journal. However few of the recorded outputs are still
somewhere, the pass lowers each counter once for each resumed dependency, so the
loop starts with the accounting in order.
-/

namespace AetherMesh.Flow

structure Resuming (workflow : Workflow) (state : State) (seen : List Nat) : Prop where
  control : state.control = .looping
  size : state.waiting.length = workflow.len
  counter : ∀ dependent < workflow.len, state.waiting[dependent]? =
    some ((workflow.dependsOn dependent).length - counted workflow state [] dependent)
  unfinished : ∀ step, state.results step = none
  inside : state.resumed ⊆ seen
  idle : state.running = [] ∧ state.abandoned = []

section Resuming

variable {workflow : Workflow} {state : State} {seen : List Nat}

theorem told_of_resuming (resuming : Resuming workflow state seen) (dependency dependent : Nat) :
    told state [] dependency dependent = decide (dependency ∈ state.resumed) := by
  simp [told, resuming.unfinished]

theorem fresh_resuming (workflow : Workflow) (before : Nat) (journal : Option (String × String)) :
    Resuming workflow { fresh workflow before with journal } [] := by
  constructor
  · rfl
  · simp [fresh, Workflow.len]
  · intro dependent bound
    have nothing : counted workflow { fresh workflow before with journal } [] dependent = 0 := by
      simp [counted, told, fresh]
    rw [nothing]
    have found := List.getElem?_eq_getElem (show dependent < workflow.steps.length from bound)
    simp [fresh, Workflow.dependsOn, found]
  · intro step
    rfl
  · simp [fresh]
  · simp [fresh]

theorem resumeStep_resuming (resuming : Resuming workflow state seen)
    (known : Nat → Option Record) (catalog : DataCatalog) {step : Nat} (new : step ∉ seen) :
    Resuming workflow (resumeStep workflow known catalog state step) (seen ++ [step]) := by
  have further : Resuming workflow state (seen ++ [step]) :=
    { resuming with inside := fun item member => List.mem_append_left _ (resuming.inside member) }
  have unresumed : step ∉ state.resumed := fun member => new (resuming.inside member)
  unfold resumeStep
  split
  · exact further
  · rename_i record _
    split
    · exact further
    · have positive : ∀ dependent ∈ workflow.dependentsOf step,
          Positive state.waiting dependent := by
        intro dependent member
        have named := Workflow.mem_dependentsOf.mp member
        have untold : told state [] step dependent = false := by
          simp [told_of_resuming resuming, unresumed]
        have short := (List.dedup_sublist (workflow.dependsOn dependent)).length_le
        have less := counted_lt named untold
        refine ⟨(workflow.dependsOn dependent).length - counted workflow state [] dependent - 1, ?_⟩
        rw [resuming.counter dependent (Workflow.lt_of_mem_dependsOn named)]
        congr 1
        omega
      rw [foldlM_decrement (Workflow.dependentsOf_nodup workflow step) positive]
      constructor
      · exact resuming.control
      · simpa using resuming.size
      · intro dependent bound
        refine counter_lower (resuming.counter dependent bound) ?_
        by_cases named : step ∈ workflow.dependsOn dependent
        · rw [if_pos (Workflow.mem_dependentsOf.mpr named)]
          refine counted_succ named ?_ ?_ ?_
          · simp [told_of_resuming resuming, unresumed]
          · simp [told]
          · intro other _ different
            simp [told, different, resuming.unfinished]
        · rw [if_neg (fun member => named (Workflow.mem_dependentsOf.mp member))]
          apply counted_congr
          intro dependency member
          have different : dependency ≠ step := fun same => named (same ▸ member)
          simp [told, different, resuming.unfinished]
      · exact resuming.unfinished
      · intro item member
        simp only [List.mem_append, List.mem_singleton] at member ⊢
        exact member.imp_left (fun old => resuming.inside old)
      · exact resuming.idle

theorem foldl_resumeStep_resuming (known : Nat → Option Record) (catalog : DataCatalog)
    {steps : List Nat} (unique : (seen ++ steps).Nodup) (resuming : Resuming workflow state seen) :
    Resuming workflow (steps.foldl (resumeStep workflow known catalog) state) (seen ++ steps) := by
  induction steps generalizing state seen with
  | nil => simpa using resuming
  | cons step rest ih =>
      have new : step ∉ seen := by
        intro member
        exact (List.nodup_append.mp unique).2.2 step member step (by simp) rfl
      have grown : seen ++ step :: rest = (seen ++ [step]) ++ rest := by simp
      rw [grown] at unique ⊢
      exact ih unique (resumeStep_resuming resuming known catalog new)

theorem Resuming.open (resuming : Resuming workflow state seen) :
    Tally workflow (openReady workflow state) [] [] := by
  have member (step : Nat) : step ∈ (openReady workflow state).ready ↔
      state.waiting[step]? = some 0 ∧ step ∉ state.resumed := by
    simp only [openReady, List.mem_filter, List.mem_range, decide_eq_true_eq]
    constructor
    · exact fun both => both.2
    · intro both
      refine ⟨?_, both⟩
      have bound := (List.getElem?_eq_some_iff.mp both.1).1
      rwa [resuming.size] at bound
  have unique : (openReady workflow state).ready.Nodup := List.nodup_range.filter _
  constructor
  · exact resuming.size
  · exact resuming.counter
  · intro step unresumed
    have elsewhere : occurrences (openReady workflow state) step =
        (openReady workflow state).ready.count step := by
      simp [occurrences, openReady, resuming.unfinished, resuming.idle.1, resuming.idle.2]
    rw [elsewhere]
    by_cases zero : state.waiting[step]? = some 0
    · rw [List.count_eq_one_of_mem unique ((member step).mpr ⟨zero, unresumed⟩)]
      simp [openReady, zero]
    · rw [List.count_eq_zero.mpr (fun present => zero ((member step).mp present).1)]
      simp [openReady, zero]
  · intro step inResumed
    refine ⟨fun present => ((member step).mp present).2 inResumed, ?_, resuming.unfinished step, ?_⟩
    · simp [openReady, resuming.idle.1]
    · simp
  · intro step
    simp [openReady, resuming.idle.2]
  · intro step succeeded todo releasing
    simp [openReady, resuming.control] at releasing

end Resuming

theorem start_resuming {digest : Bytes → DataId} {workflow : Workflow}
    {resume : Option (String × Except CheckpointError (List Record))} {catalog : DataCatalog}
    {before : Nat} {state : State} (started : start digest workflow resume catalog before = .ok state) :
    ∃ order opened seen, workflow.order = .ok order ∧ Resuming workflow opened seen ∧
      state = openReady workflow opened := by
  unfold start at started
  split at started
  · simp at started
  · rename_i order ordered
    split at started
    · exact ⟨order, _, [], ordered, fresh_resuming workflow before none,
        (Except.ok.inj started).symm⟩
    · dsimp only at started
      split at started
      · simp at started
      · rename_i known _
        refine ⟨order, _, [] ++ order, ordered, ?_, (Except.ok.inj started).symm⟩
        refine foldl_resumeStep_resuming known catalog ?_ (fresh_resuming workflow before _)
        simpa using Workflow.order_nodup ordered

theorem start_tally {digest : Bytes → DataId} {workflow : Workflow}
    {resume : Option (String × Except CheckpointError (List Record))} {catalog : DataCatalog}
    {before : Nat} {state : State} (started : start digest workflow resume catalog before = .ok state) :
    Tally workflow state [] [] ∧ state.control = .looping := by
  obtain ⟨order, opened, seen, _, resuming, rfl⟩ := start_resuming started
  exact ⟨resuming.open, resuming.control⟩

theorem start_none {digest : Bytes → DataId} {workflow : Workflow} {catalog : DataCatalog}
    {before : Nat} {state : State} (started : start digest workflow none catalog before = .ok state) :
    state.resumed = [] ∧ state.outputs = fun _ => none := by
  unfold start at started
  split at started
  · simp at started
  · obtain rfl := Except.ok.inj started
    exact ⟨rfl, rfl⟩

end AetherMesh.Flow
