import AetherMesh.Controller.FlowResume

/-!
What a workflow run without a journal says about each step. A step is reported
as run or as skipped exactly when its counter has come to zero. Two things keep a
counter from it: a dependency named twice, which is released once, and a step
given up after one that was given up, which tells nobody.
-/

namespace AetherMesh.Flow

/-- Every step is run or skipped, once, and a success means that every step ran and succeeded. -/
structure Accounted (workflow : Workflow) (flow : FlowResult) : Prop where
  partition : (flow.stepsRun ++ flow.skipped).Perm (List.range workflow.len)
  success : flow.isSuccess = true → flow.stepsRun = List.range workflow.len ∧
    flow.results.length = workflow.len ∧ ∀ result ∈ flow.results, result.isSuccess = true

/-- No step given up along with a dependent of the failed step has dependents itself. -/
def GivesUpLeaves (workflow : Workflow) (state : State) : Prop :=
  ∀ further ∈ givesUpNext workflow state, workflow.dependentsOf further = []

instance (workflow : Workflow) (state : State) : Decidable (GivesUpLeaves workflow state) :=
  inferInstanceAs (Decidable (∀ further ∈ _, _))

theorem next_resumed {workflow : Workflow} {state after : State} {event : Event}
    (moved : next workflow state event = some after) : after.resumed = state.resumed := by
  cases event with
  | submit step task =>
      obtain ⟨_, _, _, _, rfl⟩ := next_submit moved
      rfl
  | join step outcome catalog =>
      obtain ⟨_, _, _, ⟨_, _, rfl⟩ | ⟨_, _, rfl⟩⟩ := next_join moved <;> rfl
  | lost reason =>
      obtain ⟨_, _, rfl⟩ := next_lost moved
      rfl
  | leave bytes =>
      obtain ⟨_, _, _, rfl⟩ := next_leave moved
      rfl
  | release =>
      rcases next_release moved with ⟨_, _, _, rfl⟩ | ⟨_, _, _, _, _, ⟨_, rfl⟩ | ⟨_, found, rfl⟩⟩
      · rfl
      · rfl
      · rw [releaseOne_frame found]

theorem run_resumed {workflow : Workflow} {state final : State} {trace : List Event}
    (ran : Runs.run (next workflow) state trace = some final) : final.resumed = state.resumed :=
  @Runs.run_invariant _ _ (next workflow) (fun reached => reached.resumed = state.resumed) state
    final trace rfl (fun _ _ _ same moved => (next_resumed moved).trans same) ran

theorem next_answer {workflow : Workflow} {state after : State} {event : Event}
    {flow : FlowResult} (moved : next workflow state event = some after)
    (answered : after.answer = some (.ok flow)) :
    after.ready = [] ∧ after.running = [] ∧ ∃ bytes, flow = flowResult workflow after bytes := by
  cases event with
  | submit step task =>
      obtain ⟨looping, _, _, _, rfl⟩ := next_submit moved
      simp [State.answer, looping] at answered
  | join step outcome catalog =>
      obtain ⟨_, _, _, ⟨_, _, rfl⟩ | ⟨_, _, rfl⟩⟩ := next_join moved
      · simp [State.answer] at answered
      · simp [State.answer, joined] at answered
  | lost reason =>
      obtain ⟨_, _, rfl⟩ := next_lost moved
      simp [State.answer] at answered
  | leave bytes =>
      obtain ⟨_, idle, finished, rfl⟩ := next_leave moved
      simp only [State.answer, Option.some.injEq, Except.ok.injEq] at answered
      exact ⟨idle, finished, bytes, answered.symm⟩
  | release =>
      rcases next_release moved with ⟨_, _, _, rfl⟩ | ⟨_, _, _, _, _, ⟨_, rfl⟩ | ⟨_, _, rfl⟩⟩ <;>
        simp [State.answer] at answered

theorem run_answer {workflow : Workflow} {state final : State} {trace : List Event}
    {flow : FlowResult} (looping : state.control = .looping)
    (ran : Runs.run (next workflow) state trace = some final)
    (answered : final.answer = some (.ok flow)) :
    final.ready = [] ∧ final.running = [] ∧ ∃ bytes, flow = flowResult workflow final bytes := by
  rcases List.eq_nil_or_concat trace with rfl | ⟨past, event, rfl⟩
  · obtain rfl := Option.some.inj ran
    simp [State.answer, looping] at answered
  · obtain ⟨middle, _, last⟩ := Runs.run_snoc (by simpa using ran)
    exact next_answer last answered

section Final

variable {workflow : Workflow} {state : State} {first second : List Nat}

theorem todo_of_answer {answer : Except FlowError FlowResult}
    (answered : state.answer = some answer) (step : Nat) : state.todo step = [] := by
  unfold State.answer at answered
  split at answered
  · rename_i returned
    simp [State.todo, returned]
  · simp at answered

theorem spares_of_fresh (nothing : state.resumed = []) : SparesResumed state := by
  intro dependent _
  simp [nothing]

theorem filter_range_count (size step : Nat) (keep : Nat → Bool) :
    ((List.range size).filter keep).count step = if step < size ∧ keep step = true then 1 else 0 := by
  split
  · rename_i both
    apply List.count_eq_one_of_mem (List.nodup_range.filter keep)
    simpa using both
  · rename_i neither
    apply List.count_eq_zero.mpr
    simpa using neither

theorem Tally.reported (tally : Tally workflow state first second) (nothing : state.resumed = [])
    (idle : state.ready = []) (finished : state.running = []) (bytes step : Nat) :
    ((flowResult workflow state bytes).stepsRun ++ (flowResult workflow state bytes).skipped).count
      step = if state.waiting[step]? = some 0 then 1 else 0 := by
  have places (step : Nat) : (if (state.results step).isSome then 1 else 0) +
      state.abandoned.count step = if state.waiting[step]? = some 0 then 1 else 0 := by
    have once := tally.once step (by simp [nothing])
    simpa [occurrences, idle, finished] using once
  have unique : state.abandoned.Nodup := by
    apply List.nodup_iff_count_le_one.mpr
    intro step
    have := places step
    split at this <;> split at this <;> omega
  have sorted := List.perm_insertionSort (· ≤ ·) state.abandoned
  have settled : (state.abandoned.insertionSort (· ≤ ·)).destutter (· ≠ ·) =
      state.abandoned.insertionSort (· ≤ ·) :=
    List.destutter_of_isChain _ _ (sorted.nodup_iff.mpr unique).isChain
  have ran : (flowResult workflow state bytes).stepsRun.count step =
      if (state.results step).isSome then 1 else 0 := by
    unfold flowResult
    rw [filter_range_count]
    by_cases done : (state.results step).isSome = true
    · have inside : step < workflow.len := by
        have zero := places step
        rw [if_pos done] at zero
        split at zero
        · rename_i found
          have bound := (List.getElem?_eq_some_iff.mp found).1
          rwa [tally.size] at bound
        · omega
      rw [if_pos ⟨inside, done⟩, if_pos done]
    · rw [if_neg (fun both => done both.2), if_neg done]
  rw [List.count_append, ran, ← places step]
  simp only [flowResult, settled, sorted.count_eq]

theorem accounted_iff_zero (tally : Tally workflow state first second)
    (nothing : state.resumed = []) (idle : state.ready = []) (finished : state.running = [])
    (bytes : Nat) :
    Accounted workflow (flowResult workflow state bytes) ↔
      ∀ step < workflow.len, state.waiting[step]? = some 0 := by
  have reported := tally.reported nothing idle finished bytes
  constructor
  · intro accounted step inside
    have count := accounted.partition.count_eq step
    rw [reported step, List.count_eq_one_of_mem List.nodup_range (List.mem_range.mpr inside)] at count
    by_contra missing
    simp [missing] at count
  · intro zero
    have partition : ((flowResult workflow state bytes).stepsRun ++
        (flowResult workflow state bytes).skipped).Perm (List.range workflow.len) := by
      apply List.perm_iff_count.mpr
      intro step
      rw [reported step]
      by_cases inside : step < workflow.len
      · rw [if_pos (zero step inside),
          List.count_eq_one_of_mem List.nodup_range (List.mem_range.mpr inside)]
      · rw [List.count_eq_zero.mpr (by simpa using inside)]
        have missing : state.waiting[step]? = none :=
          List.getElem?_eq_none (by rw [tally.size]; omega)
        simp [missing]
    refine ⟨partition, ?_⟩
    intro success
    simp only [FlowResult.isSuccess, Bool.and_eq_true, List.isEmpty_iff, List.all_eq_true] at success
    obtain ⟨none, all⟩ := success
    rw [none, List.append_nil] at partition
    have whole : (flowResult workflow state bytes).stepsRun = List.range workflow.len :=
      List.filter_sublist.eq_of_length partition.length_eq
    refine ⟨whole, ?_, all⟩
    have sizes : (flowResult workflow state bytes).results.length =
        (flowResult workflow state bytes).stepsRun.length := by
      simp only [flowResult]
      rw [List.length_filterMap_eq_countP, List.countP_eq_length_filter]
    rw [sizes, whole, List.length_range]

theorem Tally.zero_iff (tally : Tally workflow state first second) (nothing : state.resumed = [])
    {order : List Nat} (ordered : workflow.order = .ok order)
    (idle : state.ready = []) (finished : state.running = [])
    (settled : ∀ step, state.todo step = []) :
    (∀ step < workflow.len, state.waiting[step]? = some 0) ↔
      (∀ step < workflow.len, (workflow.dependsOn step).Nodup) ∧
        ∀ further ∈ second, workflow.dependentsOf further = [] := by
  have places (step : Nat) : (if (state.results step).isSome then 1 else 0) +
      (first.count step + second.count step) = if state.waiting[step]? = some 0 then 1 else 0 := by
    have once := tally.once step (by simp [nothing])
    rw [← tally.given step]
    simpa [occurrences, idle, finished] using once
  have toldOf (dependency dependent : Nat) : told state first dependency dependent = true ↔
      dependency ∈ first ∨ (state.results dependency).isSome = true := by
    simp [told, nothing, settled]
  constructor
  · intro zero
    have all (step : Nat) (inside : step < workflow.len) :
        counted workflow state first step = (workflow.dependsOn step).length := by
      have found := (tally.counter step inside).symm.trans (zero step inside)
      simp only [Option.some.injEq] at found
      have short := (List.dedup_sublist (workflow.dependsOn step)).length_le
      have bound : counted workflow state first step ≤ (workflow.dependsOn step).dedup.length :=
        List.countP_le_length
      omega
    refine ⟨fun step inside => (counted_eq_length (all step inside)).1, ?_⟩
    intro further given
    rw [List.eq_nil_iff_forall_not_mem]
    intro dependent member
    have named := Workflow.mem_dependentsOf.mp member
    have known := (counted_eq_length (all dependent (Workflow.lt_of_mem_dependsOn named))).2
      further named
    have place := places further
    have present := List.count_pos_iff.mpr given
    rcases (toldOf further dependent).mp known with inFirst | done
    · have := List.count_pos_iff.mpr inFirst
      split at place <;> split at place <;> omega
    · rw [if_pos done] at place
      split at place <;> omega
  · rintro ⟨unique, leaves⟩
    refine Workflow.order_induction ordered ?_
    intro step inside earlier
    rw [tally.counter step inside]
    have all : counted workflow state first step = (workflow.dependsOn step).length := by
      unfold counted
      rw [(unique step inside).dedup]
      apply List.countP_eq_length.mpr
      intro dependency named
      rw [toldOf]
      have place := places dependency
      rw [if_pos (earlier dependency named)] at place
      by_contra neither
      rw [not_or] at neither
      rw [if_neg neither.2, List.count_eq_zero.mpr neither.1] at place
      have given : dependency ∈ second := List.count_pos_iff.mp (by omega)
      have dependent := Workflow.mem_dependentsOf.mpr named
      rw [leaves dependency given] at dependent
      simp at dependent
    rw [all, Nat.sub_self]

end Final

theorem run_tally_leaves {workflow : Workflow} {state final : State} {trace : List Event}
    (tally : Tally workflow state [] []) (nothing : state.resumed = [])
    (irreflexive : ∀ item, item ∉ workflow.dependsOn item)
    (ran : Runs.run (next workflow) state trace = some final) :
    ∃ first second, Tally workflow final first second ∧
      ((∀ further ∈ second, workflow.dependentsOf further = []) ↔
        Runs.Along (next workflow) (fun reached _ => GivesUpLeaves workflow reached) state trace) := by
  induction trace using List.reverseRecOn generalizing final with
  | nil =>
      obtain rfl := Option.some.inj ran
      exact ⟨[], [], tally, by simp [Runs.Along]⟩
  | append_singleton past event ih =>
      obtain ⟨middle, before, last⟩ := Runs.run_snoc ran
      obtain ⟨first, second, reached, along⟩ := ih before
      have spares : SparesResumed middle := spares_of_fresh ((run_resumed before).trans nothing)
      refine ⟨_, _, (reached.step irreflexive spares last).1, ?_⟩
      rw [Runs.along_append, ← along]
      simp only [List.mem_append, before, Option.some.injEq, forall_eq', Runs.Along, last, and_true,
        GivesUpLeaves]
      constructor
      · intro all
        exact ⟨fun further given => all further (Or.inl given),
          fun further given => all further (Or.inr given)⟩
      · rintro ⟨old, new⟩ further (given | given)
        · exact old further given
        · exact new further given

theorem run_accounts_iff {digest : Bytes → DataId} {workflow : Workflow} {catalog : DataCatalog}
    {before : Nat} {state final : State} {trace : List Event} {flow : FlowResult}
    (valid : workflow.validate = .ok ())
    (started : start digest workflow none catalog before = .ok state)
    (ran : Runs.run (next workflow) state trace = some final)
    (answered : final.answer = some (.ok flow)) :
    Accounted workflow flow ↔ (∀ step < workflow.len, (workflow.dependsOn step).Nodup) ∧
      Runs.Along (next workflow) (fun reached _ => GivesUpLeaves workflow reached) state trace := by
  obtain ⟨order, ordered⟩ := Workflow.validate_eq_ok valid
  obtain ⟨tally, looping⟩ := start_tally started
  have nothing := (start_none started).1
  obtain ⟨idle, finished, bytes, rfl⟩ := run_answer looping ran answered
  obtain ⟨first, second, reached, along⟩ :=
    run_tally_leaves tally nothing (Workflow.order_irrefl ordered) ran
  have stillNothing := (run_resumed ran).trans nothing
  rw [accounted_iff_zero reached stillNothing idle finished bytes,
    reached.zero_iff stillNothing ordered idle finished (todo_of_answer answered), along]

def echo (number : Nat) : Task := Task.new ⟨BitVec.ofNat 128 number⟩ "echo" []

def echoFailed : TaskResult := ⟨⟨0⟩, ⟨0⟩, .failure "no", 0, none⟩

def echoed : TaskResult := ⟨⟨0⟩, ⟨0⟩, .success [], 0, none⟩

def chainOfFour : Workflow :=
  ⟨[⟨echo 0, []⟩, ⟨echo 1, [0]⟩, ⟨echo 2, [1]⟩, ⟨echo 3, [2]⟩]⟩

def namedTwice : Workflow := ⟨[⟨echo 0, []⟩, ⟨echo 1, [0, 0]⟩]⟩

def chainOfTwo : Workflow := ⟨[⟨echo 0, []⟩, ⟨echo 1, [0]⟩]⟩

def onlyFirst (result : TaskResult) : List Event :=
  [.submit 0 (echo 0), .join 0 (.ok result) .new, .release, .release, .leave 0]

theorem chain_loses_last_step :
    (∃ state final flow, chainOfFour.validate = .ok () ∧
      start leadingBytes chainOfFour none .new 0 = .ok state ∧
      Runs.run (next chainOfFour) state (onlyFirst echoFailed) = some final ∧
      final.answer = some (.ok flow) ∧ flow.stepsRun = [0] ∧ flow.skipped = [1, 2] ∧
      ¬ Accounted chainOfFour flow) ∧
    ∃ state final flow, namedTwice.validate = .ok () ∧
      start leadingBytes namedTwice none .new 0 = .ok state ∧
      Runs.run (next namedTwice) state (onlyFirst echoed) = some final ∧
      final.answer = some (.ok flow) ∧ flow.isSuccess = true ∧ flow.stepsRun = [0] ∧
      ¬ Accounted namedTwice flow := by
  constructor
  · refine ⟨_, _, _, by decide, rfl, rfl, rfl, by decide, by decide, ?_⟩
    intro accounted
    exact absurd accounted.partition.length_eq (by decide)
  · refine ⟨_, _, _, by decide, rfl, rfl, rfl, by decide, by decide, ?_⟩
    intro accounted
    exact absurd accounted.partition.length_eq (by decide)

theorem failed_chain_accounts :
    ∃ state final flow, start leadingBytes chainOfTwo none .new 0 = .ok state ∧
      Runs.run (next chainOfTwo) state (onlyFirst echoFailed) = some final ∧
      final.answer = some (.ok flow) ∧ flow.skipped = [1] ∧ Accounted chainOfTwo flow := by
  refine ⟨_, _, _, rfl, rfl, rfl, by decide, ?_⟩
  refine (@run_accounts_iff leadingBytes chainOfTwo .new 0 _ _ (onlyFirst echoFailed) _ (by decide)
    rfl rfl rfl).mpr ⟨by decide, by decide⟩

end AetherMesh.Flow
