import AetherMesh.Controller.FlowHandover

/-!
What `first_failure` names. It counts along the results, and the steps that were skipped or
resumed have none, so it names the failed step only when every step before that one ran.
-/

namespace AetherMesh

def FlowResult.firstFailure (flow : FlowResult) : Option (Nat × TaskResult) :=
  (flow.results.zipIdx.map Prod.swap).find? fun entry => !entry.2.isSuccess

namespace Flow

def FailsFirst (results : Nat → Option TaskResult) (step : Nat) (result : TaskResult) : Prop :=
  results step = some result ∧ result.isSuccess = false ∧
    ∀ earlier < step, ∀ other, results earlier = some other → other.isSuccess = true

/-- The answer is the first step that failed and its result, or none when no step did. -/
def NamesFailure (results : Nat → Option TaskResult) (answer : Option (Nat × TaskResult)) : Prop :=
  match answer with
  | none => ∀ step result, results step = some result → result.isSuccess = true
  | some (step, result) => FailsFirst results step result

def AllRanBefore (results : Nat → Option TaskResult) : Prop :=
  ∀ step result, FailsFirst results step result → ∀ earlier < step, (results earlier).isSome

structure Inside (workflow : Workflow) (state : State) : Prop where
  ready : ∀ step ∈ state.ready, step < workflow.len
  running : ∀ entry ∈ state.running, entry.1 < workflow.len
  results : ∀ step result, state.results step = some result → step < workflow.len
  todo : ∀ step succeeded todo, state.control = .releasing step succeeded todo →
    ∀ dependent ∈ todo, dependent < workflow.len

variable {workflow : Workflow} {state after : State} {event : Event}

theorem lt_of_mem_dependentsOf {step dependent : Nat}
    (member : dependent ∈ workflow.dependentsOf step) : dependent < workflow.len :=
  Workflow.lt_of_mem_dependsOn (Workflow.mem_dependentsOf.mp member)

theorem Inside.step (inside : Inside workflow state)
    (moved : next workflow state event = some after) : Inside workflow after := by
  cases event with
  | submit step task =>
      obtain ⟨looping, rest, ready, _, rfl⟩ := next_submit moved
      refine ⟨?_, ?_, inside.results, ?_⟩
      · intro other member
        exact inside.ready other (by rw [ready]; exact List.mem_cons_of_mem _ member)
      · intro entry member
        rcases List.mem_append.mp member with old | last
        · exact inside.running entry old
        · rw [List.mem_singleton.mp last]
          exact inside.ready step (by rw [ready]; exact List.mem_cons_self)
      · intro other succeeded todo releasing
        rw [looping] at releasing
        cases releasing
  | join step outcome catalog =>
      obtain ⟨_, _, running, ⟨source, _, rfl⟩ | ⟨result, _, rfl⟩⟩ := next_join moved
      · exact ⟨inside.ready, inside.running, inside.results, by simp⟩
      · obtain ⟨entry, member, rfl⟩ := List.mem_map.mp running
        refine ⟨inside.ready, ?_, ?_, ?_⟩
        · exact fun other kept => inside.running other (List.mem_of_mem_eraseP kept)
        · intro other earlier found
          by_cases same : other = entry.1
          · rw [same]
            exact inside.running entry member
          · refine inside.results other earlier ?_
            simpa [joined, Function.update_of_ne same] using found
        · intro other succeeded todo releasing dependent told
          cases releasing
          exact lt_of_mem_dependentsOf told
  | lost reason =>
      obtain ⟨_, _, rfl⟩ := next_lost moved
      exact ⟨inside.ready, inside.running, inside.results, by simp⟩
  | release =>
      rcases next_release moved with ⟨step, succeeded, _, rfl⟩ |
        ⟨step, succeeded, dependent, todo, releasing, ⟨_, rfl⟩ | ⟨released, told, rfl⟩⟩
      · refine ⟨?_, inside.running, inside.results, by simp⟩
        exact fun other member => inside.ready other ((List.mem_insertionSort _).mp member)
      · exact ⟨inside.ready, inside.running, inside.results, by simp⟩
      · have frame := releaseOne_frame told
        have listed := inside.todo step succeeded _ releasing
        refine ⟨?_, ?_, ?_, ?_⟩
        · intro other member
          rcases (releaseOne_clear told).2.2 with same | ⟨more, -⟩
          · exact inside.ready other (same ▸ member)
          · rw [more] at member
            rcases List.mem_append.mp member with old | new
            · exact inside.ready other old
            · rw [List.mem_singleton.mp new]
              exact listed dependent List.mem_cons_self
        · intro entry member
          rw [frame] at member
          exact inside.running entry member
        · intro other result found
          rw [frame] at found
          exact inside.results other result found
        · intro other succeeded todo same item member
          cases same
          exact listed item (List.mem_cons_of_mem _ member)
  | leave bytes =>
      obtain ⟨_, _, _, rfl⟩ := next_leave moved
      exact ⟨inside.ready, inside.running, inside.results, by simp⟩

theorem start_inside {digest : Bytes → DataId} {resume : Option (String × Except CheckpointError
    (List Record))} {catalog : DataCatalog} {before : Nat}
    (started : start digest workflow resume catalog before = .ok state) :
    Inside workflow state := by
  obtain ⟨order, opened, seen, _, resuming, rfl⟩ := start_resuming started
  refine ⟨?_, ?_, ?_, ?_⟩
  · intro step member
    exact List.mem_range.mp (List.mem_filter.mp member).1
  · intro entry member
    have idle : opened.running = [] := resuming.idle.1
    simp [openReady, idle] at member
  · intro step result found
    have unfinished : opened.results step = none := resuming.unfinished step
    simp [openReady, unfinished] at found
  · intro step succeeded todo releasing
    have looping : opened.control = .looping := resuming.control
    simp [openReady, looping] at releasing

section Naming

variable {flow : FlowResult}

theorem firstFailure_eq_none :
    flow.firstFailure = none ↔ ∀ result ∈ flow.results, result.isSuccess = true := by
  rw [FlowResult.firstFailure, List.find?_eq_none]
  constructor
  · intro clean result member
    obtain ⟨position, inside, rfl⟩ := List.getElem_of_mem member
    have listed : (flow.results[position], position) ∈ flow.results.zipIdx :=
      List.mk_mem_zipIdx_iff_getElem?.mpr (List.getElem?_eq_getElem inside)
    simpa using clean _ (List.mem_map_of_mem listed)
  · intro clean entry member
    obtain ⟨⟨result, position⟩, listed, rfl⟩ := List.mem_map.mp member
    simp [clean result (List.fst_mem_of_mem_zipIdx listed)]

theorem firstFailure_of_split {front back : List TaskResult} {result : TaskResult}
    (split : flow.results = front ++ result :: back)
    (clean : ∀ earlier ∈ front, earlier.isSuccess = true) (failed : result.isSuccess = false) :
    flow.firstFailure = some (front.length, result) := by
  have before : ((front.zipIdx.map Prod.swap).find? fun entry => !entry.2.isSuccess) = none := by
    refine List.find?_eq_none.mpr ?_
    intro entry member
    obtain ⟨⟨earlier, position⟩, listed, rfl⟩ := List.mem_map.mp member
    simp [clean earlier (List.fst_mem_of_mem_zipIdx listed)]
  rw [FlowResult.firstFailure, split, List.zipIdx_append, List.map_append, List.find?_append,
    before, Option.none_or, List.zipIdx_cons, List.map_cons, List.find?_cons_of_pos]
  · simp
  · simp [failed]

theorem range_split {step size : Nat} (inside : step < size) :
    ∃ rest, List.range size = List.range step ++ step :: rest := by
  obtain ⟨rest, rfl⟩ : ∃ rest, size = step + (rest + 1) := ⟨size - step - 1, by omega⟩
  rw [List.range_add, List.range_succ_eq_map, List.map_cons, Nat.add_zero]
  exact ⟨_, rfl⟩

theorem failsFirst_unique {results : Nat → Option TaskResult} {step other : Nat}
    {result another : TaskResult} (first : FailsFirst results step result)
    (second : FailsFirst results other another) : step = other ∧ result = another := by
  have same : step = other := by
    rcases Nat.lt_trichotomy step other with before | same | after
    · have fine := second.2.2 step before result first.1
      rw [first.2.1] at fine
      cases fine
    · exact same
    · have fine := first.2.2 other after another second.1
      rw [second.2.1] at fine
      cases fine
  subst same
  exact ⟨rfl, Option.some.inj (first.1.symm.trans second.1)⟩

theorem exists_failsFirst {results : Nat → Option TaskResult} {step : Nat} {result : TaskResult}
    (found : results step = some result) (failed : result.isSuccess = false) :
    ∃ first firstResult, FailsFirst results first firstResult := by
  induction step using Nat.strongRecOn generalizing result with
  | ind step ih =>
      by_cases earlier : ∃ before < step, ∃ other, results before = some other ∧
          other.isSuccess = false
      · obtain ⟨before, smaller, other, there, broken⟩ := earlier
        exact ih before smaller there broken
      · refine ⟨step, result, found, failed, ?_⟩
        intro before smaller other there
        by_contra broken
        exact earlier ⟨before, smaller, other, there, by simpa using broken⟩

/-- The failed step is named by how many of the steps up to it ran. -/
theorem firstFailure_eq {bytes step : Nat} {result : TaskResult} (inside : Inside workflow state)
    (first : FailsFirst state.results step result) :
    (flowResult workflow state bytes).firstFailure =
      some (((List.range step).filterMap state.results).length, result) := by
  obtain ⟨rest, split⟩ := range_split (inside.results step result first.1)
  have results : (flowResult workflow state bytes).results =
      (List.range step).filterMap state.results ++ result :: rest.filterMap state.results := by
    have listed : (flowResult workflow state bytes).results =
        (List.range workflow.len).filterMap state.results := rfl
    rw [listed, split, List.filterMap_append, List.filterMap_cons_some first.1]
  refine firstFailure_of_split results ?_ first.2.1
  · intro earlier member
    obtain ⟨before, smaller, found⟩ := List.mem_filterMap.mp member
    exact first.2.2 before (List.mem_range.mp smaller) earlier found

theorem filterMap_range_length {results : Nat → Option TaskResult} {step : Nat} :
    ((List.range step).filterMap results).length = step ↔
      ∀ earlier < step, (results earlier).isSome := by
  rw [List.length_filterMap_eq_countP]
  have whole := @List.countP_eq_length _ (List.range step) fun index => (results index).isSome
  rw [List.length_range] at whole
  simpa using whole

theorem namesFailure_iff (inside : Inside workflow state) (bytes : Nat) :
    NamesFailure state.results (flowResult workflow state bytes).firstFailure ↔
      AllRanBefore state.results := by
  by_cases broken : ∃ step result, FailsFirst state.results step result
  · obtain ⟨step, result, first⟩ := broken
    rw [firstFailure_eq inside first]
    constructor
    · intro named step' result' first'
      obtain ⟨same, -⟩ := failsFirst_unique first' first
      obtain ⟨counted, -⟩ := failsFirst_unique named first
      rw [same]
      exact filterMap_range_length.mp counted
    · intro ran
      have counted := filterMap_range_length.mpr (ran step result first)
      rw [counted]
      exact first
  · have clean (step : Nat) (result : TaskResult) (found : state.results step = some result) :
        result.isSuccess = true := by
      by_contra failed
      exact broken (exists_failsFirst found (by simpa using failed))
    have none : (flowResult workflow state bytes).firstFailure = none := by
      refine firstFailure_eq_none.mpr ?_
      intro result member
      obtain ⟨step, _, found⟩ := List.mem_filterMap.mp member
      exact clean step result found
    rw [none]
    exact ⟨fun _ step result first => absurd ⟨step, result, first⟩ broken, fun _ => clean⟩

end Naming

theorem first_failure_named_iff {digest : Bytes → DataId}
    {resume : Option (String × Except CheckpointError (List Record))} {catalog : DataCatalog}
    {before : Nat} {final : State} {trace : List Event} {flow : FlowResult}
    (started : start digest workflow resume catalog before = .ok state)
    (ran : Runs.run (next workflow) state trace = some final)
    (answered : final.answer = some (.ok flow)) :
    NamesFailure final.results flow.firstFailure ↔ AllRanBefore final.results := by
  have looping := (start_tally started).2
  obtain ⟨-, -, bytes, rfl⟩ := run_answer looping ran answered
  have inside : Inside workflow final :=
    Runs.run_invariant (start_inside started) (fun _ _ _ kept moved => kept.step moved) ran
  exact namesFailure_iff inside bytes

def backwards : Workflow := ⟨[⟨echo 0, [1]⟩, ⟨echo 1, []⟩]⟩

def secondFails : List Event :=
  [.submit 1 (echo 1), .join 1 (.ok echoFailed) .new, .release, .release, .leave 0]

theorem names_skipped_step :
    ∃ state final flow, backwards.validate = .ok () ∧
      start leadingBytes backwards none .new 0 = .ok state ∧
      Runs.run (next backwards) state secondFails = some final ∧
      final.answer = some (.ok flow) ∧ flow.skipped = [0] ∧ flow.stepsRun = [1] ∧
      flow.firstFailure = some (0, echoFailed) ∧
      ¬ NamesFailure final.results flow.firstFailure := by
  refine ⟨_, _, _, by decide, rfl, rfl, rfl, by decide, by decide, by decide, ?_⟩
  rintro ⟨found, -⟩
  exact absurd found (by decide)

theorem names_only_step :
    ∃ state final flow, start leadingBytes chainOfTwo none .new 0 = .ok state ∧
      Runs.run (next chainOfTwo) state (onlyFirst echoFailed) = some final ∧
      final.answer = some (.ok flow) ∧ flow.firstFailure = some (0, echoFailed) ∧
      NamesFailure final.results flow.firstFailure := by
  refine ⟨_, _, _, rfl, rfl, rfl, by decide, ?_⟩
  refine (@first_failure_named_iff chainOfTwo _ leadingBytes none .new 0 _
    (onlyFirst echoFailed) _ rfl rfl rfl).mpr ?_
  rintro (_ | step) result first earlier smaller
  · omega
  · exact absurd (first.2.2 0 (Nat.succ_pos step) echoFailed rfl) (by decide)

end Flow

end AetherMesh
