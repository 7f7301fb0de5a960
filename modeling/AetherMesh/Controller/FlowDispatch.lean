import AetherMesh.Controller.FlowPartition

/-!
Which steps a run hands to `Controller::submit`, and after what. A step is made
ready by whichever of its dependencies is told last, and only that one is asked
how it ended; a resumed step is made ready like any other when what comes
before it runs again.
-/

namespace AetherMesh.Flow

/-- Every dependency was resumed or has finished in this run, in a way that is good enough. -/
def Clean (workflow : Workflow) (good : TaskResult → Bool) (state : State) (step : Nat) : Prop :=
  ∀ dependency ∈ workflow.dependsOn step, dependency ∈ state.resumed ∨
    ∃ result, state.results dependency = some result ∧ good result = true

/-- A success that is the last thing a step waits for finds no dependency of that step given up
or finished in a way that is not good enough. -/
def ReleasesClean (workflow : Workflow) (good : TaskResult → Bool) (state : State) : Prop :=
  ∀ dependent ∈ makesReady state, ∀ dependency ∈ workflow.dependsOn dependent,
    dependency ∈ state.resumed ∨
      (dependency ∉ state.abandoned ∧ (state.results dependency).all good = true)

instance (workflow : Workflow) (good : TaskResult → Bool) (state : State) :
    Decidable (ReleasesClean workflow good state) :=
  inferInstanceAs (Decidable (∀ dependent ∈ _, _))

/-- When a step is handed over, each of its dependencies was resumed or has been joined. -/
def AfterDependencies (workflow : Workflow) (good : TaskResult → Bool) (resumed : List Nat)
    (past : List Event) : Event → Prop
  | .submit step _ => ∀ dependency ∈ workflow.dependsOn step, dependency ∈ resumed ∨
      ∃ result catalog, .join dependency (.ok result) catalog ∈ past ∧ good result = true
  | _ => True

structure Dispatched (workflow : Workflow) (good : TaskResult → Bool) (past : List Event)
    (state : State) : Prop where
  recorded : ∀ step result, state.results step = some result →
    ∃ catalog, .join step (.ok result) catalog ∈ past
  clean : ∀ step ∈ state.ready, Clean workflow good state step
  lasting : ∀ step ∈ (submissions past).map Prod.fst, Clean workflow good state step
  once : ∀ step, ((submissions past).map Prod.fst).count step =
    (state.running.map Prod.fst).count step + if (state.results step).isSome then 1 else 0
  preceded : Runs.Preceded (AfterDependencies workflow good state.resumed) past

section Dispatched

variable {workflow : Workflow} {good : TaskResult → Bool} {past : List Event} {state : State}
  {first second : List Nat}

theorem submissions_snoc (past : List Event) (event : Event) :
    submissions (past ++ [event]) = submissions past ++ submissions [event] := by
  simp [submissions]

theorem Tally.all_told (tally : Tally workflow state first second) {step : Nat}
    (zero : state.waiting[step]? = some 0) :
    ∀ dependency ∈ workflow.dependsOn step, told state first dependency step = true := by
  intro dependency named
  have found := tally.counter step (Workflow.lt_of_mem_dependsOn named)
  rw [zero, Option.some.injEq] at found
  have short := (List.dedup_sublist (workflow.dependsOn step)).length_le
  have bound : counted workflow state first step ≤ (workflow.dependsOn step).dedup.length :=
    List.countP_le_length
  exact (@counted_eq_length workflow state first step (by omega)).2 dependency named

theorem Tally.zero_of_ready (tally : Tally workflow state first second) {step : Nat}
    (ready : step ∈ state.ready) : state.waiting[step]? = some 0 := by
  by_contra missing
  have unresumed : step ∉ state.resumed := fun member => (tally.spared step member).1 ready
  have once := tally.once step unresumed
  have present := List.count_pos_iff.mpr ready
  rw [if_neg missing] at once
  unfold occurrences at once
  omega

theorem Clean.mono {after : State} {step : Nat} (clean : Clean workflow good state step)
    (resumed : after.resumed = state.resumed)
    (kept : ∀ dependency result, state.results dependency = some result →
      after.results dependency = some result) : Clean workflow good after step := by
  intro dependency named
  rcases clean dependency named with old | ⟨result, found, fine⟩
  · exact Or.inl (resumed ▸ old)
  · exact Or.inr ⟨result, kept dependency result found, fine⟩

theorem Tally.frame (tally : Tally workflow state first second)
    (irreflexive : ∀ item, item ∉ workflow.dependsOn item) (spares : SparesResumed state)
    {event : Event} {after : State} (moved : next workflow state event = some after) :
    (∀ step result, state.results step = some result → after.results step = some result) ∧
      ∀ step ∈ after.ready, step ∈ state.ready ∨ step ∈ makesReady state := by
  cases event with
  | submit step task =>
      obtain ⟨_, rest, ready, _, rfl⟩ := next_submit moved
      refine ⟨fun _ _ found => found, fun other member => Or.inl ?_⟩
      rw [ready]
      exact List.mem_cons_of_mem _ member
  | join step outcome catalog =>
      obtain ⟨_, idle, running, ⟨_, _, rfl⟩ | ⟨result, _, rfl⟩⟩ := next_join moved
      · exact ⟨fun _ _ found => found, fun _ member => Or.inl member⟩
      · refine ⟨?_, fun _ member => Or.inl member⟩
        intro other earlier found
        have different : other ≠ step := by
          rintro rfl
          have missing := (tally.unfinished_of_running running).2.1
          rw [found] at missing
          simp at missing
        simpa [joined, Function.update_of_ne different] using found
  | lost reason =>
      obtain ⟨_, _, rfl⟩ := next_lost moved
      exact ⟨fun _ _ found => found, fun _ member => Or.inl member⟩
  | leave bytes =>
      obtain ⟨_, _, _, rfl⟩ := next_leave moved
      exact ⟨fun _ _ found => found, fun _ member => Or.inl member⟩
  | release =>
      rcases next_release moved with ⟨_, _, _, rfl⟩ | ⟨step, succeeded, dependent, todo, releasing, cases⟩
      · refine ⟨fun _ _ found => found, fun other member => Or.inl ?_⟩
        exact (List.perm_insertionSort _ _).subset member
      · rcases cases with ⟨_, rfl⟩ | ⟨released, found, rfl⟩
        · exact ⟨fun _ _ found => found, fun _ member => Or.inl member⟩
        · rw [tally.releaseOne_eq irreflexive releasing (spares.spare releasing),
            Option.some.injEq] at found
          subst found
          by_cases last : state.waiting[dependent]? = some 1
          · rw [if_pos last]
            cases succeeded with
            | true =>
                refine ⟨fun _ _ found => found, ?_⟩
                intro other member
                simpa [makesReady, completes, releasing, last] using member
            | false => exact ⟨fun _ _ found => found, fun _ member => Or.inl member⟩
          · rw [if_neg last]
            exact ⟨fun _ _ found => found, fun _ member => Or.inl member⟩

theorem next_work {event : Event} {after : State} (moved : next workflow state event = some after) :
    (∃ step task rest, event = .submit step task ∧ state.ready = step :: rest ∧
      taskFor workflow step state.outputs = some task ∧
      after = { state with ready := rest, running := state.running ++ [(step, task)] }) ∨
    (∃ step result catalog, event = .join step (.ok result) catalog ∧
      step ∈ state.running.map Prod.fst ∧ after = joined workflow state step result catalog) ∨
    (submissions [event] = [] ∧ after.results = state.results ∧ after.running = state.running ∧
      after.outputs = state.outputs) := by
  cases event with
  | submit step task =>
      obtain ⟨_, rest, ready, given, same⟩ := next_submit moved
      exact Or.inl ⟨step, task, rest, rfl, ready, given, same⟩
  | join step outcome catalog =>
      obtain ⟨_, _, running, ⟨_, _, rfl⟩ | ⟨result, rfl, same⟩⟩ := next_join moved
      · exact Or.inr (Or.inr ⟨rfl, rfl, rfl, rfl⟩)
      · exact Or.inr (Or.inl ⟨step, result, catalog, rfl, running, same⟩)
  | lost reason =>
      obtain ⟨_, _, rfl⟩ := next_lost moved
      exact Or.inr (Or.inr ⟨rfl, rfl, rfl, rfl⟩)
  | leave bytes =>
      obtain ⟨_, _, _, rfl⟩ := next_leave moved
      exact Or.inr (Or.inr ⟨rfl, rfl, rfl, rfl⟩)
  | release =>
      refine Or.inr (Or.inr ⟨rfl, ?_⟩)
      rcases next_release moved with ⟨_, _, _, rfl⟩ | ⟨_, _, _, _, _, ⟨_, rfl⟩ | ⟨_, found, rfl⟩⟩
      · exact ⟨rfl, rfl, rfl⟩
      · exact ⟨rfl, rfl, rfl⟩
      · rw [releaseOne_frame found]
        exact ⟨rfl, rfl, rfl⟩

theorem makesReady_release {event : Event} {after : State} {dependent : Nat}
    (moved : next workflow state event = some after) (member : dependent ∈ makesReady state) :
    givesUp state = [] ∧ after.results = state.results := by
  unfold makesReady completes at member
  split at member
  · rename_i step succeeded first rest releasing
    split at member
    · rename_i both
      refine ⟨by simp [givesUp, completes, releasing, both.1], ?_⟩
      rcases next_work moved with ⟨_, _, _, rfl, _, _, rfl⟩ | ⟨_, _, _, rfl, _, rfl⟩ | quiet
      · rfl
      · have looping := (next_join moved).1
        rw [releasing] at looping
        simp at looping
      · exact quiet.2.1
    · simp at member
  · simp at member

theorem Dispatched.newly_clean (tally : Tally workflow state first second)
    (irreflexive : ∀ item, item ∉ workflow.dependsOn item) (spares : SparesResumed state)
    (releases : ReleasesClean workflow good state) {event : Event} {after : State}
    (moved : next workflow state event = some after) {step : Nat}
    (ready : step ∈ after.ready) (made : step ∈ makesReady state) :
    Clean workflow good after step := by
  have tallyAfter := (tally.step irreflexive spares moved).1
  obtain ⟨nothing, results⟩ := makesReady_release moved made
  intro dependency named
  rw [next_resumed moved]
  have known := tallyAfter.all_told (tallyAfter.zero_of_ready ready) dependency named
  simp only [told, decide_eq_true_eq, next_resumed moved, nothing, List.append_nil, results] at known
  rcases releases step made dependency named with resumed | ⟨kept, fine⟩
  · exact Or.inl resumed
  · rcases known with resumed | inFirst | ⟨finished, _⟩
    · exact Or.inl resumed
    · exact absurd (tally.first_abandoned inFirst) kept
    · obtain ⟨result, found⟩ := Option.isSome_iff_exists.mp finished
      rw [found] at fine
      exact Or.inr ⟨result, by rw [results, found], fine⟩

theorem Dispatched.recorded_snoc (dispatched : Dispatched workflow good past state) (event : Event)
    {step : Nat} {result : TaskResult} (found : state.results step = some result) :
    ∃ catalog, .join step (.ok result) catalog ∈ past ++ [event] := by
  obtain ⟨catalog, member⟩ := dispatched.recorded step result found
  exact ⟨catalog, List.mem_append_left _ member⟩

section

variable (dispatched : Dispatched workflow good past state) {after : State}
  (ready : ∀ step ∈ after.ready, Clean workflow good after step)
  (stays : ∀ step, Clean workflow good state step → Clean workflow good after step)

include dispatched ready stays

theorem Dispatched.submit {step : Nat} {task : Task} {rest : List Nat}
    (front : state.ready = step :: rest)
    (same : after = { state with ready := rest, running := state.running ++ [(step, task)] }) :
    Dispatched workflow good (past ++ [.submit step task]) after := by
  have handed : Clean workflow good state step := dispatched.clean step (by simp [front])
  have single : (submissions [.submit step task]).map Prod.fst = [step] := rfl
  subst same
  refine ⟨fun _ _ => dispatched.recorded_snoc _, ready, ?_, ?_, ?_⟩
  · intro other member
    simp only [submissions_snoc, List.map_append, List.mem_append, single,
      List.mem_singleton] at member
    rcases member with old | rfl
    · exact stays other (dispatched.lasting other old)
    · exact stays other handed
  · intro other
    simp only [submissions_snoc, List.map_append, List.count_append, dispatched.once other, single,
      List.map_cons, List.map_nil]
    omega
  · refine Runs.preceded_snoc.mpr ⟨dispatched.preceded, ?_⟩
    intro dependency named
    rcases handed dependency named with old | ⟨result, found, fine⟩
    · exact Or.inl old
    · obtain ⟨catalog, member⟩ := dispatched.recorded dependency result found
      exact Or.inr ⟨result, catalog, member, fine⟩

theorem Dispatched.join {step : Nat} {result : TaskResult} {catalog : DataCatalog}
    (running : step ∈ state.running.map Prod.fst) (unfinished : state.results step = none)
    (same : after = joined workflow state step result catalog) :
    Dispatched workflow good (past ++ [.join step (.ok result) catalog]) after := by
  subst same
  refine ⟨?_, ready, ?_, ?_, Runs.preceded_snoc.mpr ⟨dispatched.preceded, trivial⟩⟩
  · intro other earlier found
    by_cases same : other = step
    · subst same
      obtain rfl : result = earlier := by simpa [joined] using found
      exact ⟨catalog, by simp⟩
    · exact dispatched.recorded_snoc _ (by simpa [joined, Function.update_of_ne same] using found)
  · intro other member
    rw [submissions_snoc] at member
    exact stays other (dispatched.lasting other (by simpa [submissions] using member))
  · intro other
    have before := dispatched.once other
    have erased := eraseP_count state.running step other running
    simp only [submissions_snoc, List.map_append, List.count_append, before, joined]
    by_cases same : other = step
    · subst same
      simp only [if_true] at erased
      simp [submissions, unfinished]
      omega
    · simp only [same, if_false] at erased
      simp [submissions, Function.update_of_ne same]
      omega

theorem Dispatched.silent {event : Event} (silent : submissions [event] = [])
    (results : after.results = state.results) (running : after.running = state.running)
    (resumed : after.resumed = state.resumed) :
    Dispatched workflow good (past ++ [event]) after := by
  have same : submissions (past ++ [event]) = submissions past := by
    rw [submissions_snoc, silent, List.append_nil]
  refine ⟨?_, ready, ?_, ?_, ?_⟩
  · intro other result found
    rw [results] at found
    exact dispatched.recorded_snoc event found
  · intro other member
    rw [same] at member
    exact stays other (dispatched.lasting other member)
  · intro other
    rw [same, dispatched.once other, results, running]
  · refine Runs.preceded_snoc.mpr ⟨?_, ?_⟩
    · rw [resumed]
      exact dispatched.preceded
    · cases event with
      | submit step task => simp [submissions] at silent
      | _ => trivial

end

theorem Dispatched.step (dispatched : Dispatched workflow good past state)
    (tally : Tally workflow state first second)
    (irreflexive : ∀ item, item ∉ workflow.dependsOn item) (spares : SparesResumed state)
    (releases : ReleasesClean workflow good state) {event : Event} {after : State}
    (moved : next workflow state event = some after) :
    Dispatched workflow good (past ++ [event]) after := by
  have resumed := next_resumed moved
  obtain ⟨kept, grown⟩ := tally.frame irreflexive spares moved
  have stays : ∀ step, Clean workflow good state step → Clean workflow good after step :=
    fun _ clean => clean.mono resumed kept
  have readyClean : ∀ step ∈ after.ready, Clean workflow good after step := by
    intro step member
    rcases grown step member with old | made
    · exact stays step (dispatched.clean step old)
    · exact Dispatched.newly_clean tally irreflexive spares releases moved member made
  rcases next_work moved with ⟨step, task, rest, rfl, ready, _, same⟩ |
    ⟨step, result, catalog, rfl, running, same⟩ | ⟨silent, results, underWay, _⟩
  · exact dispatched.submit readyClean stays ready same
  · exact dispatched.join readyClean stays running (tally.unfinished_of_running running).2.1 same
  · exact dispatched.silent readyClean stays silent results underWay resumed

end Dispatched

theorem start_dispatched {digest : Bytes → DataId} {workflow : Workflow}
    {resume : Option (String × Except CheckpointError (List Record))} {catalog : DataCatalog}
    {before : Nat} {state : State} (good : TaskResult → Bool)
    (started : start digest workflow resume catalog before = .ok state) :
    Dispatched workflow good [] state := by
  obtain ⟨order, opened, seen, _, resuming, same⟩ := start_resuming started
  have tally := (start_tally started).1
  have unfinished (step : Nat) : state.results step = none := by
    rw [same]
    exact resuming.unfinished step
  refine ⟨?_, ?_, ?_, ?_, Runs.preceded_nil _⟩
  · intro step result found
    rw [unfinished] at found
    simp at found
  · intro step ready dependency named
    have known := tally.all_told (tally.zero_of_ready ready) dependency named
    exact Or.inl (by simpa [told, unfinished] using known)
  · simp [submissions]
  · intro step
    have idle : state.running = [] := by
      rw [same]
      exact resuming.idle.1
    simp [submissions, idle, unfinished]

theorem run_dispatched {digest : Bytes → DataId} {workflow : Workflow}
    {resume : Option (String × Except CheckpointError (List Record))} {catalog : DataCatalog}
    {before : Nat} {good : TaskResult → Bool} {state final : State} {trace : List Event}
    (started : start digest workflow resume catalog before = .ok state)
    (met : Runs.Along (next workflow)
      (fun reached _ => SparesResumed reached ∧ ReleasesClean workflow good reached) state trace)
    (ran : Runs.run (next workflow) state trace = some final) :
    (∃ first second, Tally workflow final first second) ∧ final.control ≠ .panicked ∧
      Dispatched workflow good trace final := by
  obtain ⟨tally, looping⟩ := start_tally started
  obtain ⟨order, _, _, ordered, _, _⟩ := start_resuming started
  have irreflexive := Workflow.order_irrefl ordered
  refine @Runs.run_history _ _ (next workflow) _ (fun past reached =>
    (∃ first second, Tally workflow reached first second) ∧ reached.control ≠ .panicked ∧
      Dispatched workflow good past reached) state final trace ?_ ?_ met ran
  · exact ⟨⟨[], [], tally⟩, by simp [looping], start_dispatched good started⟩
  · rintro past reached event after ⟨⟨first, second, tally⟩, _, dispatched⟩ moved ⟨spares, clean⟩
    obtain ⟨tallyAfter, sound⟩ := tally.step irreflexive spares moved
    exact ⟨⟨_, _, tallyAfter⟩, sound, dispatched.step tally irreflexive spares clean moved⟩

theorem submit_after_successes {digest : Bytes → DataId} {workflow : Workflow}
    {resume : Option (String × Except CheckpointError (List Record))} {catalog : DataCatalog}
    {before : Nat} {state final : State} {trace : List Event}
    (started : start digest workflow resume catalog before = .ok state)
    (met : Runs.Along (next workflow) (fun reached _ =>
      SparesResumed reached ∧ ReleasesClean workflow TaskResult.isSuccess reached) state trace)
    (ran : Runs.run (next workflow) state trace = some final) :
    Runs.Preceded (AfterDependencies workflow TaskResult.isSuccess state.resumed) trace ∧
      ∀ step ∈ (submissions trace).map Prod.fst, ∀ dependency ∈ workflow.dependsOn step,
        dependency ∈ state.resumed ∨ (dependency ∉ final.abandoned ∧
          ∃ result, final.results dependency = some result ∧ result.isSuccess = true) := by
  obtain ⟨⟨first, second, tally⟩, _, dispatched⟩ := run_dispatched started met ran
  have resumed := run_resumed ran
  refine ⟨resumed ▸ dispatched.preceded, ?_⟩
  intro step member dependency named
  rcases dispatched.lasting step member dependency named with old | ⟨result, found, fine⟩
  · exact Or.inl (resumed ▸ old)
  · exact Or.inr ⟨(tally.finished found).2, result, found, fine⟩

def bothArms : Workflow := ⟨[⟨echo 0, []⟩, ⟨echo 1, []⟩, ⟨echo 2, [0, 1]⟩]⟩

def secondArmLast (result : TaskResult) : List Event :=
  [.submit 0 (echo 0), .submit 1 (echo 1), .join 0 (.ok result) .new, .release, .release,
    .join 1 (.ok echoed) .new, .release, .release, .submit 2 (echo 2)]

theorem submits_on_failed_arm :
    ∃ state final, bothArms.validate = .ok () ∧
      start leadingBytes bothArms none .new 0 = .ok state ∧
      Runs.run (next bothArms) state (secondArmLast echoFailed) = some final ∧
      final.results 0 = some echoFailed ∧ echoFailed.isSuccess = false ∧
      ¬ Runs.Preceded (AfterDependencies bothArms TaskResult.isSuccess state.resumed)
        (secondArmLast echoFailed) := by
  refine ⟨_, _, by decide, rfl, rfl, by decide, by decide, ?_⟩
  intro preceded
  have handed := preceded ((secondArmLast echoFailed).take 8) (.submit 2 (echo 2)) [] rfl 0
    (by decide)
  rcases handed with old | ⟨result, catalog, member, fine⟩
  · simp [openReady, fresh] at old
  · obtain ⟨rfl, _⟩ : result = echoFailed ∧ catalog = .new := by
      simpa [secondArmLast] using member
    exact absurd fine (by decide)

theorem both_arms_succeed :
    ∃ state, start leadingBytes bothArms none .new 0 = .ok state ∧
      Runs.Preceded (AfterDependencies bothArms TaskResult.isSuccess state.resumed)
        (secondArmLast echoed) := by
  refine ⟨_, rfl, ?_⟩
  exact (@submit_after_successes leadingBytes bothArms none .new 0 _ _ (secondArmLast echoed)
    rfl (by decide) rfl).1

theorem resumed_never_submitted {digest : Bytes → DataId} {workflow : Workflow}
    {resume : Option (String × Except CheckpointError (List Record))} {catalog : DataCatalog}
    {before : Nat} {state final : State} {trace : List Event}
    (started : start digest workflow resume catalog before = .ok state)
    (met : Runs.Along (next workflow) (fun reached _ =>
      SparesResumed reached ∧ ReleasesClean workflow (fun _ => true) reached) state trace)
    (ran : Runs.run (next workflow) state trace = some final) :
    final.control ≠ .panicked ∧ ((submissions trace).map Prod.fst).Nodup ∧
      (∀ step ∈ (submissions trace).map Prod.fst, step ∉ state.resumed) ∧
      Runs.Preceded (AfterDependencies workflow (fun _ => true) state.resumed) trace := by
  obtain ⟨⟨first, second, tally⟩, sound, dispatched⟩ := run_dispatched started met ran
  have resumed := run_resumed ran
  have spared (step : Nat) (member : step ∈ (submissions trace).map Prod.fst) :
      step ∉ final.resumed := by
    intro old
    obtain ⟨_, notRunning, unfinished, _⟩ := tally.spared step old
    have once := dispatched.once step
    rw [List.count_eq_zero.mpr notRunning, unfinished] at once
    have present := List.count_pos_iff.mpr member
    simp at once
    omega
  refine ⟨sound, ?_, ?_, resumed ▸ dispatched.preceded⟩
  · apply List.nodup_iff_count_le_one.mpr
    intro step
    by_cases member : step ∈ (submissions trace).map Prod.fst
    · have bound := tally.elsewhere (spared step member)
      have once := dispatched.once step
      omega
    · rw [List.count_eq_zero.mpr member]
      omega
  · intro step member
    exact resumed ▸ spared step member

def chainOfThree : Workflow := ⟨[⟨echo 0, []⟩, ⟨echo 1, [0]⟩, ⟨echo 2, [1]⟩]⟩

def leftOutput : DataId := leadingBytes [1]

def restarted (step : Nat) : Except FlowError State :=
  start leadingBytes chainOfThree
    (some ("nightly", .ok [{
      run := "nightly"
      fingerprint := fingerprint leadingBytes chainOfThree
      step
      taskId := ⟨0⟩
      nodeId := ⟨0⟩
      outputId := leftOutput
      durationMs := 0 }]))
    (DataCatalog.new.record ⟨leftOutput, 1⟩ ⟨0⟩) 0

theorem restarted_ok {step : Nat} {state : State}
    (opened : (restarted step).toOption = some state) : restarted step = .ok state := by
  cases started : restarted step with
  | error error => simp [started, Except.toOption] at opened
  | ok other => simpa [started, Except.toOption] using opened

def middleAgain : List Event :=
  [.submit 0 (echo 0), .submit 2 ((echo 2).withInputs [leftOutput]), .join 0 (.ok echoed) .new,
    .release, .release, .submit 1 (echo 1), .join 1 (.ok echoed) .new, .release]

theorem submits_resumed_step :
    chainOfThree.validate = .ok () ∧ (∀ step < 3, (chainOfThree.dependsOn step).Nodup) ∧
      ∃ state final, restarted 1 = .ok state ∧
        Runs.run (next chainOfThree) state middleAgain = some final ∧
        state.resumed = [1] ∧ (1, echo 1) ∈ submissions middleAgain ∧
        final.control = .panicked := by
  refine ⟨by decide, by decide, ?_⟩
  have facts : ((restarted 1).toOption.bind fun state =>
      (Runs.run (next chainOfThree) state middleAgain).map fun final =>
        (state.resumed, match final.control with
          | .panicked => true
          | _ => false)) = some ([1], true) := by
    decide +kernel
  obtain ⟨state, opened, rest⟩ := Option.bind_eq_some_iff.mp facts
  obtain ⟨final, ran, both⟩ := Option.map_eq_some_iff.mp rest
  obtain ⟨resumed, stopped⟩ := Prod.mk.inj both
  refine ⟨state, final, restarted_ok opened, ran, resumed, by decide, ?_⟩
  split at stopped
  · assumption
  · simp at stopped

def afterFirst : List Event :=
  [.submit 1 ((echo 1).withInputs [leftOutput]), .join 1 (.ok echoed) .new, .release, .release,
    .submit 2 (echo 2), .join 2 (.ok echoed) .new, .release, .leave 0]

theorem resumes_after_first :
    ∃ state final, restarted 0 = .ok state ∧ state.resumed = [0] ∧
      Runs.run (next chainOfThree) state afterFirst = some final ∧ final.control ≠ .panicked := by
  have facts : ((restarted 0).toOption.bind fun state =>
      (Runs.run (next chainOfThree) state afterFirst).map fun _ =>
        (state.resumed, decide (Runs.Along (next chainOfThree) (fun reached _ =>
          SparesResumed reached ∧ ReleasesClean chainOfThree (fun _ => true) reached)
          state afterFirst))) = some ([0], true) := by
    decide +kernel
  obtain ⟨state, opened, rest⟩ := Option.bind_eq_some_iff.mp facts
  obtain ⟨final, ran, both⟩ := Option.map_eq_some_iff.mp rest
  obtain ⟨resumed, met⟩ := Prod.mk.inj both
  refine ⟨state, final, restarted_ok opened, resumed, ran, ?_⟩
  exact (resumed_never_submitted (restarted_ok opened) (of_decide_eq_true met) ran).1

end AetherMesh.Flow
