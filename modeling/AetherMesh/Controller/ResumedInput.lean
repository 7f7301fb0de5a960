import AetherMesh.Controller.FlowPlacements

/-!
Reading what an earlier run left. A step is resumed when the catalog knows a node
that holds its output; the output is sent to another node from the controller's
own store. After a restart the agents fill the first and nothing fills the
second.
-/

namespace AetherMesh.Submissions

variable {setup : Setup} {state after : State} {event : Event} {thread : Nat} {nodeId : NodeId}
  {phase : Phase} {output : DataId}

def failure : Phase → Option DispatchError
  | .transfer _ _ _ (.forgetting error) => some error
  | .transfer _ _ _ (.unlocking (.error error)) => some error
  | .transfer _ _ _ (.dropping (.error error)) => some error
  | .dispatch _ (.forgetting error) => some error
  | .finishing _ (.error error) => some error
  | .done (.error error) => some error
  | _ => none

/-- How many inputs from its own on a transfer leaves to be looked for no more. -/
def Stage.looked : Stage → Option Nat
  | .locking | .checking => some 0
  | .forgetting _ | .unlocking (.error _) | .dropping (.error _) => none
  | _ => some 1

def looksOn (setup : Setup) (output : DataId) (thread : Nat) : Phase → Option NodeId
  | .beginning place => some place.nodeId
  | .input place index =>
      if output ∈ (setup.task thread).inputs.drop index then some place.nodeId else none
  | .transfer place index _ stage =>
      stage.looked.bind fun looked =>
        if output ∈ (setup.task thread).inputs.drop (index + looked) then some place.nodeId else none
  | _ => none

def supplied (setup : Setup) (output : DataId) (state : State) (nodeId : NodeId) : Bool :=
  (state.store output).isSome || setup.reuseData && state.catalog.holds output nodeId

theorem Step.stored (step : Step setup state event after) (stored : (state.store output).isSome) :
    (after.store output).isSome := by
  cases step with
  | lookup thread place index given =>
      obtain ⟨_, _, _, _, frame⟩ := @transferLock_frame state (place.nodeId, given)
      rw [State.move, frame]
      exact stored
  | release thread place index lock given =>
      obtain ⟨_, _, frame⟩ := @releaseTransfer_frame state (place.nodeId, given) lock
      rw [State.move, frame]
      exact stored
  | recordOutput thread result =>
      rw [State.move]
      unfold State.recordOutput
      split
      · split
        · rename_i outputId _ _ _ _
          dsimp only
          split
          · exact stored
          · by_cases same : output = outputId
            · subst same
              simp
            · rw [Function.update_of_ne same]
              exact stored
        · exact stored
      · exact stored
  | _ => exact stored

theorem Step.supplied (step : Step setup state event after)
    (kept : withdraws state nodeId event = false ∨ (state.store output).isSome = true)
    (before : supplied setup output state nodeId = true) :
    supplied setup output after nodeId = true := by
  simp only [Submissions.supplied, Bool.or_eq_true, Bool.and_eq_true] at before ⊢
  rcases before with stored | ⟨reuse, held⟩
  · exact .inl (step.stored stored)
  · rcases kept with kept | stored
    · exact .inr ⟨reuse, step.holds kept held⟩
    · exact .inl (step.stored stored)

structure Finds (setup : Setup) (output : DataId) (thread : Nat) (state : State) : Prop where
  fine : failure (state.phases thread) ≠ some (.unknownInput output)
  ahead : ∀ nodeId, looksOn setup output thread (state.phases thread) = some nodeId →
    supplied setup output state nodeId = true

/-- Where the submission is placed the output can be had, and the node keeps its credit as long as
the submission has still to look for it. -/
def lasting (setup : Setup) (output : DataId) (thread : Nat) (state : State) (event : Event) : Bool :=
  (match event with
    | .select other (some nodeId) => other ≠ thread || supplied setup output state nodeId
    | _ => true) &&
  (looksOn setup output thread (state.phases thread)).all fun nodeId =>
    !withdraws state nodeId event || (state.store output).isSome

theorem lasting_select (met : lasting setup output thread state (.select thread (some nodeId)) = true) :
    supplied setup output state nodeId = true := by
  simpa using (Bool.and_eq_true_iff.mp met).1

theorem lasting_kept (met : lasting setup output thread state event = true)
    (looks : looksOn setup output thread (state.phases thread) = some nodeId) :
    withdraws state nodeId event = false ∨ (state.store output).isSome = true := by
  have kept := (Bool.and_eq_true_iff.mp met).2
  rw [looks] at kept
  simpa using kept

def Continues (setup : Setup) (output : DataId) (thread : Nat) (old new : Phase) : Prop :=
  (failure new = some (.unknownInput output) → failure old = some (.unknownInput output)) ∧
    ∀ nodeId, looksOn setup output thread new = some nodeId →
      looksOn setup output thread old = some nodeId

theorem Continues.still {new : Phase} (fine : failure new ≠ some (.unknownInput output))
    (none : looksOn setup output thread new = none) : Continues setup output thread phase new :=
  ⟨fun failed => absurd failed fine, fun _ looks => by rw [none] at looks; cases looks⟩

theorem mem_drop_of_later {inputs : List DataId} {index looked : Nat}
    (later : output ∈ inputs.drop (index + looked)) : output ∈ inputs.drop index := by
  rw [← List.drop_drop] at later
  exact List.mem_of_mem_drop later

theorem Continues.transfer {place : Place} {index lock : Nat} {stage later : Stage}
    (fine : failure (.transfer place index lock later) ≠ some (.unknownInput output))
    (looked : ∀ count, later.looked = some count → ∃ before, stage.looked = some before ∧ before ≤ count) :
    Continues setup output thread (.transfer place index lock stage)
      (.transfer place index lock later) := by
  refine ⟨fun failed => absurd failed fine, fun nodeId looks => ?_⟩
  obtain ⟨count, counted, looks⟩ := Option.bind_eq_some_iff.mp looks
  obtain ⟨before, also, fewer⟩ := looked count counted
  obtain ⟨ahead, ⟨⟩⟩ := Option.ite_none_right_eq_some.mp looks
  obtain ⟨extra, rfl⟩ := Nat.exists_eq_add_of_le fewer
  rw [← Nat.add_assoc] at ahead
  refine Option.bind_eq_some_iff.mpr ⟨before, also, ?_⟩
  exact if_pos (mem_drop_of_later ahead)

theorem Continues.onwards {place : Place} {index lock : Nat} {stage later : Stage}
    (fine : failure (.transfer place index lock later) ≠ some (.unknownInput output))
    (looked : later.looked = stage.looked) :
    Continues setup output thread (.transfer place index lock stage)
      (.transfer place index lock later) :=
  .transfer fine fun count counted => ⟨count, looked.symm.trans counted, Nat.le_refl _⟩

theorem Goes.continues (goes : Goes setup state thread event phase) :
    Continues setup output thread (state.phases thread) phase ∨
      (∃ attempt unusable nodeId, event = .select thread (some nodeId) ∧
        phase = .beginning ⟨attempt, unusable, nodeId⟩) ∨
      ∃ place index lock, state.phases thread = .transfer place index lock .checking ∧
        setup.inputAt thread index = some output ∧
        ¬(setup.reuseData = true ∧ state.catalog.holds output place.nodeId = true) ∧
        state.store output = none := by
  cases goes with
  | select attempt unusable nodeId here =>
      exact .inr (.inl ⟨attempt, unusable, nodeId, rfl, rfl⟩)
  | unknown place index lock dataId here input absent unstored =>
      by_cases same : dataId = output
      · subst same
        exact .inr (.inr ⟨place, index, lock, here, input, absent, unstored⟩)
      · refine .inl (.still ?_ rfl)
        simpa [failure] using same
  | skip _ _ _ _ here | missing _ _ _ _ here | leave _ _ _ _ _ here | choose _ _ _ _ _ here
  | nothing _ _ _ _ here | sendChunk _ _ _ _ _ here | awaitData _ _ _ here =>
      rw [here]
      exact .inl (.transfer nofun fun count looked => ⟨_, rfl, by simp_all [Stage.looked]⟩)
  | start | noNode | noInput | refused | chunkRefused | dataClosed | dataTimeout | assign
  | notAssigned | receive | resultClosed | resultTimeout | wake | dropAwaiting | dropSleeping =>
      exact .inl (.still (by simp [failure]) rfl)

theorem Finds.move {mover : Nat} {middle : State} (finds : Finds setup output thread state)
    (phases : middle.phases = state.phases)
    (own : mover = thread → Continues setup output thread (state.phases thread) phase)
    (kept : ∀ nodeId, looksOn setup output thread (state.phases thread) = some nodeId →
      supplied setup output (middle.move mover phase) nodeId = true) :
    Finds setup output thread (middle.move mover phase) := by
  have moves : (middle.move mover phase).phases = Function.update state.phases mover phase := by
    rw [← phases]
    rfl
  by_cases same : mover = thread
  · subst same
    constructor <;> rw [moves, Function.update_self]
    · exact fun failed => finds.fine ((own rfl).1 failed)
    · exact fun nodeId looks => kept nodeId ((own rfl).2 nodeId looks)
  · constructor <;> rw [moves, Function.update_of_ne (Ne.symm same)]
    · exact finds.fine
    · exact kept

theorem Finds.follow {mover : Nat} {middle : State} {old : Phase}
    (finds : Finds setup output thread state) (here : state.phases mover = old)
    (phases : middle.phases = state.phases) (continues : Continues setup output mover old phase)
    (kept : ∀ nodeId, looksOn setup output thread (state.phases thread) = some nodeId →
      supplied setup output (middle.move mover phase) nodeId = true) :
    Finds setup output thread (middle.move mover phase) := by
  refine finds.move phases ?_ kept
  rintro rfl
  rw [here]
  exact continues

theorem Finds.goes {mover : Nat} (finds : Finds setup output thread state)
    (goes : Goes setup state mover event phase)
    (met : lasting setup output thread state event = true)
    (kept : ∀ nodeId, looksOn setup output thread (state.phases thread) = some nodeId →
      supplied setup output (state.move mover phase) nodeId = true) :
    Finds setup output thread (state.move mover phase) := by
  by_cases same : mover = thread
  · subst same
    rcases goes.continues with continues | ⟨attempt, unusable, nodeId, rfl, rfl⟩ |
      ⟨place, index, lock, here, input, absent, unstored⟩
    · exact finds.move rfl (fun _ => continues) kept
    · have there := lasting_select met
      have here : (state.move mover (.beginning ⟨attempt, unusable, nodeId⟩)).phases mover =
          .beginning ⟨attempt, unusable, nodeId⟩ := Function.update_self _ _ _
      constructor <;> rw [here]
      · exact nofun
      · rintro _ ⟨⟩
        exact there
    · -- the output is one of the inputs not looked for, so it was to be had here
      have looks : looksOn setup output mover (state.phases mover) = some place.nodeId := by
        rw [here]
        obtain ⟨bound, found⟩ := List.getElem?_eq_some_iff.mp input
        refine if_pos ?_
        rw [Nat.add_zero, List.drop_eq_getElem_cons bound, found]
        exact List.mem_cons_self
      have there := finds.ahead _ looks
      simp only [Submissions.supplied, unstored, Bool.or_eq_true, Bool.and_eq_true] at there
      exact absurd (there.resolve_left (by simp)) absent
  · exact finds.move rfl (fun also => absurd also same) kept

theorem Finds.step (finds : Finds setup output thread state)
    (step : Step setup state event after) (met : lasting setup output thread state event = true) :
    Finds setup output thread after := by
  have kept (nodeId : NodeId) (looks : looksOn setup output thread (state.phases thread) = some nodeId) :
      supplied setup output after nodeId = true :=
    step.supplied (lasting_kept met looks) (finds.ahead nodeId looks)
  cases step with
  | go mover event phase goes => exact finds.goes goes met kept
  | begin mover place here =>
      refine finds.follow here rfl ⟨nofun, fun nodeId looks => ?_⟩ kept
      obtain ⟨-, there⟩ := Option.ite_none_right_eq_some.mp looks
      exact there
  | lookup mover place index dataId here =>
      exact finds.follow here (transferLock_phases _) ⟨nofun, fun _ => id⟩ kept
  | release mover place index lock dataId here =>
      exact finds.follow here (releaseTransfer_phases _ _)
        (.onwards nofun rfl) kept
  | recordOutput mover result here =>
      exact finds.follow here (recordOutput_phases _) (.still nofun rfl) kept
  | acquire mover place index lock here =>
      exact finds.follow here rfl (.onwards nofun rfl) kept
  | send mover place index lock dataId stage here input connected later =>
      refine finds.follow here rfl ?_ kept
      rcases later with rfl | rfl <;>
        exact .onwards nofun rfl
  | credit mover place index lock chunk batch descriptor here =>
      exact finds.follow here rfl (.onwards nofun rfl) kept
  | expectData mover place index lock chunk batch dataId here =>
      exact finds.follow here rfl (.onwards nofun rfl) kept
  | forgetData mover place index lock dataId error here =>
      exact finds.follow here rfl ⟨id, nofun⟩ kept
  | record mover place index lock dataId size here =>
      exact finds.follow here rfl (.onwards nofun rfl) kept
  | unlock mover place index lock outcome stage here later =>
      refine finds.follow here rfl ?_ kept
      rcases later with ⟨rfl, rfl⟩ | ⟨error, rfl, rfl⟩
      · exact .onwards nofun rfl
      · exact ⟨id, nofun⟩
  | drop mover place index lock outcome phase here later =>
      refine finds.follow here rfl ?_ kept
      rcases later with ⟨rfl, rfl⟩ | ⟨error, rfl, rfl⟩
      · exact ⟨nofun, fun _ => id⟩
      · exact ⟨id, nofun⟩
  | expectResult mover place here => exact finds.follow here rfl (.still nofun rfl) kept
  | forget mover place error here =>
      exact finds.follow here rfl ⟨id, nofun⟩ kept
  | finish mover place outcome phase here later =>
      refine finds.follow here rfl ?_ kept
      rcases later with ⟨result, rfl, rfl⟩ | ⟨error, rfl, ⟨-, rfl⟩ | rfl⟩
      · exact .still nofun rfl
      · exact .still nofun rfl
      · exact ⟨id, nofun⟩
  | retry | dropLocking | dropSending => exact finds.move rfl (fun _ => .still nofun rfl) kept
  | register | attach | detach | forgetNode | held | evicted | ready | complete | unheard
  | unexpected => exact ⟨finds.fine, kept⟩

def unplaced : Phase → Bool
  | .idle | .selecting (_ + 1) _ | .done (.ok _) | .done (.error (.noNodeAvailable _)) => true
  | _ => false

theorem Goes.unplaced (goes : Goes setup state thread event phase) (never : setup.maxAttempts = 0)
    (before : unplaced (state.phases thread) = true) : unplaced phase = true := by
  cases goes with
  | start | noNode => rfl
  | select attempt unusable nodeId here usable connected within =>
      obtain rfl : attempt = 0 := by omega
      rw [here] at before
      cases before
  | _ => simp_all [Submissions.unplaced]

/-- Where no attempt is made the submission stays without a node. -/
theorem Step.unplaced (step : Step setup state event after) (never : setup.maxAttempts = 0)
    (before : unplaced (state.phases thread) = true) :
    unplaced (after.phases thread) = true := by
  cases step with
  | go mover event phase goes =>
      by_cases same : thread = mover
      · subst same
        exact (congrArg _ (Function.update_self _ _ _)).trans (goes.unplaced never before)
      · exact (congrArg _ (Function.update_of_ne same _ _)).trans before
  | lookup mover place index dataId here =>
      exact still_move (Submissions.unplaced · = true) (transferLock_phases _) here nofun before
  | release mover place index lock dataId here =>
      exact still_move (Submissions.unplaced · = true) (releaseTransfer_phases _ _) here nofun before
  | recordOutput mover result here =>
      exact still_move (Submissions.unplaced · = true) (recordOutput_phases _) here nofun before
  | begin mover _ here | acquire mover _ _ _ here | send mover _ _ _ _ _ here
  | credit mover _ _ _ _ _ _ here | expectData mover _ _ _ _ _ _ here
  | forgetData mover _ _ _ _ _ here | record mover _ _ _ _ _ here | unlock mover _ _ _ _ _ here
  | drop mover _ _ _ _ _ here | expectResult mover _ here | forget mover _ _ here
  | finish mover _ _ _ here | retry mover _ here | dropLocking mover _ _ _ here
  | dropSending mover _ _ _ here =>
      exact still_move (Submissions.unplaced · = true) rfl here nofun before
  | register | attach | detach | forgetNode | held | evicted | ready | complete | unheard
  | unexpected => exact before

def asksOn (thread : Nat) (nodeId : NodeId) : List Event :=
  [.start thread, .select thread (some nodeId), .begin thread, .lookup thread, .acquire thread,
    .check thread, .unlock thread, .drop thread, .finish thread]

theorem turned_away (idle : state.phases thread = .idle) (inside : thread < setup.count)
    (connected : nodeId ∈ state.connected) (attempts : setup.maxAttempts ≠ 0)
    (reads : setup.inputAt thread 0 = some output)
    (free : state.transfers (nodeId, output) = none) (unstored : state.store output = none)
    (absent : ¬(setup.reuseData = true ∧ state.catalog.holds output nodeId = true)) :
    ∃ final, Runs.run (next setup) state (asksOn thread nodeId) = some final ∧
      Runs.Along (next setup) (fun middle _ => middle.connected = state.connected) state
        (asksOn thread nodeId) ∧
      final.phases thread = .done (.error (.unknownInput output)) := by
  have once : 1 ≤ setup.maxAttempts := Nat.one_le_iff_ne_zero.mpr attempts
  simp only [asksOn, Runs.run, Runs.Along, next, idle, inside, and_self, ↓reduceIte, State.move,
    State.beginOn, State.transferLock, State.unlock, State.dropLock, State.finishedOn, isRetryable,
    Option.bind_some, Function.update_self, once, List.not_mem_nil, not_false_eq_true, connected,
    reads, free, absent, unstored, Nat.add_sub_cancel, Bool.false_eq_true, and_false,
    Option.some.injEq, true_and, exists_eq_left']

end AetherMesh.Submissions

namespace AetherMesh.FlowPlacements

open Runs
open Submissions (Setup)

variable {setup : Setup} {workflow : Workflow} {state after : State} {event : Event} {step : Nat}
  {output : DataId}

def lasting (setup : Setup) (output : DataId) (step : Nat) (state : State) : Event → Bool
  | .mesh event => Submissions.lasting setup output step state.mesh event
  | _ => true

theorem Moves.finds (moves : Moves setup workflow state event after)
    (met : lasting setup output step state event = true)
    (finds : Submissions.Finds setup output step state.mesh) :
    Submissions.Finds setup output step after.mesh := by
  cases moves with
  | flow | join => exact finds
  | cached => exact finds.move rfl (fun _ => .still nofun rfl) finds.ahead
  | mesh _ moved => exact finds.step moved met

theorem run_finds {opened final : State} {events : List Event}
    (idle : opened.mesh.phases step = .idle)
    (met : Along (next setup workflow) (lasting setup output step · ·) opened events)
    (ran : run (next setup workflow) opened events = some final) :
    Submissions.Finds setup output step final.mesh := by
  refine @run_history State Event (next setup workflow) _
    (fun _ state => Submissions.Finds setup output step state.mesh) opened final events ?_
    (fun _ _ _ _ finds moved met => (next_moves moved).finds met finds) met ran
  constructor <;> rw [idle]
  · exact nofun
  · exact nofun

theorem run_not_away {opened final : State} {events : List Event}
    (idle : opened.mesh.phases step = .idle)
    (met : Along (next setup workflow) (lasting setup output step · ·) opened events)
    (ran : run (next setup workflow) opened events = some final) :
    final.mesh.phases step ≠ .done (.error (.unknownInput output)) := by
  intro away
  refine (run_finds idle met ran).fine ?_
  rw [away]
  rfl

theorem Moves.stored (moves : Moves setup workflow state event after)
    (stored : (state.mesh.store output).isSome = true) :
    (after.mesh.store output).isSome = true := by
  cases moves with
  | flow | join | cached => exact stored
  | mesh _ moved => exact moved.stored stored

theorem lasting_of_stored {opened : State} (events : List Event)
    (stored : (opened.mesh.store output).isSome = true) :
    Along (next setup workflow) (lasting setup output step · ·) opened events := by
  refine @along_invariant State Event (next setup workflow) _
    (fun state => (state.mesh.store output).isSome = true) opened stored ?_
    (fun _ _ _ stored moved => (next_moves moved).stored stored) events
  intro state event stored
  cases event with
  | mesh =>
      simp only [lasting, Submissions.lasting, Submissions.supplied, stored, Bool.true_or,
        Bool.or_true, Option.all_true, Bool.and_true]
      split <;> rfl
  | flow | join | cached => rfl

theorem Moves.unplaced (moves : Moves setup workflow state event after)
    (never : setup.maxAttempts = 0)
    (before : Submissions.unplaced (state.mesh.phases step) = true) :
    Submissions.unplaced (after.mesh.phases step) = true := by
  cases moves with
  | flow | join => exact before
  | @cached other result =>
      by_cases same : step = other
      · subst same
        exact congrArg _ (Function.update_self _ _ _)
      · exact (congrArg _ (Function.update_of_ne same _ _)).trans before
  | mesh _ moved => exact moved.unplaced never before

/-- The nodes that hold the output stay connected, each on the connection it has. -/
def holdersStay (held : DataCatalog) (output : DataId) (state : State) (event : Event) : Prop :=
  ∀ nodeId, held.holds output nodeId = true →
    nodeId ∈ state.mesh.connected ∧ event ≠ .mesh (.register nodeId)

theorem holdersStay_other {held : DataCatalog}
    (other : ∀ nodeId, event ≠ .mesh (.register nodeId))
    (stay : ∀ nodeId, held.holds output nodeId = true → nodeId ∈ state.mesh.connected) :
    holdersStay held output state event :=
  fun nodeId holds => ⟨stay nodeId holds, other nodeId⟩

/-- However the run of a workflow and the submissions beside it go on, if the nodes that hold the
output when its step is resumed stay connected, no dependent of the step is turned away for want
of it. -/
def Readable (setup : Setup) (mesh : Submissions.State) (output : DataId) : Prop :=
  ∀ (count : Nat) (task : Nat → Task) (workflow : Workflow)
    (resume : Option (String × Except CheckpointError (List Record))) (before : Nat)
    (flow : Flow.State) (step dependent : Nat) (events : List Event) (final : State),
    (∀ step < workflow.len, mesh.phases step = .idle) →
    Flow.start setup.digest workflow resume mesh.catalog before = .ok flow →
    step ∈ flow.resumed → flow.outputs step = some output →
    step ∈ workflow.dependsOn dependent →
    run (next { setup with count, task } workflow) ⟨flow, mesh⟩ events = some final →
    Along (next { setup with count, task } workflow) (holdersStay mesh.catalog output) ⟨flow, mesh⟩
      events →
    final.mesh.phases dependent ≠ .done (.error (.unknownInput output))

theorem foldl_resumeStep_located {known : Nat → Option Record} {catalog : DataCatalog}
    (steps : List Nat) {state : Flow.State}
    (located : ∀ step output, state.outputs step = some output → catalog.locations output ≠ ∅) :
    ∀ step output,
      (steps.foldl (Flow.resumeStep workflow known catalog) state).outputs step = some output →
        catalog.locations output ≠ ∅ := by
  induction steps generalizing state with
  | nil => exact located
  | cons current rest ih =>
      apply ih
      intro step output
      unfold Flow.resumeStep
      split
      · exact located step output
      · split
        · exact located step output
        · rename_i record _ somewhere
          split
          · exact located step output
          · intro found
            by_cases same : step = current
            · subst same
              simp only [Function.update_self, Option.some.injEq] at found
              exact found ▸ somewhere
            · simp only [Function.update_of_ne same] at found
              exact located step output found

theorem start_located {digest : Bytes → DataId}
    {resume : Option (String × Except CheckpointError (List Record))} {catalog : DataCatalog}
    {before : Nat} {flow : Flow.State}
    (started : Flow.start digest workflow resume catalog before = .ok flow)
    (found : flow.outputs step = some output) : catalog.locations output ≠ ∅ := by
  unfold Flow.start at started
  split at started
  · simp at started
  · split at started
    · obtain rfl := Except.ok.inj started
      simp [Flow.openReady, Flow.fresh] at found
    · dsimp only at started
      split at started
      · simp at started
      · obtain rfl := Except.ok.inj started
        exact foldl_resumeStep_located _ (by simp [Flow.fresh]) step output found

def readsFirst : Workflow :=
  ⟨[⟨Task.new ⟨0⟩ "echo" [], []⟩, ⟨Task.new ⟨1⟩ "echo" [], [0]⟩]⟩

def readsOutput (output : DataId) : Task := (Task.new ⟨1⟩ "echo" []).withInputs [output]

def firstRecord (digest : Bytes → DataId) (output : DataId) : Record where
  run := "nightly"
  fingerprint := fingerprint digest readsFirst
  step := 0
  taskId := ⟨0⟩
  nodeId := ⟨0⟩
  outputId := output
  durationMs := 0

def firstResumed (digest : Bytes → DataId) (output : DataId) : Flow.State :=
  { Flow.fresh readsFirst 0 with
    waiting := [0, 0]
    outputs := Function.update (fun _ => none) 0 (some output)
    resumed := [0]
    ready := [1]
    journal := some ("nightly", fingerprint digest readsFirst) }

theorem start_readsFirst (digest : Bytes → DataId) {catalog : DataCatalog} {output : DataId}
    (somewhere : catalog.locations output ≠ ∅) :
    Flow.start digest readsFirst (some ("nightly", .ok [firstRecord digest output])) catalog 0 =
      .ok (firstResumed digest output) := by
  have ordered : readsFirst.order = .ok [0, 1] := by decide
  have lowered : (readsFirst.dependentsOf 0).foldlM Flow.decrement
      (Flow.fresh readsFirst 0).waiting = some [0, 0] := by
    decide
  have known : completed [firstRecord digest output] "nightly" (fingerprint digest readsFirst) =
      .ok (Function.update (fun _ => none) 0 (some (firstRecord digest output))) := by
    simp [completed, completedFrom, firstRecord]
  have named : (firstRecord digest output).outputId = output := rfl
  simp only [Flow.start, ordered, Except.bind, known]
  simp only [List.foldl, Flow.resumeStep, Function.update_self, named, if_neg somewhere, lowered]
  rfl

theorem run_mesh {flow : Flow.State} {start final : Submissions.State}
    {events : List Submissions.Event} {same : Finset NodeId} {held : DataCatalog}
    (allowed : ∀ event ∈ events, ∀ mesh, spawned workflow ⟨flow, mesh⟩ event = true)
    (stay : ∀ nodeId, held.holds output nodeId = true → nodeId ∈ same)
    (known : ∀ nodeId, .register nodeId ∉ events)
    (along : Along (Submissions.next setup) (fun mesh _ => mesh.connected = same) start events)
    (ran : run (Submissions.next setup) start events = some final) :
    run (next setup workflow) ⟨flow, start⟩ (events.map .mesh) = some ⟨flow, final⟩ ∧
      Along (next setup workflow) (holdersStay held output) ⟨flow, start⟩ (events.map .mesh) := by
  induction events generalizing start with
  | nil =>
      obtain rfl := Option.some.inj ran
      exact ⟨rfl, trivial⟩
  | cons event rest ih =>
      obtain ⟨middle, moved, later⟩ := Option.bind_eq_some_iff.mp ran
      simp only [Along, moved] at along
      have stepped : next setup workflow ⟨flow, start⟩ (.mesh event) = some ⟨flow, middle⟩ := by
        simp [next, allowed event List.mem_cons_self, moved]
      obtain ⟨onwards, stays⟩ := ih (fun other listed => allowed other (List.mem_cons_of_mem _ listed))
        (fun nodeId listed => known nodeId (List.mem_cons_of_mem _ listed)) along.2 later
      refine ⟨?_, ?_, ?_⟩
      · simp only [List.map_cons, run, stepped]
        exact onwards
      · intro nodeId holds
        refine ⟨along.1 ▸ stay nodeId holds, fun registers => ?_⟩
        obtain rfl := Event.mesh.inj registers
        exact known nodeId List.mem_cons_self
      · rw [stepped]
        exact stays

def secondHanded (digest : Bytes → DataId) (output : DataId) : Flow.State :=
  { firstResumed digest output with ready := [], running := [(1, readsOutput output)] }

def readers (setup : Setup) (output : DataId) : Setup :=
  { setup with count := 2, task := fun _ => readsOutput output }

def handsOver (output : DataId) (nodeId : NodeId) : List Event :=
  .flow (.submit 1 (readsOutput output)) :: (Submissions.asksOn 1 nodeId).map .mesh

theorem handed_over_away {mesh : Submissions.State} {nodeId : NodeId} {held : DataCatalog}
    (idle : mesh.phases 1 = .idle) (free : mesh.transfers (nodeId, output) = none)
    (connected : nodeId ∈ mesh.connected) (unstored : mesh.store output = none)
    (absent : ¬(setup.reuseData = true ∧ mesh.catalog.holds output nodeId = true))
    (attempts : setup.maxAttempts ≠ 0)
    (stay : ∀ nodeId, held.holds output nodeId = true → nodeId ∈ mesh.connected) :
    ∃ final, run (next (readers setup output) readsFirst)
        ⟨firstResumed setup.digest output, mesh⟩ (handsOver output nodeId) = some final ∧
      Along (next (readers setup output) readsFirst) (holdersStay held output)
        ⟨firstResumed setup.digest output, mesh⟩ (handsOver output nodeId) ∧
      final.mesh.phases 1 = .done (.error (.unknownInput output)) := by
  obtain ⟨final, ran, along, away⟩ := @Submissions.turned_away (readers setup output) mesh 1 nodeId
    output idle Nat.one_lt_two connected attempts rfl free unstored absent
  have first : next (readers setup output) readsFirst ⟨firstResumed setup.digest output, mesh⟩
      (.flow (.submit 1 (readsOutput output))) =
      some ⟨secondHanded setup.digest output, mesh⟩ := by
    have given : Flow.taskFor readsFirst 1 (firstResumed setup.digest output).outputs =
        some (readsOutput output) := rfl
    have looping : (firstResumed setup.digest output).control = .looping := rfl
    have ready : (firstResumed setup.digest output).ready = [1] := rfl
    have nobody : (firstResumed setup.digest output).running = [] := rfl
    simp [next, agrees, readers, Flow.next, given, looping, ready, nobody, secondHanded]
  obtain ⟨onwards, stays⟩ := @run_mesh (readers setup output) readsFirst output
    (secondHanded setup.digest output) mesh final (Submissions.asksOn 1 nodeId) mesh.connected held
    (by simp [Submissions.asksOn, spawned, secondHanded]) stay (by simp [Submissions.asksOn]) along ran
  refine ⟨⟨secondHanded setup.digest output, final⟩, ?_, ⟨holdersStay_other (by simp) stay, ?_⟩, away⟩
  · simp only [handsOver, run, first]
    exact onwards
  · rw [first]
    exact stays

/-- Once a node that is not credited is connected, the second step is turned away there. -/
theorem Readable.refuted {mesh later : Submissions.State} {nodeId : NodeId} {front : List Event}
    (readable : Readable setup mesh output) (somewhere : mesh.catalog.locations output ≠ ∅)
    (attempts : setup.maxAttempts ≠ 0) (idle : ∀ thread, mesh.phases thread = .idle)
    (reached : run (next (readers setup output) readsFirst)
      ⟨firstResumed setup.digest output, mesh⟩ front = some ⟨firstResumed setup.digest output, later⟩)
    (stays : Along (next (readers setup output) readsFirst) (holdersStay mesh.catalog output)
      ⟨firstResumed setup.digest output, mesh⟩ front)
    (still : later.phases 1 = .idle) (free : later.transfers (nodeId, output) = none)
    (connected : nodeId ∈ later.connected) (unstored : later.store output = none)
    (absent : ¬(setup.reuseData = true ∧ later.catalog.holds output nodeId = true))
    (there : ∀ nodeId, mesh.catalog.holds output nodeId = true → nodeId ∈ later.connected) :
    False := by
  obtain ⟨final, ran, stay, away⟩ :=
    handed_over_away still free connected unstored absent attempts there
  refine readable 2 (fun _ => readsOutput output) readsFirst
    (some ("nightly", .ok [firstRecord setup.digest output])) 0 (firstResumed setup.digest output) 0 1
    (front ++ handsOver output nodeId) final (fun step _ => idle step)
    (start_readsFirst setup.digest somewhere) (List.mem_singleton_self 0) rfl (by decide) ?_ ?_ away
  · exact (run_append _ _ _).trans (reached ▸ ran)
  · refine (along_append _ _ _).mpr ⟨stays, fun middle also => ?_⟩
    obtain rfl := Option.some.inj (reached.symm.trans also)
    exact stay

theorem not_readable {catalog : DataCatalog} {store : DataId → Option Bytes}
    {connected : Finset NodeId} (unstored : store output = none)
    (somewhere : catalog.locations output ≠ ∅)
    (there : ∀ nodeId, catalog.holds output nodeId = true → nodeId ∈ connected)
    (attempts : setup.maxAttempts ≠ 0) : ¬Readable setup (.start catalog store connected) output := by
  intro readable
  by_cases all : ∀ nodeId, catalog.holds output nodeId = true
  · -- a node loses the output and stays connected
    let later := Submissions.State.start (catalog.remove output ⟨0⟩) store connected
    have lost : ¬(setup.reuseData = true ∧ later.catalog.holds output ⟨0⟩ = true) :=
      fun both => (DataCatalog.holds_withdraw.mp both.2).2 ⟨decide_eq_true rfl, rfl⟩
    refine @Readable.refuted setup output (.start catalog store connected) later ⟨0⟩
      [.mesh (.evicted ⟨0⟩ output)] readable somewhere attempts (fun _ => rfl) ?_ ?_ rfl rfl
      (there _ (all _)) unstored lost there
    · simp [run, next, spawned, Submissions.next, Submissions.State.start, later]
    · simp only [Along]
      exact ⟨holdersStay_other (by simp) there, by split <;> trivial⟩
  · -- a node that never had it connects
    obtain ⟨nodeId, never⟩ := not_forall.mp all
    let later : Submissions.State :=
      { Submissions.State.start (catalog.forgetNode nodeId) store (insert nodeId connected) with
        attaching := Function.update (Function.update (fun _ => 0) nodeId 1) nodeId 0 }
    have absent : ¬(setup.reuseData = true ∧ later.catalog.holds output nodeId = true) :=
      fun both => (DataCatalog.holds_forgetNode.mp both.2).2 rfl
    refine @Readable.refuted setup output (.start catalog store connected) later nodeId
      [.mesh (.register nodeId), .mesh (.attach nodeId)] readable somewhere attempts (fun _ => rfl)
      ?_ ?_ rfl rfl (Finset.mem_insert_self _ _) unstored absent
      fun other holds => Finset.mem_insert_of_mem (there other holds)
    · simp [run, next, spawned, Submissions.next, Submissions.State.start, later,
        Submissions.State.forgetCredits]
    · refine ⟨fun other holds => ⟨there other holds, ?_⟩,
        holdersStay_other (by simp) there, by split <;> trivial⟩
      rintro ⟨⟩
      exact never holds

theorem readable_iff (setup : Setup) (catalog : DataCatalog) (store : DataId → Option Bytes)
    (connected : Finset NodeId) (output : DataId) :
    (Readable setup (.start catalog store connected) output ↔
      (store output).isSome = true ∨ catalog.locations output = ∅ ∨
      (∃ nodeId, catalog.holds output nodeId = true ∧ nodeId ∉ connected) ∨
      setup.maxAttempts = 0) ∧
    ∀ (workflow : Workflow) (opened final : State) (events : List Event) (step : Nat),
      opened.mesh.phases step = .idle →
      run (next setup workflow) opened events = some final →
      Along (next setup workflow) (lasting setup output step · ·) opened events →
      final.mesh.phases step ≠ .done (.error (.unknownInput output)) := by
  refine ⟨⟨fun readable => ?_, fun condition => ?_⟩, fun _ _ _ _ _ idle ran met =>
    run_not_away idle met ran⟩
  · by_contra neither
    simp only [not_or, not_exists, not_and, not_not] at neither
    obtain ⟨unstored, somewhere, there, attempts⟩ := neither
    exact not_readable (by simpa using unstored) somewhere there attempts readable
  · intro count task workflow resume before flow step dependent events final idle started _ found
      named ran stay
    have inside := Workflow.lt_of_mem_dependsOn named
    rcases condition with stored | nowhere | ⟨nodeId, held, gone⟩ | never
    · exact run_not_away (idle dependent inside) (lasting_of_stored events stored) ran
    · exact absurd nowhere (start_located started found)
    · cases events with
      | nil =>
          obtain rfl := Option.some.inj ran
          exact nofun
      | cons event rest => exact absurd (stay.1 nodeId held).1 gone
    · have unplaced : Submissions.unplaced (final.mesh.phases dependent) = true :=
        @run_invariant State Event (next { setup with count, task } workflow)
          (fun state => Submissions.unplaced (state.mesh.phases dependent) = true) _ final events
          (by rw [idle dependent inside]; rfl)
          (fun _ _ _ before moved => (next_moves moved).unplaced never before) ran
      intro away
      rw [away] at unplaced
      cases unplaced

def leftBehind : DataId := leadingBytes [7, 7, 7]

def left : NodeId := ⟨1⟩

def joining : NodeId := ⟨2⟩

/-- After a restart, once the first node has told what it holds. -/
def restartedPair : Submissions.State :=
  .start (DataCatalog.new.record ⟨leftBehind, 3⟩ left) (fun _ => none) {left, joining}

def resumes : Setup where
  count := 0
  task := fun _ => readsOutput leftBehind
  manifests := fun _ => none
  reuseData := true
  maxAttempts := 3
  digest := leadingBytes

def turnedAway (state : State) : Bool :=
  state.mesh.phases 1 = .done (.error (.unknownInput leftBehind)) ∧
    state.mesh.connected = {left, joining}

/-- The output is on the first node, and the step that reads it is placed on the second. -/
theorem resumed_output_unknown :
    restartedPair.catalog.locations leftBehind = {left} ∧
    Flow.start leadingBytes readsFirst (some ("nightly", .ok [firstRecord leadingBytes leftBehind]))
      restartedPair.catalog 0 = .ok (firstResumed leadingBytes leftBehind) ∧
    (∃ final, run (next (readers resumes leftBehind) readsFirst)
        ⟨firstResumed leadingBytes leftBehind, restartedPair⟩ (handsOver leftBehind joining) =
          some final ∧
      final.mesh.phases 1 = .done (.error (.unknownInput leftBehind)) ∧
      final.mesh.connected = {left, joining}) ∧
    ¬Readable resumes restartedPair leftBehind := by
  have located : restartedPair.catalog.locations leftBehind = {left} := by decide
  have somewhere : restartedPair.catalog.locations leftBehind ≠ ∅ := by simp [located]
  have there (nodeId : NodeId) (held : restartedPair.catalog.holds leftBehind nodeId = true) :
      nodeId ∈ restartedPair.connected := by
    have one := DataCatalog.mem_locations_iff.mpr held
    rw [located, Finset.mem_singleton] at one
    rw [one]
    exact Finset.mem_insert_self _ _
  obtain ⟨final, ran, away⟩ := run_tested (show (run (next (readers resumes leftBehind) readsFirst)
    ⟨firstResumed leadingBytes leftBehind, restartedPair⟩ (handsOver leftBehind joining)).any
      turnedAway = true by decide +kernel)
  obtain ⟨failed, connected⟩ := of_decide_eq_true away
  refine ⟨located, start_readsFirst leadingBytes somewhere, ⟨final, ran, failed, connected⟩, ?_⟩
  intro readable
  exact @Readable.refuted resumes leftBehind restartedPair restartedPair joining [] readable somewhere
    (by decide) (fun _ => rfl) rfl trivial rfl rfl (by decide) rfl (by decide) there

def readsThere : List Event :=
  .flow (.submit 1 (readsOutput leftBehind)) ::
    ([.start 1, .select 1 (some left), .begin 1, .lookup 1, .acquire 1, .check 1, .unlock 1,
      .release 1, .drop 1, .lookup 1, .expectResult 1, .assign 1 none,
      .complete ⟨⟨1⟩, left, .success [7], 0, some (leadingBytes [7])⟩, .receive 1, .finish 1,
      .recordOutput 1] : List Submissions.Event).map .mesh

theorem read_where_it_is :
    ∃ final, run (next (readers resumes leftBehind) readsFirst)
        ⟨firstResumed leadingBytes leftBehind, restartedPair⟩ readsThere = some final ∧
      final.mesh.phases 1 ≠ .done (.error (.unknownInput leftBehind)) := by
  obtain ⟨final, ran⟩ := Option.isSome_iff_exists.mp (show (run (next (readers resumes leftBehind)
    readsFirst) ⟨firstResumed leadingBytes leftBehind, restartedPair⟩ readsThere).isSome = true by
      decide +kernel)
  exact ⟨final, ran, (readable_iff (readers resumes leftBehind) restartedPair.catalog
    (fun _ => none) {left, joining} leftBehind).2 readsFirst _ final readsThere 1 rfl ran
    (by decide +kernel)⟩

end AetherMesh.FlowPlacements
