import AetherMesh.Controller.SubmissionsFlight
import AetherMesh.Library.Descent

/-!
Submissions come to an end. Every step that a submission takes leaves it with fewer to take,
since it has a bounded number of attempts, each with the same inputs and chunks. A submission
that is not over can take a step, or the one that holds the lock it waits for can.
-/

namespace AetherMesh.Submissions

open Counting LockTable Runs Descent

variable {setup : Setup} {state after : State} {event : Event} {thread : Nat} {phase old : Phase}
  {phases : Nat → Phase}

def Setup.inputSteps (setup : Setup) (dataId : DataId) : Nat := 10 + 3 * (setup.chunks dataId).length

def Setup.inputsLeft (setup : Setup) (thread index : Nat) : Nat :=
  (((setup.task thread).inputs.drop index).map setup.inputSteps).sum

def Setup.attemptSteps (setup : Setup) (thread : Nat) : Nat := setup.inputsLeft thread 0 + 10

def Setup.steps (setup : Setup) (thread : Nat) : Nat :=
  (setup.maxAttempts - 1 + 1) * setup.attemptSteps thread

def Setup.retriesLeft (setup : Setup) (thread attempt : Nat) : Nat :=
  (setup.maxAttempts - attempt) * setup.attemptSteps thread

def Stage.left (chunks : Nat) : Stage → Nat
  | .dropping _ => 1
  | .releasing => 2
  | .unlocking _ => 3
  | .forgetting _ | .recording => 4
  | .sendingChunks left => 5 + left.length
  | .crediting chunk batch => 5 + batch.length + 3 * (chunks - chunk)
  | .planning chunk batch => 6 + batch.length + 3 * (chunks - chunk)
  | .sending => 7 + 3 * chunks
  | .checking => 8 + 3 * chunks
  | .locking => 9 + 3 * chunks

def Setup.chunkCount (setup : Setup) (thread index : Nat) : Nat :=
  match setup.inputAt thread index with
  | some dataId => (setup.chunks dataId).length
  | none => 0

def Phase.left (setup : Setup) (thread : Nat) : Phase → Nat
  | .idle => setup.retriesLeft thread 1 + setup.attemptSteps thread
  | .selecting attempt _ => setup.retriesLeft thread attempt + setup.inputsLeft thread 0 + 9
  | .beginning place => setup.retriesLeft thread place.attempt + setup.inputsLeft thread 0 + 8
  | .input place index => setup.retriesLeft thread place.attempt + setup.inputsLeft thread index + 7
  | .transfer place index _ stage =>
      setup.retriesLeft thread place.attempt + setup.inputsLeft thread (index + 1) + 7 +
        stage.left (setup.chunkCount thread index)
  | .dispatch place .expecting => setup.retriesLeft thread place.attempt + 6
  | .dispatch place .assigning => setup.retriesLeft thread place.attempt + 5
  | .dispatch place .awaiting => setup.retriesLeft thread place.attempt + 4
  | .dispatch place (.forgetting _) => setup.retriesLeft thread place.attempt + 3
  | .finishing place _ => setup.retriesLeft thread place.attempt + 2
  | .retrying place => setup.retriesLeft thread (place.attempt + 1) + setup.attemptSteps thread + 1
  | .sleeping attempt _ => setup.retriesLeft thread attempt + setup.attemptSteps thread
  | .returned _ => 1
  | .done _ | .dropped _ => 0

/-- The submission that takes the step of itself; being dropped is not a step of its own. -/
def Event.own : Event → Option Nat
  | .start thread | .select thread _ | .begin thread | .lookup thread | .acquire thread
  | .check thread | .send thread _ | .look thread | .credit thread | .expectData thread
  | .sendChunk thread _ | .awaitData thread | .dataClosed thread | .dataTimeout thread _
  | .forgetData thread | .record thread | .unlock thread | .release thread | .drop thread
  | .expectResult thread | .assign thread _ | .receive thread | .resultClosed thread
  | .resultTimeout thread | .forget thread | .finish thread | .recordOutput thread
  | .retry thread | .wake thread => some thread
  | .cancel _ | .register _ | .attach _ | .detach _ | .forgetNode _ | .held _ _ | .evicted _ _
  | .ready _ _ | .complete _ => none

theorem retriesLeft_succ {attempt : Nat} (more : attempt < setup.maxAttempts) :
    setup.retriesLeft thread attempt =
      setup.retriesLeft thread (attempt + 1) + setup.attemptSteps thread := by
  unfold Setup.retriesLeft
  have split : setup.maxAttempts - attempt = setup.maxAttempts - (attempt + 1) + 1 := by omega
  rw [split, Nat.succ_mul]

theorem inputsLeft_succ {index : Nat} {dataId : DataId}
    (input : setup.inputAt thread index = some dataId) :
    setup.inputsLeft thread index = setup.inputsLeft thread (index + 1) + 10 +
      3 * setup.chunkCount thread index := by
  have inside : index < (setup.task thread).inputs.length := (List.getElem?_eq_some_iff.mp input).1
  have found : (setup.task thread).inputs[index] = dataId := (List.getElem?_eq_some_iff.mp input).2
  unfold Setup.inputsLeft Setup.chunkCount
  rw [input, List.drop_eq_getElem_cons inside, List.map_cons, List.sum_cons, found]
  simp only [Setup.inputSteps]
  omega

theorem next_look {state after : State} (moved : next setup state (.look thread) = some after) :
    ∃ place index lock chunk batch dataId,
      state.phases thread = .transfer place index lock (.planning chunk batch) ∧
      setup.inputAt thread index = some dataId ∧ chunk < (setup.chunks dataId).length ∧
      (after = state.move thread (.transfer place index lock (.planning (chunk + 1) batch)) ∨
        after = state.move thread (.transfer place index lock (.crediting chunk batch))) := by
  dsimp only [next] at moved
  split at moved
  · rename_i place index lock chunk batch here
    split at moved
    · rename_i dataId input
      split at moved
      · rename_i descriptor found
        refine ⟨place, index, lock, chunk, batch, dataId, here, input,
          (List.getElem?_eq_some_iff.mp found).1, ?_⟩
        split at moved
        · exact .inl (Option.some.inj moved).symm
        · exact .inr (Option.some.inj moved).symm
      · cases moved
    · cases moved
  · cases moved

theorem next_credit {state after : State} (moved : next setup state (.credit thread) = some after) :
    ∃ place index lock chunk batch dataId descriptor,
      state.phases thread = .transfer place index lock (.crediting chunk batch) ∧
      setup.inputAt thread index = some dataId ∧ chunk < (setup.chunks dataId).length ∧
      after = (state.credit descriptor place.nodeId).move thread
        (.transfer place index lock (.planning (chunk + 1) (batch ++ [chunk]))) := by
  dsimp only [next] at moved
  split at moved
  · rename_i place index lock chunk batch here
    split at moved
    · rename_i dataId input
      split at moved
      · rename_i descriptor found
        exact ⟨place, index, lock, chunk, batch, dataId, descriptor, here, input,
          (List.getElem?_eq_some_iff.mp found).1, (Option.some.inj moved).symm⟩
      · cases moved
    · cases moved
  · cases moved

theorem next_finish {state after : State} (moved : next setup state (.finish thread) = some after) :
    ∃ place outcome phase, state.phases thread = .finishing place outcome ∧
      after = (state.finishedOn place.nodeId).move thread phase ∧
      ((∃ result, phase = .returned result) ∨
        (place.attempt < setup.maxAttempts ∧ phase = .retrying place) ∨
        ∃ error, phase = .done (.error error)) := by
  dsimp only [next] at moved
  split at moved
  · rename_i place result here
    exact ⟨place, .ok result, .returned result, here, (Option.some.inj moved).symm, .inl ⟨result, rfl⟩⟩
  · rename_i place error here
    refine ⟨place, .error error, _, here, (Option.some.inj moved).symm, .inr ?_⟩
    split
    · rename_i again
      exact .inl ⟨again.1, rfl⟩
    · exact .inr ⟨error, rfl⟩
  · cases moved

def Advanced (setup : Setup) (state after : State) (thread : Nat) (dropped : Bool) : Prop :=
  ∃ phase, after.phases = Function.update state.phases thread phase ∧ isDropped phase = dropped ∧
    phase.left setup thread < (state.phases thread).left setup thread

theorem advanced_move {middle : State} (phases : middle.phases = state.phases)
    (here : state.phases thread = old) (less : phase.left setup thread < old.left setup thread) :
    Advanced setup state (middle.move thread phase) thread (isDropped phase) := by
  refine ⟨phase, ?_, rfl, by rw [here]; exact less⟩
  rw [← phases]
  rfl

theorem Goes.left (goes : Goes setup state thread event phase) (other : event ≠ .look thread) :
    phase.left setup thread < (state.phases thread).left setup thread := by
  cases goes with
  | leave | choose => exact absurd rfl other
  | start here | wake _ _ here =>
      rw [here]
      simp only [Phase.left, Setup.attemptSteps]
      omega
  | select _ _ _ here | noNode _ _ here | noInput _ _ here | skip _ _ _ _ here
  | unknown _ _ _ _ here | missing _ _ _ _ here | refused _ _ _ _ here | nothing _ _ _ _ here
  | chunkRefused _ _ _ _ _ _ here | awaitData _ _ _ here | dataClosed _ _ _ _ here
  | dataTimeout _ _ _ _ here | assign _ here | notAssigned _ _ here | receive _ _ here
  | resultClosed _ here | resultTimeout _ here | dropAwaiting _ here =>
      rw [here]
      simp only [Phase.left, Stage.left]
      omega
  | sendChunk _ _ _ _ _ here =>
      rw [here]
      simp only [Phase.left, Stage.left, List.length_cons]
      omega
  | dropSleeping _ _ here =>
      rw [here]
      simp only [Phase.left, Setup.attemptSteps]
      omega

theorem look_advances (moved : next setup state (.look thread) = some after) :
    Advanced setup state after thread false := by
  obtain ⟨place, index, lock, chunk, batch, dataId, here, input, inside, ends⟩ := next_look moved
  have size : setup.chunkCount thread index = (setup.chunks dataId).length := by
    simp only [Setup.chunkCount, input]
  rcases ends with rfl | rfl
  · refine advanced_move rfl here ?_
    simp only [Phase.left, Stage.left, size]
    omega
  · refine advanced_move rfl here ?_
    simp only [Phase.left, Stage.left, size]
    omega

theorem credit_advances (moved : next setup state (.credit thread) = some after) :
    Advanced setup state after thread false := by
  obtain ⟨place, index, lock, chunk, batch, dataId, descriptor, here, input, inside, rfl⟩ :=
    next_credit moved
  have size : setup.chunkCount thread index = (setup.chunks dataId).length := by
    simp only [Setup.chunkCount, input]
  refine advanced_move rfl here ?_
  simp only [Phase.left, Stage.left, size, List.length_append, List.length_singleton]
  omega

theorem finish_advances (moved : next setup state (.finish thread) = some after) :
    Advanced setup state after thread false := by
  obtain ⟨place, outcome, phase, here, rfl, ⟨result, rfl⟩ | ⟨again, rfl⟩ | ⟨error, rfl⟩⟩ :=
    next_finish moved
  · refine advanced_move rfl here ?_
    simp only [Phase.left]
    omega
  · refine advanced_move rfl here ?_
    simp only [Phase.left, retriesLeft_succ again]
    omega
  · refine advanced_move rfl here ?_
    simp only [Phase.left]
    omega

theorem Goes.dropped (goes : Goes setup state thread event phase) :
    (event.own = some thread ∧ isDropped phase = false) ∨
      (event = .cancel thread ∧ isDropped phase = true) := by
  cases goes with
  | dropAwaiting | dropSleeping => exact .inr ⟨rfl, rfl⟩
  | _ => exact .inl ⟨rfl, rfl⟩

/-- A submission moves only by a step of its own or when it is dropped, and has fewer left then. -/
theorem next_advances (moved : next setup state event = some after) :
    (event.own = none ∧ after.phases = state.phases) ∨
      (∃ thread, event.own = some thread ∧ Advanced setup state after thread false) ∨
        ∃ thread, event = .cancel thread ∧ Advanced setup state after thread true := by
  have step := next_step moved
  cases step with
  | go thread event phase goes =>
      by_cases look : event = .look thread
      · subst look
        exact .inr (.inl ⟨thread, rfl, look_advances moved⟩)
      · have advanced : Advanced setup state (state.move thread phase) thread (isDropped phase) :=
          advanced_move rfl rfl (goes.left look)
        rcases goes.dropped with ⟨own, kept⟩ | ⟨cancelled, gone⟩
        · exact .inr (.inl ⟨thread, own, kept ▸ advanced⟩)
        · exact .inr (.inr ⟨thread, cancelled, gone ▸ advanced⟩)
  | credit thread => exact .inr (.inl ⟨thread, rfl, credit_advances moved⟩)
  | finish thread => exact .inr (.inl ⟨thread, rfl, finish_advances moved⟩)
  | lookup thread place index dataId here input =>
      refine .inr (.inl ⟨thread, rfl, advanced_move (transferLock_phases _) here ?_⟩)
      simp only [Phase.left, Stage.left, inputsLeft_succ input]
      omega
  | release thread place index lock dataId here =>
      refine .inr (.inl ⟨thread, rfl, advanced_move (releaseTransfer_phases _ _) here ?_⟩)
      simp only [Phase.left, Stage.left]
      omega
  | recordOutput thread result here =>
      refine .inr (.inl ⟨thread, rfl, advanced_move (recordOutput_phases _) here ?_⟩)
      simp only [Phase.left]
      omega
  | send thread place index lock dataId stage here input connected later =>
      refine .inr (.inl ⟨thread, rfl, advanced_move rfl here ?_⟩)
      rcases later with rfl | rfl <;> simp only [Phase.left, Stage.left, List.length_nil] <;> omega
  | unlock thread place index lock outcome stage here later =>
      refine .inr (.inl ⟨thread, rfl, advanced_move rfl here ?_⟩)
      rcases later with ⟨-, rfl⟩ | ⟨_, -, rfl⟩ <;> simp only [Phase.left, Stage.left] <;> omega
  | drop thread place index lock outcome phase here later =>
      refine .inr (.inl ⟨thread, rfl, ?_⟩)
      rcases later with ⟨-, rfl⟩ | ⟨_, -, rfl⟩
      · refine advanced_move rfl here ?_
        simp only [Phase.left, Stage.left]
        omega
      · refine advanced_move rfl here ?_
        simp only [Phase.left, Stage.left]
        omega
  | begin thread _ here | acquire thread _ _ _ here | expectData thread _ _ _ _ _ _ here
  | forgetData thread _ _ _ _ _ here | record thread _ _ _ _ _ here | expectResult thread _ here
  | forget thread _ _ here =>
      refine .inr (.inl ⟨thread, rfl, advanced_move rfl here ?_⟩)
      simp only [Phase.left, Stage.left]
      omega
  | retry thread _ here =>
      refine .inr (.inl ⟨thread, rfl, advanced_move rfl here ?_⟩)
      simp only [Phase.left]
      omega
  | dropLocking thread _ _ _ here | dropSending thread _ _ _ here =>
      refine .inr (.inr ⟨thread, rfl, advanced_move rfl here ?_⟩)
      simp only [Phase.left, Stage.left]
      omega
  | register | attach | detach | forgetNode | held | evicted | ready | complete | unheard
  | unexpected => exact .inl ⟨rfl, rfl⟩

def State.left (setup : Setup) (state : State) : Nat :=
  ∑ thread ∈ Finset.range setup.count, (state.phases thread).left setup thread

theorem Advanced.left {dropped : Bool} (locked : Locked setup state) (later : Locked setup after)
    (advanced : Advanced setup state after thread dropped) :
    after.left setup + 1 ≤ state.left setup := by
  obtain ⟨phase, phases, -, less⟩ := advanced
  have inside : thread < setup.count := by
    by_contra beyond
    have still := later.inside thread (Nat.le_of_not_lt beyond)
    rw [phases, Function.update_self] at still
    rw [still, locked.inside thread (Nat.le_of_not_lt beyond)] at less
    exact Nat.lt_irrefl _ less
  have shifted := @sum_shift Nat _ (Finset.range setup.count) thread (Finset.mem_range.mpr inside)
    (fun other => (state.phases other).left setup other)
    (fun other => (after.phases other).left setup other)
    (fun other different => by rw [phases, Function.update_of_ne different])
  simp only [phases, Function.update_self] at shifted
  simp only [State.left, phases]
  omega

theorem next_left (locked : Locked setup state) (moved : next setup state event = some after) :
    after.left setup + event.own.isSome.toNat ≤ state.left setup := by
  have later := locked.step (next_step moved)
  rcases next_advances moved with ⟨quiet, same⟩ | ⟨thread, own, advanced⟩ | ⟨thread, rfl, advanced⟩
  · rw [quiet, State.left, State.left, same]
    exact Nat.le_refl _
  · rw [own]
    exact advanced.left locked later
  · exact (Nat.le_succ _).trans (advanced.left locked later)

/-- No step of their own drops submissions, and one that is dropped takes none. -/
theorem next_dropped (moved : next setup state event = some after) (own : event.own.isSome = true)
    (thread : Nat) : isDropped (after.phases thread) = isDropped (state.phases thread) := by
  rcases next_advances moved with ⟨quiet, -⟩ | ⟨mover, -, phase, phases, kept, less⟩ | ⟨mover, rfl, -⟩
  · rw [quiet] at own
    cases own
  · rw [phases]
    by_cases same : thread = mover
    · subst same
      rw [Function.update_self, kept]
      cases here : state.phases thread with
      | dropped =>
          rw [here] at less
          exact absurd less (Nat.not_lt_zero _)
      | _ => rfl
    · rw [Function.update_of_ne same]
  · cases own

def Stage.within (chunks : Nat) : Stage → Prop
  | .planning chunk _ => chunk ≤ chunks
  | .crediting chunk _ => chunk < chunks
  | _ => True

def Planned (setup : Setup) (state : State) : Prop :=
  ∀ thread place index lock stage dataId,
    state.phases thread = .transfer place index lock stage →
      setup.inputAt thread index = some dataId → stage.within (setup.chunks dataId).length

theorem Planned.move (planned : Planned setup state)
    (phases : after.phases = Function.update state.phases thread phase)
    (inside : ∀ place index lock stage dataId, phase = .transfer place index lock stage →
      setup.inputAt thread index = some dataId → stage.within (setup.chunks dataId).length) :
    Planned setup after := by
  intro other place index lock stage dataId here input
  rw [phases] at here
  by_cases same : other = thread
  · subst same
    rw [Function.update_self] at here
    exact inside place index lock stage dataId here input
  · rw [Function.update_of_ne same] at here
    exact planned other place index lock stage dataId here input

theorem Goes.within (goes : Goes setup state thread event phase) (other : event ≠ .look thread)
    {place : Place} {index lock : Nat} {stage : Stage} (ends : phase = .transfer place index lock stage)
    (chunks : Nat) : stage.within chunks := by
  cases goes with
  | leave | choose => exact absurd rfl other
  | _ =>
      cases ends
      try trivial

theorem look_planned (planned : Planned setup state)
    (moved : next setup state (.look thread) = some after) : Planned setup after := by
  obtain ⟨place, index, lock, chunk, batch, dataId, here, input, inside, rfl | rfl⟩ := next_look moved
  · refine planned.move rfl ?_
    rintro _ _ _ _ other ⟨⟩ found
    obtain rfl := Option.some.inj (input.symm.trans found)
    exact inside
  · refine planned.move rfl ?_
    rintro _ _ _ _ other ⟨⟩ found
    obtain rfl := Option.some.inj (input.symm.trans found)
    exact inside

theorem credit_planned (planned : Planned setup state)
    (moved : next setup state (.credit thread) = some after) : Planned setup after := by
  obtain ⟨place, index, lock, chunk, batch, dataId, descriptor, here, input, inside, rfl⟩ :=
    next_credit moved
  refine planned.move rfl ?_
  rintro _ _ _ _ other ⟨⟩ found
  obtain rfl := Option.some.inj (input.symm.trans found)
  exact inside

theorem Planned.step (planned : Planned setup state) (moved : next setup state event = some after) :
    Planned setup after := by
  have step := next_step moved
  cases step with
  | go thread event phase goes =>
      by_cases look : event = .look thread
      · subst look
        exact look_planned planned moved
      · exact planned.move rfl fun _ _ _ _ _ ends _ => goes.within look ends _
  | credit thread => exact credit_planned planned moved
  | lookup thread place index dataId here input =>
      refine planned.move (congrArg (Function.update · thread _) (transferLock_phases _)) ?_
      rintro _ _ _ _ _ ⟨⟩ -
      trivial
  | release thread place index lock dataId here =>
      refine planned.move (congrArg (Function.update · thread _) (releaseTransfer_phases _ _)) ?_
      rintro _ _ _ _ _ ⟨⟩ -
      trivial
  | recordOutput thread result here =>
      exact planned.move (congrArg (Function.update · thread _) (recordOutput_phases _)) nofun
  | send thread place index lock dataId stage here input connected later =>
      refine planned.move rfl ?_
      rintro _ _ _ _ _ ⟨⟩ -
      rcases later with rfl | rfl
      · exact Nat.zero_le _
      · trivial
  | unlock thread place index lock outcome stage here later =>
      refine planned.move rfl ?_
      rintro _ _ _ _ _ ⟨⟩ -
      rcases later with ⟨-, rfl⟩ | ⟨_, -, rfl⟩ <;> trivial
  | drop thread place index lock outcome phase here later =>
      rcases later with ⟨-, rfl⟩ | ⟨_, -, rfl⟩ <;> exact planned.move rfl nofun
  | finish thread place outcome phase here later =>
      rcases later with ⟨_, -, rfl⟩ | ⟨_, -, ⟨-, rfl⟩ | rfl⟩ <;> exact planned.move rfl nofun
  | begin | expectResult | forget | retry | dropLocking | dropSending => exact planned.move rfl nofun
  | acquire | expectData | forgetData | record =>
      refine planned.move rfl ?_
      rintro _ _ _ _ _ ⟨⟩ -
      trivial
  | register | attach | detach | forgetNode | held | evicted | ready | complete | unheard
  | unexpected => exact planned

theorem manned_move {locks : Locks (NodeId × DataId)} {new : Standing (NodeId × DataId)}
    (manned : Manned locks (Function.update
      (fun other => standing setup other (phases other)) thread new))
    (here : standing setup thread phase = new) :
    Manned locks fun other => standing setup other (Function.update phases thread phase other) := by
  convert manned using 1
  funext other
  rw [Function.apply_update (standing setup), here]

theorem manned_same {locks : Locks (NodeId × DataId)}
    (manned : Manned locks fun other => standing setup other (phases other))
    (here : phases thread = old) (same : standing setup thread phase = standing setup thread old) :
    Manned locks fun other => standing setup other (Function.update phases thread phase other) := by
  refine @manned_move setup thread phase phases locks (standing setup thread old) ?_ same
  rw [← here, Function.update_eq_self thread]
  exact manned

theorem manned_step (locked : Locked setup state)
    (manned : Manned state.locks fun thread => standing setup thread (state.phases thread))
    (step : Step setup state event after) :
    Manned after.locks fun thread => standing setup thread (after.phases thread) := by
  cases step with
  | go thread event phase goes => exact manned_same manned rfl goes.standing_same
  | lookup thread place index dataId here input =>
      obtain ⟨locks, lock⟩ := @transferLock_locks state (place.nodeId, dataId)
      have phases := @transferLock_phases state (place.nodeId, dataId)
      have found := @Manned.lookup _ state.locks _ thread
        (.waiting (place.nodeId, dataId) (state.locks.lookup (place.nodeId, dataId)).2) _ manned
        (by rw [here]; rfl) (place.nodeId, dataId)
      rw [← locks, ← lock, ← phases] at found
      exact manned_move found (standing_transfer input)
  | acquire thread place index lock here free =>
      obtain ⟨dataId, input, waits⟩ := locked.at_transfer here
      exact manned_move (manned.acquire waits) (standing_transfer input)
  | unlock thread place index lock outcome stage here later =>
      obtain ⟨dataId, input, holds⟩ := locked.at_transfer here
      exact manned_move (manned.unlock holds) rfl
  | release thread place index lock dataId here input =>
      have phases := @releaseTransfer_phases state (place.nodeId, dataId) lock
      have owners : (state.releaseTransfer (place.nodeId, dataId) lock).owners = state.owners := by
        obtain ⟨_, _, frame⟩ := @releaseTransfer_frame state (place.nodeId, dataId) lock
        rw [frame]
      have parted : Manned (state.releaseTransfer (place.nodeId, dataId) lock).locks _ :=
        @Manned.move _ state.locks _ thread (.parting lock) manned _
          (fun mutex party owns => (congrFun owners mutex).symm.trans owns) (fun _ _ holds => by
            rw [here, standing_transfer input] at holds
            cases holds)
      rw [← phases] at parted
      exact manned_move parted (standing_transfer input)
  | drop thread place index lock outcome phase here later =>
      obtain ⟨dataId, input, leaves⟩ := locked.at_transfer here
      refine manned_move (manned.move (fun _ _ => id) fun _ _ holds => ?_) rfl
      rw [leaves] at holds
      rcases later with ⟨rfl, -⟩ | ⟨_, rfl, -⟩ <;> cases holds
  | dropLocking thread place index lock here =>
      obtain ⟨dataId, input, waits⟩ := locked.at_transfer here
      refine manned_move (manned.move (fun _ _ => id) fun _ _ holds => ?_) rfl
      rw [waits] at holds
      cases holds
  | dropSending thread place index lock here =>
      obtain ⟨dataId, input, holds⟩ := locked.at_transfer here
      exact manned_move (manned.unlock holds) rfl
  | finish thread place outcome phase here later =>
      rcases later with ⟨_, -, rfl⟩ | ⟨_, -, ⟨-, rfl⟩ | rfl⟩ <;> exact manned_same manned here rfl
  | recordOutput thread result here =>
      obtain ⟨_, _, frame⟩ := @recordOutput_frame setup state result
      rw [State.move, frame]
      exact manned_same manned here rfl
  | send thread place index lock dataId stage here input connected later =>
      rcases later with rfl | rfl <;> exact manned_same manned here rfl
  | begin _ _ here | credit _ _ _ _ _ _ _ here | expectData _ _ _ _ _ _ _ here
  | forgetData _ _ _ _ _ _ here | record _ _ _ _ _ _ here | expectResult _ _ here
  | forget _ _ _ here | retry _ _ here => exact manned_same manned here rfl
  | register | attach | detach | forgetNode | held | evicted | ready | complete | unheard
  | unexpected => exact manned

structure Sane (setup : Setup) (state : State) : Prop where
  locked : Locked setup state
  planned : Planned setup state
  manned : Manned state.locks fun thread => standing setup thread (state.phases thread)

theorem sane_start (setup : Setup) (catalog : DataCatalog) (store : DataId → Option Bytes)
    (connected : Finset NodeId) : Sane setup (.start catalog store connected) where
  locked := locked_start setup catalog store connected
  planned := nofun
  manned := .start

theorem Sane.step (sane : Sane setup state) (moved : next setup state event = some after) :
    Sane setup after where
  locked := sane.locked.step (next_step moved)
  planned := sane.planned.step moved
  manned := manned_step sane.locked sane.manned (next_step moved)

def hasEnded : Phase → Bool
  | .done _ | .dropped _ => true
  | _ => false

def CanStep (setup : Setup) (state : State) (thread : Nat) : Prop :=
  ∃ event after, event.own = some thread ∧ next setup state event = some after

theorem canStep_of_isSome (event : Event) (own : event.own = some thread)
    (some : (next setup state event).isSome = true) : CanStep setup state thread := by
  obtain ⟨after, moved⟩ := Option.isSome_iff_exists.mp some
  exact ⟨event, after, own, moved⟩

theorem Sane.planning (sane : Sane setup state) {place : Place} {index lock chunk : Nat}
    {batch : List Nat} {dataId : DataId}
    (here : state.phases thread = .transfer place index lock (.planning chunk batch))
    (input : setup.inputAt thread index = some dataId) : CanStep setup state thread := by
  have within : chunk ≤ (setup.chunks dataId).length :=
    sane.planned thread place index lock _ dataId here input
  by_cases last : chunk = (setup.chunks dataId).length
  · refine canStep_of_isSome (.expectData thread) rfl ?_
    simp only [next, here, input, if_pos last]
    split <;> rfl
  · have inside : chunk < (setup.chunks dataId).length := by omega
    refine canStep_of_isSome (.look thread) rfl ?_
    simp only [next, here, input, List.getElem?_eq_getElem inside]
    split <;> rfl

theorem Sane.transfer (sane : Sane setup state) {place : Place} {index lock : Nat} {stage : Stage}
    (here : state.phases thread = .transfer place index lock stage)
    (free : stage = .locking → state.owners lock = none) : CanStep setup state thread := by
  obtain ⟨dataId, input, -⟩ := sane.locked.at_transfer here
  cases stage with
  | locking =>
      refine canStep_of_isSome (.acquire thread) rfl ?_
      simp only [next, here, if_pos (free rfl), Option.isSome_some]
  | checking =>
      refine canStep_of_isSome (.check thread) rfl ?_
      simp only [next, here, input]
      split
      · rfl
      · split <;> rfl
  | sending =>
      refine canStep_of_isSome (.send thread (some "")) rfl ?_
      simp only [next, here, Option.isSome_some]
  | planning chunk batch => exact sane.planning here input
  | crediting chunk batch =>
      have inside : chunk < (setup.chunks dataId).length :=
        sane.planned thread place index lock _ dataId here input
      refine canStep_of_isSome (.credit thread) rfl ?_
      simp only [next, here, input, List.getElem?_eq_getElem inside, Option.isSome_some]
  | sendingChunks left =>
      cases left with
      | cons chunk left =>
          refine canStep_of_isSome (.sendChunk thread none) rfl ?_
          simp only [next, here, Option.isSome_some]
      | nil =>
          cases answered : state.arrived thread with
          | true =>
              refine canStep_of_isSome (.awaitData thread) rfl ?_
              simp only [next, here, answered, if_true, Option.isSome_some]
          | false =>
              refine canStep_of_isSome (.dataTimeout thread "") rfl ?_
              simp only [next, here, answered, if_true, Option.isSome_some]
  | forgetting error =>
      refine canStep_of_isSome (.forgetData thread) rfl ?_
      simp only [next, here, input, Option.isSome_some]
  | recording =>
      refine canStep_of_isSome (.record thread) rfl ?_
      simp only [next, here, input, Option.isSome_some]
  | unlocking outcome =>
      refine canStep_of_isSome (.unlock thread) rfl ?_
      cases outcome <;> simp only [next, here, Option.isSome_some]
  | releasing =>
      refine canStep_of_isSome (.release thread) rfl ?_
      simp only [next, here, input, Option.isSome_some]
  | dropping outcome =>
      refine canStep_of_isSome (.drop thread) rfl ?_
      cases outcome <;> simp only [next, here, Option.isSome_some]

theorem dispatch_canStep {place : Place} {call : Call}
    (here : state.phases thread = .dispatch place call) : CanStep setup state thread := by
  cases call with
  | expecting =>
      refine canStep_of_isSome (.expectResult thread) rfl ?_
      simp only [next, here, Option.isSome_some]
  | assigning =>
      refine canStep_of_isSome (.assign thread (some "")) rfl ?_
      simp only [next, here, Option.isSome_some]
  | awaiting =>
      cases answered : state.mailbox thread with
      | some result =>
          refine canStep_of_isSome (.receive thread) rfl ?_
          simp only [next, here, answered, Option.isSome_some]
      | none =>
          refine canStep_of_isSome (.resultTimeout thread) rfl ?_
          simp only [next, here, answered, if_true, Option.isSome_some]
  | forgetting error =>
      refine canStep_of_isSome (.forget thread) rfl ?_
      simp only [next, here, Option.isSome_some]

/-- A submission waits for nothing but a lock that another one owns. -/
theorem Sane.goes_on (sane : Sane setup state) (inside : thread < setup.count)
    (busy : hasEnded (state.phases thread) = false)
    (free : ∀ place index lock, state.phases thread = .transfer place index lock .locking →
      state.owners lock = none) : CanStep setup state thread := by
  cases here : state.phases thread with
  | idle =>
      refine canStep_of_isSome (.start thread) rfl ?_
      simp only [next, here, inside, and_self, if_true, Option.isSome_some]
  | selecting attempt unusable =>
      refine canStep_of_isSome (.select thread none) rfl ?_
      simp only [next, here, Option.isSome_some]
  | beginning place =>
      refine canStep_of_isSome (.begin thread) rfl ?_
      simp only [next, here, Option.isSome_some]
  | input place index =>
      refine canStep_of_isSome (.lookup thread) rfl ?_
      simp only [next, here]
      split <;> rfl
  | transfer place index lock stage =>
      refine sane.transfer here ?_
      rintro rfl
      exact free place index lock here
  | dispatch place call => exact dispatch_canStep here
  | finishing place outcome =>
      refine canStep_of_isSome (.finish thread) rfl ?_
      cases outcome <;> simp only [next, here, Option.isSome_some]
  | returned result =>
      refine canStep_of_isSome (.recordOutput thread) rfl ?_
      simp only [next, here, Option.isSome_some]
  | retrying place =>
      refine canStep_of_isSome (.retry thread) rfl ?_
      simp only [next, here, Option.isSome_some]
  | sleeping attempt unusable =>
      refine canStep_of_isSome (.wake thread) rfl ?_
      simp only [next, here, Option.isSome_some]
  | done | dropped =>
      rw [here] at busy
      cases busy

theorem Sane.owner_goes_on (sane : Sane setup state) {lock : Nat}
    (owns : state.owners lock = some thread) : CanStep setup state thread := by
  obtain ⟨key, holds⟩ := sane.manned lock thread owns
  change standing setup thread (state.phases thread) = .holding key lock at holds
  cases here : state.phases thread with
  | transfer place index mutex stage =>
      refine sane.transfer here ?_
      rintro rfl
      obtain ⟨dataId, input, waits⟩ := sane.locked.at_transfer here
      rw [waits] at holds
      cases holds
  | _ =>
      rw [here] at holds
      cases holds

theorem Sane.busy_goes_on (sane : Sane setup state) (inside : thread < setup.count)
    (busy : hasEnded (state.phases thread) = false) : CanStep setup state thread ∨
      ∃ place index lock other, state.phases thread = .transfer place index lock .locking ∧
        state.owners lock = some other ∧ CanStep setup state other := by
  by_cases held : ∃ place index lock other,
      state.phases thread = .transfer place index lock .locking ∧ state.owners lock = some other
  · obtain ⟨place, index, lock, other, here, owns⟩ := held
    exact .inr ⟨place, index, lock, other, here, owns, sane.owner_goes_on owns⟩
  · refine .inl (sane.goes_on inside busy ?_)
    intro place index lock here
    cases owns : state.owners lock with
    | none => rfl
    | some other => exact absurd ⟨place, index, lock, other, here, owns⟩ held

theorem left_start (setup : Setup) (catalog : DataCatalog) (store : DataId → Option Bytes)
    (connected : Finset NodeId) : (State.start catalog store connected).left setup =
      ∑ thread ∈ Finset.range setup.count, setup.steps thread := by
  apply Finset.sum_congr rfl
  intro thread _
  simp only [State.start, Phase.left, Setup.retriesLeft, Setup.steps, Nat.succ_mul]

/-- However the submissions and the mesh interleave, the submissions together take a bounded number
of steps. One that is not over can go on, or waits for a lock that another one owns who can. Without
anything from the mesh they can all be brought to an end within the bound, and each that was not
dropped then has an outcome. -/
theorem submissions_end (setup : Setup) (catalog : DataCatalog) (store : DataId → Option Bytes)
    (connected : Finset NodeId) (events : List Event) (state : State)
    (ran : run (next setup) (.start catalog store connected) events = some state) :
    effort (fun event => event.own.isSome) events ≤
      ∑ thread ∈ Finset.range setup.count, setup.steps thread ∧
    (∀ thread < setup.count, hasEnded (state.phases thread) = false → CanStep setup state thread ∨
      ∃ place index lock other, state.phases thread = .transfer place index lock .locking ∧
        state.owners lock = some other ∧ CanStep setup state other) ∧
    ∃ later final, (∀ event ∈ later, event.own.isSome = true) ∧
      effort (fun event => event.own.isSome) events + later.length ≤
        ∑ thread ∈ Finset.range setup.count, setup.steps thread ∧
      run (next setup) state later = some final ∧ ∀ thread < setup.count,
        if isDropped (state.phases thread) then isDropped (final.phases thread) = true
        else ∃ outcome, final.phases thread = .done outcome := by
  have sane : Sane setup state :=
    run_invariant (sane_start setup catalog store connected)
      (fun _ _ _ sane moved => sane.step moved) ran
  have bounded : effort (fun event => event.own.isSome) events + state.left setup ≤
      ∑ thread ∈ Finset.range setup.count, setup.steps thread := by
    rw [← left_start setup catalog store connected]
    exact effort_bounded (sane_start setup catalog store connected)
      (fun _ _ _ sane moved => sane.step moved)
      (fun _ _ _ sane moved => next_left sane.locked moved) ran
  refine ⟨by omega, fun thread inside busy => sane.busy_goes_on inside busy, ?_⟩
  have goes : ∀ reached, Sane setup reached ∧
      (∀ thread, isDropped (reached.phases thread) = isDropped (state.phases thread)) →
      (¬ ∀ thread < setup.count, hasEnded (reached.phases thread) = true) →
        ∃ event after, event.own.isSome = true ∧ next setup reached event = some after := by
    rintro reached ⟨sane, -⟩ unsettled
    push Not at unsettled
    obtain ⟨thread, inside, busy⟩ := unsettled
    rcases sane.busy_goes_on inside (Bool.eq_false_iff.mpr busy) with
      ⟨event, after, own, moved⟩ | ⟨-, -, -, other, -, -, event, after, own, moved⟩
    · exact ⟨event, after, by rw [own]; rfl, moved⟩
    · exact ⟨event, after, by rw [own]; rfl, moved⟩
  obtain ⟨later, final, works, short, reached, kept, ends⟩ := @settles State Event (next setup)
    (fun event => event.own.isSome) (fun reached => reached.left setup) _ _ state
    ⟨sane, fun _ => rfl⟩
    (fun _ _ _ kept own moved => ⟨kept.1.step moved, fun thread =>
      (next_dropped moved own thread).trans (kept.2 thread)⟩)
    (fun _ _ _ kept moved => next_left kept.1.locked moved) goes
  refine ⟨later, final, works, by omega, reached, ?_⟩
  intro thread inside
  have ended := ends thread inside
  rw [← kept.2 thread]
  cases here : final.phases thread with
  | done outcome => exact ⟨outcome, rfl⟩
  | dropped => rfl
  | _ =>
      rw [here] at ended
      cases ended

theorem shared_transfer_ends :
    ∃ state, run (next readsTwice) (.start .new holdsBytes {⟨0⟩}) sharesTransfer = some state ∧
      ∃ later final, run (next readsTwice) state later = some final ∧
        ∀ thread < 2, if isDropped (state.phases thread) then isDropped (final.phases thread) = true
          else ∃ outcome, final.phases thread = .done outcome := by
  have tested : (run (next readsTwice) (.start .new holdsBytes {⟨0⟩}) sharesTransfer).any
      (fun _ => true) = true := by decide
  obtain ⟨state, ran, -⟩ := run_tested tested
  obtain ⟨-, -, later, final, -, -, reached, ends⟩ :=
    submissions_end readsTwice .new holdsBytes {⟨0⟩} sharesTransfer state ran
  exact ⟨state, ran, later, final, reached, ends⟩

end AetherMesh.Submissions
