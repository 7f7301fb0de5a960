import AetherMesh.Controller.Submissions
import AetherMesh.Library.Counting
import AetherMesh.Library.Waiters

/-!
What a submission leaves behind when it is dropped. The count of work in flight and the
entries among the waiters are taken back by the code after the wait, so a submission
that is dropped while it waits leaves them.
-/

namespace AetherMesh.Submissions

open Counting Runs Waiters

variable {setup : Setup} {state after : State} {event : Event} {thread : Nat} {phase : Phase}

def countedOn : Phase → Option NodeId
  | .input place _ | .transfer place _ _ _ | .dispatch place _ | .finishing place _ =>
      some place.nodeId
  | .dropped counted => counted
  | _ => none

def lost : Phase → Bool
  | .dropped counted => counted.isSome
  | _ => false

def awaitedTask (setup : Setup) (thread : Nat) : Phase → Option TaskId
  | .dispatch _ .assigning | .dispatch _ .awaiting | .dispatch _ (.forgetting _) =>
      some (setup.taskId thread)
  | _ => none

def awaitedData (setup : Setup) (thread : Nat) : Phase → Option (NodeId × DataId)
  | .transfer place index _ (.sendingChunks _) | .transfer place index _ (.forgetting _) =>
      (setup.inputAt thread index).map fun dataId => (place.nodeId, setup.announcedId dataId)
  | _ => none

/-- No submission is dropped by the event while it is counted on a node. -/
def spared (state : State) : Event → Bool
  | .cancel thread => countedOn (state.phases thread) = none
  | _ => true

def transferring : Phase → Option Nat
  | .transfer _ index _ _ => some index
  | _ => none

def counts (nodeId : NodeId) (phase : Phase) : Bool := countedOn phase = some nodeId

def Results (setup : Setup) (state : State) : Prop :=
  Kept state.pending (fun thread => (state.mailbox thread).isSome)
    (fun thread => awaitedTask setup thread (state.phases thread))
    fun thread => lost (state.phases thread)

def Datasets (setup : Setup) (state : State) : Prop :=
  Kept state.pendingData state.arrived
    (fun thread => awaitedData setup thread (state.phases thread))
    fun thread => lost (state.phases thread)

structure Accounted (setup : Setup) (state : State) : Prop where
  inside : ∀ thread, setup.count ≤ thread → state.phases thread = .idle
  counted : ∀ nodeId, state.inFlight nodeId =
    tally setup.count fun thread => counts nodeId (state.phases thread)
  results : Results setup state
  datasets : Datasets setup state

theorem Goes.steady (goes : Goes setup state thread event phase) :
    (state.phases thread = .idle → thread < setup.count) ∧ lost (state.phases thread) = false ∧
      countedOn phase = countedOn (state.phases thread) ∧ spared state event = (!lost phase) ∧
      transferring phase = transferring (state.phases thread) := by
  cases goes with
  | start atIdle bound =>
      refine ⟨fun _ => bound, ?_, ?_, rfl, ?_⟩
      · rw [atIdle]
        rfl
      · rw [atIdle]
        rfl
      · rw [atIdle]
        rfl
  | dropAwaiting _ here | dropSleeping _ _ here =>
      simp only [spared, here]
      exact ⟨nofun, rfl, rfl, rfl, rfl⟩
  | select _ _ _ here | noNode _ _ here | noInput _ _ here | skip _ _ _ _ here
  | unknown _ _ _ _ here | missing _ _ _ _ here | refused _ _ _ _ here | leave _ _ _ _ _ here
  | choose _ _ _ _ _ here | nothing _ _ _ _ here | sendChunk _ _ _ _ _ here
  | chunkRefused _ _ _ _ _ _ here | awaitData _ _ _ here | dataClosed _ _ _ _ here
  | dataTimeout _ _ _ _ here | assign _ here | notAssigned _ _ here | receive _ _ here
  | resultClosed _ here | resultTimeout _ here | wake _ _ here =>
      rw [here]
      exact ⟨nofun, rfl, rfl, rfl, rfl⟩

structure Follows (setup : Setup) (state : State) (event : Event) (after : State) (thread : Nat)
    (phase : Phase) : Prop where
  phases : after.phases = Function.update state.phases thread phase
  inside : state.phases thread = .idle → thread < setup.count
  present : lost (state.phases thread) = false
  fate : spared state event = !lost phase
  input : ∀ index, transferring phase = some index →
    transferring (state.phases thread) = some index ∨ (setup.inputAt thread index).isSome = true
  inFlight : ∀ nodeId, after.inFlight nodeId = state.inFlight nodeId +
    (counts nodeId phase).toNat - (counts nodeId (state.phases thread)).toNat

theorem Follows.steady {old : Phase} (here : state.phases thread = old)
    (phases : after.phases = Function.update state.phases thread phase) (busy : old ≠ .idle)
    (present : lost old = false) (same : countedOn phase = countedOn old)
    (fate : spared state event = !lost phase) (inFlight : after.inFlight = state.inFlight)
    (input : ∀ index, transferring phase = some index → transferring old = some index ∨
      (setup.inputAt thread index).isSome = true) :
    Follows setup state event after thread phase where
  phases := phases
  inside := fun idle => absurd (here.symm.trans idle) busy
  present := by rw [here, present]
  fate := fate
  input := by rwa [here]
  inFlight := fun nodeId => by rw [inFlight, here, counts, counts, same, Nat.add_sub_cancel]

theorem Step.follows (step : Step setup state event after) :
    (after.phases = state.phases ∧ after.inFlight = state.inFlight ∧ spared state event = true) ∨
      ∃ thread phase, Follows setup state event after thread phase := by
  cases step with
  | go thread event phase goes =>
      obtain ⟨inside, present, same, fate, input⟩ := goes.steady
      refine .inr ⟨thread, phase, rfl, inside, present, fate, fun _ => input ▸ .inl, fun nodeId => ?_⟩
      rw [counts, counts, same, Nat.add_sub_cancel]
      rfl
  | begin thread place here =>
      refine .inr ⟨thread, _, rfl, fun idle => by simp [here] at idle, by rw [here]; rfl, rfl,
        nofun, ?_⟩
      intro nodeId
      rw [here]
      by_cases same : nodeId = place.nodeId
      · subst same
        simp [State.move, State.beginOn, counts, countedOn]
      · simp [State.move, State.beginOn, counts, countedOn, same, Ne.symm same]
  | finish thread place outcome phase here later =>
      have out : (∀ nodeId, counts nodeId phase = false) ∧ lost phase = false ∧
          transferring phase = none := by
        rcases later with ⟨_, -, rfl⟩ | ⟨_, -, ⟨-, rfl⟩ | rfl⟩ <;> exact ⟨fun _ => rfl, rfl, rfl⟩
      obtain ⟨away, kept, none⟩ := out
      refine .inr ⟨thread, _, rfl, fun idle => by simp [here] at idle, by rw [here]; rfl,
        by rw [kept]; rfl, fun _ input => by simp [none] at input, ?_⟩
      intro nodeId
      rw [here, away]
      by_cases same : nodeId = place.nodeId
      · subst same
        simp [State.move, State.finishedOn, counts, countedOn]
      · simp [State.move, State.finishedOn, counts, countedOn, same, Ne.symm same]
  | lookup thread place index dataId here input =>
      obtain ⟨_, _, _, _, frame⟩ := @transferLock_frame state (place.nodeId, dataId)
      rw [State.move, frame]
      refine .inr ⟨thread, _, .steady here rfl nofun rfl rfl rfl rfl ?_⟩
      rintro _ ⟨⟩
      exact .inr (by rw [input]; rfl)
  | release thread place index lock dataId here =>
      obtain ⟨_, _, frame⟩ := @releaseTransfer_frame state (place.nodeId, dataId) lock
      rw [State.move, frame]
      exact .inr ⟨thread, _, .steady here rfl nofun rfl rfl rfl rfl fun _ => .inl⟩
  | recordOutput thread result here =>
      obtain ⟨_, _, frame⟩ := @recordOutput_frame setup state result
      rw [State.move, frame]
      exact .inr ⟨thread, _, .steady here rfl nofun rfl rfl rfl rfl fun _ => .inl⟩
  | drop thread place index lock outcome phase here later =>
      rcases later with ⟨-, rfl⟩ | ⟨_, -, rfl⟩ <;>
        exact .inr ⟨thread, _, .steady here rfl nofun rfl rfl rfl rfl nofun⟩
  | dropLocking thread place index lock here | dropSending thread place index lock here =>
      refine .inr ⟨thread, _, .steady here rfl nofun rfl rfl ?_ rfl nofun⟩
      simp only [spared, here]
      rfl
  | acquire thread _ _ _ here | send thread _ _ _ _ _ here | credit thread _ _ _ _ _ _ here
  | expectData thread _ _ _ _ _ _ here | forgetData thread _ _ _ _ _ here
  | record thread _ _ _ _ _ here | unlock thread _ _ _ _ _ here | expectResult thread _ here
  | forget thread _ _ here | retry thread _ here =>
      exact .inr ⟨thread, _, .steady here rfl nofun rfl rfl rfl rfl fun _ => .inl⟩
  | _ => exact .inl ⟨rfl, rfl, rfl⟩

theorem Accounted.inside_step (inside : ∀ thread, setup.count ≤ thread → state.phases thread = .idle)
    (step : Step setup state event after) (thread : Nat) (outside : setup.count ≤ thread) :
    after.phases thread = .idle := by
  rcases step.follows with ⟨same, -⟩ | ⟨mover, phase, follows⟩
  · rw [same]
    exact inside thread outside
  · have different : thread ≠ mover := by
      rintro rfl
      have bound := follows.inside (inside thread outside)
      omega
    rw [follows.phases, Function.update_of_ne different]
    exact inside thread outside

theorem Accounted.counted_step
    (inside : ∀ thread, setup.count ≤ thread → state.phases thread = .idle)
    (counted : ∀ nodeId, state.inFlight nodeId =
      tally setup.count fun thread => counts nodeId (state.phases thread))
    (step : Step setup state event after) (nodeId : NodeId) :
    after.inFlight nodeId = tally setup.count fun thread => counts nodeId (after.phases thread) := by
  rcases step.follows with ⟨phases, inFlight, -⟩ | ⟨mover, phase, follows⟩
  · rw [phases, inFlight]
    exact counted nodeId
  · have bound : mover < setup.count := by
      by_contra outside
      exact outside (follows.inside (inside mover (by omega)))
    have shifted := @tally_shift setup.count mover (fun thread => counts nodeId (state.phases thread))
      (fun thread => counts nodeId (after.phases thread)) bound fun other different => by
        rw [follows.phases, Function.update_of_ne different]
    simp only [follows.phases, Function.update_self] at shifted
    rw [follows.inFlight, counted, follows.phases]
    omega

section

variable {Key : Type*} {table : Key → Option Nat} {heard : Nat → Bool}
  {waits : Nat → Phase → Option Key} {phases : Nat → Phase} {old : Phase}

theorem kept_of_update {new : Option Key} {gone : Bool}
    (kept : Kept table heard
      (Function.update (fun other => waits other (phases other)) thread new)
      (Function.update (fun other => lost (phases other)) thread gone))
    (waiting : waits thread phase = new) (fate : lost phase = gone) :
    Kept table heard (fun other => waits other (Function.update phases thread phase other))
      fun other => lost (Function.update phases thread phase other) := by
  convert kept using 1
  · funext other
    rw [Function.apply_update waits, waiting]
  · funext other
    rw [Function.apply_update (fun _ => lost), fate]

theorem kept_move
    (kept : Kept table heard (fun other => waits other (phases other))
      fun other => lost (phases other))
    (here : phases thread = old) (same : waits thread phase = waits thread old)
    (fate : lost phase = lost old) :
    Kept table heard (fun other => waits other (Function.update phases thread phase other))
      fun other => lost (Function.update phases thread phase other) := by
  refine kept_of_update ?_ same fate
  rw [← here, Function.update_eq_self thread, Function.update_eq_self thread]
  exact kept

theorem kept_leave
    (kept : Kept table heard (fun other => waits other (phases other))
      fun other => lost (phases other))
    (here : phases thread = old) (present : lost old = false) {key : Key}
    (waited : waits thread old = some key) (clear : table key ≠ some thread)
    (stopped : waits thread phase = none) :
    Kept table heard (fun other => waits other (Function.update phases thread phase other))
      fun other => lost (Function.update phases thread phase other) := by
  refine kept_of_update (kept.leave (kept.absent (by rw [here, present]) ?_) (lost phase)) stopped rfl
  intro other waiting
  rw [here, waited, Option.some.injEq] at waiting
  rw [← waiting]
  exact clear

end

theorem Goes.results (goes : Goes setup state thread event phase) (kept : Results setup state) :
    Results setup (state.move thread phase) := by
  cases goes with
  | receive place result here answered =>
      refine kept_leave kept here rfl rfl ?_ rfl
      exact kept.unheard _ thread (by rw [answered]; rfl) (by rw [here]; rfl)
  | resultClosed place here gone => exact kept_leave kept here rfl rfl gone rfl
  | dropAwaiting place here => exact kept_of_update (kept.lose _) rfl rfl
  | start here => exact kept_move kept here rfl rfl
  | select _ _ _ here | noNode _ _ here | noInput _ _ here | skip _ _ _ _ here
  | unknown _ _ _ _ here | missing _ _ _ _ here | refused _ _ _ _ here | leave _ _ _ _ _ here
  | choose _ _ _ _ _ here | nothing _ _ _ _ here | sendChunk _ _ _ _ _ here
  | chunkRefused _ _ _ _ _ _ here | awaitData _ _ _ here | dataClosed _ _ _ _ here
  | dataTimeout _ _ _ _ here | assign _ here | notAssigned _ _ here | resultTimeout _ here
  | wake _ _ here | dropSleeping _ _ here => exact kept_move kept here rfl rfl

theorem Goes.datasets (goes : Goes setup state thread event phase)
    (kept : Datasets setup state) : Datasets setup (state.move thread phase) := by
  cases goes with
  | awaitData place index lock here arrived =>
      cases input : setup.inputAt thread index with
      | none => exact kept_move kept here (by simp only [awaitedData, input, Option.map_none]) rfl
      | some dataId =>
          have waited : awaitedData setup thread (.transfer place index lock (.sendingChunks [])) =
              some (place.nodeId, setup.announcedId dataId) := by
            simp only [awaitedData, input, Option.map_some]
          refine kept_leave kept here rfl waited ?_ rfl
          exact kept.unheard _ thread arrived (by rw [here, waited])
  | dataClosed place index lock dataId here input gone =>
      refine kept_leave kept here rfl ?_ gone rfl
      simp only [awaitedData, input, Option.map_some]
  | dropAwaiting place here => exact kept_of_update (kept.lose _) rfl rfl
  | start here => exact kept_move kept here rfl rfl
  | select _ _ _ here | noNode _ _ here | noInput _ _ here | skip _ _ _ _ here
  | unknown _ _ _ _ here | missing _ _ _ _ here | refused _ _ _ _ here | leave _ _ _ _ _ here
  | choose _ _ _ _ _ here | nothing _ _ _ _ here | sendChunk _ _ _ _ _ here
  | chunkRefused _ _ _ _ _ _ here | receive _ _ here | resultClosed _ here
  | dataTimeout _ _ _ _ here | assign _ here | notAssigned _ _ here | resultTimeout _ here
  | wake _ _ here | dropSleeping _ _ here => exact kept_move kept here rfl rfl

theorem heard_update (value : Option TaskResult) :
    (fun other => (Function.update state.mailbox thread value other).isSome) =
      Function.update (fun other => (state.mailbox other).isSome) thread value.isSome :=
  funext fun other =>
    Function.apply_update (fun _ => Option.isSome) state.mailbox thread value other

theorem Step.results (step : Step setup state event after) (kept : Results setup state) :
    Results setup after := by
  cases step with
  | go thread event phase goes => exact goes.results kept
  | expectResult thread place here =>
      simp only [Results, State.move, heard_update, Option.isSome_none]
      refine kept_of_update (Kept.expect kept ?_ ?_ (setup.taskId thread)) rfl rfl
      · rw [here]
        rfl
      · rw [here]
        rfl
  | forget thread place error here =>
      refine kept_of_update (Kept.forget kept ?_ ?_ false) rfl rfl
      · rw [here]
        rfl
      · rw [here]
        rfl
  | complete result thread waited =>
      simp only [Results, heard_update, Option.isSome_some]
      exact Kept.answer kept waited
  | dropLocking thread place index lock here => exact kept_of_update (kept.lose _) rfl rfl
  | dropSending thread place index lock here => exact kept_of_update (kept.lose _) rfl rfl
  | lookup thread place index dataId here =>
      obtain ⟨_, _, _, _, frame⟩ := @transferLock_frame state (place.nodeId, dataId)
      rw [State.move, frame]
      exact kept_move kept here rfl rfl
  | release thread place index lock dataId here =>
      obtain ⟨_, _, frame⟩ := @releaseTransfer_frame state (place.nodeId, dataId) lock
      rw [State.move, frame]
      exact kept_move kept here rfl rfl
  | recordOutput thread result here =>
      obtain ⟨_, _, frame⟩ := @recordOutput_frame setup state result
      rw [State.move, frame]
      exact kept_move kept here rfl rfl
  | drop thread place index lock outcome phase here later =>
      rcases later with ⟨-, rfl⟩ | ⟨_, -, rfl⟩ <;> exact kept_move kept here rfl rfl
  | finish thread place outcome phase here later =>
      rcases later with ⟨_, -, rfl⟩ | ⟨_, -, ⟨-, rfl⟩ | rfl⟩ <;> exact kept_move kept here rfl rfl
  | begin _ _ here | acquire _ _ _ _ here | send _ _ _ _ _ _ here | credit _ _ _ _ _ _ _ here
  | expectData _ _ _ _ _ _ _ here | forgetData _ _ _ _ _ _ here | record _ _ _ _ _ _ here
  | unlock _ _ _ _ _ _ here | retry _ _ here => exact kept_move kept here rfl rfl
  | register | attach | detach | forgetNode | held | evicted | ready | unheard | unexpected =>
      exact kept

theorem Step.datasets (step : Step setup state event after) (kept : Datasets setup state) :
    Datasets setup after := by
  cases step with
  | go thread event phase goes => exact goes.datasets kept
  | expectData thread place index lock chunk batch dataId here input =>
      refine kept_of_update (Kept.expect kept ?_ ?_ (place.nodeId, setup.announcedId dataId))
        (by rw [awaitedData, input]; rfl) rfl
      · rw [here]
        rfl
      · rw [here]
        rfl
  | forgetData thread place index lock dataId error here input =>
      refine kept_of_update (Kept.forget kept ?_ ?_ false) rfl rfl
      · rw [here, awaitedData, input]
        rfl
      · rw [here]
        rfl
  | ready nodeId dataId thread waited => exact Kept.answer kept waited
  | dropLocking thread place index lock here => exact kept_of_update (kept.lose _) rfl rfl
  | dropSending thread place index lock here => exact kept_of_update (kept.lose _) rfl rfl
  | lookup thread place index dataId here =>
      obtain ⟨_, _, _, _, frame⟩ := @transferLock_frame state (place.nodeId, dataId)
      rw [State.move, frame]
      exact kept_move kept here rfl rfl
  | release thread place index lock dataId here =>
      obtain ⟨_, _, frame⟩ := @releaseTransfer_frame state (place.nodeId, dataId) lock
      rw [State.move, frame]
      exact kept_move kept here rfl rfl
  | recordOutput thread result here =>
      obtain ⟨_, _, frame⟩ := @recordOutput_frame setup state result
      rw [State.move, frame]
      exact kept_move kept here rfl rfl
  | send thread place index lock dataId stage here input connected later =>
      rcases later with rfl | rfl <;> exact kept_move kept here rfl rfl
  | unlock thread place index lock outcome stage here later =>
      rcases later with ⟨-, rfl⟩ | ⟨_, -, rfl⟩ <;> exact kept_move kept here rfl rfl
  | drop thread place index lock outcome phase here later =>
      rcases later with ⟨-, rfl⟩ | ⟨_, -, rfl⟩ <;> exact kept_move kept here rfl rfl
  | finish thread place outcome phase here later =>
      rcases later with ⟨_, -, rfl⟩ | ⟨_, -, ⟨-, rfl⟩ | rfl⟩ <;> exact kept_move kept here rfl rfl
  | begin _ _ here | acquire _ _ _ _ here | credit _ _ _ _ _ _ _ here | expectResult _ _ here
  | forget _ _ _ here | record _ _ _ _ _ _ here | retry _ _ here =>
      exact kept_move kept here rfl rfl
  | register | attach | detach | forgetNode | held | evicted | complete | unheard | unexpected =>
      exact kept

theorem accounted_start (setup : Setup) (catalog : DataCatalog) (store : DataId → Option Bytes)
    (connected : Finset NodeId) : Accounted setup (.start catalog store connected) where
  inside := fun _ _ => rfl
  counted := fun _ => (tally_eq_zero.mpr fun _ _ => rfl).symm
  results := .start (fun _ => rfl) nofun
  datasets := .start (fun _ => rfl) nofun

theorem Accounted.step (accounted : Accounted setup state) (step : Step setup state event after) :
    Accounted setup after where
  inside := inside_step accounted.inside step
  counted := counted_step accounted.inside accounted.counted step
  results := step.results accounted.results
  datasets := step.datasets accounted.datasets

theorem Step.lost_iff (step : Step setup state event after) :
    (∀ thread, lost (after.phases thread) = false) ↔
      (∀ thread, lost (state.phases thread) = false) ∧ spared state event = true := by
  rcases step.follows with ⟨phases, -, spares⟩ | ⟨mover, phase, follows⟩
  · rw [phases, spares]
    simp
  · rw [follows.phases, follows.fate]
    constructor
    · intro none
      have here := none mover
      rw [Function.update_self] at here
      refine ⟨fun thread => ?_, by rw [here]; rfl⟩
      by_cases moved : thread = mover
      · rw [moved]
        exact follows.present
      · rw [← none thread, Function.update_of_ne moved]
    · rintro ⟨none, here⟩ thread
      by_cases moved : thread = mover
      · rw [moved, Function.update_self]
        simpa using here
      · rw [Function.update_of_ne moved]
        exact none thread

def ended : Phase → Bool
  | .idle | .done _ | .dropped _ => true
  | _ => false

def isDropped : Phase → Bool
  | .dropped _ => true
  | _ => false

def AtRest (setup : Setup) (state : State) : Prop :=
  ∀ thread < setup.count, ended (state.phases thread) = true

instance decidableAtRest (setup : Setup) (state : State) : Decidable (AtRest setup state) :=
  inferInstanceAs (Decidable (∀ thread < setup.count, ended (state.phases thread) = true))

/-- No node has work in flight and no dropped submission is waited for. -/
structure Clean (state : State) : Prop where
  inFlight : ∀ nodeId, state.inFlight nodeId = 0
  results : ∀ taskId thread, state.pending taskId = some thread →
    isDropped (state.phases thread) = false
  datasets : ∀ key thread, state.pendingData key = some thread →
    isDropped (state.phases thread) = false

theorem ended_cases (resting : ended phase = true) :
    awaitedTask setup thread phase = none ∧ awaitedData setup thread phase = none ∧
      (lost phase = false → countedOn phase = none) := by
  cases phase with
  | idle | done => exact ⟨rfl, rfl, fun _ => rfl⟩
  | dropped counted =>
      cases counted with
      | none => exact ⟨rfl, rfl, fun _ => rfl⟩
      | some => exact ⟨rfl, rfl, nofun⟩
  | _ => cases resting

/-- When no submission is in progress, exactly the lost ones have left something. -/
theorem Accounted.clean_iff (accounted : Accounted setup state) (resting : AtRest setup state) :
    Clean state ↔ ∀ thread, lost (state.phases thread) = false := by
  have everywhere : ∀ thread, ended (state.phases thread) = true := by
    intro thread
    rcases Nat.lt_or_ge thread setup.count with bound | outside
    · exact resting thread bound
    · rw [accounted.inside thread outside]
      rfl
  constructor
  · intro clean thread
    cases here : state.phases thread with
    | dropped counted =>
        cases counted with
        | none => rfl
        | some nodeId =>
            have bound : thread < setup.count := by
              by_contra outside
              rw [accounted.inside thread (by omega)] at here
              cases here
            have counted := accounted.counted nodeId
            rw [clean.inFlight, eq_comm, tally_eq_zero] at counted
            have missing := counted thread bound
            simp [here, counts, countedOn] at missing
    | _ => rfl
  · intro none
    refine ⟨fun nodeId => ?_, fun taskId thread entered => ?_, fun key thread entered => ?_⟩
    · rw [accounted.counted, tally_eq_zero]
      intro thread _
      rw [counts, (@ended_cases setup thread _ (everywhere thread)).2.2 (none thread)]
      rfl
    · rcases accounted.results.owned taskId thread entered with waits | gone
      · rw [(ended_cases (everywhere thread)).1] at waits
        cases waits
      · rw [none thread] at gone
        cases gone
    · rcases accounted.datasets.owned key thread entered with waits | gone
      · rw [(ended_cases (everywhere thread)).2.1] at waits
        cases waits
      · rw [none thread] at gone
        cases gone

/-- When no submission is in progress any more, the dropped ones have left nothing behind if and
only if none of them was dropped between `begin_on` and `finished_on`. -/
theorem dropped_clean_iff (setup : Setup) (catalog : DataCatalog) (store : DataId → Option Bytes)
    (connected : Finset NodeId) (events : List Event) (final : State)
    (ran : run (next setup) (.start catalog store connected) events = some final)
    (resting : AtRest setup final) :
    Clean final ↔ Along (next setup) (fun state event => spared state event = true)
      (.start catalog store connected) events := by
  have accounted : Accounted setup final :=
    run_invariant (accounted_start setup catalog store connected)
      (fun _ _ _ holds moved => holds.step (next_step moved)) ran
  rw [accounted.clean_iff resting]
  refine @run_reached State Event (next setup) (fun past state =>
    (∀ thread, lost (state.phases thread) = false) ↔
      Along (next setup) (fun state event => spared state event = true)
        (.start catalog store connected) past) _ final events ?_ ?_ ran
  · exact iff_of_true (fun _ => rfl) trivial
  · intro past state event after reached same moved
    rw [(next_step moved).lost_iff, along_snoc reached, same]

def twoTasks (maxAttempts : Nat) : Setup where
  count := 2
  task := fun thread => Task.new ⟨BitVec.ofNat 128 thread⟩ "echo" [7]
  manifests := fun _ => none
  reuseData := true
  maxAttempts
  digest := fun _ => ⟨List.replicate dataIdLen 0, List.length_replicate⟩

def oneIsRefused : List Event :=
  [.start 0, .start 1, .select 0 (some ⟨0⟩), .select 1 (some ⟨0⟩), .begin 0, .begin 1, .lookup 0,
    .lookup 1, .expectResult 0, .expectResult 1, .assign 0 none, .assign 1 (some "gone"),
    .forget 1, .finish 1]

def answersTheFirst : List Event :=
  [.complete ⟨⟨0⟩, ⟨0⟩, .success [7], 0, none⟩, .receive 0, .finish 0, .recordOutput 0]

/-- The second submission is dropped while it waits for its next attempt. -/
theorem dropped_sleeping_clean :
    ∃ final, run (next (twoTasks 2)) (.start .new (fun _ => none) {⟨0⟩})
        (oneIsRefused ++ [.retry 1, .cancel 1] ++ answersTheFirst) = some final ∧
      isDropped (final.phases 1) = true ∧ Clean final := by
  have tested : (run (next (twoTasks 2)) (.start .new (fun _ => none) {⟨0⟩})
      (oneIsRefused ++ [.retry 1, .cancel 1] ++ answersTheFirst)).any (fun final =>
        isDropped (final.phases 1) ∧ AtRest (twoTasks 2) final) = true := by decide
  obtain ⟨final, ran, dropped⟩ := run_tested tested
  obtain ⟨second, resting⟩ := of_decide_eq_true dropped
  exact ⟨final, ran, second, (dropped_clean_iff (twoTasks 2) .new (fun _ => none) {⟨0⟩} _ final ran
    resting).mpr (by decide)⟩

/-- The failure of the second submission drops the first one, which waits for its result. -/
theorem dropped_awaiting_stays :
    ∃ final, run (next (twoTasks 1)) (.start .new (fun _ => none) {⟨0⟩})
        (oneIsRefused ++ [.cancel 0]) = some final ∧
      AtRest (twoTasks 1) final ∧ final.inFlight ⟨0⟩ = 1 ∧ final.pending ⟨0⟩ = some 0 ∧
      isDropped (final.phases 0) = true ∧ ¬ Clean final := by
  have tested : (run (next (twoTasks 1)) (.start .new (fun _ => none) {⟨0⟩})
      (oneIsRefused ++ [.cancel 0])).any (fun final =>
        AtRest (twoTasks 1) final ∧ final.inFlight ⟨0⟩ = 1 ∧ final.pending ⟨0⟩ = some 0 ∧
          isDropped (final.phases 0)) = true := by decide
  obtain ⟨final, ran, left⟩ := run_tested tested
  obtain ⟨resting, inFlight, pending, dropped⟩ := of_decide_eq_true left
  refine ⟨final, ran, resting, inFlight, pending, dropped, fun clean => ?_⟩
  have zero := clean.inFlight ⟨0⟩
  rw [inFlight] at zero
  cases zero

end AetherMesh.Submissions
