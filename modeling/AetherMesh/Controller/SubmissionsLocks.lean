import AetherMesh.Controller.SubmissionsFlight

/-!
What is left in the map of transfer locks. A lock leaves the map only in
`release_transfer`, and only when its count shows no third reference there; a
submission that returns early does not come by.
-/

namespace AetherMesh.Submissions

open Counting LockTable Runs

variable {setup : Setup} {state after : State} {event : Event} {thread : Nat} {phase old : Phase}
  {phases : Nat → Phase} {transfers fewer : NodeId × DataId → Option Nat}

def berth : Phase → Option (NodeId × Nat × Nat)
  | .transfer place index lock _ => some (place.nodeId, index, lock)
  | _ => none

def Filed (setup : Setup) (phases : Nat → Phase) (transfers : NodeId × DataId → Option Nat) : Prop :=
  ∀ thread nodeId index lock dataId, berth (phases thread) = some (nodeId, index, lock) →
    setup.inputAt thread index = some dataId → ∀ key, transfers key = some lock →
      key = (nodeId, dataId)

/-- A lock that is still in the map is given back only while another submission has it. -/
def tidy (setup : Setup) (state : State) : Event → Bool
  | .drop thread | .cancel thread =>
      match state.phases thread with
      | .transfer place index lock _ =>
          (setup.inputAt thread index).all fun dataId =>
            state.transfers (place.nodeId, dataId) ≠ some lock ∨ 2 < state.strong lock
      | _ => true
  | _ => true

theorem Filed.move (filed : Filed setup phases transfers)
    (less : ∀ key lock, fewer key = some lock → transfers key = some lock)
    (same : berth phase = none ∨ berth phase = berth (phases thread)) :
    Filed setup (Function.update phases thread phase) fewer := by
  intro other nodeId index lock dataId has input key entered
  by_cases moved : other = thread
  · subst moved
    rw [Function.update_self] at has
    rcases same with none | same
    · rw [none] at has
      cases has
    · exact filed other nodeId index lock dataId (same ▸ has) input key (less key lock entered)
  · rw [Function.update_of_ne moved] at has
    exact filed other nodeId index lock dataId has input key (less key lock entered)

theorem Goes.berth (goes : Goes setup state thread event phase) :
    berth phase = none ∨ berth phase = berth (state.phases thread) := by
  cases goes with
  | start | select | noNode | noInput | assign | notAssigned | receive | resultClosed
  | resultTimeout | wake | dropAwaiting | dropSleeping => exact .inl rfl
  | skip _ _ _ _ here | unknown _ _ _ _ here | missing _ _ _ _ here | refused _ _ _ _ here
  | leave _ _ _ _ _ here | choose _ _ _ _ _ here | nothing _ _ _ _ here
  | sendChunk _ _ _ _ _ here | chunkRefused _ _ _ _ _ _ here | awaitData _ _ _ here
  | dataClosed _ _ _ _ here | dataTimeout _ _ _ _ here =>
      rw [here]
      exact .inr rfl

theorem Filed.lookup (filed : Filed setup state.phases state.transfers)
    (locked : Locked setup state) {place : Place} {index : Nat} {dataId : DataId}
    (input : setup.inputAt thread index = some dataId) :
    Filed setup
      (Function.update state.phases thread
        (.transfer place index (state.transferLock (place.nodeId, dataId)).2 .locking))
      (state.transferLock (place.nodeId, dataId)).1.transfers := by
  intro other nodeId position lock wanted has found key entered
  unfold State.transferLock at has entered
  cases known : state.transfers (place.nodeId, dataId) with
  | some mutex =>
      rw [known] at has entered
      by_cases moved : other = thread
      · subst moved
        rw [Function.update_self, berth, Option.some.injEq, Prod.mk.injEq, Prod.mk.injEq] at has
        obtain ⟨rfl, rfl, rfl⟩ := has
        rw [input, Option.some.injEq] at found
        rw [← found]
        exact locked.sound.distinct key (place.nodeId, dataId) mutex entered known
      · rw [Function.update_of_ne moved] at has
        exact filed other nodeId position lock wanted has found key entered
  | none =>
      rw [known] at has entered
      by_cases moved : other = thread
      · subst moved
        rw [Function.update_self, berth, Option.some.injEq, Prod.mk.injEq, Prod.mk.injEq] at has
        obtain ⟨rfl, rfl, rfl⟩ := has
        rw [input, Option.some.injEq] at found
        rw [← found]
        rcases @Sound.entered_new _ state.locks _ _ _ _ entered with ⟨same, -⟩ | ⟨-, old⟩
        · exact same
        · exact absurd (locked.sound.known key _ old) (Nat.lt_irrefl _)
      · rw [Function.update_of_ne moved] at has
        rcases @Sound.entered_new _ state.locks _ _ _ _ entered with ⟨-, same⟩ | ⟨-, old⟩
        · have standingLock : (standing setup other (state.phases other)).lock = some lock := by
            cases here : state.phases other with
            | transfer site spot mutex stage =>
                rw [here, berth, Option.some.injEq, Prod.mk.injEq, Prod.mk.injEq] at has
                obtain ⟨rfl, rfl, rfl⟩ := has
                rw [standing_transfer found]
                cases stage with
                | dropping outcome => cases outcome <;> rfl
                | _ => rfl
            | _ =>
                rw [here] at has
                cases has
          have issued := locked.sound.issued other lock standingLock
          rw [same] at issued
          exact absurd issued (Nat.lt_irrefl _)
        · exact filed other nodeId position lock wanted has found key old

theorem Filed.step (filed : Filed setup state.phases state.transfers) (locked : Locked setup state)
    (step : Step setup state event after) : Filed setup after.phases after.transfers := by
  cases step with
  | go thread event phase goes => exact filed.move (fun _ _ => id) goes.berth
  | lookup thread place index dataId here input =>
      have phases := @transferLock_phases state (place.nodeId, dataId)
      have looked := @Filed.lookup setup state thread filed locked place index dataId input
      rw [← phases] at looked
      exact looked
  | release thread place index lock dataId here =>
      have less : ∀ key mutex,
          (state.releaseTransfer (place.nodeId, dataId) lock).transfers key = some mutex →
            state.transfers key = some mutex := by
        intro key mutex entered
        unfold State.releaseTransfer State.removeTransfer at entered
        split at entered
        · split at entered
          · exact (@Sound.entered_removed _ state.locks _ _ _ _ entered).2
          · exact entered
        · exact entered
      have phases := @releaseTransfer_phases state (place.nodeId, dataId) lock
      have moved := @Filed.move setup thread (.transfer place index lock (.dropping (.ok ())))
        state.phases state.transfers _ filed less (.inr (by rw [here]; rfl))
      rw [← phases] at moved
      exact moved
  | recordOutput thread result here =>
      obtain ⟨_, _, frame⟩ := @recordOutput_frame setup state result
      rw [State.move, frame]
      exact filed.move (fun _ _ => id) (.inl rfl)
  | drop thread place index lock outcome phase here later =>
      rcases later with ⟨-, rfl⟩ | ⟨_, -, rfl⟩ <;> exact filed.move (fun _ _ => id) (.inl rfl)
  | finish thread place outcome phase here later =>
      rcases later with ⟨_, -, rfl⟩ | ⟨_, -, ⟨-, rfl⟩ | rfl⟩ <;>
        exact filed.move (fun _ _ => id) (.inl rfl)
  | begin | expectResult | forget | retry | dropLocking | dropSending =>
      exact filed.move (fun _ _ => id) (.inl rfl)
  | acquire _ _ _ _ here | send _ _ _ _ _ _ here | credit _ _ _ _ _ _ _ here
  | expectData _ _ _ _ _ _ _ here | forgetData _ _ _ _ _ _ here | record _ _ _ _ _ _ here
  | unlock _ _ _ _ _ _ here => exact filed.move (fun _ _ => id) (.inr (by rw [here]; rfl))
  | register | attach | detach | forgetNode | held | evicted | ready | complete | unheard
  | unexpected => exact filed

theorem Locked.drop_iff (locked : Locked setup state)
    (filed : Filed setup state.phases state.transfers) (tended : Tended state.locks) {place : Place}
    {index lock : Nat} {stage : Stage} (here : state.phases thread = .transfer place index lock stage) :
    Tended (state.locks.drop lock) ↔
      ((setup.inputAt thread index).all fun dataId =>
        state.transfers (place.nodeId, dataId) ≠ some lock ∨ 2 < state.strong lock) = true := by
  obtain ⟨dataId, input, -⟩ := locked.at_transfer here
  have only := filed thread place.nodeId index lock dataId (by rw [here]; rfl) input
  rw [tended.drop_iff, input, Option.all_some, decide_eq_true_eq]
  constructor
  · intro shared
    by_cases entered : state.transfers (place.nodeId, dataId) = some lock
    · exact .inr (shared _ entered)
    · exact .inl entered
  · rintro (missing | shared) key entered
    · rw [only key entered] at entered
      exact absurd entered missing
    · exact shared

theorem tidy_drop {place : Place} {index lock : Nat} {stage : Stage}
    (here : state.phases thread = .transfer place index lock stage) :
    (tidy setup state (.drop thread) = (setup.inputAt thread index).all fun dataId =>
      state.transfers (place.nodeId, dataId) ≠ some lock ∨ 2 < state.strong lock) ∧
    tidy setup state (.cancel thread) = tidy setup state (.drop thread) := by
  simp only [tidy, here, and_self]

theorem tidy_elsewhere (away : berth (state.phases thread) = none) :
    tidy setup state (.cancel thread) = true := by
  cases here : state.phases thread with
  | transfer =>
      rw [here] at away
      cases away
  | _ => simp only [tidy, here]

theorem Goes.tidy (goes : Goes setup state thread event phase) : tidy setup state event = true := by
  cases goes with
  | dropAwaiting _ here | dropSleeping _ _ here => exact tidy_elsewhere (by rw [here]; rfl)
  | _ => rfl

/-- Every lock of the map stays with a submission exactly while the events are tidy. -/
theorem Step.tended_iff (step : Step setup state event after) (locked : Locked setup state)
    (filed : Filed setup state.phases state.transfers) (tended : Tended state.locks) :
    Tended after.locks ↔ tidy setup state event = true := by
  cases step with
  | go thread event phase goes => exact iff_of_true tended goes.tidy
  | lookup thread place index dataId =>
      refine iff_of_true ?_ rfl
      have found := tended.lookup locked.sound (place.nodeId, dataId)
      rw [← (transferLock_locks _).1] at found
      exact found
  | release thread place index lock dataId here input =>
      refine iff_of_true ?_ rfl
      have current : state.locks.table (place.nodeId, dataId) = some lock :=
        locked.sound.current thread (place.nodeId, dataId) lock
          (by rw [here, standing_transfer input]; rfl)
      have retired := tended.retire locked.sound current
      rw [← releaseTransfer_locks] at retired
      exact retired
  | recordOutput thread result =>
      refine iff_of_true ?_ rfl
      obtain ⟨_, _, frame⟩ := @recordOutput_frame setup state result
      rw [State.move, frame]
      exact tended
  | drop thread place index lock outcome phase here later =>
      rw [(tidy_drop here).1]
      exact locked.drop_iff filed tended here
  | dropLocking thread place index lock here | dropSending thread place index lock here =>
      rw [(tidy_drop here).2, (tidy_drop here).1]
      exact locked.drop_iff filed tended here
  | _ => exact iff_of_true tended rfl

def Emptied (setup : Setup) (state : State) : Prop :=
  AtRest setup state → ∀ key, state.transfers key = none

theorem emptied_of_tended (locked : Locked setup state) (tended : Tended state.locks) :
    Emptied setup state := by
  intro resting
  refine tended.vacant locked.sound fun thread bound => ?_
  have ended := resting thread bound
  cases here : state.phases thread with
  | idle | done | dropped => rfl
  | _ =>
      rw [here] at ended
      cases ended

/-- In a run, every lock of the map is with some submission as long as no submission gives back
the last reference to a lock that is in the map, and no longer. As long as it is, the map is
empty whenever no submission is in progress. -/
theorem transfers_emptied (setup : Setup) (catalog : DataCatalog) (store : DataId → Option Bytes)
    (connected : Finset NodeId) (events : List Event) (final : State)
    (ran : run (next setup) (.start catalog store connected) events = some final) :
    (Always (next setup) (fun state => Tended state.locks) (.start catalog store connected) events ↔
      Along (next setup) (fun state event => tidy setup state event = true)
        (.start catalog store connected) events) ∧
    (Along (next setup) (fun state event => tidy setup state event = true)
        (.start catalog store connected) events →
      Always (next setup) (Emptied setup) (.start catalog store connected) events) := by
  have initial : Locked setup (.start catalog store connected) ∧
      Filed setup (State.start catalog store connected).phases
        (State.start catalog store connected).transfers := by
    refine ⟨locked_start setup catalog store connected, ?_⟩
    intro thread nodeId index lock dataId has
    cases has
  have steps : ∀ state event after, Locked setup state ∧ Filed setup state.phases state.transfers →
      next setup state event = some after →
        (Locked setup after ∧ Filed setup after.phases after.transfers) ∧
          (Tended state.locks → (Tended after.locks ↔ tidy setup state event = true)) := by
    rintro state event after ⟨locked, filed⟩ moved
    have step := next_step moved
    exact ⟨⟨locked.step step, filed.step locked step⟩, step.tended_iff locked filed⟩
  have exactly : Always (next setup) (fun state => Tended state.locks)
      (.start catalog store connected) events ↔
        Along (next setup) (fun state event => tidy setup state event = true)
          (.start catalog store connected) events :=
    always_iff_along initial Tended.start steps ran
  refine ⟨exactly, fun along front back state split reached => ?_⟩
  have kept := @run_invariant State Event (next setup)
    (fun state => Locked setup state ∧ Filed setup state.phases state.transfers) _ state front initial
    (fun state event after holds moved => (steps state event after holds moved).1) reached
  exact emptied_of_tended kept.1 (exactly.mpr along front back state split reached)

/-- The first task leaves the lock to the second one. -/
theorem shared_transfer_emptied :
    ∃ final, run (next readsTwice) (.start .new holdsBytes {⟨0⟩}) sharesTransfer = some final ∧
      Along (next readsTwice) (fun state event => tidy readsTwice state event = true)
        (.start .new holdsBytes {⟨0⟩}) sharesTransfer ∧
      Always (next readsTwice) (Emptied readsTwice) (.start .new holdsBytes {⟨0⟩}) sharesTransfer := by
  have tested : (run (next readsTwice) (.start .new holdsBytes {⟨0⟩}) sharesTransfer).any
      (fun _ => true) = true := by decide
  obtain ⟨final, ran, -⟩ := run_tested tested
  have along : Along (next readsTwice) (fun state event => tidy readsTwice state event = true)
      (.start .new holdsBytes {⟨0⟩}) sharesTransfer := by decide
  exact ⟨final, ran, along,
    (transfers_emptied readsTwice .new holdsBytes {⟨0⟩} sharesTransfer final ran).2 along⟩

def failsUnknown : List Event :=
  [.start 0, .select 0 (some ⟨0⟩), .begin 0, .lookup 0, .acquire 0, .check 0, .unlock 0, .drop 0,
    .finish 0]

def releasesTogether : List Event :=
  [.held ⟨0⟩ ⟨Dispatch.idOf 0, 2⟩, .start 0, .start 1, .select 0 (some ⟨0⟩), .select 1 (some ⟨0⟩),
    .begin 0, .begin 1, .lookup 0, .lookup 1, .acquire 0, .check 0, .unlock 0, .acquire 1, .check 1,
    .unlock 1, .release 0, .release 1, .drop 0, .drop 1, .lookup 0, .lookup 1, .expectResult 0,
    .expectResult 1, .assign 0 none, .assign 1 none, .complete ⟨⟨0⟩, ⟨0⟩, .success [], 0, none⟩,
    .complete ⟨⟨1⟩, ⟨0⟩, .success [], 0, none⟩, .receive 0, .receive 1, .finish 0, .finish 1,
    .recordOutput 0, .recordOutput 1]

theorem transfers_left :
    (∃ final, run (next readsTwice) (.start .new (fun _ => none) {⟨0⟩}) failsUnknown = some final ∧
      ¬ Emptied readsTwice final) ∧
    ∃ final, run (next readsTwice) (.start .new holdsBytes {⟨0⟩}) releasesTogether = some final ∧
      ¬ Emptied readsTwice final := by
  have first : (run (next readsTwice) (.start .new (fun _ => none) {⟨0⟩}) failsUnknown).any
      (fun final => AtRest readsTwice final ∧
        final.transfers (⟨0⟩, Dispatch.idOf 0) ≠ none) = true := by decide
  have second : (run (next readsTwice) (.start .new holdsBytes {⟨0⟩}) releasesTogether).any
      (fun final => AtRest readsTwice final ∧
        final.transfers (⟨0⟩, Dispatch.idOf 0) ≠ none) = true := by decide
  obtain ⟨failed, ranFirst, left⟩ := run_tested first
  obtain ⟨released, ranSecond, also⟩ := run_tested second
  obtain ⟨resting, kept⟩ := of_decide_eq_true left
  obtain ⟨restingToo, keptToo⟩ := of_decide_eq_true also
  exact ⟨⟨failed, ranFirst, fun emptied => kept (emptied resting _)⟩,
    ⟨released, ranSecond, fun emptied => keptToo (emptied restingToo _)⟩⟩

end AetherMesh.Submissions
