import AetherMesh.Controller.SubmissionsCancel
import AetherMesh.Controller.SubmissionsCatalog
import AetherMesh.Library.LockTable
import AetherMesh.Library.SingleFlight

/-!
One transfer of a dataset to a node at a time. The locks of the transfers are a lock
table, and a transfer is a flight that departs and lands while its lock is held.
-/

namespace AetherMesh.Submissions

open Counting LockTable Runs SingleFlight

variable {setup : Setup} {state after : State} {event : Event} {thread : Nat} {phase old : Phase}
  {phases : Nat → Phase}

def State.locks (state : State) : Locks (NodeId × DataId) :=
  ⟨state.transfers, state.strong, state.owners, state.fresh⟩

def Stage.standing (key : NodeId × DataId) (lock : Nat) : Stage → Standing (NodeId × DataId)
  | .locking => .waiting key lock
  | .releasing | .dropping (.error _) => .leaving key lock
  | .dropping (.ok _) => .parting lock
  | _ => .holding key lock

def standing (setup : Setup) (thread : Nat) : Phase → Standing (NodeId × DataId)
  | .transfer place index lock stage =>
      (setup.inputAt thread index).elim .away fun dataId =>
        stage.standing (place.nodeId, dataId) lock
  | _ => .away

structure Locked (setup : Setup) (state : State) : Prop where
  inside : ∀ thread, setup.count ≤ thread → state.phases thread = .idle
  sited : ∀ thread index, transferring (state.phases thread) = some index →
    (setup.inputAt thread index).isSome = true
  sound : Sound setup.count state.locks fun thread => standing setup thread (state.phases thread)

theorem transferLock_locks (key : NodeId × DataId) :
    (state.transferLock key).1.locks = (state.locks.lookup key).1 ∧
      (state.transferLock key).2 = (state.locks.lookup key).2 := by
  unfold State.transferLock Locks.lookup State.locks
  dsimp only
  cases state.transfers key <;> exact ⟨rfl, rfl⟩

theorem releaseTransfer_locks (key : NodeId × DataId) (lock : Nat) :
    (state.releaseTransfer key lock).locks = state.locks.retire key lock := by
  unfold State.releaseTransfer State.removeTransfer Locks.retire Locks.remove State.locks
  dsimp only
  split
  · cases state.transfers key <;> rfl
  · rfl

theorem standing_transfer {place : Place} {index lock : Nat} {stage : Stage} {dataId : DataId}
    (input : setup.inputAt thread index = some dataId) :
    standing setup thread (.transfer place index lock stage) =
      stage.standing (place.nodeId, dataId) lock := by
  rw [standing, input]
  rfl

section

variable {locks : Locks (NodeId × DataId)}

theorem sound_of_update {new : Standing (NodeId × DataId)}
    (sound : Sound setup.count locks
      (Function.update (fun other => standing setup other (phases other)) thread new))
    (here : standing setup thread phase = new) :
    Sound setup.count locks fun other =>
      standing setup other (Function.update phases thread phase other) := by
  convert sound using 1
  funext other
  rw [Function.apply_update (standing setup), here]

theorem sound_move
    (sound : Sound setup.count locks fun other => standing setup other (phases other))
    (here : phases thread = old) (same : standing setup thread phase = standing setup thread old) :
    Sound setup.count locks fun other =>
      standing setup other (Function.update phases thread phase other) := by
  refine @sound_of_update setup thread phase phases locks (standing setup thread old) ?_ same
  rw [← here, Function.update_eq_self thread]
  exact sound

end

theorem Locked.sited_step (sited : ∀ thread index, transferring (state.phases thread) = some index →
      (setup.inputAt thread index).isSome = true)
    (step : Step setup state event after) (thread index : Nat)
    (transfers : transferring (after.phases thread) = some index) :
    (setup.inputAt thread index).isSome = true := by
  rcases step.follows with ⟨same, -⟩ | ⟨mover, phase, follows⟩
  · exact sited thread index (same ▸ transfers)
  · rw [follows.phases] at transfers
    by_cases moved : thread = mover
    · rw [moved, Function.update_self] at transfers
      rw [moved]
      exact (follows.input index transfers).elim (sited mover index) id
    · rw [Function.update_of_ne moved] at transfers
      exact sited thread index transfers

theorem Goes.standing_same (goes : Goes setup state thread event phase) :
    standing setup thread phase = standing setup thread (state.phases thread) := by
  cases goes with
  | start here => rw [here]; rfl
  | select _ _ _ here | noNode _ _ here | noInput _ _ here | skip _ _ _ _ here
  | unknown _ _ _ _ here | missing _ _ _ _ here | refused _ _ _ _ here | leave _ _ _ _ _ here
  | choose _ _ _ _ _ here | nothing _ _ _ _ here | sendChunk _ _ _ _ _ here
  | chunkRefused _ _ _ _ _ _ here | awaitData _ _ _ here | dataClosed _ _ _ _ here
  | dataTimeout _ _ _ _ here | assign _ here | notAssigned _ _ here | receive _ _ here
  | resultClosed _ here | resultTimeout _ here | wake _ _ here | dropAwaiting _ here
  | dropSleeping _ _ here =>
      rw [here]
      rfl

theorem Locked.bound (locked : Locked setup state) (here : state.phases thread = old)
    (busy : old ≠ .idle) : thread < setup.count := by
  by_contra outside
  exact busy (here.symm.trans (locked.inside thread (by omega)))

theorem Locked.at_transfer (locked : Locked setup state) {place : Place} {index lock : Nat}
    {stage : Stage} (here : state.phases thread = .transfer place index lock stage) :
    ∃ dataId, setup.inputAt thread index = some dataId ∧
      standing setup thread (state.phases thread) =
        stage.standing (place.nodeId, dataId) lock := by
  obtain ⟨dataId, input⟩ := Option.isSome_iff_exists.mp
    (locked.sited thread index (by rw [here]; rfl))
  exact ⟨dataId, input, by rw [here, standing_transfer input]⟩

theorem Locked.outside (locked : Locked setup state) (thread : Nat)
    (bound : setup.count ≤ thread) : standing setup thread (state.phases thread) = .away := by
  rw [locked.inside thread bound]
  rfl

theorem Locked.sound_step (locked : Locked setup state) (step : Step setup state event after) :
    Sound setup.count after.locks fun thread => standing setup thread (after.phases thread) := by
  have sound := locked.sound
  cases step with
  | go thread event phase goes => exact sound_move sound rfl goes.standing_same
  | lookup thread place index dataId here input =>
      obtain ⟨locks, lock⟩ := @transferLock_locks state (place.nodeId, dataId)
      have phases := @transferLock_phases state (place.nodeId, dataId)
      have found := sound.lookup (locked.bound here nofun) (by rw [here]; rfl) (place.nodeId, dataId)
      rw [← locks, ← lock, ← phases] at found
      exact sound_of_update found (standing_transfer input)
  | acquire thread place index lock here free =>
      obtain ⟨dataId, input, waits⟩ := locked.at_transfer here
      exact sound_of_update (sound.acquire (locked.bound here nofun) waits free)
        (standing_transfer input)
  | unlock thread place index lock outcome stage here later =>
      obtain ⟨dataId, input, holds⟩ := locked.at_transfer here
      have unlocked := sound.unlock (locked.bound here nofun) holds
      rcases later with ⟨-, rfl⟩ | ⟨_, -, rfl⟩ <;>
        exact sound_of_update unlocked (standing_transfer input)
  | release thread place index lock dataId here input =>
      have phases := @releaseTransfer_phases state (place.nodeId, dataId) lock
      have retired := sound.retire locked.outside (locked.bound here nofun)
        (by rw [here, standing_transfer input]; rfl)
      rw [← releaseTransfer_locks, ← phases] at retired
      exact sound_of_update retired (standing_transfer input)
  | drop thread place index lock outcome phase here later =>
      obtain ⟨dataId, input, leaves⟩ := locked.at_transfer here
      rcases later with ⟨rfl, rfl⟩ | ⟨_, rfl, rfl⟩ <;>
        exact sound_of_update (sound.drop (locked.bound here nofun) (by rw [leaves]; rfl)) rfl
  | dropLocking thread place index lock here =>
      obtain ⟨dataId, input, waits⟩ := locked.at_transfer here
      exact sound_of_update (sound.drop (locked.bound here nofun) (by rw [waits]; rfl)) rfl
  | dropSending thread place index lock here =>
      obtain ⟨dataId, input, holds⟩ := locked.at_transfer here
      have unlocked := sound.unlock (locked.bound here nofun) holds
      have dropped := unlocked.drop (locked.bound here nofun) (by rw [Function.update_self]; rfl)
      rw [Function.update_idem] at dropped
      exact sound_of_update dropped rfl
  | finish thread place outcome phase here later =>
      rcases later with ⟨_, -, rfl⟩ | ⟨_, -, ⟨-, rfl⟩ | rfl⟩ <;> exact sound_move sound here rfl
  | recordOutput thread result here =>
      obtain ⟨_, _, frame⟩ := @recordOutput_frame setup state result
      rw [State.move, frame]
      exact sound_move sound here rfl
  | send thread place index lock dataId stage here input connected later =>
      rcases later with rfl | rfl <;> exact sound_move sound here rfl
  | begin _ _ here | credit _ _ _ _ _ _ _ here | expectData _ _ _ _ _ _ _ here
  | forgetData _ _ _ _ _ _ here | record _ _ _ _ _ _ here | expectResult _ _ here
  | forget _ _ _ here | retry _ _ here => exact sound_move sound here rfl
  | register | attach | detach | forgetNode | held | evicted | ready | complete | unheard
  | unexpected => exact sound

theorem Locked.step (locked : Locked setup state) (step : Step setup state event after) :
    Locked setup after where
  inside := Accounted.inside_step locked.inside step
  sited := sited_step locked.sited step
  sound := locked.sound_step step

theorem locked_start (setup : Setup) (catalog : DataCatalog) (store : DataId → Option Bytes)
    (connected : Finset NodeId) : Locked setup (.start catalog store connected) where
  inside := fun _ _ => rfl
  sited := nofun
  sound := .start

def Stage.leg (key : NodeId × DataId) : Stage → Leg (NodeId × DataId)
  | .sending => .bound key
  | .planning _ _ | .crediting _ _ | .sendingChunks _ | .forgetting _ | .recording => .aloft key
  | _ => .clear

def leg (setup : Setup) (thread : Nat) : Phase → Leg (NodeId × DataId)
  | .transfer place index _ stage =>
      (setup.inputAt thread index).elim .clear fun dataId => stage.leg (place.nodeId, dataId)
  | _ => .clear

def Stage.through : Stage → Nat
  | .unlocking (.ok _) | .releasing | .dropping (.ok _) => 1
  | _ => 0

def reach (setup : Setup) (thread : Nat) : Phase → Option (NodeId × Nat)
  | .input place index => some (place.nodeId, index)
  | .transfer place index _ stage => some (place.nodeId, index + stage.through)
  | .dispatch place _ | .finishing place (.ok _) =>
      some (place.nodeId, (setup.task thread).inputs.length)
  | _ => none

def beyond (setup : Setup) (thread : Nat) (phase : Phase) (key : NodeId × DataId) : Prop :=
  ∃ bound index, reach setup thread phase = some (key.1, bound) ∧ index < bound ∧
    setup.inputAt thread index = some key.2

def known (state : State) (key : NodeId × DataId) : Prop :=
  state.catalog.holds key.2 key.1 = true ∧ key.1 ∈ state.connected

def placed : Phase → Option NodeId
  | .beginning place | .input place _ | .transfer place _ _ _ | .dispatch place _
  | .finishing place _ => some place.nodeId
  | _ => none

def smooth : Phase → Bool
  | .transfer _ _ _ (.unlocking (.error error)) | .transfer _ _ _ (.dropping (.error error))
  | .finishing _ (.error error) => !isRetryable error
  | .transfer _ _ _ (.forgetting _) | .dispatch _ (.forgetting _) | .retrying _ => false
  | _ => true

/-- No message is refused or goes unanswered, no data is evicted, no node leaves or comes back
and no submission is dropped. -/
def calm (state : State) : Event → Bool
  | .send _ refused | .sendChunk _ refused | .assign _ refused => refused = none
  | .dataClosed _ | .dataTimeout _ _ | .resultClosed _ | .resultTimeout _ | .cancel _ | .detach _
  | .forgetNode _ | .evicted _ _ => false
  | .register nodeId => nodeId ∉ state.connected
  | _ => true

structure Smooth (setup : Setup) (state : State) : Prop where
  locked : Locked setup state
  smooth : ∀ thread, smooth (state.phases thread) = true
  placed : ∀ thread nodeId, placed (state.phases thread) = some nodeId → nodeId ∈ state.connected
  single : Single setup.count (known state) state.sent state.landed
    (fun thread => leg setup thread (state.phases thread))
    fun thread => beyond setup thread (state.phases thread)

theorem Step.known (step : Step setup state event after) (quiet : calm state event = true)
    (smooth : ∀ thread, smooth (state.phases thread) = true) {key : NodeId × DataId}
    (there : known state key) : known after key := by
  cases step with
  | lookup thread place index dataId =>
      obtain ⟨_, _, _, _, frame⟩ := @transferLock_frame state (place.nodeId, dataId)
      rw [State.move, frame]
      exact there
  | release thread place index lock dataId =>
      obtain ⟨_, _, frame⟩ := @releaseTransfer_frame state (place.nodeId, dataId) lock
      rw [State.move, frame]
      exact there
  | recordOutput thread result =>
      obtain ⟨_, _, frame⟩ := @recordOutput_frame setup state result
      refine ⟨holds_recordOutput.mpr (.inl there.1), ?_⟩
      rw [State.move, frame]
      exact there.2
  | credit thread place index lock chunk batch descriptor =>
      exact ⟨DataCatalog.holds_record.mpr (.inl there.1), there.2⟩
  | record thread place index lock dataId size =>
      exact ⟨DataCatalog.holds_record.mpr (.inl there.1), there.2⟩
  | held nodeId descriptor => exact ⟨DataCatalog.holds_record.mpr (.inl there.1), there.2⟩
  | retry thread place here =>
      have again := smooth thread
      rw [here] at again
      cases again
  | register nodeId =>
      have absent : nodeId ∉ state.connected := of_decide_eq_true quiet
      refine ⟨DataCatalog.holds_forgetNode.mpr ⟨there.1, ?_⟩, there.2⟩
      rintro same
      exact absent (same ▸ there.2)
  | attach nodeId => exact ⟨there.1, Finset.mem_insert_of_mem there.2⟩
  | detach | forgetNode | evicted => cases quiet
  | _ => exact there

theorem Goes.smooth (goes : Goes setup state thread event phase) (quiet : calm state event = true) :
    smooth phase = true ∧ ∀ nodeId, placed phase = some nodeId → nodeId ∈ state.connected ∨
      placed (state.phases thread) = some nodeId := by
  cases goes with
  | select attempt unusable nodeId here usable connected =>
      refine ⟨rfl, ?_⟩
      rintro _ ⟨⟩
      exact .inl connected
  | refused | chunkRefused | dataClosed | dataTimeout | notAssigned | resultClosed | resultTimeout
  | dropAwaiting | dropSleeping => cases quiet
  | start here => exact ⟨rfl, nofun⟩
  | noNode | wake => exact ⟨rfl, nofun⟩
  | noInput _ _ here | skip _ _ _ _ here | unknown _ _ _ _ here | missing _ _ _ _ here
  | leave _ _ _ _ _ here | choose _ _ _ _ _ here | nothing _ _ _ _ here
  | sendChunk _ _ _ _ _ here | awaitData _ _ _ here | assign _ here | receive _ _ here =>
      rw [here]
      exact ⟨rfl, fun _ => .inr⟩

theorem Step.fits (step : Step setup state event after) (quiet : calm state event = true)
    (smooth : ∀ thread, smooth (state.phases thread) = true) :
    after.phases = state.phases ∨ ∃ thread phase,
      after.phases = Function.update state.phases thread phase ∧
      Submissions.smooth phase = true ∧ ∀ nodeId, placed phase = some nodeId →
        nodeId ∈ state.connected ∨ placed (state.phases thread) = some nodeId := by
  cases step with
  | go thread event phase goes => exact .inr ⟨thread, phase, rfl, goes.smooth quiet⟩
  | lookup thread place index dataId here =>
      obtain ⟨_, _, _, _, frame⟩ := @transferLock_frame state (place.nodeId, dataId)
      rw [State.move, frame]
      exact .inr ⟨thread, _, rfl, rfl, fun _ => here ▸ .inr⟩
  | release thread place index lock dataId here =>
      obtain ⟨_, _, frame⟩ := @releaseTransfer_frame state (place.nodeId, dataId) lock
      rw [State.move, frame]
      exact .inr ⟨thread, _, rfl, rfl, fun _ => here ▸ .inr⟩
  | recordOutput thread result here =>
      obtain ⟨_, _, frame⟩ := @recordOutput_frame setup state result
      rw [State.move, frame]
      exact .inr ⟨thread, _, rfl, rfl, by simp [placed]⟩
  | send thread place index lock dataId stage here input connected later =>
      rcases later with rfl | rfl <;> exact .inr ⟨thread, _, rfl, rfl, fun _ => here ▸ .inr⟩
  | unlock thread place index lock outcome stage here later =>
      have before := smooth thread
      rw [here] at before
      rcases later with ⟨rfl, rfl⟩ | ⟨_, rfl, rfl⟩ <;>
        exact .inr ⟨thread, _, rfl, before, fun _ => here ▸ .inr⟩
  | drop thread place index lock outcome phase here later =>
      have before := smooth thread
      rw [here] at before
      rcases later with ⟨rfl, rfl⟩ | ⟨_, rfl, rfl⟩ <;>
        exact .inr ⟨thread, _, rfl, before, fun _ => here ▸ .inr⟩
  | forgetData thread _ _ _ _ _ here | forget thread _ _ here | retry thread _ here =>
      have before := smooth thread
      rw [here] at before
      cases before
  | finish thread place outcome phase here later =>
      have before := smooth thread
      rw [here] at before
      rcases later with ⟨_, -, rfl⟩ | ⟨_, rfl, ⟨again, rfl⟩ | rfl⟩
      · exact .inr ⟨thread, _, rfl, rfl, by simp [placed]⟩
      · simp [Submissions.smooth, again] at before
      · exact .inr ⟨thread, _, rfl, rfl, by simp [placed]⟩
  | begin thread _ here | acquire thread _ _ _ here | credit thread _ _ _ _ _ _ here
  | expectData thread _ _ _ _ _ _ here | record thread _ _ _ _ _ here
  | expectResult thread _ here => exact .inr ⟨thread, _, rfl, rfl, fun _ => here ▸ .inr⟩
  | dropLocking | dropSending => cases quiet
  | register | attach | detach | forgetNode | held | evicted | ready | complete | unheard
  | unexpected => exact .inl rfl

theorem Step.connected_grows (step : Step setup state event after)
    (quiet : calm state event = true) : state.connected ⊆ after.connected := by
  cases step with
  | lookup thread place index dataId =>
      obtain ⟨_, _, _, _, frame⟩ := @transferLock_frame state (place.nodeId, dataId)
      rw [State.move, frame]
  | release thread place index lock dataId =>
      obtain ⟨_, _, frame⟩ := @releaseTransfer_frame state (place.nodeId, dataId) lock
      rw [State.move, frame]
  | recordOutput thread result =>
      obtain ⟨_, _, frame⟩ := @recordOutput_frame setup state result
      rw [State.move, frame]
  | attach nodeId => exact Finset.subset_insert nodeId state.connected
  | detach => cases quiet
  | _ => exact Finset.Subset.refl _

section

variable {know later : NodeId × DataId → Prop} {sent landed : NodeId × DataId → Nat}

theorem leg_clear {place : Place} {index lock : Nat} {stage : Stage}
    (clear : ∀ key, stage.leg key = .clear) :
    leg setup thread (.transfer place index lock stage) = .clear := by
  rw [leg]
  cases setup.inputAt thread index with
  | none => rfl
  | some dataId => exact clear (place.nodeId, dataId)

theorem legs_update :
    (fun other => leg setup other (Function.update phases thread phase other)) =
      Function.update (fun other => leg setup other (phases other)) thread
        (leg setup thread phase) :=
  funext fun other => Function.apply_update (leg setup) phases thread phase other

theorem beyond_update {key : NodeId × DataId} (here : phases thread = old)
    (past : ∀ other, beyond setup thread phase other → beyond setup thread old other ∨ other = key)
    (party : Nat) (other : NodeId × DataId)
    (gone : beyond setup party (Function.update phases thread phase party) other) :
    beyond setup party (phases party) other ∨ other = key := by
  by_cases same : party = thread
  · rw [same, Function.update_self] at gone
    rw [same, here]
    exact past other gone
  · rw [Function.update_of_ne same] at gone
    exact .inl gone

theorem beyond_same (here : phases thread = old)
    (past : ∀ key, beyond setup thread phase key → beyond setup thread old key)
    (party : Nat) (key : NodeId × DataId)
    (gone : beyond setup party (Function.update phases thread phase party) key) :
    beyond setup party (phases party) key := by
  by_cases same : party = thread
  · rw [same, Function.update_self] at gone
    rw [same, here]
    exact past key gone
  · rwa [Function.update_of_ne same] at gone

theorem single_move
    (single : Single setup.count know sent landed (fun other => leg setup other (phases other))
      fun other => beyond setup other (phases other))
    (more : ∀ key, know key → later key) (here : phases thread = old)
    (same : leg setup thread phase = leg setup thread old)
    (past : ∀ key, beyond setup thread phase key → beyond setup thread old key) :
    Single setup.count later sent landed
      (fun other => leg setup other (Function.update phases thread phase other))
      fun other => beyond setup other (Function.update phases thread phase other) := by
  rw [legs_update, same, ← here, Function.update_eq_self thread]
  exact single.learn more (beyond_same here past)

end

theorem engaged_holds {key : NodeId × DataId}
    (engaged : (leg setup thread phase).engaged = some key) :
    ∃ lock, standing setup thread phase = .holding key lock := by
  cases phase with
  | transfer place index lock stage =>
      cases input : setup.inputAt thread index with
      | none => simp [leg, input, Leg.engaged] at engaged
      | some dataId =>
          rw [leg, input] at engaged
          rw [standing_transfer input]
          cases stage with
          | sending | planning | crediting | sendingChunks | forgetting | recording =>
              cases engaged
              exact ⟨lock, rfl⟩
          | _ => cases engaged
  | _ => cases engaged

theorem Smooth.nobody_else (smooth : Smooth setup state) {key : NodeId × DataId} {lock : Nat}
    (holds : standing setup thread (state.phases thread) = .holding key lock) (other : Nat)
    (different : other ≠ thread) : (leg setup other (state.phases other)).engaged ≠ some key := by
  intro engaged
  obtain ⟨mutex, also⟩ := engaged_holds engaged
  exact different (smooth.locked.sound.holder_unique also holds)

theorem Smooth.nobody (smooth : Smooth setup state) {place : Place} {index lock : Nat}
    {dataId : DataId} (here : state.phases thread = .transfer place index lock .checking)
    (input : setup.inputAt thread index = some dataId) (other : Nat) :
    (leg setup other (state.phases other)).engaged ≠ some (place.nodeId, dataId) := by
  by_cases same : other = thread
  · rw [same, here, leg, input]
    exact (Option.some_ne_none _).symm
  · have holds : standing setup thread (state.phases thread) =
        .holding (place.nodeId, dataId) lock := by
      rw [here, standing_transfer input]
      rfl
    exact smooth.nobody_else holds other same

theorem beyond_dispatch {place : Place} {index : Nat} {call : Call}
    (last : setup.inputAt thread index = none) {key : NodeId × DataId}
    (gone : beyond setup thread (.dispatch place call) key) :
    beyond setup thread (.input place index) key := by
  obtain ⟨bound, position, reached, inside, input⟩ := gone
  rw [reach, Option.some.injEq, Prod.mk.injEq] at reached
  refine ⟨index, position, by rw [reach, reached.1], ?_, input⟩
  rw [Setup.inputAt, List.getElem?_eq_none_iff] at last
  omega

theorem beyond_through {place : Place} {index lock : Nat} {stage : Stage} {dataId : DataId}
    (input : setup.inputAt thread index = some dataId) (key : NodeId × DataId)
    (gone : beyond setup thread (.transfer place index lock (.unlocking (.ok ()))) key) :
    beyond setup thread (.transfer place index lock stage) key ∨
      key = (place.nodeId, dataId) := by
  obtain ⟨bound, position, reached, inside, found⟩ := gone
  rw [reach, Option.some.injEq, Prod.mk.injEq] at reached
  obtain ⟨node, rfl⟩ := reached
  change position < index + 1 at inside
  by_cases here : position = index
  · subst here
    right
    rw [input, Option.some.injEq] at found
    rw [node, found]
  · exact .inl ⟨index + stage.through, position, by rw [reach, node], by omega, found⟩

theorem Goes.single (goes : Goes setup state thread event phase) (quiet : calm state event = true)
    (reuse : setup.reuseData = true) (smooth : Smooth setup state) :
    Single setup.count (known state) state.sent state.landed
      (fun other => leg setup other (Function.update state.phases thread phase other))
      fun other => beyond setup other (Function.update state.phases thread phase other) := by
  have single := smooth.single
  cases goes with
  | skip place index lock dataId here input reuse held =>
      have there : known state (place.nodeId, dataId) :=
        ⟨held, smooth.placed thread _ (by rw [here]; rfl)⟩
      have same : leg setup thread (.transfer place index lock (.unlocking (.ok ()))) =
          leg setup thread (state.phases thread) := by
        rw [here]
        rfl
      rw [legs_update, same, Function.update_eq_self thread]
      exact single.skip there (smooth.nobody here input)
        (beyond_update here (beyond_through input))
  | missing place index lock dataId here input absent =>
      have away : ¬ known state (place.nodeId, dataId) := fun there => absent ⟨reuse, there.1⟩
      have embarked := single.embark (smooth.locked.bound here nofun)
        (by rw [here, leg, input]; rfl) away (smooth.nobody here input)
      rw [legs_update, leg, input]
      exact embarked.learn (fun _ => id) (beyond_same here fun _ => id)
  | noInput place index here last =>
      exact single_move single (fun _ => id) here rfl fun _ => beyond_dispatch last
  | refused | chunkRefused | dataClosed | dataTimeout | notAssigned | resultClosed | resultTimeout
  | dropAwaiting | dropSleeping => cases quiet
  | start here => exact single_move single (fun _ => id) here rfl fun _ => id
  | select _ _ _ here | noNode _ _ here | unknown _ _ _ _ here | leave _ _ _ _ _ here
  | choose _ _ _ _ _ here | nothing _ _ _ _ here | sendChunk _ _ _ _ _ here
  | awaitData _ _ _ here | assign _ here | receive _ _ here | wake _ _ here =>
      exact single_move single (fun _ => id) here rfl fun _ => id

theorem Smooth.single_step (smooth : Smooth setup state) (step : Step setup state event after)
    (quiet : calm state event = true) (reuse : setup.reuseData = true) :
    Single setup.count (known after) after.sent after.landed
      (fun thread => leg setup thread (after.phases thread))
      fun thread => beyond setup thread (after.phases thread) := by
  have more : ∀ key, known state key → known after key := fun _ => step.known quiet smooth.smooth
  have single := smooth.single
  cases step with
  | go thread event phase goes => exact goes.single quiet reuse smooth
  | send thread place index lock dataId stage here input connected later =>
      have alone := @Smooth.nobody_else setup state thread smooth (place.nodeId, dataId) lock
        (by rw [here, standing_transfer input]; rfl)
      have departed := single.depart (smooth.locked.bound here (by simp))
        (by rw [here, leg, input]; rfl) alone
      have aloft : leg setup thread (.transfer place index lock stage) =
          .aloft (place.nodeId, dataId) := by
        rw [leg, input]
        rcases later with rfl | rfl <;> rfl
      have past : ∀ key, beyond setup thread (.transfer place index lock stage) key →
          beyond setup thread (.transfer place index lock .sending) key := by
        rcases later with rfl | rfl <;> exact fun _ => id
      rw [← aloft, ← legs_update] at departed
      exact departed.learn more (beyond_same here past)
  | record thread place index lock dataId size here input =>
      have alone := @Smooth.nobody_else setup state thread smooth (place.nodeId, dataId) lock
        (by rw [here, standing_transfer input]; rfl)
      have connected := smooth.placed thread place.nodeId (by rw [here]; rfl)
      have carried : leg setup thread (state.phases thread) = .aloft (place.nodeId, dataId) := by
        rw [here, leg, input]
        rfl
      have landed := single.land (smooth.locked.bound here (by simp)) carried more
        ⟨DataCatalog.holds_record.mpr (.inr ⟨rfl, rfl⟩), connected⟩ alone
        (beyond_update here (beyond_through input))
      have clear : leg setup thread (.transfer place index lock (.unlocking (.ok ()))) = .clear :=
        leg_clear fun _ => rfl
      rw [← clear, ← legs_update] at landed
      exact landed
  | lookup thread place index dataId here input =>
      obtain ⟨_, _, _, _, frame⟩ := @transferLock_frame state (place.nodeId, dataId)
      rw [State.move, frame] at more ⊢
      exact single_move single more here (leg_clear fun _ => rfl) fun _ => id
  | release thread place index lock dataId here =>
      obtain ⟨_, _, frame⟩ := @releaseTransfer_frame state (place.nodeId, dataId) lock
      rw [State.move, frame] at more ⊢
      exact single_move single more here rfl fun _ => id
  | recordOutput thread result here =>
      obtain ⟨_, _, frame⟩ := @recordOutput_frame setup state result
      rw [State.move, frame] at more ⊢
      exact single_move single more here rfl fun _ => id
  | unlock thread place index lock outcome stage here later =>
      rcases later with ⟨rfl, rfl⟩ | ⟨_, rfl, rfl⟩ <;>
        exact single_move single more here rfl fun _ => id
  | drop thread place index lock outcome phase here later =>
      rcases later with ⟨rfl, rfl⟩ | ⟨_, rfl, rfl⟩
      · exact single_move single more here (leg_clear fun _ => rfl).symm fun _ => id
      · exact single_move single more here (leg_clear fun _ => rfl).symm
          (by simp [beyond, reach])
  | finish thread place outcome phase here later =>
      rcases later with ⟨_, -, rfl⟩ | ⟨_, -, ⟨-, rfl⟩ | rfl⟩ <;>
        exact single_move single more here rfl (by simp [beyond, reach])
  | begin thread place here =>
      refine single_move single more here rfl ?_
      rintro key ⟨bound, index, reached, inside, -⟩
      rw [reach, Option.some.injEq, Prod.mk.injEq] at reached
      omega
  | acquire _ _ _ _ here | credit _ _ _ _ _ _ _ here | expectData _ _ _ _ _ _ _ here
  | expectResult _ _ here => exact single_move single more here rfl fun _ => id
  | forgetData thread _ _ _ _ _ here | forget thread _ _ here | retry thread _ here =>
      have before := smooth.smooth thread
      rw [here] at before
      cases before
  | dropLocking | dropSending => cases quiet
  | register | attach | detach | forgetNode | held | evicted | ready | complete | unheard
  | unexpected => exact single.learn more fun _ _ => id

theorem Smooth.step (smooth : Smooth setup state) (step : Step setup state event after)
    (quiet : calm state event = true) (reuse : setup.reuseData = true) : Smooth setup after := by
  have grows := step.connected_grows quiet
  refine ⟨smooth.locked.step step, ?_, ?_, smooth.single_step step quiet reuse⟩
  · rcases step.fits quiet smooth.smooth with same | ⟨mover, phase, phases, kept, -⟩
    · rw [same]
      exact smooth.smooth
    · intro thread
      rw [phases]
      by_cases moved : thread = mover
      · rw [moved, Function.update_self]
        exact kept
      · rw [Function.update_of_ne moved]
        exact smooth.smooth thread
  · intro thread nodeId here
    rcases step.fits quiet smooth.smooth with same | ⟨mover, phase, phases, -, fits⟩
    · rw [same] at here
      exact grows (smooth.placed thread nodeId here)
    · rw [phases] at here
      by_cases moved : thread = mover
      · rw [moved, Function.update_self] at here
        exact grows ((fits nodeId here).elim id (smooth.placed mover nodeId))
      · rw [Function.update_of_ne moved] at here
        exact grows (smooth.placed thread nodeId here)

theorem smooth_start (setup : Setup) (catalog : DataCatalog) (store : DataId → Option Bytes)
    (connected : Finset NodeId) : Smooth setup (.start catalog store connected) where
  locked := locked_start setup catalog store connected
  smooth := fun _ => rfl
  placed := nofun
  single := by
    refine (Single.start _).learn (fun _ => id) ?_
    rintro party key ⟨bound, index, ⟨⟩, -⟩

def Holds (setup : Setup) (state : State) (thread : Nat) (key : NodeId × DataId) (lock : Nat) :
    Prop :=
  standing setup thread (state.phases thread) = .holding key lock

def Awaits (setup : Setup) (state : State) (thread : Nat) (key : NodeId × DataId) (lock : Nat) :
    Prop :=
  standing setup thread (state.phases thread) = .waiting key lock

structure OneTransfer (setup : Setup) (state : State) : Prop where
  holder : ∀ key first second lock mutex, Holds setup state first key lock →
    Holds setup state second key mutex → first = second
  release : ∀ thread after key lock, next setup state (.release thread) = some after →
    state.transfers key = some lock → after.transfers key = none → ∀ other ≠ thread,
      ∀ wanted mutex, Holds setup state other wanted mutex ∨ Awaits setup state other wanted mutex →
        wanted ≠ key ∧ mutex ≠ lock
  once : ∀ key, state.sent key ≤ 1
  finished : ∀ thread key, beyond setup thread (state.phases thread) key →
    state.catalog.holds key.2 key.1 = true ∧ state.sent key = state.landed key

theorem Locked.release (locked : Locked setup state) {key : NodeId × DataId} {lock : Nat}
    (moved : next setup state (.release thread) = some after)
    (entered : state.transfers key = some lock) (removed : after.transfers key = none) {other : Nat}
    (different : other ≠ thread) {wanted : NodeId × DataId} {mutex : Nat}
    (wants : Holds setup state other wanted mutex ∨ Awaits setup state other wanted mutex) :
    wanted ≠ key ∧ mutex ≠ lock := by
  have goes : (standing setup other (state.phases other)).entry = some (wanted, mutex) := by
    rcases wants with holds | awaits
    · rw [holds]
      rfl
    · rw [awaits]
      rfl
  cases next_step moved with
  | go _ _ _ goes => cases goes
  | release _ place index own dataId here input =>
      have leaves : standing setup thread (state.phases thread) =
          .leaving (place.nodeId, dataId) own := by
        rw [here, standing_transfer input]
        rfl
      refine locked.sound.retire_alone locked.outside leaves entered ?_ different goes
      rw [← releaseTransfer_locks]
      exact removed

theorem Smooth.oneTransfer (smooth : Smooth setup state) : OneTransfer setup state where
  holder := fun _ _ _ _ _ => smooth.locked.sound.holder_unique
  release := fun _ _ _ _ moved entered removed _ different _ _ =>
    smooth.locked.release moved entered removed different
  once := smooth.single.once
  finished := fun thread key gone =>
    ⟨(smooth.single.settled thread key gone).1.1, smooth.single.landed_of_passed gone⟩

/-- While nothing fails, nothing is evicted and nobody leaves, every dataset goes to a node at
most once, and a submission goes on only when it is there. -/
theorem single_flight (setup : Setup) (catalog : DataCatalog) (store : DataId → Option Bytes)
    (connected : Finset NodeId) (reuse : setup.reuseData = true) (events : List Event)
    (quiet : Along (next setup) (fun state event => calm state event = true)
      (.start catalog store connected) events) :
    Always (next setup) (OneTransfer setup) (.start catalog store connected) events := by
  intro front back state split reached
  rw [split, along_append] at quiet
  have smooth : Smooth setup state :=
    @run_history State Event (next setup) (fun state event => calm state event = true)
      (fun _ => Smooth setup) _ state front (smooth_start setup catalog store connected)
      (fun _ _ _ _ holds moved calm => holds.step (next_step moved) calm reuse) quiet.1 reached
  exact smooth.oneTransfer

def readsTwice : Setup where
  count := 2
  task := fun thread =>
    (Task.new ⟨BitVec.ofNat 128 thread⟩ "echo" []).withInputs [Dispatch.idOf 0]
  manifests := fun dataId => if dataId = Dispatch.idOf 0 then some Dispatch.halves else none
  reuseData := true
  maxAttempts := 2
  digest := fun _ => Dispatch.idOf 7

def holdsBytes (dataId : DataId) : Option Bytes :=
  if dataId = Dispatch.idOf 0 then some [1, 2] else none

def sharesTransfer : List Event :=
  [.start 0, .start 1, .select 0 (some ⟨0⟩), .select 1 (some ⟨0⟩), .begin 0, .begin 1, .lookup 0,
    .acquire 0, .check 0, .send 0 none, .lookup 1, .look 0, .credit 0, .look 0, .credit 0,
    .expectData 0, .sendChunk 0 none, .sendChunk 0 none, .ready ⟨0⟩ (Dispatch.idOf 0),
    .awaitData 0, .record 0, .unlock 0, .acquire 1, .release 0, .drop 0, .check 1, .unlock 1,
    .release 1, .drop 1, .lookup 0, .lookup 1]

theorem shared_transfer_once :
    ∃ final, run (next readsTwice) (.start .new holdsBytes {⟨0⟩}) sharesTransfer = some final ∧
      final.phases 0 = .dispatch ⟨1, [], ⟨0⟩⟩ .expecting ∧
      final.phases 1 = .dispatch ⟨1, [], ⟨0⟩⟩ .expecting ∧
      final.sent (⟨0⟩, Dispatch.idOf 0) = 1 ∧ final.transfers (⟨0⟩, Dispatch.idOf 0) = none ∧
      OneTransfer readsTwice final := by
  have tested : (run (next readsTwice) (.start .new holdsBytes {⟨0⟩}) sharesTransfer).any
      (fun final => final.phases 0 = .dispatch ⟨1, [], ⟨0⟩⟩ .expecting ∧
        final.phases 1 = .dispatch ⟨1, [], ⟨0⟩⟩ .expecting ∧
        final.sent (⟨0⟩, Dispatch.idOf 0) = 1 ∧
        final.transfers (⟨0⟩, Dispatch.idOf 0) = none) = true := by decide
  obtain ⟨final, ran, shared⟩ := run_tested tested
  obtain ⟨first, second, sent, gone⟩ := of_decide_eq_true shared
  exact ⟨final, ran, first, second, sent, gone, always_last (single_flight readsTwice .new holdsBytes
    {⟨0⟩} rfl sharesTransfer (by decide)) ran⟩

end AetherMesh.Submissions
