import AetherMesh.Controller.Server

/-!
What becomes of those who wait for a node when its connection goes. Detaching a node drops
its queues and its channel token; the waiters are left where they are.
-/

namespace AetherMesh.Server

open Runs

variable {setup : Setup} {state after : State} {event : Event} {nodeId : NodeId}

def detaches (state : State) : Event → Option NodeId
  | .proceed link =>
      match (state.links link).stage with
      | .closing => (state.links link).registeredId
      | _ => none
  | .evict =>
      match state.pass with
      | .detaching nodeId _ => some nodeId
      | _ => none
  | _ => none

def Severs (state : State) (event : Event) (nodeId : NodeId) (call : Nat) (task : Task) : Prop :=
  ∃ link since, state.dispatches call = .awaiting nodeId task link since ∧
    (state.connections.senders nodeId = some link ∨ event = .proceed link)

/-- Nobody waits for the node any more, and every call that did can return. -/
structure Resolved (setup : Setup) (state after : State) (event : Event) (nodeId : NodeId) :
    Prop where
  results : ∀ call task, Severs state event nodeId call task →
    after.connections.pending task.id ≠ some call
  data : ∀ dataId, after.connections.pendingData (nodeId, dataId) = none
  dispatches : ∀ call task, Severs state event nodeId call task → after.mailbox call = none →
    next setup after (.resultClosed call) = some (after.call call
      (.failed nodeId task (.unreachable nodeId closedBeforeResult)))
  batches : ∀ call dataId, after.batches call = .sending nodeId dataId [] →
    after.arrived call = false →
    next setup after (.dataClosed call) = some (after.batch call
      (.failed nodeId dataId (.unreachable nodeId closedBeforeData)))

def Resolves (setup : Setup) (state : State) (event : Event) : Prop :=
  ∀ nodeId after, detaches state event = some nodeId → next setup state event = some after →
    Resolved setup state after event nodeId

def Unwatched (state : State) (event : Event) : Prop :=
  ∀ nodeId, detaches state event = some nodeId →
    (∀ call task, Severs state event nodeId call task →
      state.connections.pending task.id ≠ some call) ∧
    ∀ dataId, state.connections.pendingData (nodeId, dataId) = none

structure Detached (state after : State) : Prop where
  pending : after.connections.pending = state.connections.pending
  pendingData : after.connections.pendingData = state.connections.pendingData
  dispatches : after.dispatches = state.dispatches
  mailbox : after.mailbox = state.mailbox

theorem detaches_frame (detached : detaches state event = some nodeId)
    (moved : next setup state event = some after) : Detached state after := by
  cases event with
  | proceed link =>
      have moved : proceed setup state link = some after := moved
      dsimp only [detaches] at detached
      split at detached
      · rename_i here
        simp only [proceed, here, detached] at moved
        cases moved
        exact ⟨rfl, rfl, rfl, rfl⟩
      · cases detached
  | evict =>
      have moved : evict state = some after := moved
      dsimp only [detaches] at detached
      split at detached
      · rename_i gone rest here
        simp only [evict, here] at moved
        cases moved
        exact ⟨rfl, rfl, rfl, rfl⟩
      · cases detached
  | _ => cases detached

theorem resultClosed_enabled {call link since : Nat} {task : Task}
    (here : state.dispatches call = .awaiting nodeId task link since)
    (empty : state.mailbox call = none) (gone : state.connections.pending task.id ≠ some call) :
    next setup state (.resultClosed call) = some (state.call call
      (.failed nodeId task (.unreachable nodeId closedBeforeResult))) := by
  dsimp only [next]
  rw [here]
  exact if_pos ⟨empty, gone⟩

theorem dataClosed_enabled {call : Nat} {dataId : DataId}
    (here : state.batches call = .sending nodeId dataId []) (empty : state.arrived call = false)
    (gone : state.connections.pendingData (nodeId, dataId) ≠ some call) :
    next setup state (.dataClosed call) = some (state.batch call
      (.failed nodeId dataId (.unreachable nodeId closedBeforeData))) := by
  dsimp only [next]
  rw [here]
  exact if_pos ⟨empty, gone⟩

theorem resolved_iff (detached : detaches state event = some nodeId)
    (moved : next setup state event = some after) :
    Resolved setup state after event nodeId ↔
      (∀ call task, Severs state event nodeId call task →
        state.connections.pending task.id ≠ some call) ∧
      ∀ dataId, state.connections.pendingData (nodeId, dataId) = none := by
  obtain ⟨pending, pendingData, dispatches, mailbox⟩ := detaches_frame detached moved
  constructor
  · intro resolved
    rw [← pending, ← pendingData]
    exact ⟨resolved.results, resolved.data⟩
  · rintro ⟨unwatched, noData⟩
    refine ⟨?_, ?_, ?_, ?_⟩
    · rw [pending]
      exact unwatched
    · rw [pendingData]
      exact noData
    · intro call task severs empty
      obtain ⟨link, since, here, -⟩ := id severs
      refine resultClosed_enabled (dispatches ▸ here) empty ?_
      rw [pending]
      exact unwatched call task severs
    · intro call dataId here empty
      refine dataClosed_enabled here empty ?_
      rw [pendingData, noData dataId]
      exact (Option.some_ne_none call).symm

/-- Detaching a node resolves its waiters exactly when it has none. -/
theorem detaching_resolves {trace : List Event} {final : State}
    (ran : run (next setup) State.start trace = some final) :
    Along (next setup) (Resolves setup) State.start trace ↔
      Along (next setup) Unwatched State.start trace := by
  refine along_congr ?_ ran
  intro state event after moved
  constructor
  · intro resolves nodeId detached
    exact (resolved_iff detached moved).mp (resolves nodeId after detached moved)
  · intro unwatched nodeId other detached reached
    exact (resolved_iff detached reached).mpr (unwatched nodeId detached)

def answersAndCloses : List Event :=
  .accept 0 :: registers 0 ⟨0⟩ ++
    [.dispatch 0 ⟨0⟩ helloTask, .assign 0, .arrive 0 (.taskCompleted ⟨⟨0⟩, ⟨0⟩, .success [], 0, none⟩),
      .read 0, .receive 0, .lose 0]

def closesMeanwhile : List Event :=
  .accept 0 :: registers 0 ⟨0⟩ ++ [.dispatch 0 ⟨0⟩ helloTask, .assign 0, .lose 0]

theorem closed_afterwards_resolves :
    Along (next openMesh) (Resolves openMesh) State.start (answersAndCloses ++ [.proceed 0]) := by
  have runs : (run (next openMesh) State.start (answersAndCloses ++ [.proceed 0])).isSome = true := by
    decide
  obtain ⟨final, ran⟩ := Option.isSome_iff_exists.mp runs
  refine (detaching_resolves ran).mpr ?_
  have empty : ∃ state, run (next openMesh) State.start answersAndCloses = some state ∧
      (∀ taskId, state.connections.pending taskId = none) ∧
      ∀ key, state.connections.pendingData key = none := by
    refine ⟨_, rfl, ?_, fun _ => rfl⟩
    intro taskId
    by_cases same : taskId = ⟨0⟩
    · rw [same]
      rfl
    · have forgotten : ∀ value : Option Nat, Function.update (Function.update (fun _ => none)
          (⟨0⟩ : TaskId) value) ⟨0⟩ none taskId = none := by
        intro value
        rw [Function.update_of_ne same, Function.update_of_ne same]
      exact forgotten (some 0)
  obtain ⟨state, reached, noResults, noData⟩ := empty
  refine (along_snoc reached).mpr ⟨along_mono ?_ (by decide : Along (next openMesh)
    (fun state event => detaches state event = none) State.start answersAndCloses), ?_⟩
  · intro state event none nodeId detached
    rw [none] at detached
    cases detached
  · intro nodeId detached
    refine ⟨fun call task severs => ?_, fun dataId => noData (nodeId, dataId)⟩
    rw [noResults task.id]
    exact (Option.some_ne_none call).symm

theorem closed_meanwhile_waits :
    ∃ final, run (next openMesh) State.start (closesMeanwhile ++ [.proceed 0]) = some final ∧
      final.connections.pending ⟨0⟩ = some 0 ∧ next openMesh final (.resultClosed 0) = none ∧
      ¬ Along (next openMesh) (Resolves openMesh) State.start (closesMeanwhile ++ [.proceed 0]) := by
  have before : (run (next openMesh) State.start closesMeanwhile).any (fun state =>
      detaches state (.proceed 0) = some ⟨0⟩ ∧
        state.dispatches 0 = .awaiting ⟨0⟩ helloTask 0 1) = true := by decide
  have afterwards : (run (next openMesh) State.start (closesMeanwhile ++ [.proceed 0])).any
      (fun final => final.connections.pending ⟨0⟩ = some 0 ∧
        (next openMesh final (.resultClosed 0)).isNone) = true := by decide
  obtain ⟨state, final, reached, known, moved, ran, found⟩ := run_tested_snoc before afterwards
  obtain ⟨detached, here⟩ := of_decide_eq_true known
  obtain ⟨still, stuck⟩ := of_decide_eq_true found
  refine ⟨final, ran, still, Option.isNone_iff_eq_none.mp stuck, fun along => ?_⟩
  have resolved := ((along_snoc reached).mp along).2 ⟨0⟩ final detached moved
  exact resolved.results 0 helloTask ⟨0, 1, here, .inr rfl⟩ still

end AetherMesh.Server
