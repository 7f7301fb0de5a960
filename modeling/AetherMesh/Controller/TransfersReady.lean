import AetherMesh.Agent.Arrival
import AetherMesh.Controller.Transfers

/-!
Whether the announcement that a dataset is complete finds the transfer that waits for
it. The waiter is registered after the manifest has left, and the agent announces a
dataset once.
-/

namespace AetherMesh.Transfers

open Runs

variable {setup : Setup} {state after : State} {event : Event}

def Phase.isSending : Phase → Bool
  | .sending _ => true
  | _ => false

def Setup.Distinct (setup : Setup) : Prop :=
  ∀ first < setup.count, ∀ second < setup.count,
    setup.dataId first = setup.dataId second → first = second

structure Waits (setup : Setup) (state : State) : Prop where
  unused : ∀ thread, setup.count ≤ thread → state.phases thread = .idle
  waiting : ∀ thread, (state.phases thread).isSending = true →
    setup.dataId thread ∈ state.waiters ∨ setup.dataId thread ∈ state.ready
  free : ∀ thread < setup.count, (state.phases thread).isSending = false →
    setup.dataId thread ∉ state.waiters ∧ setup.dataId thread ∉ state.ready
  apart : ∀ dataId ∈ state.ready, dataId ∉ state.waiters

/-- A transfer that waits for an announcement that has reached the server is woken. -/
def Resolved (setup : Setup) (state : State) : Prop :=
  ∀ thread, (state.phases thread).isSending = true → setup.dataId thread ∈ state.told →
    setup.dataId thread ∈ state.ready

/-- A waiter is registered after the announcement has reached the server. -/
def tooLate (setup : Setup) (state : State) : Event → Bool
  | .expectData thread =>
      match state.phases thread with
      | .planning _ (_ :: _) => setup.dataId thread ∈ state.told
      | _ => false
  | _ => false

theorem Waits.bound (waits : Waits setup state) {thread : Nat}
    (busy : state.phases thread ≠ .idle) : thread < setup.count := by
  by_contra outside
  exact busy (waits.unused thread (Nat.le_of_not_lt outside))

theorem Waits.move (waits : Waits setup state) (thread : Nat) (phase : Phase)
    (bound : thread < setup.count)
    (phases : after.phases = Function.update state.phases thread phase)
    (same : phase.isSending = (state.phases thread).isSending)
    (waiters : after.waiters = state.waiters) (ready : after.ready = state.ready) :
    Waits setup after where
  unused other outside := by
    rw [phases, Function.update_of_ne (by omega)]
    exact waits.unused other outside
  waiting other sends := by
    rw [waiters, ready]
    refine waits.waiting other ?_
    rw [phases] at sends
    by_cases here : other = thread
    · subst here
      rwa [Function.update_self, same] at sends
    · rwa [Function.update_of_ne here] at sends
  free other inside sends := by
    rw [waiters, ready]
    refine waits.free other inside ?_
    rw [phases] at sends
    by_cases here : other = thread
    · subst here
      rwa [Function.update_self, same] at sends
    · rwa [Function.update_of_ne here] at sends
  apart := by rw [waiters, ready]; exact waits.apart

theorem Waits.of_same (waits : Waits setup state) (phases : after.phases = state.phases)
    (waiters : after.waiters = state.waiters) (ready : after.ready = state.ready) :
    Waits setup after where
  unused := by rw [phases]; exact waits.unused
  waiting := by rw [phases, waiters, ready]; exact waits.waiting
  free := by rw [phases, waiters, ready]; exact waits.free
  apart := by rw [waiters, ready]; exact waits.apart

theorem sendBulk_frame (state : State) (message : Message) :
    (state.sendBulk setup message).phases = state.phases ∧
    (state.sendBulk setup message).waiters = state.waiters ∧
    (state.sendBulk setup message).ready = state.ready ∧
    (state.sendBulk setup message).told = state.told ∧
    (state.sendBulk setup message).agent = state.agent ∧
    (state.sendBulk setup message).heard = state.heard ∧
    (state.sendBulk setup message).received = state.received := by
  unfold State.sendBulk
  split
  · exact ⟨rfl, rfl, rfl, rfl, rfl, rfl, rfl⟩
  · exact ⟨rfl, rfl, rfl, rfl, rfl, rfl, rfl⟩

theorem taken_frame (state : State) (rest : List Message) (connection : Agent.Connection) :
    (state.taken rest connection).phases = state.phases ∧
    (state.taken rest connection).waiters = state.waiters ∧
    (state.taken rest connection).ready = state.ready ∧
    (state.taken rest connection).told = state.told ∧
    (state.taken rest connection).heard = state.heard := by
  cases connection <;> exact ⟨rfl, rfl, rfl, rfl, rfl⟩

theorem hear_cases (state : State) (message : Message) :
    (∃ nodeId dataId, message = .dataReady nodeId dataId ∧
      (state.hear message).told = insert dataId state.told ∧
      (state.hear message).waiters = state.waiters.erase dataId ∧
      (dataId ∈ state.waiters → (state.hear message).ready = insert dataId state.ready) ∧
      (dataId ∉ state.waiters → (state.hear message).ready = state.ready)) ∨
    ((∀ nodeId dataId, message ≠ .dataReady nodeId dataId) ∧
      (state.hear message).told = state.told ∧
      (state.hear message).waiters = state.waiters ∧ (state.hear message).ready = state.ready) := by
  cases message with
  | dataReady nodeId dataId =>
      refine .inl ⟨nodeId, dataId, rfl, ?_⟩
      by_cases waited : dataId ∈ state.waiters
      · simp [State.hear, State.completeData, waited]
      · simp [State.hear, State.completeData, waited]
  | _ => exact .inr ⟨nofun, rfl, rfl, rfl⟩

theorem hear_frame (state : State) (message : Message) :
    (state.hear message).phases = state.phases ∧ (state.hear message).agent = state.agent ∧
    (state.hear message).control = state.control ∧
    (state.hear message).channels = state.channels ∧
    (state.hear message).received = state.received ∧
    (state.hear message).heard = state.heard + 1 := by
  cases message with
  | dataReady nodeId dataId =>
      simp only [State.hear, State.completeData]
      split
      · exact ⟨rfl, rfl, rfl, rfl, rfl, rfl⟩
      · exact ⟨rfl, rfl, rfl, rfl, rfl, rfl⟩
  | _ => exact ⟨rfl, rfl, rfl, rfl, rfl, rfl⟩

theorem Waits.hear (waits : Waits setup state) (message : Message) :
    Waits setup (state.hear message) := by
  have phases := (hear_frame state message).1
  rcases hear_cases state message with ⟨nodeId, dataId, -, -, waiters, woken, kept⟩ |
    ⟨-, -, waiters, ready⟩
  · by_cases waited : dataId ∈ state.waiters
    · refine ⟨by rw [phases]; exact waits.unused, fun thread sends => ?_,
        fun thread bound sends => ?_, fun other => ?_⟩
      · rw [phases] at sends
        have before := waits.waiting thread sends
        rw [waiters, woken waited, Finset.mem_erase, Finset.mem_insert]
        tauto
      · rw [phases] at sends
        have before := waits.free thread bound sends
        rw [waiters, woken waited, Finset.mem_erase, Finset.mem_insert]
        refine ⟨fun both => before.1 both.2, ?_⟩
        rintro (rfl | old)
        · exact before.1 waited
        · exact before.2 old
      · have before := waits.apart other
        rw [waiters, woken waited, Finset.mem_erase, Finset.mem_insert]
        tauto
    · refine waits.of_same phases ?_ (kept waited)
      rw [waiters, Finset.erase_eq_of_notMem waited]
  · exact waits.of_same phases waiters ready

theorem Waits.expectData (waits : Waits setup state) (distinct : setup.Distinct) {thread : Nat}
    (bound : thread < setup.count) (free : (state.phases thread).isSending = false)
    (batch : List Nat) :
    Waits setup ({ state with waiters := insert (setup.dataId thread) state.waiters }.move thread
      (.sending batch)) := by
  refine ⟨fun other outside => ?_, fun other sends => ?_, fun other inside sends => ?_,
    fun other listed => ?_⟩
  · rw [State.move_other _ _ _ _ (by omega)]
    exact waits.unused other outside
  · rw [State.move_waiters, State.move_ready, Finset.mem_insert]
    by_cases here : other = thread
    · exact .inl (.inl (by rw [here]))
    · rw [State.move_other _ _ _ _ here] at sends
      exact (waits.waiting other sends).imp_left .inr
  · by_cases here : other = thread
    · subst here
      rw [State.move_self] at sends
      cases sends
    · rw [State.move_other _ _ _ _ here] at sends
      have before := waits.free other inside sends
      rw [State.move_waiters, State.move_ready, Finset.mem_insert]
      refine ⟨?_, before.2⟩
      rintro (same | old)
      · exact here (distinct other inside thread bound same)
      · exact before.1 old
  · rw [State.move_waiters, Finset.mem_insert]
    rintro (rfl | old)
    · exact (waits.free thread bound free).2 listed
    · exact waits.apart other listed old

theorem Waits.await (waits : Waits setup state) (distinct : setup.Distinct) {thread : Nat}
    (bound : thread < setup.count) (resolved : setup.dataId thread ∈ state.ready) :
    Waits setup ({ state with ready := state.ready.erase (setup.dataId thread) }.move thread
      .arrived) := by
  refine ⟨fun other outside => ?_, fun other sends => ?_, fun other inside sends => ?_,
    fun other listed => ?_⟩
  · rw [State.move_other _ _ _ _ (by omega)]
    exact waits.unused other outside
  · by_cases here : other = thread
    · subst here
      rw [State.move_self] at sends
      cases sends
    · rw [State.move_other _ _ _ _ here] at sends
      have busy : state.phases other ≠ .idle := fun idle => by simp [idle, Phase.isSending] at sends
      rw [State.move_waiters, State.move_ready, Finset.mem_erase]
      refine (waits.waiting other sends).imp_right fun old => ⟨fun same => here ?_, old⟩
      exact distinct other (waits.bound busy) thread bound same
  · rw [State.move_waiters, State.move_ready, Finset.mem_erase]
    by_cases here : other = thread
    · subst here
      exact ⟨waits.apart _ resolved, fun both => both.1 rfl⟩
    · rw [State.move_other _ _ _ _ here] at sends
      have before := waits.free other inside sends
      exact ⟨before.1, fun both => before.2 both.2⟩
  · rw [State.move_ready, Finset.mem_erase] at listed
    exact waits.apart other listed.2

theorem Waits.step (waits : Waits setup state) (distinct : setup.Distinct)
    (step : Step setup state event after) : Waits setup after := by
  cases step with
  | credited thread atIdle bound => exact waits.move thread _ bound rfl (by rw [atIdle]; rfl) rfl rfl
  | check thread atIdle bound => exact waits.move thread _ bound rfl (by rw [atIdle]; rfl) rfl rfl
  | sendManifest thread atMissing =>
      exact waits.move thread _ (waits.bound (by simp [atMissing])) rfl (by rw [atMissing]; rfl) rfl rfl
  | skip thread index batch chunk atPlanning =>
      exact waits.move thread _ (waits.bound (by simp [atPlanning])) rfl (by rw [atPlanning]; rfl) rfl
        rfl
  | choose thread index batch chunk atPlanning =>
      exact waits.move thread _ (waits.bound (by simp [atPlanning])) rfl (by rw [atPlanning]; rfl) rfl
        rfl
  | credit thread index batch chunk atCrediting =>
      exact waits.move thread _ (waits.bound (by simp [atCrediting])) rfl (by rw [atCrediting]; rfl)
        rfl rfl
  | nothing thread index atPlanning =>
      exact waits.move thread _ (waits.bound (by simp [atPlanning])) rfl (by rw [atPlanning]; rfl) rfl
        rfl
  | expectData thread index batch atPlanning =>
      exact waits.expectData distinct (waits.bound (by simp [atPlanning])) (by rw [atPlanning]; rfl)
        batch
  | sendChunk thread index left atSending =>
      obtain ⟨phases, waiters, ready, -⟩ := @sendBulk_frame setup state (setup.chunk thread index)
      refine waits.move thread (.sending left) (waits.bound (by simp [atSending])) ?_
        (by rw [atSending]; rfl) waiters ready
      rw [State.move, phases]
  | await thread atSending resolved =>
      exact waits.await distinct (waits.bound (by simp [atSending])) resolved
  | record thread atArrived =>
      exact waits.move thread _ (waits.bound (by simp [atArrived])) rfl (by rw [atArrived]; rfl) rfl rfl
  | deliver connection message rest =>
      obtain ⟨phases, waiters, ready, -⟩ := taken_frame state rest connection
      exact waits.of_same phases waiters ready
  | hear message => exact waits.hear message
  | _ => exact waits.of_same rfl rfl rfl

theorem waits_start (catalog : DataCatalog) (agent : Agent.State) :
    Waits setup (.start catalog agent) where
  unused _ _ := rfl
  waiting _ sends := by cases sends
  free _ _ _ := ⟨Finset.notMem_empty _, Finset.notMem_empty _⟩
  apart _ listed := absurd listed (Finset.notMem_empty _)

theorem Resolved.move (resolved : Resolved setup state) (thread : Nat) (phase : Phase)
    (phases : after.phases = Function.update state.phases thread phase)
    (waits : phase.isSending = true → (state.phases thread).isSending = true)
    (ready : after.ready = state.ready) (told : after.told ⊆ state.told) :
    Resolved setup after := by
  intro other sends announced
  rw [ready]
  refine resolved other ?_ (told announced)
  rw [phases] at sends
  by_cases here : other = thread
  · subst here
    rw [Function.update_self] at sends
    exact waits sends
  · rwa [Function.update_of_ne here] at sends

theorem Resolved.of_same (resolved : Resolved setup state) (phases : after.phases = state.phases)
    (ready : after.ready = state.ready) (told : after.told = state.told) :
    Resolved setup after := by
  intro thread sends announced
  rw [ready]
  rw [phases] at sends
  rw [told] at announced
  exact resolved thread sends announced

theorem Resolved.hear (resolved : Resolved setup state) (waits : Waits setup state)
    (message : Message) : Resolved setup (state.hear message) := by
  have phases := (hear_frame state message).1
  rcases hear_cases state message with ⟨nodeId, dataId, -, told, waiters, woken, kept⟩ |
    ⟨-, told, waiters, ready⟩
  · intro thread sends announced
    rw [phases] at sends
    rw [told, Finset.mem_insert] at announced
    have before := resolved thread sends
    have registered := waits.waiting thread sends
    by_cases waited : dataId ∈ state.waiters
    · rw [woken waited, Finset.mem_insert]
      tauto
    · rw [kept waited]
      rcases announced with same | old
      · rcases registered with mine | done
        · exact absurd (same ▸ mine) waited
        · exact done
      · exact before old
  · exact resolved.of_same phases ready told

theorem Resolved.await (resolved : Resolved setup state) (waits : Waits setup state)
    (distinct : setup.Distinct) {thread : Nat} (bound : thread < setup.count) :
    Resolved setup ({ state with ready := state.ready.erase (setup.dataId thread) }.move thread
      .arrived) := by
  intro other sends announced
  by_cases here : other = thread
  · subst here
    rw [State.move_self] at sends
    cases sends
  · rw [State.move_other _ _ _ _ here] at sends
    have busy : state.phases other ≠ .idle := fun idle => by simp [idle, Phase.isSending] at sends
    rw [State.move_ready, Finset.mem_erase]
    exact ⟨fun same => here (distinct other (waits.bound busy) thread bound same),
      resolved other sends announced⟩

theorem Step.resolved_iff (step : Step setup state event after) (waits : Waits setup state)
    (distinct : setup.Distinct) (resolved : Resolved setup state) :
    Resolved setup after ↔ tooLate setup state event = false := by
  cases step with
  | credited thread => exact iff_of_true (resolved.move thread _ rfl nofun rfl subset_rfl) rfl
  | check thread => exact iff_of_true (resolved.move thread _ rfl nofun rfl subset_rfl) rfl
  | sendManifest thread =>
      exact iff_of_true (resolved.move thread _ rfl nofun rfl (Finset.erase_subset _ _)) rfl
  | skip thread => exact iff_of_true (resolved.move thread _ rfl nofun rfl subset_rfl) rfl
  | choose thread => exact iff_of_true (resolved.move thread _ rfl nofun rfl subset_rfl) rfl
  | credit thread => exact iff_of_true (resolved.move thread _ rfl nofun rfl subset_rfl) rfl
  | nothing thread index atPlanning =>
      refine iff_of_true (resolved.move thread _ rfl nofun rfl subset_rfl) ?_
      simp [tooLate, atPlanning]
  | expectData thread index batch atPlanning all some =>
      have bound := waits.bound (by simp [atPlanning] : state.phases thread ≠ .idle)
      have unready := (waits.free thread bound (by rw [atPlanning]; rfl)).2
      obtain ⟨first, rest, rfl⟩ := List.exists_cons_of_ne_nil some
      simp only [tooLate, atPlanning, decide_eq_false_iff_not]
      constructor
      · intro after announced
        exact unready (after thread (by rw [State.move_self]; rfl) announced)
      · intro silent other sends announced
        by_cases here : other = thread
        · subst here
          exact absurd announced silent
        · rw [State.move_other _ _ _ _ here] at sends
          exact resolved other sends announced
  | sendChunk thread index left atSending =>
      obtain ⟨phases, -, ready, told, -⟩ := @sendBulk_frame setup state (setup.chunk thread index)
      refine iff_of_true (resolved.move thread (.sending left) ?_ ?_ ready (told ▸ subset_rfl)) rfl
      · rw [State.move, phases]
      · intro
        rw [atSending]
        rfl
  | await thread atSending =>
      exact iff_of_true (resolved.await waits distinct (waits.bound (by simp [atSending]))) rfl
  | record thread => exact iff_of_true (resolved.move thread _ rfl nofun rfl subset_rfl) rfl
  | deliver connection message rest =>
      obtain ⟨phases, -, ready, told, -⟩ := taken_frame state rest connection
      exact iff_of_true (resolved.of_same phases ready told) rfl
  | hear message => exact iff_of_true (resolved.hear waits message) rfl
  | _ => exact iff_of_true (resolved.of_same rfl rfl rfl) rfl

/-- In every state of a run, whoever waits for an announcement that has arrived is woken, if
and only if no waiter of the run is registered after the announcement it waits for. -/
theorem announcements_resolve_iff (setup : Setup) (distinct : setup.Distinct)
    (catalog : DataCatalog) (agent : Agent.State) (events : List Event) (final : State)
    (ran : run (next setup) (.start catalog agent) events = some final) :
    Always (next setup) (Resolved setup) (.start catalog agent) events ↔
      Along (next setup) (fun state event => tooLate setup state event = false)
        (.start catalog agent) events := by
  refine @always_iff_along State Event (next setup)
    (fun state event => tooLate setup state event = false) (Resolved setup)
    (.start catalog agent) final events (Waits setup) (waits_start catalog agent) ?_ ?_ ran
  · intro thread sends
    cases sends
  · intro state event after waits moved
    have step := next_step moved
    exact ⟨waits.step distinct step, step.resolved_iff waits distinct⟩

def twoChunks : Setup where
  agent := Agent.plainSetup
  policy := Agent.neverCompress
  bandwidth := none
  nodeId := ⟨0⟩
  reuseData := true
  chunkSize := 1
  channels := 0
  count := 1
  data := fun _ => [1, 2]

def plan : List Event := [.look 0, .credit 0, .look 0, .credit 0, .expectData 0]

def sendBoth : List Event := [.sendChunk 0, .sendChunk 0]

def complete : List Event :=
  [.deliver .control, .work (.act .control), .work (.act .control), .work (.act .control)]

def usualOrder : List Event :=
  [.check 0, .sendManifest 0, .deliver .control] ++ plan ++ sendBoth ++ [.deliver .control] ++
    complete ++ [.hear, .await 0, .record 0]

theorem twoChunks_distinct : twoChunks.Distinct := by
  intro first left second right _
  have small : first < 1 ∧ second < 1 := ⟨left, right⟩
  omega

theorem usual_order_resolves :
    (run (next twoChunks) (.start .new Agent.emptyAgent) usualOrder).isSome = true ∧
    Always (next twoChunks) (Resolved twoChunks) (.start .new Agent.emptyAgent) usualOrder := by
  have some : (run (next twoChunks) (.start .new Agent.emptyAgent) usualOrder).isSome = true := by
    decide
  obtain ⟨final, ran⟩ := Option.isSome_iff_exists.mp some
  exact ⟨some, (announcements_resolve_iff twoChunks twoChunks_distinct .new Agent.emptyAgent
    usualOrder final ran).mpr (by decide)⟩

def holdsBoth : Agent.State :=
  { Agent.emptyAgent with
    store := ((DataStore.new.put Agent.shortDigest [1]).1.put Agent.shortDigest [2]).1 }

def answersEarly : List Event :=
  [.check 0, .sendManifest 0] ++ complete ++ [.hear] ++ plan ++ sendBoth ++
    [.deliver .control, .deliver .control]

def waitsForNothing (state : State) : Bool :=
  state.phases 0 = .sending [] ∧ Agent.shortDigest [1, 2] ∈ state.told ∧
    Agent.shortDigest [1, 2] ∉ state.ready ∧ state.control = [] ∧
    state.agent.duties .control = [] ∧ state.heard = state.agent.outbound.length ∧
    state.agent.store.bytesOf (Agent.shortDigest [1, 2]) = some [1, 2]

theorem early_answer_is_lost :
    ∃ final, run (next twoChunks) (.start .new holdsBoth) answersEarly = some final ∧
      waitsForNothing final = true ∧ ¬ Resolved twoChunks final := by
  have tested : (run (next twoChunks) (.start .new holdsBoth) answersEarly).any waitsForNothing =
      true := by decide
  obtain ⟨final, ran, waits⟩ := run_tested tested
  refine ⟨final, ran, waits, ?_⟩
  obtain ⟨sends, told, unready, -⟩ := of_decide_eq_true waits
  intro resolved
  exact unready (resolved 0 (by rw [sends]; rfl) told)

end AetherMesh.Transfers
