import AetherMesh.Controller.Autoscale
import AetherMesh.Controller.Connections
import AetherMesh.Controller.DispatcherReplies
import AetherMesh.Controller.Registry

/-!
What the autoscaler is told of the queue. The queue itself belongs to the dispatcher; the
signals read the counters that the dispatcher keeps beside it, and the longest wait among
these is that of a task that has left the queue.
-/

namespace AetherMesh

open Runs

def mean (values : List ℚ) : ℚ := if values = [] then 0 else values.sum / values.length

def signalsFrom (registry : NodeRegistry) (connections : Connections) (queue : QueueStats) :
    Signals :=
  let nodes := registry.nodes.entries.map fun entry => entry.2.info
  { nodes := nodes.countP fun node => connections.isConnected node.id
    queueDepth := queue.depth
    oldestWait := queue.longestWaitMs * 10 ^ 6
    cpuUsage := mean (nodes.map fun node => singleValue node.metrics.cpuUsage)
    memoryUsage := mean (nodes.map fun node => singleValue node.metrics.memoryUsage) }

def Queue.oldestWait {T : Type} (queue : Queue T) (now : Nat) : Nat :=
  (queue.entries.map fun entry => entry.waited now).max?.getD 0

theorem Queue.oldestWait_lt {T : Type} {queue : Queue T} {now bound : Nat} (positive : 0 < bound) :
    queue.oldestWait now < bound ↔ ∀ entry ∈ queue.entries, entry.waited now < bound := by
  unfold oldestWait
  cases found : (queue.entries.map fun entry => entry.waited now).max? with
  | none =>
      rw [List.max?_eq_none_iff, List.map_eq_nil_iff] at found
      simp [found, positive]
  | some longest =>
      rw [List.max?_eq_some_iff] at found
      obtain ⟨member, largest⟩ := found
      constructor
      · intro short entry waiting
        exact Nat.lt_of_le_of_lt (largest _ (List.mem_map_of_mem waiting)) short
      · intro short
        obtain ⟨entry, waiting, rfl⟩ := List.mem_map.mp member
        exact short entry waiting

theorem Autoscaler.scaleDownTo_ne {scaler : Autoscaler} {signals : Signals} {ratio : ℚ}
    {description why : String} {count : Nat} :
    scaler.scaleDownTo signals ratio description ≠ some (.scaleUp count why) := by
  unfold scaleDownTo
  split
  · simp
  · rw [ne_eq, Option.map_eq_some_iff, not_exists]
    rintro chosen ⟨-, same⟩
    split at same <;> cases same

namespace Dispatcher

/-- The signals show the queue as it is, whatever the mesh looks like. When nothing waits, a
policy that aims at a latency asks for no more nodes than its minimum. -/
structure Mirrored (state : State) : Prop where
  waits : ∀ registry connections, (signalsFrom registry connections state.stats).oldestWait / 10 ^ 6 =
    state.queue.oldestWait state.clock / 10 ^ 6
  idle : state.queue.entries = [] → ∀ registry connections,
    (signalsFrom registry connections state.stats).oldestWait = 0
  served : state.queue.entries = [] → ∀ registry connections (scaler : Autoscaler) now maxWaitSecs
      count why, scaler.policy.target = .latency maxWaitSecs → 0 ≤ scaler.policy.tolerance →
    scaler.evaluate (signalsFrom registry connections state.stats) now =
      some (.scaleUp count why) → count = scaler.policy.minNodes

/-- No time passes in which a waiting task comes to have waited for a millisecond. -/
def Prompt (state : State) : Event → Prop
  | .pass elapsed => ∀ entry ∈ state.queue.entries, entry.waited (state.clock + elapsed) < 10 ^ 6
  | _ => True

structure Unwaited (state : State) : Prop where
  counted : state.stats.longestWaitMs = 0
  waiting : ∀ entry ∈ state.queue.entries, entry.waited state.clock < 10 ^ 6

theorem Unwaited.mirrored {state : State} (fresh : Unwaited state) : Mirrored state := by
  have silent : ∀ registry connections,
      (signalsFrom registry connections state.stats).oldestWait = 0 := by
    intro registry connections
    rw [signalsFrom, fresh.counted, Nat.zero_mul]
  refine ⟨?_, fun _ => silent, ?_⟩
  · intro registry connections
    have short := (Queue.oldestWait_lt (by decide)).mpr fresh.waiting
    rw [silent, Nat.div_eq_of_lt short, Nat.zero_div]
  · intro _ registry connections scaler now maxWaitSecs count why latency tolerant asks
    have ratio : (scaler.policy.measure (signalsFrom registry connections state.stats)).1 = 0 := by
      simp only [Policy.measure, latency, silent, secs, Nat.cast_zero, zero_div]
    unfold Autoscaler.evaluate at asks
    split at asks
    · cases asks
    · split at asks
      · cases asks
        rfl
      · dsimp only at asks
        rw [ratio, if_neg (by linarith)] at asks
        split at asks
        · exact absurd asks Autoscaler.scaleDownTo_ne
        · cases asks

/-- What the signals show can only be right if no wait has been counted. -/
theorem Mirrored.unwaited {state : State} (mirrored : Mirrored state)
    (counted : state.stats.longestWaitMs = 0) : Unwaited state := by
  refine ⟨counted, (Queue.oldestWait_lt (by decide)).mp ?_⟩
  have same := mirrored.waits .new .new
  rw [signalsFrom, counted, Nat.zero_mul, Nat.zero_div] at same
  exact Nat.lt_of_div_eq_zero (by decide) same.symm

section

variable {setup : Setup} {state after : State} {event : Event}

theorem mem_pushWithTimeout {queue after : Queue Nat} {task : Task} {payload now : Nat}
    {timeout : Option Nat} {admitted : Admitted Nat} {entry : Queued Nat}
    (pushed : queue.pushWithTimeout floatLevels task payload now timeout = (after, admitted))
    (waiting : entry ∈ after.entries) : entry ∈ queue.entries ∨ entry.queuedAt = now := by
  have appended : ∀ {before : Queue Nat},
      entry ∈ (before.append task payload now timeout).entries →
        entry ∈ before.entries ∨ entry.queuedAt = now := by
    intro before listed
    rcases List.mem_append.mp listed with old | new
    · exact .inl old
    · rw [List.mem_singleton.mp new]
      exact .inr rfl
  rcases Queue.pushWithTimeout_cases pushed with ⟨-, -, rfl⟩ | ⟨-, rfl⟩ | ⟨index, dropped, -, -, rfl⟩
  · exact appended waiting
  · exact .inl waiting
  · exact (appended waiting).imp_left List.mem_of_mem_eraseIdx

theorem admitSubmission_queue (state : State) (task : Task) (timeout : Option Nat) (reply : Nat) :
    (admitSubmission state task timeout reply).queue =
        (state.queue.pushWithTimeout floatLevels task reply state.clock timeout).1 ∧
      (admitSubmission state task timeout reply).stats.longestWaitMs = state.stats.longestWaitMs := by
  unfold admitSubmission
  split
  all_goals
    rename_i pushed
    rw [pushed]
    exact ⟨rfl, rfl⟩

theorem admitCommand_unwaited (fresh : Unwaited state) (command : Command) :
    Unwaited (admitCommand state command) := by
  cases command with
  | submit task timeout reply =>
      obtain ⟨queue, counted⟩ := admitSubmission_queue state task timeout reply
      have clock := (admitSubmission_outside state task timeout reply).1.clock
      refine ⟨counted.trans fresh.counted, ?_⟩
      intro entry waiting
      change entry ∈ (admitSubmission state task timeout reply).queue.entries at waiting
      change entry.waited (admitSubmission state task timeout reply).clock < 10 ^ 6
      rw [queue] at waiting
      rw [clock]
      rcases mem_pushWithTimeout rfl waiting with old | now
      · exact fresh.waiting entry old
      · rw [Queued.waited, now, Nat.sub_self]
        decide
  | read kind reply => exact ⟨fresh.counted, fresh.waiting⟩
  | workflow workflow run reply => exact ⟨fresh.counted, fresh.waiting⟩

theorem giveUp_longestWaitMs (now : Nat) (late : List (Queued Nat)) (state : State) :
    (late.foldl (giveUp now) state).stats.longestWaitMs = state.stats.longestWaitMs := by
  induction late generalizing state with
  | nil => rfl
  | cons entry rest ih =>
      rw [List.foldl_cons, ih]
      rfl

theorem expireLate_unwaited (fresh : Unwaited state) : Unwaited (expireLate state) := by
  obtain ⟨stats, expired⟩ := expireLate_eq state
  constructor
  · have same := giveUp_longestWaitMs state.clock (state.queue.expire state.clock).2
      { state with queue := (state.queue.expire state.clock).1 }
    exact same.trans fresh.counted
  · rw [expired]
    intro entry waiting
    exact fresh.waiting entry (List.mem_of_mem_filter waiting)

theorem takeNext_unwaited (fresh : Unwaited state) : Unwaited (takeNext state) := by
  unfold takeNext
  split
  · exact ⟨fresh.counted, fresh.waiting⟩
  · rename_i queue entry popped
    obtain ⟨index, found, rfl, -⟩ := Queue.pop_eq_some popped
    have short := fresh.waiting entry (List.mem_of_getElem? found)
    constructor
    · change max state.stats.longestWaitMs (entry.waited state.clock / 10 ^ 6) = 0
      rw [fresh.counted, Nat.div_eq_of_lt short]
      rfl
    · intro other waiting
      exact fresh.waiting other (List.mem_of_mem_eraseIdx waiting)

theorem choose_unwaited (fresh : Unwaited state) (moved : choose state = some after) :
    Unwaited after := by
  unfold choose at moved
  split at moved
  · cases moved
    exact takeNext_unwaited (expireLate_unwaited fresh)
  · cases moved

theorem Unwaited.of_same (fresh : Unwaited state) (clock : after.clock = state.clock)
    (queue : after.queue = state.queue) (stats : after.stats = state.stats) : Unwaited after := by
  refine ⟨stats ▸ fresh.counted, ?_⟩
  rw [clock, queue]
  exact fresh.waiting

theorem next_unwaited (fresh : Unwaited state) (moved : next setup state event = some after) :
    after.stats.longestWaitMs = 0 ∧ (Prompt state event → Unwaited after) ∧
      (Unwaited after → Prompt state event) := by
  have settled : Unwaited after → Prompt state event → after.stats.longestWaitMs = 0 ∧
      (Prompt state event → Unwaited after) ∧ (Unwaited after → Prompt state event) :=
    fun kept prompt => ⟨kept.counted, fun _ => kept, fun _ => prompt⟩
  cases next_step moved with
  | pass elapsed =>
      exact ⟨fresh.counted, fun prompt => ⟨fresh.counted, prompt⟩, fun kept => kept.waiting⟩
  | receive command rest =>
      refine settled ?_ trivial
      apply admitCommand_unwaited
      exact fresh.of_same rfl rfl rfl
  | drain command rest =>
      refine settled ?_ trivial
      apply admitCommand_unwaited
      exact fresh.of_same rfl rfl rfl
  | chooseNone => exact settled (choose_unwaited fresh moved) trivial
  | choose => exact settled (choose_unwaited fresh moved) trivial
  | _ => exact settled (fresh.of_same rfl rfl rfl) trivial

theorem start_unwaited (setup : Setup) : Unwaited (start setup) := by
  refine ⟨rfl, ?_⟩
  intro entry waiting
  change entry ∈ setup.queue.entries at waiting
  rw [setup.empty] at waiting
  cases waiting

/-- The signals are those of the queue exactly as long as no task waits for a millisecond: a wait
that goes on is not counted, and one that is over is counted for good. -/
theorem mirrored_iff {final : State} {trace : List Event}
    (ran : run (next setup) (start setup) trace = some final) :
    Always (next setup) Mirrored (start setup) trace ↔
      Along (next setup) Prompt (start setup) trace := by
  refine always_iff_along_while (start_unwaited setup) (start_unwaited setup).mirrored ?_ ran
  intro state event after fresh _ moved
  obtain ⟨counted, keeps, forces⟩ := next_unwaited fresh moved
  refine ⟨⟨fun mirrored => forces (mirrored.unwaited counted), ?_⟩, keeps⟩
  exact fun prompt => (keeps prompt).mirrored

end

def waitsForFlow (elapsed : Nat) : List Event :=
  [.send (.submit (sampleTask .normal) none 0), .send (.workflow ⟨[]⟩ none 1), .enter, .receive,
    .drain, .drain, .pass elapsed, .finishFlow, .check, .choose, .handOver]

instance decidablePrompt (state : State) (event : Event) : Decidable (Prompt state event) :=
  match event with
  | .pass _ => inferInstanceAs (Decidable (∀ _ ∈ _, _ < _))
  | .send _ | .clone | .hangUp | .finish _ _ | .finishFlow | .enter | .receive | .reap | .drain
  | .check | .choose | .handOver | .join => inferInstanceAs (Decidable True)

theorem short_wait_mirrored :
    Always (next (oneClient 4)) Mirrored (start (oneClient 4)) (waitsForFlow 999999) := by
  have tested : (run (next (oneClient 4)) (start (oneClient 4)) (waitsForFlow 999999)).any
      (fun _ => true) = true := by
    decide
  obtain ⟨final, ran, -⟩ := run_tested tested
  exact (mirrored_iff ran).mpr (by decide)

def agent : NodeDescription := ⟨⟨⟨0⟩, ∅⟩, "agent", "127.0.0.1:7001", 4, none, none, ⟨0, 0, 0⟩⟩

def latencyPolicy : Policy := { Policy.default with target := .latency 1 }

/-- The task has been served for ten minutes, and its wait still asks for four more nodes. -/
theorem served_wait_asks_for_nodes :
    ∃ final, run (next (oneClient 4)) (start (oneClient 4))
        (waitsForFlow (5 * 10 ^ 9) ++ [.pass (600 * 10 ^ 9)]) = some final ∧
      final.queue.entries = [] ∧
      (signalsFrom (NodeRegistry.new.register agent 0) (Connections.new.attach ⟨0⟩ 0 "token")
        final.stats).oldestWait = 5 * 10 ^ 9 ∧
      (Autoscaler.new latencyPolicy).evaluate (signalsFrom (NodeRegistry.new.register agent 0)
        (Connections.new.attach ⟨0⟩ 0 "token") final.stats) final.clock =
          some (.scaleUp 5 "5.0s longest wait against a target of 1.0s; adding capacity") ∧
      ¬ Always (next (oneClient 4)) Mirrored (start (oneClient 4))
        (waitsForFlow (5 * 10 ^ 9) ++ [.pass (600 * 10 ^ 9)]) := by
  have tested : (run (next (oneClient 4)) (start (oneClient 4))
      (waitsForFlow (5 * 10 ^ 9) ++ [.pass (600 * 10 ^ 9)])).any
      (fun state => state.queue.entries = [] ∧ state.stats = ⟨0, 1, 0, 0, 5000, 5000⟩ ∧
        state.clock = 605 * 10 ^ 9) = true := by
    decide +kernel
  obtain ⟨final, ran, held⟩ := run_tested tested
  obtain ⟨empty, stats, clock⟩ := of_decide_eq_true held
  refine ⟨final, ran, empty, ?_, ?_, fun always => ?_⟩
  · rw [stats]
    decide +kernel
  · rw [stats, clock]
    decide +kernel
  · have silent := (always_last always ran).idle empty .new .new
    rw [stats] at silent
    exact absurd silent (by decide +kernel)

end Dispatcher

end AetherMesh
