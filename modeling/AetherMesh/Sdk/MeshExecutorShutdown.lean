import AetherMesh.Library.Descent
import AetherMesh.Sdk.MeshExecutorSafety

/-!
What the callers of the pool can rely on: what is true when the workers have ended, that
an outcome stays as it is, and that a shutdown comes to its end as long as the mesh answers.
-/

namespace AetherMesh.MeshExecutor

open Counting Descent

structure Accounted (maxWorkers : Nat) (state : State) : Prop where
  uncrashed : ∀ worker < maxWorkers, state.workers worker ≠ .ended true
  lined : Lined state.jobs.length state.queue
  placed : ∀ index < state.jobs.length, (state.futures index).done = false →
    total (places index) maxWorkers state = 1
  connected : state.opened = state.closed + weigh maxWorkers Worker.connections state.workers
  joined : (∀ worker < maxWorkers, (state.workers worker).hasEnded = true) →
    state.opened = state.closed ∧ (∀ index, .job index ∉ state.queue) ∧
    ∀ index < state.jobs.length, (state.futures index).done = true ∨
      (state.futures index = .pending ∧ ∃ caller < state.called, ∃ first wait,
        state.callers caller = .cancelling index first wait)

section

variable {maxWorkers : Nat} {state after : State} {event : Event}

theorem total_connections :
    total connections maxWorkers state = weigh maxWorkers Worker.connections state.workers := by
  have nothing (queue : List Item) : (queue.map connections.item).sum = 0 := by
    simp [connections]
  have nobody : weigh state.called connections.caller state.callers = 0 :=
    weigh_eq_zero.mpr fun _ _ => rfl
  unfold total
  rw [nothing, nobody]
  exact (Nat.zero_add _)

theorem queue_places {queue : List Item} {index : Nat} (absent : .job index ∉ queue) :
    (queue.map (Item.places index)).sum = 0 := by
  rw [List.sum_eq_zero_iff]
  intro weight member
  obtain ⟨item, listed, rfl⟩ := List.mem_map.mp member
  cases item with
  | stop => rfl
  | job other =>
      refine if_neg fun same => ?_
      exact absent (same ▸ listed)

theorem ended_weights {standing : Worker} (ended : standing.hasEnded = true) :
    standing.connections = 0 ∧ ∀ index, standing.places index = 0 := by
  cases standing with
  | ended crashed => exact ⟨rfl, fun _ => rfl⟩
  | waiting | holding | running => cases ended

/-- A job that is not done when all workers have ended is in the hands of a call that drains. -/
theorem Sound.left_over (sound : Sound maxWorkers state) (positive : 0 < maxWorkers)
    (ended : ∀ worker < maxWorkers, (state.workers worker).hasEnded = true) {index : Nat}
    (inside : index < state.jobs.length) (undone : (state.futures index).done = false) :
    ∃ caller < state.called, ∃ first wait,
      state.callers caller = .cancelling index first wait := by
  have placed := sound.placed index inside undone
  have queue := queue_places (sound.emptied ⟨0, positive, ended 0 positive⟩ index)
  have nobody : weigh maxWorkers (Worker.places index) state.workers = 0 :=
    weigh_eq_zero.mpr fun worker bound => (ended_weights (ended worker bound)).2 index
  simp only [total, places_weights, queue, nobody] at placed
  by_contra none
  have empty : weigh state.called (Caller.places index) state.callers = 0 := by
    refine weigh_eq_zero.mpr fun caller bound => ?_
    cases standing : state.callers caller with
    | cancelling other first wait =>
        refine if_neg fun same => none ⟨caller, bound, first, wait, ?_⟩
        rw [standing, same]
    | draining | replacing | putting | returned => rfl
  omega

theorem Sound.accounted (sound : Sound maxWorkers state) (positive : 0 < maxWorkers) :
    Accounted maxWorkers state where
  uncrashed worker inside crashed := by
    have fits := sound.fits worker inside
    rw [crashed] at fits
    cases fits
  lined := sound.lined
  placed := sound.placed
  connected := total_connections ▸ sound.connected
  joined ended := by
    have none : weigh maxWorkers Worker.connections state.workers = 0 :=
      weigh_eq_zero.mpr fun worker bound => (ended_weights (ended worker bound)).1
    have connected := sound.connected
    rw [total_connections, none] at connected
    refine ⟨connected, sound.emptied ⟨0, positive, ended 0 positive⟩, ?_⟩
    intro index inside
    cases done : (state.futures index).done with
    | true => exact .inl rfl
    | false =>
        obtain ⟨caller, bound, first, wait, standing⟩ :=
          sound.left_over positive ended inside done
        have unstarted := sound.handed caller bound index first wait standing
        refine .inr ⟨?_, caller, bound, first, wait, standing⟩
        cases future : state.futures index with
        | pending => rfl
        | running | cancelled | cancelledAndNotified | finished =>
            simp_all [Future.done, Future.unstarted]

theorem Sound.finished_step (sound : Sound maxWorkers state)
    (moved : next maxWorkers state event = some after) {index : Nat}
    {outcome : Except Error Bytes} (finished : state.futures index = .finished outcome) :
    after.futures index = .finished outcome := by
  rcases sound.futures_step (moves_of_next moved) with same | ⟨other, _, same⟩ |
    ⟨worker, other, future, inside, has, _, same, _⟩
  · rwa [same]
  · rw [same]
    by_cases own : index = other
    · rw [own, Function.update_self, ← own, finished]
      rfl
    · rwa [Function.update_of_ne own]
  · have different : index ≠ other := by
      rintro rfl
      have fits := sound.fits worker inside
      cases standing : state.workers worker with
      | holding job connected =>
          obtain rfl : job = index := by simpa [standing, Worker.places] using has
          simp [standing, Fits, finished, Future.unstarted] at fits
      | running job connected =>
          obtain rfl : job = index := by simpa [standing, Worker.places] using has
          simp [standing, Fits, finished] at fits
      | waiting | ended => simp [standing, Worker.places] at has
    rwa [same, Function.update_of_ne different]

end

/-- In every order of steps the pool accounts for its jobs and connections, and what a future
came to stays. -/
theorem pool_accounted {maxWorkers : Nat} (positive : 0 < maxWorkers) {front back : List Event}
    {middle final : State} (reached : Runs.run (next maxWorkers) start front = some middle)
    (ran : Runs.run (next maxWorkers) middle back = some final) :
    Accounted maxWorkers final ∧ ∀ index outcome, middle.futures index = .finished outcome →
      final.futures index = .finished outcome := by
  have sound := run_sound reached
  let Kept (state : State) : Prop := Sound maxWorkers state ∧
    ∀ index outcome, middle.futures index = .finished outcome →
      state.futures index = .finished outcome
  have step (state : State) (event : Event) (after : State) (kept : Kept state)
      (moved : next maxWorkers state event = some after) : Kept after :=
    ⟨kept.1.step moved,
      fun index outcome earlier => kept.1.finished_step moved (kept.2 index outcome earlier)⟩
  have kept : Kept final := Runs.run_invariant ⟨sound, fun _ _ finished => finished⟩ step ran
  exact ⟨kept.1.accounted positive, kept.2⟩

def oneJob : Job := ⟨⟨"echo", none, [], []⟩, [7]⟩

def answeredThenDrained : List Event :=
  [.submit oneJob, .submit oneJob, .take 0, .begin 0, .connect 0 none,
    .reply 0 (.result true [7] none)]

def drainedOut : List Event :=
  [.shutdown true true, .drain 0, .drained 0, .drain 0, .put 0, .take 0, .join 0]

theorem answered_stays :
    ∃ middle final, Runs.run (next 1) start answeredThenDrained = some middle ∧
      Runs.run (next 1) middle drainedOut = some final ∧
      middle.futures 0 = .finished (.ok [7]) ∧ final.futures 0 = .finished (.ok [7]) ∧
      final.opened = final.closed := by
  obtain ⟨accounted, stays⟩ := @pool_accounted 1 Nat.one_pos answeredThenDrained drainedOut _ _ rfl rfl
  exact ⟨_, _, rfl, rfl, rfl, stays 0 _ rfl, (accounted.joined (by decide)).1⟩

/-- The steps of the pool itself; the others are taken by those who use it. -/
def works : Event → Bool
  | .submit _ => false
  | .cancel _ => false
  | .shutdown _ _ => false
  | _ => true

def Item.work : Item → Nat
  | .job _ => 5
  | .stop => 1

def Worker.work : Worker → Nat
  | .holding _ _ => 3
  | .running _ connected => if connected then 1 else 2
  | _ => 0

def Caller.work (maxWorkers : Nat) : Caller → Nat
  | .draining first _ => 2 * stopsOwed maxWorkers first + 3
  | .cancelling _ first _ => 2 * stopsOwed maxWorkers first + 4
  | .replacing first _ => 2 * stopsOwed maxWorkers first + 3
  | .putting left _ => 2 * left + 1
  | .returned => 0

def work (maxWorkers : Nat) : Weight := ⟨Item.work, Worker.work, Caller.work maxWorkers⟩

structure Closed (maxWorkers : Nat) (state : State) : Prop where
  workers : ∀ worker < maxWorkers, state.workers worker = .ended false
  callers : ∀ caller < state.called, state.callers caller = .returned
  queue : state.queue = []
  futures : ∀ index < state.jobs.length, (state.futures index).done = true
  connections : state.opened = state.closed

def closing (maxWorkers : Nat) (state : State) : Event → Option State
  | .shutdown _ _ => none
  | event => next maxWorkers state event

theorem work_weights (maxWorkers : Nat) :
    (work maxWorkers).item = Item.work ∧ (work maxWorkers).worker = Worker.work ∧
      (work maxWorkers).caller = Caller.work maxWorkers :=
  ⟨rfl, rfl, rfl⟩

section

variable {maxWorkers : Nat} {state after : State} {event : Event}

theorem closing_eq_some (moved : closing maxWorkers state event = some after) :
    next maxWorkers state event = some after ∧ ∀ wait cancelFutures,
      event ≠ .shutdown wait cancelFutures := by
  unfold closing at moved
  split at moved
  · cases moved
  next other => exact ⟨moved, fun wait cancelFutures same => other wait cancelFutures same⟩

/-- Every step of the pool leaves less to do, and no other step leaves more. -/
theorem Sound.work_step (sound : Sound maxWorkers state) (closed : state.shutdown = true)
    (moved : closing maxWorkers state event = some after) :
    total (work maxWorkers) maxWorkers after + (works event).toNat ≤
      total (work maxWorkers) maxWorkers state := by
  obtain ⟨moved, still⟩ := closing_eq_some moved
  cases moves_of_next moved with
  | crashed _ worker inside misfit => exact absurd misfit (sound.no_misfit inside)
  | refused job _ same => rw [same]; exact Nat.le_refl _
  | submitted job opened same =>
      rw [closed] at opened
      cases opened
  | cancelled index bound same => rw [same]; exact Nat.le_refl _
  | entered wait cancelFutures same => exact absurd rfl (still wait cancelFutures)
  | stopped worker connected rest inside waiting queue same =>
      have shift := total_take (work maxWorkers) maxWorkers state inside queue same
      simp only [work_weights, waiting, Item.work, Worker.work] at shift
      simp only [works, Bool.toNat_true]
      omega
  | taken worker connected index rest inside waiting queue same =>
      have shift := total_take (work maxWorkers) maxWorkers state inside queue same
      simp only [work_weights, waiting, Item.work, Worker.work] at shift
      simp only [works, Bool.toNat_true]
      omega
  | begun worker index connected inside holding pending same =>
      have shift := total_worker (work maxWorkers) maxWorkers state inside same
      simp only [work_weights, holding, Worker.work] at shift
      simp only [works, Bool.toNat_true]
      cases connected <;> simp only [Bool.false_eq_true, if_true, if_false] at shift <;> omega
  | notified worker index connected inside holding cancelled same =>
      have shift := total_worker (work maxWorkers) maxWorkers state inside same
      simp only [work_weights, holding, Worker.work] at shift
      simp only [works, Bool.toNat_true]
      omega
  | connected worker index inside running same =>
      have shift := total_worker (work maxWorkers) maxWorkers state inside same
      simp only [work_weights, running, Worker.work] at shift
      simp only [works, Bool.toNat_true]
      simp only [Bool.false_eq_true, if_true, if_false] at shift
      omega
  | unconnected worker index error inside running undone same =>
      have shift := total_worker (work maxWorkers) maxWorkers state inside same
      simp only [work_weights, running, Worker.work] at shift
      simp only [works, Bool.toNat_true]
      simp only [Bool.false_eq_true, if_false] at shift
      omega
  | replied worker index answer inside running undone same =>
      have shift := total_worker (work maxWorkers) maxWorkers state inside same
      simp only [work_weights, running, Worker.work] at shift
      simp only [works, Bool.toNat_true]
      simp only [if_true] at shift
      omega
  | emptied caller first wait inside draining queue same =>
      have shift := total_caller (work maxWorkers) maxWorkers state inside same
      simp only [work_weights, draining, Caller.work] at shift
      simp only [works, Bool.toNat_true]
      omega
  | drewStop caller first wait rest inside draining queue same =>
      have shift := total_draw (work maxWorkers) maxWorkers state inside queue same
      simp only [work_weights, draining, Item.work, Caller.work] at shift
      simp only [works, Bool.toNat_true]
      omega
  | drewJob caller first wait index rest inside draining queue same =>
      have shift := total_draw (work maxWorkers) maxWorkers state inside queue same
      simp only [work_weights, draining, Item.work, Caller.work] at shift
      simp only [works, Bool.toNat_true]
      omega
  | dropped caller index first wait inside cancelling same =>
      have shift := total_caller (work maxWorkers) maxWorkers state inside same
      simp only [work_weights, cancelling, Caller.work] at shift
      simp only [works, Bool.toNat_true]
      omega
  | replaced caller first wait inside replacing same =>
      have shift := total_put (work maxWorkers) maxWorkers state inside same
      simp only [work_weights, replacing, Item.work, Caller.work] at shift
      simp only [works, Bool.toNat_true]
      omega
  | put caller left wait inside putting same =>
      have shift := total_put (work maxWorkers) maxWorkers state inside same
      simp only [work_weights, putting, Item.work, Caller.work] at shift
      simp only [works, Bool.toNat_true]
      omega
  | joined caller wait inside putting ended same =>
      have shift := total_caller (work maxWorkers) maxWorkers state inside same
      simp only [work_weights, putting, Caller.work] at shift
      simp only [works, Bool.toNat_true]
      omega

theorem Sound.stays_closed (sound : Sound maxWorkers state) (closed : state.shutdown = true)
    (moved : closing maxWorkers state event = some after) : after.shutdown = true := by
  obtain ⟨moved, still⟩ := closing_eq_some moved
  cases moves_of_next moved with
  | crashed _ worker inside misfit => exact absurd misfit (sound.no_misfit inside)
  | entered wait cancelFutures same => exact absurd rfl (still wait cancelFutures)
  | refused _ _ same | submitted _ _ same | cancelled _ _ same | stopped _ _ _ _ _ _ same
  | taken _ _ _ _ _ _ _ same | begun _ _ _ _ _ _ same | notified _ _ _ _ _ _ same
  | connected _ _ _ _ same | unconnected _ _ _ _ _ _ same | replied _ _ _ _ _ _ same
  | emptied _ _ _ _ _ _ same | drewStop _ _ _ _ _ _ _ same | drewJob _ _ _ _ _ _ _ _ same
  | dropped _ _ _ _ _ _ same | replaced _ _ _ _ _ same | put _ _ _ _ _ same
  | joined _ _ _ _ _ same =>
      rw [same]
      exact closed

def Stuck (maxWorkers : Nat) (state : State) : Prop :=
  ∀ event, works event = true → next maxWorkers state event = none

theorem Stuck.worker (stuck : Stuck maxWorkers state) {worker : Nat} (inside : worker < maxWorkers) :
    (state.workers worker).hasEnded = true ∨
      ((state.workers worker).stops = 0 ∧ state.queue = []) := by
  cases standing : state.workers worker with
  | ended crashed => exact .inl rfl
  | waiting connected =>
      refine .inr ⟨rfl, ?_⟩
      have idle := stuck (.take worker) rfl
      cases queue : state.queue with
      | nil => rfl
      | cons item rest => cases item <;> simp [next, inside, take, standing, queue] at idle
  | holding index connected =>
      have idle := stuck (.begin worker) rfl
      cases future : state.futures index <;>
        simp [next, inside, begin, standing, future, Future.setRunningOrNotifyCancel] at idle
  | running index connected =>
      cases connected with
      | false =>
          have idle := stuck (.connect worker none) rfl
          simp [next, inside, connect, standing] at idle
      | true =>
          have idle := stuck (.reply worker (.raised (.other ""))) rfl
          rcases (state.futures index).set_cases (runReply (.raised (.other ""))) with
            ⟨_, set⟩ | ⟨_, set⟩ <;> simp [next, inside, reply, standing, set] at idle

theorem Stuck.caller (stuck : Stuck maxWorkers state) {caller : Nat} (inside : caller < state.called) :
    state.callers caller = .returned ∨ ∃ wait, state.callers caller = .putting 0 wait := by
  cases standing : state.callers caller with
  | returned => exact .inl rfl
  | draining first wait =>
      have idle := stuck (.drain caller) rfl
      cases queue : state.queue with
      | nil => simp [next, inside, drain, standing, queue] at idle
      | cons item rest => cases item <;> simp [next, inside, drain, standing, queue] at idle
  | cancelling index first wait =>
      have idle := stuck (.drained caller) rfl
      simp [next, inside, drained, standing] at idle
  | replacing first wait =>
      have idle := stuck (.drained caller) rfl
      simp [next, inside, drained, standing] at idle
  | putting left wait =>
      cases left with
      | zero => exact .inr ⟨wait, rfl⟩
      | succ left =>
          have idle := stuck (.put caller) rfl
          simp [next, inside, put, standing] at idle

/-- As many stops were put as there are workers, so none of them waits in vain. -/
theorem Stuck.ended (stuck : Stuck maxWorkers state) (sound : Sound maxWorkers state)
    (closed : state.shutdown = true) :
    ∀ worker < maxWorkers, (state.workers worker).hasEnded = true := by
  intro worker inside
  rcases stuck.worker inside with ended | ⟨waits, empty⟩
  · exact ended
  · have owed : weigh state.called (Caller.owes maxWorkers) state.callers = 0 := by
      refine weigh_eq_zero.mpr fun caller bound => ?_
      rcases stuck.caller bound with standing | ⟨wait, standing⟩ <;> rw [standing] <;> rfl
    have few : weigh maxWorkers Worker.stops state.workers < maxWorkers := by
      refine weigh_lt inside (fun other => ?_) waits
      cases state.workers other <;> simp [Worker.stops]
    have stops := sound.stops
    simp only [total, stops_weights, empty, owed, closed, List.map_nil, List.sum_nil, if_true] at stops
    omega

theorem Stuck.closed (stuck : Stuck maxWorkers state) (sound : Sound maxWorkers state)
    (positive : 0 < maxWorkers) (closed : state.shutdown = true) : Closed maxWorkers state := by
  have ended := stuck.ended sound closed
  have accounted := sound.accounted positive
  obtain ⟨connections, noJobs, rest⟩ := accounted.joined ended
  have callers : ∀ caller < state.called, state.callers caller = .returned := by
    intro caller bound
    rcases stuck.caller bound with standing | ⟨wait, standing⟩
    · exact standing
    · have idle := stuck (.join caller) rfl
      simp only [next, bound, if_true, join, standing] at idle
      rw [if_pos fun _ => ended] at idle
      cases idle
  refine ⟨?_, callers, ?_, ?_, connections⟩
  · intro worker inside
    have stopped := ended worker inside
    have fits := sound.fits worker inside
    cases standing : state.workers worker with
    | ended crashed =>
        rw [standing] at fits
        rw [show crashed = false from fits]
    | waiting | holding | running => simp [standing, Worker.hasEnded] at stopped
  · -- the workers took every stop there is
    have all : weigh maxWorkers Worker.stops state.workers = maxWorkers := by
      have each : weigh maxWorkers Worker.stops state.workers =
          weigh maxWorkers (fun _ : Worker => 1) state.workers := by
        refine Finset.sum_congr rfl fun worker listed => ?_
        have stopped := ended worker (Finset.mem_range.mp listed)
        cases standing : state.workers worker <;> simp_all [Worker.hasEnded, Worker.stops]
      rw [each]
      simp [weigh]
    have stops := sound.stops
    simp only [total, stops_weights, all, closed, if_true] at stops
    have none : (state.queue.map Item.stops).sum = 0 := by omega
    rw [List.eq_nil_iff_forall_not_mem]
    intro item member
    cases item with
    | job index => exact noJobs index member
    | stop =>
        have weight : Item.stops .stop ≤ (state.queue.map Item.stops).sum :=
          List.single_le_sum (fun _ _ => Nat.zero_le _) _ (List.mem_map_of_mem member)
        simp only [none, Item.stops] at weight
        omega
  · intro index inside
    rcases rest index inside with done | ⟨_, caller, bound, first, wait, standing⟩
    · exact done
    · rw [callers caller bound] at standing
      cases standing

theorem stuck_of_over
    (workers : ∀ worker < maxWorkers, (state.workers worker).hasEnded = true)
    (callers : ∀ caller < state.called, state.callers caller = .returned) :
    Stuck maxWorkers state := by
  intro event own
  cases event with
  | submit | cancel | shutdown => cases own
  | take worker | begin worker | connect worker | reply worker =>
      by_cases inside : worker < maxWorkers
      · have stopped := workers worker inside
        cases standing : state.workers worker <;>
          simp_all [next, take, begin, connect, reply, Worker.hasEnded]
      · exact if_neg inside
  | drain caller | drained caller | put caller | join caller =>
      by_cases inside : caller < state.called
      · simp [next, inside, drain, drained, put, join, callers caller inside]
      · exact if_neg inside

theorem Closed.stuck (closed : Closed maxWorkers state) : Stuck maxWorkers state := by
  refine stuck_of_over (fun worker inside => ?_) closed.callers
  rw [closed.workers worker inside]
  rfl

end

/-- Once `shutdown` was called for the last time the pool takes a bounded number of steps, and it
stops only when everything has ended. -/
theorem shutdown_ends {maxWorkers : Nat} (positive : 0 < maxWorkers) {past trace : List Event}
    {state final : State} (reached : Runs.run (next maxWorkers) start past = some state)
    (closed : state.shutdown = true)
    (ran : Runs.run (closing maxWorkers) state trace = some final) :
    effort works trace + total (work maxWorkers) maxWorkers final ≤
        total (work maxWorkers) maxWorkers state ∧
      (Stuck maxWorkers final ↔ Closed maxWorkers final) := by
  let Inv (state : State) : Prop := Sound maxWorkers state ∧ state.shutdown = true
  have kept (state : State) (event : Event) (after : State) (inv : Inv state)
      (moved : closing maxWorkers state event = some after) : Inv after :=
    ⟨inv.1.step (closing_eq_some moved).1, inv.1.stays_closed inv.2 moved⟩
  have initial : Inv state := ⟨run_sound reached, closed⟩
  have last : Inv final := Runs.run_invariant initial kept ran
  refine ⟨?_, fun stuck => stuck.closed last.1 positive last.2, fun settled => settled.stuck⟩
  exact effort_bounded initial kept (fun _ _ _ inv moved => inv.1.work_step inv.2 moved) ran

def afterDrain : List Event :=
  [.drain 0, .drained 0, .drain 0, .put 0, .take 0, .join 0]

theorem drained_shutdown_ends :
    ∃ state final, Runs.run (next 1) start (answeredThenDrained ++ [.shutdown true true]) = some state ∧
      Runs.run (closing 1) state afterDrain = some final ∧ effort works afterDrain = 6 ∧
      total (work 1) 1 state = 10 ∧ Closed 1 final := by
  obtain ⟨_, ends⟩ := @shutdown_ends 1 Nat.one_pos
    (answeredThenDrained ++ [.shutdown true true]) afterDrain _ _ rfl rfl rfl
  exact ⟨_, _, rfl, rfl, rfl, rfl, ends.mp (stuck_of_over (by decide) (by decide))⟩

end AetherMesh.MeshExecutor
