import AetherMesh.Sdk.MeshExecutor
import Mathlib.Algebra.GroupWithZero.Nat

/-!
What holds of the pool in every order of steps. Each job is in one place at a time:
in the queue, with a worker or in the hands of a call that cancels it. The stops are
counted, so that none is lost when a drain takes one out and puts it back.
-/

namespace AetherMesh.MeshExecutor

open Counting

structure Weight where
  item : Item → Nat
  worker : Worker → Nat
  caller : Caller → Nat

def total (weight : Weight) (maxWorkers : Nat) (state : State) : Nat :=
  (state.queue.map weight.item).sum + weigh maxWorkers weight.worker state.workers +
    weigh state.called weight.caller state.callers

section Total

variable (weight : Weight) (maxWorkers : Nat) {worker caller : Nat} (state : State) {after : State} {item : Item}
  {rest : List Item} {futures : Nat → Future} {opened closed : Nat}

theorem total_worker {standing : Worker} (inside : worker < maxWorkers)
    (same : after = { state with
      workers := Function.update state.workers worker standing, futures, opened, closed }) :
    total weight maxWorkers after + weight.worker (state.workers worker) =
      total weight maxWorkers state + weight.worker standing := by
  have shifted := weigh_update inside weight.worker state.workers standing
  simp only [total, same]
  omega

theorem total_take {standing : Worker} (inside : worker < maxWorkers)
    (queue : state.queue = item :: rest)
    (same : after = { state with
      queue := rest, workers := Function.update state.workers worker standing, closed }) :
    total weight maxWorkers after + weight.worker (state.workers worker) + weight.item item =
      total weight maxWorkers state + weight.worker standing := by
  have shifted := weigh_update inside weight.worker state.workers standing
  simp only [total, same, queue, List.map_cons, List.sum_cons]
  omega

theorem total_caller {standing : Caller} (inside : caller < state.called)
    (same : after = { state with
      callers := Function.update state.callers caller standing, futures }) :
    total weight maxWorkers after + weight.caller (state.callers caller) =
      total weight maxWorkers state + weight.caller standing := by
  have shifted := weigh_update inside weight.caller state.callers standing
  simp only [total, same]
  omega

theorem total_draw {standing : Caller} (inside : caller < state.called)
    (queue : state.queue = item :: rest)
    (same : after = { state with
      queue := rest, callers := Function.update state.callers caller standing }) :
    total weight maxWorkers after + weight.caller (state.callers caller) + weight.item item =
      total weight maxWorkers state + weight.caller standing := by
  have shifted := weigh_update inside weight.caller state.callers standing
  simp only [total, same, queue, List.map_cons, List.sum_cons]
  omega

theorem sum_push (queue : List Item) :
    ((queue ++ [item]).map weight.item).sum = (queue.map weight.item).sum + weight.item item := by
  rw [List.map_append, List.sum_append, List.map_singleton, List.sum_singleton]

theorem total_put {standing : Caller} (inside : caller < state.called)
    (same : after = { state with
      queue := state.queue ++ [item]
      callers := Function.update state.callers caller standing }) :
    total weight maxWorkers after + weight.caller (state.callers caller) =
      total weight maxWorkers state + weight.caller standing + weight.item item := by
  have shifted := weigh_update inside weight.caller state.callers standing
  simp only [total, same, sum_push]
  omega

theorem total_submit {jobs : List Job}
    (same : after = { state with queue := state.queue ++ [item], jobs }) :
    total weight maxWorkers after = total weight maxWorkers state + weight.item item := by
  simp only [total, same, sum_push]
  omega

theorem total_enter {wait cancelFutures : Bool}
    (same : after = enter maxWorkers state wait cancelFutures) :
    total weight maxWorkers after =
      total weight maxWorkers state + weight.caller (if cancelFutures
        then .draining (!state.shutdown) wait
        else .putting (stopsOwed maxWorkers (!state.shutdown)) wait) := by
  simp only [total, same, enter, weigh_enter]
  omega

end Total

def Caller.owes (maxWorkers : Nat) : Caller → Nat
  | .draining first _ => stopsOwed maxWorkers first
  | .cancelling _ first _ => stopsOwed maxWorkers first
  | .replacing first _ => stopsOwed maxWorkers first + 1
  | .putting left _ => left
  | .returned => 0

def Item.stops : Item → Nat
  | .stop => 1
  | .job _ => 0

def Worker.stops : Worker → Nat
  | .ended _ => 1
  | _ => 0

def stops (maxWorkers : Nat) : Weight := ⟨Item.stops, Worker.stops, Caller.owes maxWorkers⟩

def Item.places (index : Nat) : Item → Nat
  | .job other => if other = index then 1 else 0
  | .stop => 0

def Worker.places (index : Nat) : Worker → Nat
  | .holding other _ => if other = index then 1 else 0
  | .running other _ => if other = index then 1 else 0
  | _ => 0

def Caller.places (index : Nat) : Caller → Nat
  | .cancelling other _ _ => if other = index then 1 else 0
  | _ => 0

def places (index : Nat) : Weight := ⟨Item.places index, Worker.places index, Caller.places index⟩

def Worker.connections : Worker → Nat
  | .waiting connected => connected.toNat
  | .holding _ connected => connected.toNat
  | .running _ connected => connected.toNat
  | .ended _ => 0

def connections : Weight := ⟨fun _ => 0, Worker.connections, fun _ => 0⟩

def Fits (futures : Nat → Future) : Worker → Prop
  | .holding index _ => (futures index).unstarted = true
  | .running index _ => futures index = .running
  | .ended crashed => crashed = false
  | .waiting _ => True

/-- The queue is the last jobs that were submitted, in their order, and stops behind them. -/
def Lined (submitted : Nat) (queue : List Item) : Prop :=
  ∃ first count, first ≤ submitted ∧
    queue = (List.range' first (submitted - first)).map .job ++ List.replicate count .stop

structure Sound (maxWorkers : Nat) (state : State) : Prop where
  stops : total (stops maxWorkers) maxWorkers state = if state.shutdown then maxWorkers else 0
  single : ∀ index, total (places index) maxWorkers state ≤ 1
  fresh : ∀ index, state.jobs.length ≤ index →
    total (places index) maxWorkers state = 0 ∧ state.futures index = .pending
  fits : ∀ worker < maxWorkers, Fits state.futures (state.workers worker)
  queued : ∀ index, .job index ∈ state.queue → (state.futures index).unstarted = true
  handed : ∀ caller < state.called, ∀ index first wait,
    state.callers caller = .cancelling index first wait → (state.futures index).unstarted = true
  placed : ∀ index < state.jobs.length, (state.futures index).done = false →
    total (places index) maxWorkers state = 1
  lined : Lined state.jobs.length state.queue
  emptied : (∃ worker < maxWorkers, (state.workers worker).hasEnded = true) →
    ∀ index, .job index ∉ state.queue
  uncalled : state.shutdown = false → state.called = 0
  connected : state.opened = state.closed + total connections maxWorkers state

theorem stops_weights (maxWorkers : Nat) :
    (stops maxWorkers).item = Item.stops ∧ (stops maxWorkers).worker = Worker.stops ∧
      (stops maxWorkers).caller = Caller.owes maxWorkers :=
  ⟨rfl, rfl, rfl⟩

theorem places_weights (index : Nat) :
    (places index).item = Item.places index ∧ (places index).worker = Worker.places index ∧
      (places index).caller = Caller.places index :=
  ⟨rfl, rfl, rfl⟩

section Steps

variable {maxWorkers : Nat} {state after : State} {event : Event}

/-- Where no worker has a misfit job, no worker ends by an exception. -/
theorem Sound.no_misfit (sound : Sound maxWorkers state) {worker : Nat}
    (inside : worker < maxWorkers) : ¬ Misfit state worker := by
  have fits := sound.fits worker inside
  rintro (⟨index, connected, holding, started⟩ | ⟨index, connected, running, done⟩)
  · rw [holding] at fits
    exact absurd fits (by simp [Fits, started])
  · rw [running] at fits
    rw [fits] at done
    cases done

theorem Sound.stops_step (sound : Sound maxWorkers state)
    (move : Moves maxWorkers state after event) :
    total (MeshExecutor.stops maxWorkers) maxWorkers after =
      if after.shutdown then maxWorkers else 0 := by
  have before := sound.stops
  have kept (still : after.shutdown = state.shutdown)
      (balance : total (MeshExecutor.stops maxWorkers) maxWorkers after =
        total (MeshExecutor.stops maxWorkers) maxWorkers state) :
      total (MeshExecutor.stops maxWorkers) maxWorkers after =
        if after.shutdown then maxWorkers else 0 := by
    rw [balance, before, still]
  cases move with
  | refused job closed same => rwa [same]
  | submitted job opened same => exact kept (by rw [same]) (total_submit _ _ state same)
  | cancelled index bound same => rwa [same]
  | entered wait cancelFutures same =>
      rw [total_enter _ _ state same, before, same]
      cases cancelFutures <;> cases closed : state.shutdown <;>
        simp [MeshExecutor.stops, Caller.owes, stopsOwed, enter]
  | crashed _ worker inside misfit => exact absurd misfit (sound.no_misfit inside)
  | stopped worker connected rest inside waiting queue same =>
      have shift := total_take (MeshExecutor.stops maxWorkers) maxWorkers state inside queue same
      simp only [stops_weights, waiting, Item.stops, Worker.stops] at shift
      exact kept (by rw [same]; rfl) (by omega)
  | taken worker connected index rest inside waiting queue same =>
      have shift := total_take (MeshExecutor.stops maxWorkers) maxWorkers state inside queue same
      simp only [stops_weights, waiting, Item.stops, Worker.stops] at shift
      exact kept (by rw [same]; rfl) (by omega)
  | begun worker index connected inside holding pending same =>
      have shift := total_worker (MeshExecutor.stops maxWorkers) maxWorkers state inside same
      simp only [stops_weights, holding, Worker.stops] at shift
      exact kept (by rw [same]; rfl) (by omega)
  | notified worker index connected inside holding cancelled same =>
      have shift := total_worker (MeshExecutor.stops maxWorkers) maxWorkers state inside same
      simp only [stops_weights, holding, Worker.stops] at shift
      exact kept (by rw [same]; rfl) (by omega)
  | connected worker index inside running same =>
      have shift := total_worker (MeshExecutor.stops maxWorkers) maxWorkers state inside same
      simp only [stops_weights, running, Worker.stops] at shift
      exact kept (by rw [same]; rfl) (by omega)
  | unconnected worker index error inside running undone same =>
      have shift := total_worker (MeshExecutor.stops maxWorkers) maxWorkers state inside same
      simp only [stops_weights, running, Worker.stops] at shift
      exact kept (by rw [same]; rfl) (by omega)
  | replied worker index answer inside running undone same =>
      have shift := total_worker (MeshExecutor.stops maxWorkers) maxWorkers state inside same
      simp only [stops_weights, running, Worker.stops] at shift
      exact kept (by rw [same]; rfl) (by omega)
  | emptied caller first wait inside draining queue same =>
      have shift := total_caller (MeshExecutor.stops maxWorkers) maxWorkers state inside same
      simp only [stops_weights, draining, Caller.owes] at shift
      exact kept (by rw [same]; rfl) (by omega)
  | drewStop caller first wait rest inside draining queue same =>
      have shift := total_draw (MeshExecutor.stops maxWorkers) maxWorkers state inside queue same
      simp only [stops_weights, draining, Item.stops, Caller.owes] at shift
      exact kept (by rw [same]; rfl) (by omega)
  | drewJob caller first wait index rest inside draining queue same =>
      have shift := total_draw (MeshExecutor.stops maxWorkers) maxWorkers state inside queue same
      simp only [stops_weights, draining, Item.stops, Caller.owes] at shift
      exact kept (by rw [same]; rfl) (by omega)
  | dropped caller index first wait inside cancelling same =>
      have shift := total_caller (MeshExecutor.stops maxWorkers) maxWorkers state inside same
      simp only [stops_weights, cancelling, Caller.owes] at shift
      exact kept (by rw [same]; rfl) (by omega)
  | replaced caller first wait inside replacing same =>
      have shift := total_put (MeshExecutor.stops maxWorkers) maxWorkers state inside same
      simp only [stops_weights, replacing, Item.stops, Caller.owes] at shift
      exact kept (by rw [same]; rfl) (by omega)
  | put caller left wait inside putting same =>
      have shift := total_put (MeshExecutor.stops maxWorkers) maxWorkers state inside same
      simp only [stops_weights, putting, Item.stops, Caller.owes] at shift
      exact kept (by rw [same]; rfl) (by omega)
  | joined caller wait inside putting ended same =>
      have shift := total_caller (MeshExecutor.stops maxWorkers) maxWorkers state inside same
      simp only [stops_weights, putting, Caller.owes] at shift
      exact kept (by rw [same]; rfl) (by omega)

theorem Sound.places_step (sound : Sound maxWorkers state)
    (move : Moves maxWorkers state after event) (jobs : after.jobs = state.jobs) (index : Nat) :
    total (places index) maxWorkers after = total (places index) maxWorkers state ∨
      (total (places index) maxWorkers after + 1 = total (places index) maxWorkers state ∧
        (after.futures index).done = true) := by
  cases move with
  | refused job closed same => exact .inl (by rw [same])
  | submitted job opened same => simp [same] at jobs
  | cancelled index bound same => exact .inl (by rw [same]; rfl)
  | entered wait cancelFutures same =>
      refine .inl ((total_enter _ _ state same).trans ?_)
      cases cancelFutures <;> rfl
  | crashed _ worker inside misfit => exact absurd misfit (sound.no_misfit inside)
  | stopped worker connected rest inside waiting queue same =>
      have shift := total_take (places index) maxWorkers state inside queue same
      simp only [places_weights, waiting, Item.places, Worker.places] at shift
      exact .inl (by omega)
  | taken worker connected other rest inside waiting queue same =>
      have shift := total_take (places index) maxWorkers state inside queue same
      simp only [places_weights, waiting, Item.places, Worker.places] at shift
      exact .inl (by omega)
  | begun worker other connected inside holding pending same =>
      have shift := total_worker (places index) maxWorkers state inside same
      simp only [places_weights, holding, Worker.places] at shift
      exact .inl (by omega)
  | notified worker other connected inside holding cancelled same =>
      have shift := total_worker (places index) maxWorkers state inside same
      simp only [places_weights, holding, Worker.places] at shift
      by_cases own : other = index
      · subst own
        rw [if_pos rfl] at shift
        refine .inr ⟨shift, ?_⟩
        rw [same]
        simp [setWorker, setFuture, Future.done]
      · rw [if_neg own] at shift
        exact .inl shift
  | connected worker other inside running same =>
      have shift := total_worker (places index) maxWorkers state inside same
      simp only [places_weights, running, Worker.places] at shift
      exact .inl (by omega)
  | unconnected worker other error inside running undone same =>
      have shift := total_worker (places index) maxWorkers state inside same
      simp only [places_weights, running, Worker.places] at shift
      by_cases own : other = index
      · subst own
        rw [if_pos rfl] at shift
        refine .inr ⟨shift, ?_⟩
        rw [same]
        simp [setWorker, setFuture, Future.done]
      · rw [if_neg own] at shift
        exact .inl shift
  | replied worker other answer inside running undone same =>
      have shift := total_worker (places index) maxWorkers state inside same
      simp only [places_weights, running, Worker.places] at shift
      by_cases own : other = index
      · subst own
        rw [if_pos rfl] at shift
        refine .inr ⟨shift, ?_⟩
        rw [same]
        simp [setWorker, setFuture, Future.done]
      · rw [if_neg own] at shift
        exact .inl shift
  | emptied caller first wait inside draining queue same =>
      have shift := total_caller (places index) maxWorkers state inside same
      simp only [places_weights, draining, Caller.places] at shift
      exact .inl (by omega)
  | drewStop caller first wait rest inside draining queue same =>
      have shift := total_draw (places index) maxWorkers state inside queue same
      simp only [places_weights, draining, Item.places, Caller.places] at shift
      exact .inl (by omega)
  | drewJob caller first wait other rest inside draining queue same =>
      have shift := total_draw (places index) maxWorkers state inside queue same
      simp only [places_weights, draining, Item.places, Caller.places] at shift
      exact .inl (by omega)
  | dropped caller other first wait inside cancelling same =>
      have shift := total_caller (places index) maxWorkers state inside same
      simp only [places_weights, cancelling, Caller.places] at shift
      by_cases own : other = index
      · subst own
        rw [if_pos rfl] at shift
        refine .inr ⟨shift, ?_⟩
        rw [same]
        have unstarted := sound.handed caller inside other first wait cancelling
        have done : (state.futures other).cancel.done = true := by
          cases future : state.futures other <;> simp_all [Future.unstarted, Future.cancel, Future.done]
        simpa [setCaller, cancel] using done
      · rw [if_neg own] at shift
        exact .inl shift
  | replaced caller first wait inside replacing same =>
      have shift := total_put (places index) maxWorkers state inside same
      simp only [places_weights, replacing, Item.places, Caller.places] at shift
      exact .inl (by omega)
  | put caller left wait inside putting same =>
      have shift := total_put (places index) maxWorkers state inside same
      simp only [places_weights, putting, Item.places, Caller.places] at shift
      exact .inl (by omega)
  | joined caller wait inside putting ended same =>
      have shift := total_caller (places index) maxWorkers state inside same
      simp only [places_weights, putting, Caller.places] at shift
      exact .inl (by omega)

theorem Sound.submitted_or (sound : Sound maxWorkers state)
    (move : Moves maxWorkers state after event) :
    (∃ job, state.shutdown = false ∧ after = { state with
      queue := state.queue ++ [.job state.jobs.length], jobs := state.jobs ++ [job] }) ∨
    after.jobs = state.jobs := by
  cases move with
  | submitted job opened same => exact .inl ⟨job, opened, same⟩
  | crashed _ worker inside misfit => exact absurd misfit (sound.no_misfit inside)
  | refused _ _ same | cancelled _ _ same | entered _ _ same | stopped _ _ _ _ _ _ same
  | taken _ _ _ _ _ _ _ same | begun _ _ _ _ _ _ same | notified _ _ _ _ _ _ same
  | connected _ _ _ _ same | unconnected _ _ _ _ _ _ same | replied _ _ _ _ _ _ same
  | emptied _ _ _ _ _ _ same | drewStop _ _ _ _ _ _ _ same | drewJob _ _ _ _ _ _ _ _ same
  | dropped _ _ _ _ _ _ same | replaced _ _ _ _ _ same | put _ _ _ _ _ same
  | joined _ _ _ _ _ same => exact .inr (same ▸ rfl)

theorem mem_queue_le {index : Nat} (member : .job index ∈ state.queue) :
    1 ≤ (state.queue.map (Item.places index)).sum := by
  have weight : Item.places index (.job index) = 1 := if_pos rfl
  rw [← weight]
  exact List.single_le_sum (fun _ _ => Nat.zero_le _) _ (List.mem_map_of_mem member)

theorem Sound.alone (sound : Sound maxWorkers state) {worker index : Nat}
    (inside : worker < maxWorkers) (has : (state.workers worker).places index = 1) :
    .job index ∉ state.queue ∧
      (∀ caller < state.called, (state.callers caller).places index = 0) ∧
      ∀ other < maxWorkers, other ≠ worker → (state.workers other).places index = 0 := by
  have single := sound.single index
  simp only [total, places_weights] at single
  have own := @le_weigh maxWorkers worker _ (Worker.places index) state.workers inside
  refine ⟨?_, ?_, ?_⟩
  · intro member
    have queued := mem_queue_le member
    omega
  · intro caller bound
    have handed := @le_weigh state.called caller _ (Caller.places index) state.callers bound
    omega
  · intro other bound different
    have both := @add_le_weigh maxWorkers worker _ (Worker.places index) state.workers inside other
      bound different
    omega

theorem Future.unstarted_cancel (future : Future) : future.cancel.unstarted = future.unstarted := by
  cases future <;> rfl

theorem unstarted_update {futures : Nat → Future} (index other : Nat) :
    (Function.update futures index (futures index).cancel other).unstarted =
      (futures other).unstarted := by
  by_cases same : other = index
  · rw [same, Function.update_self, Future.unstarted_cancel]
  · rw [Function.update_of_ne same]

theorem Fits.cancel {futures : Nat → Future} {standing : Worker} (fits : Fits futures standing)
    (index : Nat) : Fits (Function.update futures index (futures index).cancel) standing := by
  cases standing with
  | waiting connected => trivial
  | ended crashed => exact fits
  | holding other connected => exact (unstarted_update index other).trans fits
  | running other connected =>
      change Function.update futures index (futures index).cancel other = .running
      by_cases same : other = index
      · rw [same, Function.update_self, ← same, show futures other = .running from fits]
        rfl
      · rw [Function.update_of_ne same]
        exact fits

theorem Fits.update {futures : Nat → Future} {standing : Worker} (fits : Fits futures standing)
    {index : Nat} (elsewhere : standing.places index = 0) (future : Future) :
    Fits (Function.update futures index future) standing := by
  cases standing with
  | waiting connected => trivial
  | ended crashed => exact fits
  | holding other connected | running other connected =>
      have different : other ≠ index := by
        rintro rfl
        simp [Worker.places] at elsewhere
      simpa only [Fits, Function.update_of_ne different] using fits

theorem fits_set {futures : Nat → Future} {workers : Nat → Worker} {worker : Nat}
    {standing : Worker} (own : Fits futures standing)
    (others : ∀ other < maxWorkers, other ≠ worker → Fits futures (workers other)) :
    ∀ other < maxWorkers, Fits futures (Function.update workers worker standing other) := by
  intro other bound
  by_cases same : other = worker
  · rw [same, Function.update_self]
    exact own
  · rw [Function.update_of_ne same]
    exact others other bound same

theorem Sound.fits_resolved (sound : Sound maxWorkers state) {worker index : Nat}
    (inside : worker < maxWorkers) (has : (state.workers worker).places index = 1)
    {standing : Worker} {future : Future}
    (own : Fits (Function.update state.futures index future) standing) :
    ∀ other < maxWorkers, Fits (Function.update state.futures index future)
      (Function.update state.workers worker standing other) := by
  obtain ⟨_, _, elsewhere⟩ := sound.alone inside has
  exact fits_set own fun other bound different =>
    (sound.fits other bound).update (elsewhere other bound different) future

theorem Sound.fits_step (sound : Sound maxWorkers state)
    (move : Moves maxWorkers state after event) :
    ∀ worker < maxWorkers, Fits after.futures (after.workers worker) := by
  have before := sound.fits
  cases move with
  | crashed _ worker inside misfit => exact absurd misfit (sound.no_misfit inside)
  | refused _ _ same | submitted _ _ same | entered _ _ same | emptied _ _ _ _ _ _ same
  | drewStop _ _ _ _ _ _ _ same | drewJob _ _ _ _ _ _ _ _ same | replaced _ _ _ _ _ same
  | put _ _ _ _ _ same | joined _ _ _ _ _ same =>
      rw [same]
      exact before
  | cancelled index bound same | dropped _ index _ _ _ _ same =>
      rw [same]
      exact fun worker inside => (before worker inside).cancel index
  | stopped worker connected rest inside waiting queue same =>
      rw [same]
      exact fits_set rfl fun other bound _ => before other bound
  | taken worker connected index rest inside waiting queue same =>
      rw [same]
      refine fits_set ?_ fun other bound _ => before other bound
      exact sound.queued index (by simp [queue])
  | connected worker index inside running same =>
      rw [same]
      refine fits_set ?_ fun other bound _ => before other bound
      have own := before worker inside
      rw [running] at own
      exact own
  | begun worker index connected inside holding pending same =>
      rw [same]
      refine sound.fits_resolved inside (by simp [holding, Worker.places]) ?_
      exact Function.update_self _ _ _
  | notified worker index connected inside holding cancelled same =>
      rw [same]
      exact sound.fits_resolved inside (by simp [holding, Worker.places]) trivial
  | unconnected worker index error inside running undone same =>
      rw [same]
      exact sound.fits_resolved inside (by simp [running, Worker.places]) trivial
  | replied worker index answer inside running undone same =>
      rw [same]
      exact sound.fits_resolved inside (by simp [running, Worker.places]) trivial

theorem Sound.handed_lt (sound : Sound maxWorkers state) {caller index : Nat} {first wait : Bool}
    (inside : caller < state.called)
    (cancelling : state.callers caller = .cancelling index first wait) :
    index < state.jobs.length := by
  by_contra beyond
  have nowhere := (sound.fresh index (by omega)).1
  have own := @le_weigh state.called caller _ (Caller.places index) state.callers inside
  simp only [cancelling, Caller.places, if_true] at own
  simp only [total, places_weights] at nowhere
  omega

/-- How the futures change: not at all, one is cancelled, or a worker settles that of its job. -/
theorem Sound.futures_step (sound : Sound maxWorkers state)
    (move : Moves maxWorkers state after event) :
    after.futures = state.futures ∨
      (∃ index < state.jobs.length, after.futures =
        Function.update state.futures index (state.futures index).cancel) ∨
      ∃ worker index future, worker < maxWorkers ∧ (state.workers worker).places index = 1 ∧
        ((state.futures index).done = true → future.done = true) ∧
        after.futures = Function.update state.futures index future ∧ after.queue = state.queue ∧
        after.callers = state.callers ∧ after.called = state.called := by
  cases move with
  | crashed _ worker inside misfit => exact absurd misfit (sound.no_misfit inside)
  | refused _ _ same | submitted _ _ same | entered _ _ same | emptied _ _ _ _ _ _ same
  | drewStop _ _ _ _ _ _ _ same | drewJob _ _ _ _ _ _ _ _ same | replaced _ _ _ _ _ same
  | put _ _ _ _ _ same | joined _ _ _ _ _ same | stopped _ _ _ _ _ _ same
  | taken _ _ _ _ _ _ _ same | connected _ _ _ _ same =>
      rw [same]
      exact .inl rfl
  | cancelled index bound same =>
      rw [same]
      exact .inr (.inl ⟨index, bound, rfl⟩)
  | dropped caller index first wait inside cancelling same =>
      rw [same]
      exact .inr (.inl ⟨index, sound.handed_lt inside cancelling, rfl⟩)
  | begun worker index connected inside holding pending same =>
      rw [same]
      refine .inr (.inr ⟨worker, index, .running, inside, by simp [holding, Worker.places], ?_,
        rfl, rfl, rfl, rfl⟩)
      rw [pending]
      exact fun done => done
  | notified worker index connected inside holding cancelled same =>
      rw [same]
      exact .inr (.inr ⟨worker, index, .cancelledAndNotified, inside,
        by simp [holding, Worker.places], fun _ => rfl, rfl, rfl, rfl, rfl⟩)
  | unconnected worker index error inside running undone same =>
      rw [same]
      exact .inr (.inr ⟨worker, index, _, inside, by simp [running, Worker.places], fun _ => rfl,
        rfl, rfl, rfl, rfl⟩)
  | replied worker index answer inside running undone same =>
      rw [same]
      exact .inr (.inr ⟨worker, index, _, inside, by simp [running, Worker.places], fun _ => rfl,
        rfl, rfl, rfl, rfl⟩)

theorem Sound.done_step (sound : Sound maxWorkers state)
    (move : Moves maxWorkers state after event) {index : Nat}
    (done : (state.futures index).done = true) : (after.futures index).done = true := by
  rcases sound.futures_step move with same | ⟨other, bound, same⟩ |
    ⟨worker, other, future, _, _, keeps, same, _⟩
  · rwa [same]
  · rw [same]
    by_cases own : index = other
    · rw [own, Function.update_self]
      rw [own] at done
      cases found : state.futures other <;> simp_all [Future.cancel, Future.done]
    · rwa [Function.update_of_ne own]
  · rw [same]
    by_cases own : index = other
    · rw [own, Function.update_self]
      exact keeps (own ▸ done)
    · rwa [Function.update_of_ne own]

/-- What is drawn from the queue is held by a call, and what is put into it is new or a stop. -/
theorem Moves.queue_step (calm : ∀ worker < maxWorkers, ¬ Misfit state worker)
    (move : Moves maxWorkers state after event) {index : Nat} (member : .job index ∈ after.queue) :
    .job index ∈ state.queue ∨ (index = state.jobs.length ∧ after.futures = state.futures) := by
  cases move with
  | crashed _ worker inside misfit => exact absurd misfit (calm worker inside)
  | submitted job opened same =>
      rw [same] at member
      rcases List.mem_append.mp member with old | last
      · exact .inl old
      · have new : index = state.jobs.length := by simpa using last
        exact .inr ⟨new, by rw [same]⟩
  | stopped _ _ _ _ _ queue same | taken _ _ _ _ _ _ queue same
  | drewStop _ _ _ _ _ _ queue same | drewJob _ _ _ _ _ _ _ queue same =>
      rw [same] at member
      rw [queue]
      exact .inl (List.mem_cons_of_mem _ member)
  | replaced _ _ _ _ _ same | put _ _ _ _ _ same =>
      rw [same] at member
      exact .inl (by simpa [setCaller] using member)
  | refused _ _ same | cancelled _ _ same | entered _ _ same | begun _ _ _ _ _ _ same
  | notified _ _ _ _ _ _ same | connected _ _ _ _ same | unconnected _ _ _ _ _ _ same
  | replied _ _ _ _ _ _ same | emptied _ _ _ _ _ _ same | dropped _ _ _ _ _ _ same
  | joined _ _ _ _ _ same =>
      rw [same] at member
      exact .inl member

theorem Sound.queued_step (sound : Sound maxWorkers state)
    (move : Moves maxWorkers state after event) (index : Nat) (member : .job index ∈ after.queue) :
    (after.futures index).unstarted = true := by
  rcases move.queue_step (fun worker inside => sound.no_misfit inside) member with old | ⟨new, same⟩
  · have before := sound.queued index old
    rcases sound.futures_step move with same | ⟨other, bound, same⟩ |
      ⟨worker, other, future, inside, has, _, same, queue, _⟩
    · rwa [same]
    · rwa [same, unstarted_update]
    · have different : index ≠ other := by
        rintro rfl
        exact (sound.alone inside has).1 old
      rwa [same, Function.update_of_ne different]
  · rw [same, new, (sound.fresh _ (Nat.le_refl _)).2]
    rfl

theorem Moves.caller_step (calm : ∀ worker < maxWorkers, ¬ Misfit state worker)
    (move : Moves maxWorkers state after event) {caller index : Nat} {first wait : Bool}
    (bound : caller < after.called)
    (cancelling : after.callers caller = .cancelling index first wait) :
    (caller < state.called ∧ state.callers caller = .cancelling index first wait) ∨
      (.job index ∈ state.queue ∧ after.futures = state.futures) := by
  have elsewhere {other : Nat} {standing : Caller} (called : after.called = state.called)
      (callers : after.callers = Function.update state.callers other standing)
      (empty : ∀ index first wait, standing ≠ .cancelling index first wait) :
      caller < state.called ∧ state.callers caller = .cancelling index first wait := by
    rw [callers] at cancelling
    by_cases own : caller = other
    · rw [own, Function.update_self] at cancelling
      exact absurd cancelling (empty index first wait)
    · rw [Function.update_of_ne own] at cancelling
      exact ⟨called ▸ bound, cancelling⟩
  cases move with
  | crashed _ worker inside misfit => exact absurd misfit (calm worker inside)
  | refused _ _ same | cancelled _ _ same | submitted _ _ same | stopped _ _ _ _ _ _ same
  | taken _ _ _ _ _ _ _ same | begun _ _ _ _ _ _ same | notified _ _ _ _ _ _ same
  | connected _ _ _ _ same | unconnected _ _ _ _ _ _ same | replied _ _ _ _ _ _ same =>
      rw [same] at bound cancelling
      exact .inl ⟨bound, cancelling⟩
  | entered wait cancelFutures same =>
      left
      rw [same] at bound cancelling
      by_cases own : caller = state.called
      · simp only [enter, own, Function.update_self] at cancelling
        cases cancelFutures <;> cases cancelling
      · simp only [enter, Function.update_of_ne own] at bound cancelling
        exact ⟨by omega, cancelling⟩
  | emptied _ _ _ _ _ _ same | drewStop _ _ _ _ _ _ _ same | dropped _ _ _ _ _ _ same
  | replaced _ _ _ _ _ same | put _ _ _ _ _ same | joined _ _ _ _ _ same =>
      exact .inl (elsewhere (by rw [same]; rfl) (by rw [same]; rfl) (by simp))
  | drewJob other _ _ drawn rest _ _ queue same =>
      by_cases own : caller = other
      · rw [same, own] at cancelling
        simp only [setCaller, Function.update_self, Caller.cancelling.injEq] at cancelling
        exact .inr ⟨by simp [queue, cancelling.1], by rw [same]; rfl⟩
      · rw [same] at bound cancelling
        simp only [setCaller, Function.update_of_ne own] at bound cancelling
        exact .inl ⟨bound, cancelling⟩

theorem Sound.handed_step (sound : Sound maxWorkers state)
    (move : Moves maxWorkers state after event) (caller : Nat) (bound : caller < after.called)
    (index : Nat) (first wait : Bool)
    (cancelling : after.callers caller = .cancelling index first wait) :
    (after.futures index).unstarted = true := by
  rcases move.caller_step (fun worker inside => sound.no_misfit inside) bound cancelling with
    ⟨inside, standing⟩ | ⟨queued, same⟩
  · have before := sound.handed caller inside index first wait standing
    rcases sound.futures_step move with same | ⟨other, bound, same⟩ |
      ⟨worker, other, future, own, has, _, same, _⟩
    · rwa [same]
    · rwa [same, unstarted_update]
    · have different : index ≠ other := by
        rintro rfl
        have apart := (sound.alone own has).2.1 caller inside
        simp [standing, Caller.places] at apart
      rwa [same, Function.update_of_ne different]
  · rw [same]
    exact sound.queued index queued

theorem Sound.single_step (sound : Sound maxWorkers state)
    (move : Moves maxWorkers state after event) (index : Nat) :
    total (places index) maxWorkers after ≤ 1 := by
  have before := sound.single index
  rcases sound.submitted_or move with ⟨job, opened, same⟩ | jobs
  · have shift := total_submit (places index) maxWorkers state same
    by_cases new : state.jobs.length = index
    · rw [(sound.fresh index (by omega)).1] at shift
      simp only [places_weights, Item.places, if_pos new] at shift
      omega
    · simp only [places_weights, Item.places, if_neg new] at shift
      omega
  · rcases sound.places_step move jobs index with same | ⟨less, _⟩ <;> omega

theorem Sound.fresh_step (sound : Sound maxWorkers state)
    (move : Moves maxWorkers state after event) (index : Nat) (beyond : after.jobs.length ≤ index) :
    total (places index) maxWorkers after = 0 ∧ after.futures index = .pending := by
  rcases sound.submitted_or move with ⟨job, opened, same⟩ | jobs
  · have shift := total_submit (places index) maxWorkers state same
    simp only [same, List.length_append, List.length_singleton] at beyond
    obtain ⟨nowhere, pending⟩ := sound.fresh index (by omega)
    rw [nowhere] at shift
    have other : state.jobs.length ≠ index := by omega
    simp only [places_weights, Item.places, if_neg other] at shift
    exact ⟨shift, by rw [same]; exact pending⟩
  · rw [jobs] at beyond
    obtain ⟨nowhere, pending⟩ := sound.fresh index beyond
    have still : total (places index) maxWorkers after = 0 := by
      rcases sound.places_step move jobs index with same | ⟨less, _⟩ <;> omega
    refine ⟨still, ?_⟩
    rcases sound.futures_step move with same | ⟨other, bound, same⟩ |
      ⟨worker, other, future, inside, has, _, same, _⟩
    · rwa [same]
    · rwa [same, Function.update_of_ne (by omega)]
    · have different : index ≠ other := by
        rintro rfl
        have own := @le_weigh maxWorkers worker _ (Worker.places index) state.workers inside
        simp only [total, places_weights] at nowhere
        omega
      rwa [same, Function.update_of_ne different]

theorem Sound.placed_step (sound : Sound maxWorkers state)
    (move : Moves maxWorkers state after event) (index : Nat) (inside : index < after.jobs.length)
    (undone : (after.futures index).done = false) : total (places index) maxWorkers after = 1 := by
  have before : (state.futures index).done = false := by
    by_contra done
    rw [sound.done_step move (by simpa using done)] at undone
    cases undone
  rcases sound.submitted_or move with ⟨job, opened, same⟩ | jobs
  · have shift := total_submit (places index) maxWorkers state same
    simp only [same, List.length_append, List.length_singleton] at inside
    by_cases new : state.jobs.length = index
    · rw [(sound.fresh index (by omega)).1] at shift
      simpa only [places_weights, Item.places, if_pos new] using shift
    · rw [sound.placed index (by omega) before] at shift
      simpa only [places_weights, Item.places, if_neg new] using shift
  · rw [jobs] at inside
    have one := sound.placed index inside before
    rcases sound.places_step move jobs index with same | ⟨_, done⟩
    · omega
    · rw [done] at undone
      cases undone

theorem Lined.pop {submitted : Nat} {item : Item} {rest : List Item}
    (lined : Lined submitted (item :: rest)) : Lined submitted rest := by
  obtain ⟨first, count, bound, same⟩ := lined
  rcases Nat.lt_or_ge first submitted with more | none
  · have split : submitted - first = submitted - (first + 1) + 1 := by omega
    rw [split, List.range'_succ, List.map_cons, List.cons_append] at same
    exact ⟨first + 1, count, by omega, (List.cons.inj same).2⟩
  · have nothing : submitted - first = 0 := by omega
    rw [nothing, List.range'_zero, List.map_nil, List.nil_append] at same
    cases count with
    | zero => cases same
    | succ count =>
        rw [List.replicate_succ] at same
        exact ⟨submitted, count, Nat.le_refl _, by simpa using (List.cons.inj same).2⟩

theorem Lined.put {submitted : Nat} {queue : List Item} (lined : Lined submitted queue) :
    Lined submitted (queue ++ [.stop]) := by
  obtain ⟨first, count, bound, rfl⟩ := lined
  refine ⟨first, count + 1, bound, ?_⟩
  rw [List.append_assoc, List.replicate_succ']

theorem Lined.submit {submitted : Nat} {queue : List Item} (lined : Lined submitted queue)
    (none : .stop ∉ queue) : Lined (submitted + 1) (queue ++ [.job submitted]) := by
  obtain ⟨first, count, bound, rfl⟩ := lined
  cases count with
  | succ count => simp [List.replicate_succ] at none
  | zero =>
      refine ⟨first, 0, by omega, ?_⟩
      have longer : submitted + 1 - first = submitted - first + 1 := by omega
      rw [longer, List.range'_concat, List.map_append]
      have last : submitted = first + (submitted - first) := by omega
      simpa using last

theorem Lined.behind_stop {submitted : Nat} {rest : List Item}
    (lined : Lined submitted (.stop :: rest)) (index : Nat) : .job index ∉ rest := by
  obtain ⟨first, count, bound, same⟩ := lined
  have nothing : submitted - first = 0 := by
    by_contra more
    obtain ⟨before, size⟩ := Nat.exists_eq_succ_of_ne_zero more
    rw [size, List.range'_succ, List.map_cons, List.cons_append] at same
    cases (List.cons.inj same).1
  rw [nothing, List.range'_zero, List.map_nil, List.nil_append] at same
  intro member
  have listed : .job index ∈ List.replicate count Item.stop := same ▸ List.mem_cons_of_mem _ member
  cases (List.mem_replicate.mp listed).2

theorem Sound.no_stops (sound : Sound maxWorkers state) (opened : state.shutdown = false) :
    .stop ∉ state.queue ∧ ∀ worker < maxWorkers, (state.workers worker).hasEnded = false := by
  have none := sound.stops
  rw [opened] at none
  simp only [total, stops_weights, Bool.false_eq_true, if_false, Nat.add_eq_zero_iff] at none
  constructor
  · intro member
    have weight : Item.stops .stop ≤ (state.queue.map Item.stops).sum :=
      List.single_le_sum (fun _ _ => Nat.zero_le _) _ (List.mem_map_of_mem member)
    simp only [Item.stops] at weight
    omega
  · intro worker inside
    have weight := weigh_eq_zero.mp none.1.2 worker inside
    cases standing : state.workers worker with
    | ended crashed => simp [standing, Worker.stops] at weight
    | waiting | holding | running => rfl

theorem Sound.lined_step (sound : Sound maxWorkers state)
    (move : Moves maxWorkers state after event) : Lined after.jobs.length after.queue := by
  have before := sound.lined
  cases move with
  | crashed _ worker inside misfit => exact absurd misfit (sound.no_misfit inside)
  | submitted job opened same =>
      rw [same, List.length_append, List.length_singleton]
      exact before.submit (sound.no_stops opened).1
  | stopped _ _ _ _ _ queue same | taken _ _ _ _ _ _ queue same
  | drewStop _ _ _ _ _ _ queue same | drewJob _ _ _ _ _ _ _ queue same =>
      rw [queue] at before
      rw [same]
      exact before.pop
  | replaced _ _ _ _ _ same | put _ _ _ _ _ same =>
      rw [same]
      exact before.put
  | refused _ _ same | cancelled _ _ same | entered _ _ same | begun _ _ _ _ _ _ same
  | notified _ _ _ _ _ _ same | connected _ _ _ _ same | unconnected _ _ _ _ _ _ same
  | replied _ _ _ _ _ _ same | emptied _ _ _ _ _ _ same | dropped _ _ _ _ _ _ same
  | joined _ _ _ _ _ same =>
      rw [same]
      exact before

theorem ended_of_update {worker other : Nat} {workers : Nat → Worker} {standing : Worker}
    (going : standing.hasEnded = false)
    (ended : (Function.update workers worker standing other).hasEnded = true) :
    (workers other).hasEnded = true := by
  by_cases own : other = worker
  · rw [own, Function.update_self, going] at ended
    cases ended
  · rwa [Function.update_of_ne own] at ended

theorem Sound.emptied_step (sound : Sound maxWorkers state)
    (move : Moves maxWorkers state after event)
    (ended : ∃ worker < maxWorkers, (after.workers worker).hasEnded = true) (index : Nat) :
    .job index ∉ after.queue := by
  obtain ⟨other, bound, ended⟩ := ended
  have before (earlier : (state.workers other).hasEnded = true) :=
    sound.emptied ⟨other, bound, earlier⟩ index
  cases move with
  | crashed _ worker inside misfit => exact absurd misfit (sound.no_misfit inside)
  | submitted job opened same =>
      rw [same] at ended
      rw [(sound.no_stops opened).2 other bound] at ended
      cases ended
  | stopped worker connected rest inside waiting queue same =>
      rw [same]
      exact (queue ▸ sound.lined).behind_stop index
  | taken _ _ _ _ _ _ queue same =>
      rw [same] at ended ⊢
      have kept := before (ended_of_update rfl ended)
      rw [queue] at kept
      exact fun member => kept (List.mem_cons_of_mem _ member)
  | drewStop _ _ _ _ _ _ queue same | drewJob _ _ _ _ _ _ _ queue same =>
      rw [same] at ended ⊢
      have kept := before ended
      rw [queue] at kept
      exact fun member => kept (List.mem_cons_of_mem _ member)
  | replaced _ _ _ _ _ same | put _ _ _ _ _ same =>
      rw [same] at ended ⊢
      have kept := before ended
      simpa [setCaller] using kept
  | begun _ _ _ _ _ _ same | notified _ _ _ _ _ _ same | connected _ _ _ _ same
  | unconnected _ _ _ _ _ _ same | replied _ _ _ _ _ _ same =>
      rw [same] at ended ⊢
      exact before (ended_of_update rfl ended)
  | refused _ _ same | cancelled _ _ same | entered _ _ same | emptied _ _ _ _ _ _ same
  | dropped _ _ _ _ _ _ same | joined _ _ _ _ _ same =>
      rw [same] at ended ⊢
      exact before ended

theorem Sound.uncalled_step (sound : Sound maxWorkers state)
    (move : Moves maxWorkers state after event) (opened : after.shutdown = false) :
    after.called = 0 := by
  have before := sound.uncalled
  cases move with
  | crashed _ worker inside misfit => exact absurd misfit (sound.no_misfit inside)
  | entered _ _ same =>
      rw [same] at opened
      cases opened
  | refused _ _ same | submitted _ _ same | cancelled _ _ same | stopped _ _ _ _ _ _ same
  | taken _ _ _ _ _ _ _ same | begun _ _ _ _ _ _ same | notified _ _ _ _ _ _ same
  | connected _ _ _ _ same | unconnected _ _ _ _ _ _ same | replied _ _ _ _ _ _ same
  | emptied _ _ _ _ _ _ same | drewStop _ _ _ _ _ _ _ same | drewJob _ _ _ _ _ _ _ _ same
  | dropped _ _ _ _ _ _ same | replaced _ _ _ _ _ same | put _ _ _ _ _ same
  | joined _ _ _ _ _ same =>
      rw [same] at opened ⊢
      exact before opened

theorem connections_weights :
    connections.worker = Worker.connections ∧ (∀ item, connections.item item = 0) ∧
      ∀ caller, connections.caller caller = 0 :=
  ⟨rfl, fun _ => rfl, fun _ => rfl⟩

theorem Sound.connected_step (sound : Sound maxWorkers state)
    (move : Moves maxWorkers state after event) :
    after.opened = after.closed + total connections maxWorkers after := by
  have before := sound.connected
  have quiet (opened : after.opened = state.opened) (closed : after.closed = state.closed)
      (balance : total connections maxWorkers after = total connections maxWorkers state) :
      after.opened = after.closed + total connections maxWorkers after := by
    rw [opened, closed, balance]
    exact before
  cases move with
  | crashed _ worker inside misfit => exact absurd misfit (sound.no_misfit inside)
  | refused _ _ same | cancelled _ _ same => exact quiet (same ▸ rfl) (same ▸ rfl) (same ▸ rfl)
  | submitted job opened same =>
      exact quiet (same ▸ rfl) (same ▸ rfl) (total_submit connections maxWorkers state same)
  | entered wait cancelFutures same =>
      exact quiet (same ▸ rfl) (same ▸ rfl) (total_enter connections maxWorkers state same)
  | emptied _ _ _ inside _ _ same | dropped _ _ _ _ inside _ same | joined _ _ inside _ _ same =>
      exact quiet (same ▸ rfl) (same ▸ rfl)
        (total_caller connections maxWorkers state inside same)
  | drewStop _ _ _ _ inside _ queue same | drewJob _ _ _ _ _ inside _ queue same =>
      exact quiet (same ▸ rfl) (same ▸ rfl)
        (total_draw connections maxWorkers state inside queue same)
  | replaced _ _ _ inside _ same | put _ _ _ inside _ same =>
      exact quiet (same ▸ rfl) (same ▸ rfl) (total_put connections maxWorkers state inside same)
  | stopped worker connected rest inside waiting queue same =>
      have shift := total_take connections maxWorkers state inside queue same
      simp only [connections_weights, waiting, Worker.connections] at shift
      simp only [same, setWorker] at shift ⊢
      omega
  | taken worker connected index rest inside waiting queue same =>
      have shift := total_take connections maxWorkers state inside queue same
      simp only [connections_weights, waiting, Worker.connections] at shift
      exact quiet (same ▸ rfl) (same ▸ rfl) (by omega)
  | begun worker index connected inside holding pending same =>
      have shift := total_worker connections maxWorkers state inside same
      simp only [connections_weights, holding, Worker.connections] at shift
      exact quiet (same ▸ rfl) (same ▸ rfl) (by omega)
  | notified worker index connected inside holding cancelled same =>
      have shift := total_worker connections maxWorkers state inside same
      simp only [connections_weights, holding, Worker.connections] at shift
      exact quiet (same ▸ rfl) (same ▸ rfl) (by omega)
  | connected worker index inside running same =>
      have shift := total_worker connections maxWorkers state inside same
      simp only [connections_weights, running, Worker.connections] at shift
      simp only [same, setWorker, Bool.toNat_true, Bool.toNat_false] at shift ⊢
      omega
  | unconnected worker index error inside running undone same =>
      have shift := total_worker connections maxWorkers state inside same
      simp only [connections_weights, running, Worker.connections] at shift
      exact quiet (same ▸ rfl) (same ▸ rfl) (by omega)
  | replied worker index answer inside running undone same =>
      have shift := total_worker connections maxWorkers state inside same
      simp only [connections_weights, running, Worker.connections] at shift
      cases kept : keeps (runReply answer) <;>
        simp only [same, setWorker, setFuture, kept, Bool.not_true, Bool.not_false,
          Bool.toNat_true, Bool.toNat_false] at shift ⊢ <;> omega

theorem Sound.step (sound : Sound maxWorkers state)
    (moved : next maxWorkers state event = some after) : Sound maxWorkers after := by
  have move := moves_of_next moved
  exact
    { stops := sound.stops_step move
      single := sound.single_step move
      fresh := sound.fresh_step move
      fits := sound.fits_step move
      queued := sound.queued_step move
      handed := sound.handed_step move
      placed := sound.placed_step move
      lined := sound.lined_step move
      emptied := sound.emptied_step move
      uncalled := sound.uncalled_step move
      connected := sound.connected_step move }

theorem start_sound (maxWorkers : Nat) : Sound maxWorkers start where
  stops := by simp [total, start, stops_weights, Worker.stops, weigh]
  single index := by simp [total, start, places_weights, Worker.places, weigh]
  fresh index _ := by simp [total, start, places_weights, Worker.places, weigh]
  fits worker _ := trivial
  queued index member := by simp [start] at member
  handed caller bound := by simp [start] at bound
  placed index inside := by simp [start] at inside
  lined := ⟨0, 0, Nat.le_refl _, rfl⟩
  emptied _ index := by simp [start]
  uncalled _ := rfl
  connected := by simp [total, start, connections_weights, Worker.connections, weigh]

theorem run_sound {trace : List Event} {final : State}
    (ran : Runs.run (next maxWorkers) start trace = some final) : Sound maxWorkers final :=
  Runs.run_invariant (start_sound maxWorkers) (fun _ _ _ sound moved => sound.step moved) ran

end Steps

end AetherMesh.MeshExecutor
