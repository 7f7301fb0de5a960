import AetherMesh.Controller.DispatcherReplies
import AetherMesh.Library.Descent

/-!
The dispatcher comes to an end. What its loop waits for is always something that happens outside
of it, and once every sender is gone it returns after a bounded number of steps.
-/

namespace AetherMesh.Dispatcher

open Runs Descent

def Event.loops : Event → Bool
  | .enter | .receive | .reap | .drain | .check | .choose | .handOver | .join => true
  | _ => false

def Event.works : Event → Bool
  | .finish _ _ | .finishFlow => true
  | event => event.loops

def Control.left (closed : Bool) : Control → Nat
  | .top => 6
  | .select => 5
  | .drain => 4
  | .flowing pending => 3 + pending.length
  | .choose => if closed then 2 else 7
  | .permit _ _ => 9
  | .closing => 1
  | .returned => 0

def State.left (state : State) : Nat :=
  state.control.left state.closed + 9 * state.channel.length + 8 * state.queue.entries.length +
    state.flows.length + 2 * state.running.length + state.ended

inductive Waits (setup : Setup) (state : State) : Prop
  | idle (atSelect : state.control = .select) (channel : state.channel = [])
      (queue : state.queue.entries = []) (flows : state.flows = []) (ended : state.ended = 0)
      (connected : 0 < state.senders)
  | flow (first : Workflow × Option String × Nat) (pending : List (Workflow × Option String × Nat))
      (atFlow : state.control = .flowing (first :: pending))
  | full (entry : Queued Nat) (now : Nat) (atPermit : state.control = .permit entry now)
      (running : state.running.length = max setup.inFlight 1)
  | closing (atClosing : state.control = .closing) (busy : state.running ≠ []) (ended : state.ended = 0)
  | returned (done : state.control = .returned)

section

variable {setup : Setup} {state after final : State} {event : Event} {events : List Event}

theorem admitSubmission_length (task : Task) (timeout : Option Nat) (reply : Nat) :
    (admitSubmission state task timeout reply).queue.entries.length ≤
        state.queue.entries.length + 1 ∧
      (admitSubmission state task timeout reply).flows = state.flows := by
  rcases pushed : state.queue.pushWithTimeout floatLevels task reply state.clock timeout with ⟨queue, admitted⟩
  simp only [admitSubmission, pushed]
  rcases Queue.pushWithTimeout_cases pushed with
    ⟨rfl, -, rfl⟩ | ⟨rfl, rfl⟩ | ⟨index, dropped, rfl, found, rfl⟩
  · simp [Queue.append]
  · simp [refuse]
  · have bound := List.length_eraseIdx_le state.queue.entries index
    simp only [refuse, Queue.append, Queue.remove, List.length_append, List.length_singleton,
      and_true]
    omega

/-- A command costs more in the channel than what it leaves behind. -/
theorem admitCommand_left (command : Command) :
    8 * (admitCommand state command).queue.entries.length +
        (admitCommand state command).flows.length ≤
      8 * state.queue.entries.length + state.flows.length + 8 := by
  cases command with
  | read kind reply => simp [admitCommand]
  | workflow workflow run reply =>
      simp only [admitCommand, List.length_append, List.length_singleton]
      omega
  | submit task timeout reply =>
      obtain ⟨length, flows⟩ := @admitSubmission_length state task timeout reply
      simp only [admitCommand, setDepth, flows]
      omega

theorem taken_left {command : Command} {rest : List Command} {control : Control}
    (buffered : state.channel = command :: rest) (less : control.left state.closed ≤
      state.control.left state.closed) :
    (admitCommand { state with control, channel := rest } command).left + 1 ≤ state.left := by
  obtain ⟨same, kept⟩ := admitCommand_outside { state with control, channel := rest } command
  have moved := @admitCommand_left { state with control, channel := rest } command
  simp only [State.left, kept, same.closed, same.channel, same.running, same.ended, buffered,
    List.length_cons] at moved ⊢
  omega

theorem onTime_length : state.onTime.length ≤ state.queue.entries.length :=
  List.length_filter_le _ _

/-- Once the senders are gone, every step of work leaves fewer. -/
theorem step_left (alone : state.senders = 0) (step : Step setup state event after) :
    after.left + event.works.toNat ≤ state.left := by
  cases step with
  | send _ connected | clone connected | hangUp connected => omega
  | pass elapsed => exact Nat.le_refl _
  | finish index outcome entry found =>
      have inside := (List.getElem?_eq_some_iff.mp found).1
      simp only [State.left, List.length_eraseIdx_of_lt inside, Event.works, Bool.toNat_true]
      omega
  | finishFlow workflow run reply pending atFlow =>
      simp only [State.left, atFlow, Control.left, List.length_cons, Event.works, Bool.toNat_true]
      omega
  | enterIdle atTop | enterBusy atTop =>
      simp only [State.left, atTop, Control.left, Event.works, Event.loops, Bool.toNat_true]
      omega
  | receive command rest atSelect buffered =>
      exact taken_left buffered (by rw [atSelect]; exact Nat.le_succ 4)
  | receiveLast atSelect | receiveClosed atSelect =>
      simp only [State.left, atSelect, Control.left, Event.works, Event.loops, Bool.toNat_true]
      omega
  | reap ended atSelect some =>
      simp only [State.left, atSelect, some, Control.left, Event.works, Event.loops, Bool.toNat_true]
      omega
  | drain command rest atDrain buffered =>
      have taken := @taken_left state command rest .drain buffered (by rw [atDrain])
      rwa [← atDrain] at taken
  | drained atDrain =>
      simp only [State.left, atDrain, Control.left, Event.works, Event.loops, Bool.toNat_true,
        List.length_nil]
      omega
  | check atEnd =>
      simp only [State.left, atEnd, alone, Control.left, Event.works, Event.loops, Bool.toNat_true,
        List.length_nil, beq_self_eq_true, Bool.or_true, if_true]
      omega
  | chooseNone stats atChoose =>
      simp only [State.left, atChoose, Control.left, Event.works, Event.loops, Bool.toNat_true,
        List.length_nil]
      cases state.closed <;> simp only [Bool.false_eq_true, if_true, if_false] <;> omega
  | choose stats index entry atChoose found =>
      have inside := (List.getElem?_eq_some_iff.mp found).1
      have fewer := @onTime_length state
      simp only [State.left, atChoose, Control.left, List.length_eraseIdx_of_lt inside, Event.works,
        Event.loops, Bool.toNat_true]
      split <;> omega
  | handOver entry now atPermit =>
      simp only [State.left, atPermit, Control.left, List.length_append, List.length_singleton,
        Event.works, Event.loops, Bool.toNat_true]
      omega
  | join ended atClosing some =>
      simp only [State.left, atClosing, some, Event.works, Event.loops, Bool.toNat_true]
      omega
  | joinLast atClosing =>
      simp only [State.left, atClosing, Control.left, Event.works, Event.loops, Bool.toNat_true]
      omega

theorem step_alone (alone : state.senders = 0) (step : Step setup state event after) :
    after.senders = 0 := by
  cases step with
  | send _ connected | clone connected | hangUp connected => omega
  | receive command rest | drain command rest => rw [(admitCommand_outside _ command).1.senders, alone]
  | _ => exact alone

/-- No more tasks run at a time than there are permits, and the loop waits for a command with
nothing to do. -/
structure Ordered (setup : Setup) (state : State) : Prop where
  permits : state.running.length ≤ max setup.inFlight 1
  idle : state.control = .select → state.queue.entries = [] ∧ state.flows = []

theorem start_ordered (setup : Setup) : Ordered setup (start setup) where
  permits := Nat.zero_le _
  idle := nofun

theorem Ordered.step (ordered : Ordered setup state) (step : Step setup state event after) :
    Ordered setup after := by
  obtain ⟨permits, idle⟩ := ordered
  cases step with
  | finish index outcome entry found =>
      exact ⟨(List.length_eraseIdx_le _ _).trans permits, idle⟩
  | receive command rest =>
      obtain ⟨same, kept⟩ :=
        admitCommand_outside { state with control := .drain, channel := rest } command
      refine ⟨same.running.symm ▸ permits, fun atSelect => ?_⟩
      rw [kept] at atSelect
      cases atSelect
  | drain command rest atDrain =>
      obtain ⟨same, kept⟩ := admitCommand_outside { state with channel := rest } command
      refine ⟨same.running.symm ▸ permits, fun atSelect => ?_⟩
      rw [kept] at atSelect
      cases atDrain.symm.trans atSelect
  | handOver entry now atPermit free =>
      refine ⟨?_, nofun⟩
      rw [List.length_append, List.length_singleton]
      omega
  | enterIdle atTop empty noFlows => exact ⟨permits, fun _ => ⟨empty, noFlows⟩⟩
  | chooseNone stats atChoose =>
      refine ⟨permits, fun atSelect => ?_⟩
      dsimp only at atSelect
      split at atSelect <;> cases atSelect
  | join ended atClosing =>
      refine ⟨permits, fun atSelect => ?_⟩
      cases atClosing.symm.trans atSelect
  | send | clone | hangUp | pass => exact ⟨permits, idle⟩
  | _ => exact ⟨permits, nofun⟩

theorem run_ordered (ran : run (next setup) (start setup) events = some final) :
    Ordered setup final :=
  run_invariant (start_ordered setup)
    (fun _ _ _ ordered moved => ordered.step (next_step moved)) ran

def Enabled (setup : Setup) (state : State) (kind : Event → Bool) : Prop :=
  ∃ event after, kind event = true ∧ next setup state event = some after

theorem enabled_of_isSome {kind : Event → Bool} (event : Event) (is : kind event = true)
    (some : (next setup state event).isSome = true) : Enabled setup state kind := by
  obtain ⟨after, moved⟩ := Option.isSome_iff_exists.mp some
  exact ⟨event, after, is, moved⟩

theorem Waits.stands (waits : Waits setup state) : ¬ Enabled setup state Event.loops := by
  rintro ⟨event, after, loops, moved⟩
  have step := next_step moved
  cases waits with
  | idle atSelect channel queue flows ended connected =>
      cases step <;> simp_all [Event.loops]
  | flow first pending atFlow => cases step <;> simp_all [Event.loops]
  | full entry now atPermit running =>
      cases step with
      | handOver entry now _ free => omega
      | _ => simp_all [Event.loops]
  | closing atClosing busy ended => cases step <;> simp_all [Event.loops]
  | returned done => cases step <;> simp_all [Event.loops]

theorem Ordered.loops_or_waits (ordered : Ordered setup state) :
    Enabled setup state Event.loops ∨ Waits setup state := by
  cases control : state.control with
  | top =>
      refine .inl (enabled_of_isSome .enter rfl ?_)
      simp only [next, enter, control]
      split <;> rfl
  | select =>
      cases channel : state.channel with
      | cons command rest =>
          refine .inl (enabled_of_isSome .receive rfl ?_)
          simp only [next, receive, control, channel, Option.isSome_some]
      | nil =>
          by_cases alone : state.senders = 0
          · refine .inl (enabled_of_isSome .receive rfl ?_)
            simp only [next, receive, control, channel, alone, if_true]
            split <;> rfl
          · cases ended : state.ended with
            | succ ended =>
                refine .inl (enabled_of_isSome .reap rfl ?_)
                simp only [next, reap, control, ended, Option.isSome_some]
            | zero =>
                obtain ⟨queue, flows⟩ := ordered.idle control
                exact .inr (.idle control channel queue flows ended (by omega))
  | drain =>
      refine .inl (enabled_of_isSome .drain rfl ?_)
      simp only [next, drain, control]
      cases state.channel <;> rfl
  | flowing pending =>
      cases pending with
      | cons first pending => exact .inr (.flow first pending control)
      | nil =>
          refine .inl (enabled_of_isSome .check rfl ?_)
          simp only [next, check, control, Option.isSome_some]
  | choose =>
      refine .inl (enabled_of_isSome .choose rfl ?_)
      simp only [next, choose, control, Option.isSome_some]
  | permit entry now =>
      by_cases free : state.running.length < max setup.inFlight 1
      · refine .inl (enabled_of_isSome .handOver rfl ?_)
        simp only [next, handOver, control, if_pos free, Option.isSome_some]
      · have permits := ordered.permits
        exact .inr (.full entry now control (by omega))
  | closing =>
      cases ended : state.ended with
      | succ ended =>
          refine .inl (enabled_of_isSome .join rfl ?_)
          simp only [next, join, control, ended, Option.isSome_some]
      | zero =>
          by_cases none : state.running = []
          · refine .inl (enabled_of_isSome .join rfl ?_)
            simp only [next, join, control, ended, if_pos none, Option.isSome_some]
          · exact .inr (.closing control none ended)
  | returned => exact .inr (.returned control)

/-- In every state of every run, no more tasks run than there are permits, and the loop stands
still exactly if it has nothing to do, waits for a workflow, for one of a full set of running
tasks or for the last of them, or has returned. -/
theorem stands_iff (setup : Setup) (events : List Event) (state : State)
    (ran : run (next setup) (start setup) events = some state) :
    state.running.length ≤ max setup.inFlight 1 ∧ (¬ Enabled setup state Event.loops ↔ Waits setup state) := by
  have ordered := run_ordered ran
  refine ⟨ordered.permits, ?_, Waits.stands⟩
  intro stuck
  exact ordered.loops_or_waits.resolve_left stuck

def fillsPermits : List Event :=
  [.send (.submit (sampleTask .normal) none 0), .enter, .receive, .drain, .check, .choose, .handOver,
    .send (.submit (sampleTask .normal) none 1), .enter, .receive, .drain, .check, .choose]

theorem full_stands :
    ∃ state, run (next (oneClient 1)) (start (oneClient 1)) fillsPermits = some state ∧
      state.running.length = 1 ∧ state.control.held = [1] ∧
      ¬ Enabled (oneClient 1) state Event.loops := by
  have tested : (run (next (oneClient 1)) (start (oneClient 1)) fillsPermits).any
      (fun state => state.running.length = 1 ∧ state.control.held = [1]) = true := by decide
  obtain ⟨state, ran, held⟩ := run_tested tested
  obtain ⟨running, waiting⟩ := of_decide_eq_true held
  have stands := stands_iff (oneClient 1) fillsPermits state ran
  refine ⟨state, ran, running, waiting, stands.2.mpr ?_⟩
  cases atPermit : state.control with
  | permit entry now => exact .full entry now atPermit running
  | top | select | drain | flowing | choose | closing | returned =>
      rw [atPermit] at waiting
      cases waiting

theorem running_works (busy : state.running ≠ []) : Enabled setup state Event.works := by
  obtain ⟨entry, rest, running⟩ := List.exists_cons_of_ne_nil busy
  refine enabled_of_isSome (.finish 0 (.error (.noNodeAvailable entry.task.id))) rfl ?_
  simp only [next, finish, running, List.getElem?_cons_zero, Option.map_some, Option.isSome_some]

theorem Ordered.works (ordered : Ordered setup state) (alone : state.senders = 0)
    (busy : state.control ≠ .returned) : Enabled setup state Event.works := by
  rcases ordered.loops_or_waits with ⟨event, after, loops, moved⟩ | waits
  · refine ⟨event, after, ?_, moved⟩
    cases event <;> first | exact loops | cases loops
  · cases waits with
    | idle _ _ _ _ _ connected => omega
    | flow first pending atFlow =>
        refine enabled_of_isSome .finishFlow rfl ?_
        simp only [next, finishFlow, atFlow, Option.isSome_some]
    | full entry now atPermit running =>
        refine running_works ?_
        intro none
        rw [none, List.length_nil] at running
        omega
    | closing atClosing someRunning => exact running_works someRunning
    | returned done => exact absurd done busy

/-- Once the last sender is gone, whatever the dispatcher and its tasks still do is bounded by what
waits at that moment. Unless it has returned, something is left that can be done, and doing it
brings the dispatcher to return with nothing running or queued. -/
theorem dispatcher_returns (setup : Setup) (events : List Event) (state : State)
    (ran : run (next setup) (start setup) events = some state) (alone : state.senders = 0) :
    (∀ later final, run (next setup) state later = some final →
      effort Event.works later + final.left ≤ state.left ∧
      (final.control = .returned ∨ Enabled setup final Event.works)) ∧
    ∃ later final, (∀ event ∈ later, event.works = true) ∧ later.length ≤ state.left ∧
      run (next setup) state later = some final ∧ final.control = .returned ∧
      final.running = [] ∧ final.queue.entries = [] := by
  have kept : ∀ reached event after, Ordered setup reached ∧ Orderly reached ∧ reached.senders = 0 →
      next setup reached event = some after →
        Ordered setup after ∧ Orderly after ∧ after.senders = 0 := by
    rintro reached event after ⟨ordered, orderly, alone⟩ moved
    have step := next_step moved
    exact ⟨ordered.step step, orderly.step step, step_alone alone step⟩
  have initial : Ordered setup state ∧ Orderly state ∧ state.senders = 0 :=
    ⟨run_ordered ran, run_orderly ran, alone⟩
  constructor
  · intro later final reached
    refine ⟨effort_bounded initial kept
      (fun _ _ _ holds moved => step_left holds.2.2 (next_step moved)) reached, ?_⟩
    have ends := @run_invariant State Event (next setup)
      (fun reached => Ordered setup reached ∧ Orderly reached ∧ reached.senders = 0) _ _ _ initial
      kept reached
    by_cases done : final.control = .returned
    · exact .inl done
    · exact .inr (ends.1.works ends.2.2 done)
  · obtain ⟨later, final, works, short, reached, ends, done⟩ := @settles State Event (next setup)
      Event.works State.left _ (fun reached => reached.control = .returned) state initial
      (fun reached event after holds _ moved => kept reached event after holds moved)
      (fun _ _ _ holds moved => step_left holds.2.2 (next_step moved))
      (fun _ holds busy => holds.1.works holds.2.2 busy)
    exact ⟨later, final, works, short, reached, done, ends.2.1.done done,
      (ends.2.1.left (by rw [done]; rfl)).1⟩

def hangsUpQueued : List Event := [.send (.submit (sampleTask .normal) none 0), .hangUp]

theorem hang_up_returns :
    ∃ state, run (next (oneClient 1)) (start (oneClient 1)) hangsUpQueued = some state ∧
      state.senders = 0 ∧ ∃ later final, run (next (oneClient 1)) state later = some final ∧
        final.control = .returned ∧ final.running = [] ∧ final.queue.entries = [] := by
  obtain ⟨-, later, final, -, -, reached, ends⟩ :=
    dispatcher_returns (oneClient 1) hangsUpQueued _ rfl rfl
  exact ⟨_, rfl, rfl, later, final, reached, ends⟩

end

end AetherMesh.Dispatcher
