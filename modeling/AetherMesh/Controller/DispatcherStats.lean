import AetherMesh.Controller.DispatcherReplies

/-!
What the counters of the queue say. Every submission that was sent is in the channel, is
waiting, or has been counted as it left the queue, and those that were counted are answered
or in the hands of the dispatcher.
-/

namespace AetherMesh.Dispatcher

open Runs

def departed (stats : QueueStats) : Nat := stats.dequeued + stats.refused + stats.expired

def State.inHand (state : State) : Nat := state.control.held.length + state.running.length

structure Counted (past : List Event) (state : State) : Prop where
  depth : state.stats.depth = state.queue.entries.length
  sent : state.buffered.length + state.queue.entries.length + departed state.stats =
    (submitted past).length
  answered : departed state.stats = state.results.length + state.inHand
  longest : state.stats.longestWaitMs ≤ state.stats.waitedMs

structure Admits (state after : State) (submissions : Nat) : Prop where
  depth : state.stats.depth = state.queue.entries.length →
    after.stats.depth = after.queue.entries.length
  sent : after.queue.entries.length + departed after.stats =
    state.queue.entries.length + departed state.stats + submissions
  answered : departed after.stats + state.results.length =
    departed state.stats + after.results.length
  waited : after.stats.waitedMs = state.stats.waitedMs ∧
    after.stats.longestWaitMs = state.stats.longestWaitMs

section

variable {setup : Setup} {state after final : State} {event : Event} {events past : List Event}

theorem admitCommand_admits (command : Command) :
    Admits state (admitCommand state command) command.submission.toList.length := by
  cases command with
  | read kind reply => exact ⟨id, rfl, rfl, rfl, rfl⟩
  | workflow workflow run reply => exact ⟨id, rfl, rfl, rfl, rfl⟩
  | submit task timeout reply =>
      rcases pushed : state.queue.pushWithTimeout floatLevels task reply state.clock timeout with
        ⟨queue, admitted⟩
      simp only [admitCommand, admitSubmission, pushed, setDepth, Command.submission]
      rcases Queue.pushWithTimeout_cases pushed with
        ⟨rfl, -, rfl⟩ | ⟨rfl, rfl⟩ | ⟨index, dropped, rfl, found, rfl⟩
      · refine ⟨fun _ => rfl, ?_, rfl, rfl, rfl⟩
        simp [Queue.append, QueueStats.setDepth, departed]
        omega
      · refine ⟨fun _ => rfl, ?_, ?_, rfl, rfl⟩
        · simp [refuse, QueueStats.recordRefused, QueueStats.setDepth, departed]
          omega
        · simp [refuse, QueueStats.recordRefused, QueueStats.setDepth, departed]
          omega
      · have inside := (List.getElem?_eq_some_iff.mp found).1
        refine ⟨fun _ => rfl, ?_, ?_, rfl, rfl⟩
        · simp [refuse, Queue.append, Queue.remove, QueueStats.recordRefused, QueueStats.setDepth,
            departed, List.length_eraseIdx_of_lt inside]
          omega
        · simp [refuse, QueueStats.recordRefused, QueueStats.setDepth, departed]
          omega

theorem giveUp_stats (now : Nat) (late : List (Queued Nat)) (state : State) :
    (late.foldl (giveUp now) state).stats =
      { state.stats with expired := state.stats.expired + late.length } := by
  induction late generalizing state with
  | nil => rfl
  | cons entry rest ih =>
      rw [List.foldl_cons, ih (giveUp now state entry)]
      simp only [giveUp, QueueStats.recordExpired, List.length_cons]
      congr 1
      omega

theorem expireLate_stats (state : State) :
    (expireLate state).stats =
      { state.stats with
        expired := state.stats.expired + state.late.length
        depth := state.onTime.length } := by
  unfold expireLate
  rw [Queue.expire_eq]
  obtain ⟨stats, given⟩ := giveUp_foldl state.clock state.late
    { state with queue := { state.queue with entries := state.onTime } }
  have counted := giveUp_stats state.clock state.late
    { state with queue := { state.queue with entries := state.onTime } }
  rw [given] at counted
  dsimp only at counted
  change (setDepth (state.late.foldl (giveUp state.clock)
    { state with queue := { state.queue with entries := state.onTime } })).stats = _
  rw [given, counted]
  rfl

theorem split_length (state : State) :
    state.onTime.length + state.late.length = state.queue.entries.length := by
  have split := (List.filter_append_perm (fun entry => entry.expired state.clock)
    state.queue.entries).length_eq
  rw [List.length_append] at split
  unfold State.onTime State.late
  omega

theorem expireLate_counted (counted : Counted past state) :
    Counted past (expireLate state) ∧ (expireLate state).control = state.control := by
  have stats := expireLate_stats state
  have split := split_length state
  obtain ⟨_, expired⟩ := expireLate_eq state
  obtain ⟨depth, sent, answered, longest⟩ := counted
  rw [expired] at stats ⊢
  dsimp only at stats
  subst stats
  refine ⟨⟨rfl, ?_, ?_, longest⟩, rfl⟩
  · simp only [departed, State.buffered] at sent ⊢
    omega
  · simp only [departed, State.inHand, List.length_append, List.length_map]
      at answered ⊢
    omega

theorem takeNext_counted (counted : Counted past state) (free : state.control.held = []) :
    Counted past (takeNext state) := by
  obtain ⟨depth, sent, answered, longest⟩ := counted
  simp only [State.inHand, free, List.length_nil] at answered
  unfold takeNext
  split
  · refine ⟨depth, sent, ?_, longest⟩
    rw [answered, State.inHand]
    cases state.closed <;> rfl
  · rename_i queue entry popped
    obtain ⟨index, found, rfl, -⟩ := Queue.pop_eq_some popped
    have inside := (List.getElem?_eq_some_iff.mp found).1
    refine ⟨rfl, ?_, ?_, ?_⟩
    · simp only [setDepth, QueueStats.setDepth, QueueStats.recordDequeued, departed,
        Queue.remove, List.length_eraseIdx_of_lt inside, State.buffered] at sent ⊢
      omega
    · simp only [setDepth, QueueStats.setDepth, QueueStats.recordDequeued, departed,
        State.inHand, Control.held, List.length_singleton] at answered ⊢
      omega
    · simp only [setDepth, QueueStats.setDepth, QueueStats.recordDequeued]
      omega

theorem start_counted (setup : Setup) : Counted [] (start setup) where
  depth := by simp [start, QueueStats.new, setup.empty]
  sent := by simp [start, State.buffered, departed, QueueStats.new, setup.empty, submitted]
  answered := rfl
  longest := Nat.le_refl _

theorem taken_counted (counted : Counted past state) {command : Command} {rest : List Command}
    {control : Control} (free : control.held.length = state.control.held.length)
    (buffered : state.channel = command :: rest) (still : submitted (past ++ [event]) = submitted past) :
    Counted (past ++ [event]) (admitCommand { state with control, channel := rest } command) := by
  obtain ⟨depth, sent, answered, longest⟩ := counted
  have admits := @admitCommand_admits { state with control, channel := rest } command
  obtain ⟨same, kept⟩ := admitCommand_outside { state with control, channel := rest } command
  have taken : state.buffered.length =
      command.submission.toList.length + (rest.filterMap Command.submission).length := by
    rw [State.buffered, buffered, List.filterMap_cons]
    cases command.submission with
    | none => simp
    | some other => simp [Nat.add_comm]
  refine ⟨admits.depth depth, ?_, ?_, ?_⟩
  · have moved := admits.sent
    rw [still, State.buffered, same.channel]
    dsimp only at moved ⊢
    omega
  · have moved := admits.answered
    simp only [State.inHand, kept, same.running] at moved answered ⊢
    omega
  · rw [admits.waited.1, admits.waited.2]
    exact longest

theorem submitted_quiet (quiet : event.submission = none) :
    submitted (past ++ [event]) = submitted past := by
  rw [submitted_snoc, quiet, Option.toList_none, List.append_nil]

theorem Counted.quiet (counted : Counted past after) (quiet : event.submission = none) :
    Counted (past ++ [event]) after :=
  ⟨counted.depth, by rw [submitted_quiet quiet, counted.sent], counted.answered, counted.longest⟩

theorem Counted.step (counted : Counted past state) (moved : next setup state event = some after) :
    Counted (past ++ [event]) after := by
  have step := next_step moved
  obtain ⟨depth, sent, answered, longest⟩ := counted
  cases step with
  | send command =>
      refine ⟨depth, ?_, answered, longest⟩
      rw [submitted_snoc, List.length_append, ← sent]
      simp only [State.buffered, List.filterMap_append, List.length_append, List.filterMap_cons,
        List.filterMap_nil]
      cases command with
      | submit => simp only [Command.submission, Event.submission, Option.toList_some]; omega
      | read | workflow => simp only [Command.submission, Event.submission, Option.toList_none]; omega
  | receive command rest atSelect buffered =>
      exact taken_counted ⟨depth, sent, answered, longest⟩ (by rw [atSelect]; rfl) buffered
        (submitted_quiet rfl)
  | drain command rest atDrain buffered =>
      exact taken_counted ⟨depth, sent, answered, longest⟩ rfl buffered (submitted_quiet rfl)
  | chooseNone stats atChoose | choose stats index entry atChoose =>
      simp only [next, choose, atChoose, Option.some.injEq] at moved
      obtain ⟨expired, control⟩ := @expireLate_counted state past ⟨depth, sent, answered, longest⟩
      have chosen := takeNext_counted expired (by rw [control, atChoose]; rfl)
      rw [moved] at chosen
      exact chosen.quiet rfl
  | finish index outcome entry found =>
      have inside := (List.getElem?_eq_some_iff.mp found).1
      refine Counted.quiet ⟨depth, sent, ?_, longest⟩ rfl
      simp only [State.inHand, List.length_append, List.length_singleton,
        List.length_eraseIdx_of_lt inside] at answered ⊢
      omega
  | handOver entry now atPermit =>
      refine Counted.quiet ⟨depth, sent, ?_, longest⟩ rfl
      simp only [State.inHand, atPermit, Control.held, List.length_append, List.length_singleton,
        List.length_nil] at answered ⊢
      omega
  | finishFlow _ _ _ _ atControl | enterIdle atControl | enterBusy atControl
  | receiveLast atControl | receiveClosed atControl | reap _ atControl | drained atControl
  | check atControl | join _ atControl | joinLast atControl =>
      refine Counted.quiet ⟨depth, sent, ?_, longest⟩ rfl
      simpa only [State.inHand, atControl, Control.held] using answered
  | clone | hangUp | pass => exact Counted.quiet ⟨depth, sent, answered, longest⟩ rfl

/-- At every point of a run the gauge is the number of waiting submissions, the counters and what
still waits account for every submission that was sent, and what the counters saw leave the queue
is answered, held or running. -/
theorem run_counted (setup : Setup) (events : List Event) (state : State)
    (ran : run (next setup) (start setup) events = some state) : Counted events state :=
  @run_reached State Event (next setup) (fun past state => Counted past state) (start setup) state
    events (start_counted setup) (fun _ _ _ _ _ counted moved => counted.step moved) ran

end

def holdsOne : Setup := ⟨Queue.new.withMaxSize 1, rfl, 8, 1, 1, 0⟩

def refusesOne : List Event :=
  [.send (.submit (sampleTask .normal) none 0), .send (.submit (sampleTask .normal) none 1), .enter,
    .receive, .drain]

theorem one_refused_counted :
    ∃ state, run (next holdsOne) (start holdsOne) refusesOne = some state ∧
      state.stats.refused = 1 ∧ state.stats.depth = 1 ∧ Counted refusesOne state := by
  have tested : (run (next holdsOne) (start holdsOne) refusesOne).any
      (fun state => state.stats.refused = 1 ∧ state.stats.depth = 1) = true := by decide
  obtain ⟨state, ran, held⟩ := run_tested tested
  obtain ⟨refused, depth⟩ := of_decide_eq_true held
  exact ⟨state, ran, refused, depth, run_counted holdsOne refusesOne state ran⟩

end AetherMesh.Dispatcher
