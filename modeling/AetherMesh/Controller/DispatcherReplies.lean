import AetherMesh.Controller.Dispatcher

/-!
What becomes of a submission. From the send on it is in exactly one place: in the
channel, in the queue, with the loop while that waits for a permit, out with a node,
or answered.
-/

namespace AetherMesh.Dispatcher

open Runs

def Command.submission : Command → Option Nat
  | .submit _ _ reply => some reply
  | _ => none

def Event.submission : Event → Option Nat
  | .send command => command.submission
  | _ => none

def Control.held : Control → List Nat
  | .permit entry _ => [entry.payload]
  | _ => []

def State.buffered (state : State) : List Nat := state.channel.filterMap Command.submission

def State.queued (state : State) : List Nat := state.queue.entries.map Queued.payload

def State.copies (state : State) (reply : Nat) : Nat :=
  state.buffered.count reply + state.queued.count reply + state.control.held.count reply +
    (state.running.map Queued.payload).count reply + (state.results.map Prod.fst).count reply

def State.answersTo (state : State) (reply : Nat) : List (Except DispatchError TaskResult) :=
  (state.results.filter fun answer => answer.1 = reply).map Prod.snd

theorem length_answersTo (state : State) (reply : Nat) :
    (state.answersTo reply).length = (state.results.map Prod.fst).count reply := by
  rw [State.answersTo, List.length_map, List.count, List.countP_map, List.countP_eq_length_filter]
  rfl

theorem count_erased {entries : List (Queued Nat)} {index : Nat} {entry : Queued Nat}
    (found : entries[index]? = some entry) (reply : Nat) :
    (entries.map Queued.payload).count reply =
      ((entries.eraseIdx index).map Queued.payload).count reply + [entry.payload].count reply := by
  have perm := (Queue.perm_of_getElem? found).map Queued.payload
  rw [← perm.count_eq reply, List.map_cons, List.count_cons, List.count_singleton]

theorem admitCommand_copies (state : State) (command : Command) (reply : Nat) :
    (admitCommand state command).queued.count reply +
        ((admitCommand state command).results.map Prod.fst).count reply =
      state.queued.count reply + (state.results.map Prod.fst).count reply +
        command.submission.toList.count reply := by
  cases command with
  | read kind other => simp [admitCommand, State.queued, Command.submission]
  | workflow workflow run other => simp [admitCommand, State.queued, Command.submission]
  | submit task timeout other =>
      rcases pushed : state.queue.pushWithTimeout floatLevels task other state.clock timeout with
        ⟨queue, admitted⟩
      simp only [admitCommand, admitSubmission, pushed, setDepth, State.queued, Command.submission]
      rcases Queue.pushWithTimeout_cases pushed with
        ⟨rfl, -, rfl⟩ | ⟨rfl, rfl⟩ | ⟨index, dropped, rfl, found, rfl⟩
      · simp [Queue.append]
        omega
      · simp [refuse]
        omega
      · have removed := count_erased found reply
        simp [refuse, Queue.append, Queue.remove] at removed ⊢
        omega

theorem buffered_cons {state : State} {command : Command} {rest : List Command}
    (buffered : state.channel = command :: rest) (reply : Nat) :
    state.buffered.count reply =
      command.submission.toList.count reply + (rest.filterMap Command.submission).count reply := by
  rw [State.buffered, buffered, List.filterMap_cons]
  cases command.submission with
  | none => simp
  | some other => simp [List.count_cons, Nat.add_comm]

theorem taken_copies {state : State} {command : Command} {rest : List Command}
    {control : Control} (free : control.held = state.control.held)
    (buffered : state.channel = command :: rest) (reply : Nat) :
    (admitCommand { state with control, channel := rest } command).copies reply =
      state.copies reply := by
  obtain ⟨same, kept⟩ := admitCommand_outside { state with control, channel := rest } command
  have moved := admitCommand_copies { state with control, channel := rest } command reply
  have taken := buffered_cons buffered reply
  simp only [State.queued] at moved
  simp only [State.copies, State.queued, State.buffered, same.channel, same.running, kept, free]
    at taken ⊢
  omega

theorem expired_copies (state : State) (reply : Nat) :
    (state.onTime.map Queued.payload).count reply +
        ((state.late.map (timedOut state.clock)).map Prod.fst).count reply =
      state.queued.count reply := by
  have split := (List.filter_append_perm (fun entry => entry.expired state.clock)
    state.queue.entries).map Queued.payload
  have counted := split.count_eq reply
  have answers : (state.late.map (timedOut state.clock)).map Prod.fst =
      state.late.map Queued.payload := by
    rw [List.map_map]
    rfl
  rw [List.map_append, List.count_append] at counted
  rw [answers, State.queued, ← counted, State.onTime, State.late, Nat.add_comm]

section

variable {setup : Setup} {state after : State} {event : Event}

theorem step_copies (step : Step setup state event after) (reply : Nat) :
    after.copies reply = state.copies reply + event.submission.toList.count reply := by
  cases step with
  | send command =>
      simp only [State.copies, State.buffered, State.queued, List.filterMap_append,
        List.filterMap_cons, List.filterMap_nil, List.count_append, Event.submission]
      cases command.submission with
      | none => simp
      | some other => simp; omega
  | finish index outcome entry found =>
      have removed := count_erased found reply
      simp [State.copies, State.buffered, State.queued, Event.submission] at removed ⊢
      omega
  | receive command rest atSelect buffered =>
      rw [taken_copies (by rw [atSelect]; rfl) buffered]
      rfl
  | drain command rest atDrain buffered =>
      rw [taken_copies rfl buffered]
      rfl
  | chooseNone stats atChoose nothing =>
      have expired := expired_copies state reply
      have idle : (if state.closed then Control.closing else Control.top).held = [] := by
        split <;> rfl
      have before : state.control.held = [] := by rw [atChoose]; rfl
      simp only [nothing, State.copies, State.buffered, State.queued, Event.submission, before, idle,
        List.map_append, List.count_append, List.map_nil, List.count_nil, Option.toList_none]
        at expired ⊢
      omega
  | choose stats index entry atChoose found =>
      have expired := expired_copies state reply
      have removed := count_erased found reply
      simp only [State.copies, State.buffered, State.queued, Event.submission, atChoose, Control.held,
        List.map_append, List.count_append, List.count_nil, Option.toList_none] at expired removed ⊢
      omega
  | handOver entry now atPermit =>
      simp [State.copies, State.buffered, State.queued, Event.submission, atPermit, Control.held]
      omega
  -- The other steps leave every place as it is.
  | _ => simp_all [State.copies, State.buffered, State.queued, Event.submission, Control.held]

theorem step_nextReply (step : Step setup state event after) :
    state.nextReply ≤ after.nextReply ∧
      ∀ reply ∈ event.submission, reply = state.nextReply ∧ reply < after.nextReply := by
  cases step with
  | send command connected fresh =>
      refine ⟨Nat.le_succ _, ?_⟩
      intro reply given
      have same : command.reply = reply := by
        cases command with
        | submit task timeout other => exact Option.some.inj given
        | read kind other => cases given
        | workflow workflow run other => cases given
      constructor
      · omega
      · change reply < state.nextReply + 1
        omega
  | receive command rest =>
      have same := (admitCommand_outside { state with control := .drain, channel := rest } command).1
      exact ⟨same.nextReply.ge, nofun⟩
  | drain command rest =>
      have same := (admitCommand_outside { state with channel := rest } command).1
      exact ⟨same.nextReply.ge, nofun⟩
  | _ => exact ⟨le_rfl, nofun⟩

end

def submitted (past : List Event) : List Nat := past.filterMap Event.submission

theorem submitted_snoc (past : List Event) (event : Event) :
    submitted (past ++ [event]) = submitted past ++ event.submission.toList := by
  rw [submitted, List.filterMap_append]
  cases given : event.submission <;> simp [given, submitted]

theorem mem_submitted {events : List Event} {task : Task} {timeout : Option Nat} {reply : Nat}
    (sent : Event.send (.submit task timeout reply) ∈ events) : reply ∈ submitted events :=
  List.mem_filterMap.mpr ⟨_, sent, rfl⟩

/-- Every submission is in as many places as it was sent, and no two share a reply. -/
structure Accounted (past : List Event) (state : State) : Prop where
  copies : ∀ reply, state.copies reply = (submitted past).count reply
  distinct : (submitted past).Nodup
  below : ∀ reply ∈ submitted past, reply < state.nextReply

section

variable {setup : Setup} {events : List Event} {final : State}

theorem start_accounted (setup : Setup) : Accounted [] (start setup) where
  copies reply := by
    simp [State.copies, State.buffered, State.queued, start, Control.held, submitted, setup.empty]
  distinct := List.nodup_nil
  below := nofun

theorem Accounted.step {past : List Event} {state after : State} {event : Event}
    (accounted : Accounted past state) (step : Step setup state event after) :
    Accounted (past ++ [event]) after where
  copies reply := by
    rw [step_copies step, accounted.copies, submitted_snoc, List.count_append]
  distinct := by
    rw [submitted_snoc, List.nodup_append]
    refine ⟨accounted.distinct, by cases event.submission <;> simp, ?_⟩
    intro old sent new given same
    have fresh := ((step_nextReply step).2 new (by simpa using given)).1
    have earlier := accounted.below old sent
    omega
  below reply sent := by
    obtain ⟨grows, fresh⟩ := step_nextReply step
    rw [submitted_snoc, List.mem_append] at sent
    rcases sent with old | new
    · exact (accounted.below reply old).trans_le grows
    · exact (fresh reply (by simpa using new)).2

theorem run_accounted (ran : run (next setup) (start setup) events = some final) :
    Accounted events final :=
  run_reached (start_accounted setup)
    (fun _ _ _ _ _ accounted moved => accounted.step (next_step moved)) ran

end

def Control.leaving : Control → Bool
  | .closing => true
  | .returned => true
  | _ => false

structure Orderly (state : State) : Prop where
  alone : state.closed = true → state.senders = 0
  idle : state.control = .select → state.queue.entries = []
  left : state.control.leaving = true → state.queue.entries = [] ∧ state.senders = 0
  done : state.control = .returned → state.running = []

theorem start_orderly (setup : Setup) : Orderly (start setup) where
  alone := nofun
  idle := nofun
  left := nofun
  done := nofun

section

variable {setup : Setup} {state after : State} {event : Event}

theorem Orderly.admitted {command : Command} {rest : List Command} (orderly : Orderly state) :
    Orderly (admitCommand { state with control := .drain, channel := rest } command) := by
  obtain ⟨same, kept⟩ := admitCommand_outside { state with control := .drain, channel := rest } command
  refine ⟨?_, ?_, ?_, ?_⟩
  · rw [same.closed, same.senders]
    exact orderly.alone
  all_goals
    rw [kept]
    nofun

theorem Orderly.step (orderly : Orderly state) (step : Step setup state event after) :
    Orderly after := by
  obtain ⟨alone, idle, left, done⟩ := orderly
  cases step with
  | send command => exact ⟨alone, idle, left, done⟩
  | clone connected =>
      refine ⟨?_, idle, ?_, done⟩
      · intro closed
        have := alone closed
        omega
      · intro leaving
        have := (left leaving).2
        omega
  | hangUp connected =>
      refine ⟨?_, idle, ?_, done⟩
      · intro closed
        have := alone closed
        omega
      · intro leaving
        have := (left leaving).2
        omega
  | pass elapsed => exact ⟨alone, idle, left, done⟩
  | finish index outcome entry found =>
      refine ⟨alone, idle, left, ?_⟩
      intro returned
      simp [done returned]
  | enterIdle atTop empty => exact ⟨alone, fun _ => empty, nofun, nofun⟩
  | receive command rest =>
      exact Orderly.admitted ⟨alone, idle, left, done⟩
  | receiveLast atSelect buffered noSenders noneRunning =>
      exact ⟨alone, nofun, fun _ => ⟨idle atSelect, noSenders⟩, fun _ => noneRunning⟩
  | receiveClosed atSelect buffered noSenders => exact ⟨fun _ => noSenders, nofun, nofun, nofun⟩
  | drain command rest atDrain =>
      have same := @Orderly.admitted state command rest ⟨alone, idle, left, done⟩
      rwa [← atDrain] at same
  | check =>
      refine ⟨?_, nofun, nofun, nofun⟩
      intro closed
      rcases Bool.or_eq_true_iff.mp closed with earlier | now
      · exact alone earlier
      · exact beq_iff_eq.mp now
  | chooseNone stats =>
      refine ⟨alone, fun _ => rfl, ?_, ?_⟩
      · intro leaving
        refine ⟨rfl, alone ?_⟩
        by_contra open_still
        simp [open_still, Control.leaving] at leaving
      · intro returned
        dsimp only at returned
        split at returned <;> cases returned
  | join ended atClosing =>
      exact ⟨alone, idle, left, done⟩
  | joinLast atClosing noneRunning =>
      refine ⟨alone, nofun, ?_, fun _ => noneRunning⟩
      intro _
      exact left (by rw [atClosing]; rfl)
  | _ => exact ⟨alone, nofun, nofun, nofun⟩

def Event.isChoose : Event → Bool
  | .choose => true
  | _ => false

def NothingBuffered (state : State) (event : Event) : Prop :=
  event.isChoose = true → state.closed = true → state.onTime = [] → state.buffered = []

instance (state : State) (event : Event) : Decidable (NothingBuffered state event) :=
  inferInstanceAs (Decidable (_ → _ → _ → _))

theorem step_leaving (orderly : Orderly state) (step : Step setup state event after) :
    (after.control.leaving = true → after.buffered = []) ↔
      (state.control.leaving = true → state.buffered = []) ∧ NothingBuffered state event := by
  cases step with
  | send command connected fresh =>
      have staying : state.control.leaving = false := by
        by_contra leaving
        have alone := (orderly.left (Bool.eq_true_of_not_eq_false leaving)).2
        omega
      simp [staying, NothingBuffered, Event.isChoose]
  | clone => exact (and_iff_left nofun).symm
  | hangUp => exact (and_iff_left nofun).symm
  | pass => exact (and_iff_left nofun).symm
  | finish => exact (and_iff_left nofun).symm
  | receive command rest atSelect =>
      have kept := (admitCommand_outside { state with control := .drain, channel := rest } command).2
      rw [kept, atSelect]
      exact iff_of_true nofun ⟨nofun, nofun⟩
  | receiveLast atSelect buffered =>
      have nothing : state.buffered = [] := by rw [State.buffered, buffered]; rfl
      exact iff_of_true (fun _ => nothing) ⟨fun _ => nothing, nofun⟩
  | drain command rest atDrain =>
      have kept := (admitCommand_outside { state with channel := rest } command).2
      rw [kept, atDrain]
      exact iff_of_true nofun ⟨nofun, nofun⟩
  | chooseNone stats atChoose nothing =>
      have leaves : (if state.closed then Control.closing else Control.top).leaving =
          state.closed := by
        cases state.closed <;> rfl
      rw [leaves, atChoose]
      constructor
      · intro met
        exact ⟨nofun, fun _ closed _ => met closed⟩
      · intro met closed
        exact met.2 rfl closed nothing
  | choose stats index entry atChoose found =>
      rw [atChoose]
      refine iff_of_true nofun ⟨nofun, ?_⟩
      intro _ _ nothing
      simp [nothing] at found
  | join => exact (and_iff_left nofun).symm
  | joinLast atClosing =>
      rw [atClosing]
      exact (and_iff_left nofun).symm
  | _ => simp_all [Control.leaving, NothingBuffered, Event.isChoose]

variable {events : List Event} {final : State}

theorem run_orderly (ran : run (next setup) (start setup) events = some final) : Orderly final :=
  run_invariant (start_orderly setup)
    (fun _ _ _ orderly moved => orderly.step (next_step moved)) ran

theorem run_leaving (ran : run (next setup) (start setup) events = some final) :
    (final.control.leaving = true → final.buffered = []) ↔
      Along (next setup) NothingBuffered (start setup) events := by
  refine @run_reached State Event (next setup)
    (fun past state => (state.control.leaving = true → state.buffered = []) ↔
      Along (next setup) NothingBuffered (start setup) past) _ _ _ ?_ ?_ ran
  · exact iff_of_true nofun trivial
  · intro past state event after reached holds moved
    rw [along_snoc reached, ← holds]
    exact step_leaving (run_orderly reached) (next_step moved)

theorem returned_answers (ran : run (next setup) (start setup) events = some final)
    (left : final.control = .returned) (reply : Nat) :
    final.buffered.count reply + (final.answersTo reply).length =
      (submitted events).count reply := by
  have orderly := run_orderly ran
  have empty := (orderly.left (by rw [left]; rfl)).1
  have copies := (run_accounted ran).copies reply
  simp only [State.copies, State.queued, empty, orderly.done left, left, Control.held, List.map_nil,
    List.count_nil, Nat.add_zero] at copies
  rw [length_answersTo, copies]

/-- When the dispatcher returns, every submission sent has had one answer, unless the loop
left with a submission in its channel. -/
theorem answered_once_iff (ran : run (next setup) (start setup) events = some final)
    (left : final.control = .returned) :
    (∀ task timeout reply, Event.send (.submit task timeout reply) ∈ events →
        ∃ outcome, final.answersTo reply = [outcome]) ↔
      Along (next setup) NothingBuffered (start setup) events := by
  have accounted := run_accounted ran
  have answers := returned_answers ran left
  have leaving : final.control.leaving = true := by rw [left]; rfl
  rw [← run_leaving ran]
  constructor
  · intro answered _
    -- A submission left in the channel is nowhere else, so it has no answer.
    by_contra remains
    obtain ⟨reply, member⟩ := List.exists_mem_of_ne_nil _ remains
    have here := List.count_pos_iff.mpr member
    have total := answers reply
    have once := List.nodup_iff_count_le_one.mp accounted.distinct reply
    obtain ⟨event, sent, given⟩ :=
      List.mem_filterMap.mp (List.count_pos_iff.mp (total ▸ Nat.lt_add_right _ here))
    obtain ⟨task, timeout, rfl⟩ : ∃ task timeout, event = .send (.submit task timeout reply) := by
      cases event with
      | send command =>
          cases command with
          | submit task timeout other =>
              cases given
              exact ⟨task, timeout, rfl⟩
          | read => cases given
          | workflow => cases given
      | _ => cases given
    obtain ⟨outcome, one⟩ := answered task timeout reply sent
    rw [one, List.length_singleton] at total
    omega
  · intro nothing task timeout reply sent
    have total := answers reply
    rw [nothing leaving, List.count_nil, Nat.zero_add,
      List.count_eq_one_of_mem accounted.distinct (mem_submitted sent)] at total
    exact List.length_eq_one_iff.mp total

end

def sampleTask (priority : Priority) : Task := { Task.new ⟨0⟩ "echo" [] with priority }

def oneClient (inFlight : Nat) : Setup := ⟨.new, rfl, 8, inFlight, 1, 0⟩

def hangsUpDuringFlow : List Event :=
  [.send (.workflow ⟨[]⟩ none 0), .enter, .receive, .drain,
    .send (.submit (sampleTask .normal) none 1), .hangUp, .finishFlow, .check, .choose, .join]

theorem submission_left_unanswered :
    ∃ final, run (next (oneClient 4)) (start (oneClient 4)) hangsUpDuringFlow = some final ∧
      final.control.isReturned = true ∧
      Event.send (.submit (sampleTask .normal) none 1) ∈ hangsUpDuringFlow ∧
      final.answersTo 1 = [] := by
  have tested : (run (next (oneClient 4)) (start (oneClient 4)) hangsUpDuringFlow).any
      (fun final => final.control.isReturned && (final.answersTo 1).isEmpty) = true := by
    decide
  obtain ⟨final, ran, ended⟩ := run_tested tested
  rw [Bool.and_eq_true, List.isEmpty_iff] at ended
  exact ⟨final, ran, ended.1, by simp [hangsUpDuringFlow], ended.2⟩

def hangsUpFirst : List Event :=
  [.send (.submit (sampleTask .normal) none 0), .hangUp, .enter, .receive, .drain, .check, .choose,
    .handOver, .enter, .finish 0 (.error (.noNodeAvailable ⟨0⟩)), .reap, .drain, .check, .choose, .join]

theorem hang_up_first_answered :
    ∃ final, run (next (oneClient 4)) (start (oneClient 4)) hangsUpFirst = some final ∧
      final.control = .returned ∧
      ∀ task timeout reply, Event.send (.submit task timeout reply) ∈ hangsUpFirst →
        ∃ outcome, final.answersTo reply = [outcome] := by
  have tested : (run (next (oneClient 4)) (start (oneClient 4)) hangsUpFirst).any
      (fun final => final.control.isReturned) = true := by
    decide
  obtain ⟨final, ran, ended⟩ := run_tested tested
  have left := isReturned_iff.mp ended
  exact ⟨final, ran, left, (answered_once_iff ran left).mpr (by decide)⟩

end AetherMesh.Dispatcher
