import AetherMesh.Controller.DispatcherReplies

/-!
Whether a read is answered without waiting for work. From the point after the channel
has been drained to the top of the loop the dispatcher awaits whole workflows and a
permit, and it may leave; a read that arrives there waits with it.
-/

namespace AetherMesh.Dispatcher

open Runs

def Event.completes : Event → Bool
  | .finish _ _ => true
  | .finishFlow => true
  | _ => false

/-- The read is the next one answered, and no task or workflow has to end for it. -/
def CanAnswer (setup : Setup) (state : State) (kind : Read) (reply : Nat) : Prop :=
  ∃ trace after, (∀ event ∈ trace, event.completes = false) ∧
    run (next setup) state trace = some after ∧ after.reads = state.reads ++ [(reply, kind)]

/-- The choice of the next task gets the loop back to its top: a waiting task gets a permit at
once, or the clients are there and everything that waits will give up. -/
def MovesOn (setup : Setup) (state : State) (closed : Bool) : Prop :=
  (state.running.length < max setup.inFlight 1 ∧ state.onTime ≠ []) ∨
    (closed = false ∧ ∀ entry ∈ state.queue.entries, entry.deadline.isSome = true)

def Attends (setup : Setup) (state : State) : Prop :=
  match state.control with
  | .top => True
  | .select => True
  | .drain => True
  | .flowing [] => MovesOn setup state (state.closed || state.senders == 0)
  | .flowing (_ :: _) => False
  | .choose => MovesOn setup state state.closed
  | .permit _ _ => state.running.length < max setup.inFlight 1
  | .closing => False
  | .returned => False

section

variable {setup : Setup} {state middle after : State} {event : Event} {kind : Read} {reply : Nat}
  {rest : List Command}

theorem CanAnswer.later (moved : next setup state event = some middle)
    (quiet : event.completes = false) (same : middle.reads = state.reads)
    (answers : CanAnswer setup middle kind reply) : CanAnswer setup state kind reply := by
  obtain ⟨trace, final, calm, ran, answered⟩ := answers
  refine ⟨event :: trace, final, ?_, ?_, same ▸ answered⟩
  · intro other member
    rcases List.mem_cons.mp member with rfl | further
    · exact quiet
    · exact calm other further
  · simp only [run, moved, Option.bind_some, ran]

theorem CanAnswer.now (moved : next setup state event = some after)
    (quiet : event.completes = false) (answered : after.reads = state.reads ++ [(reply, kind)]) :
    CanAnswer setup state kind reply := by
  refine ⟨[event], after, ?_, ?_, answered⟩
  · intro other member
    rwa [List.mem_singleton.mp member]
  · simp only [run, moved, Option.bind_some]

theorem drain_answers (atDrain : state.control = .drain)
    (head : state.channel = .read kind reply :: rest) : CanAnswer setup state kind reply := by
  have moved : next setup state .drain =
      some (admitCommand { state with channel := rest } (.read kind reply)) := by
    simp only [next, drain, atDrain, head]
  exact .now moved rfl rfl

theorem select_answers (atSelect : state.control = .select)
    (head : state.channel = .read kind reply :: rest) : CanAnswer setup state kind reply := by
  have moved : next setup state .receive =
      some (admitCommand { state with control := .drain, channel := rest } (.read kind reply)) := by
    simp only [next, receive, atSelect, head]
  exact .now moved rfl rfl

theorem top_answers (atTop : state.control = .top)
    (head : state.channel = .read kind reply :: rest) : CanAnswer setup state kind reply := by
  by_cases nothing : state.queue.entries = [] ∧ state.flows.isEmpty
  · have moved : next setup state .enter = some { state with control := .select } := by
      simp only [next, enter, atTop, if_pos nothing]
    exact .later moved rfl rfl (select_answers rfl head)
  · have moved : next setup state .enter = some { state with control := .drain } := by
      simp only [next, enter, atTop, if_neg nothing]
    exact .later moved rfl rfl (drain_answers rfl head)

theorem permit_answers {entry : Queued Nat} {now : Nat} (atPermit : state.control = .permit entry now)
    (free : state.running.length < max setup.inFlight 1)
    (head : state.channel = .read kind reply :: rest) : CanAnswer setup state kind reply := by
  have moved : next setup state .handOver = some { state with
      control := .top
      running := state.running ++ [entry]
      ended := 0 } := by
    simp only [next, handOver, atPermit, if_pos free]
  exact .later moved rfl rfl (top_answers rfl head)

theorem next_choose (atChoose : state.control = .choose) :
    ∃ after, next setup state .choose = some after ∧ Step setup state .choose after := by
  have moved : next setup state .choose = some (takeNext (expireLate state)) := by
    simp only [next, choose, atChoose]
  exact ⟨_, moved, next_step moved⟩

theorem pass_expires (entries : List (Queued Nat))
    (bounded : ∀ entry ∈ entries, entry.deadline.isSome = true) :
    ∃ late, ∀ entry ∈ entries, ∀ now, late ≤ now → entry.expired now = true := by
  induction entries with
  | nil => exact ⟨0, nofun⟩
  | cons entry rest ih =>
      obtain ⟨late, expires⟩ := ih fun other member => bounded other (List.mem_cons_of_mem _ member)
      obtain ⟨deadline, given⟩ := Option.isSome_iff_exists.mp (bounded entry List.mem_cons_self)
      refine ⟨max late deadline, ?_⟩
      intro other member now passed
      rcases List.mem_cons.mp member with rfl | later
      · simp only [Queued.expired, given, decide_eq_true_eq]
        omega
      · exact expires other later now (by omega)

theorem choose_answers (atChoose : state.control = .choose)
    (movesOn : MovesOn setup state state.closed)
    (head : state.channel = .read kind reply :: rest) : CanAnswer setup state kind reply := by
  rcases movesOn with ⟨free, waiting⟩ | ⟨connected, bounded⟩
  · obtain ⟨after, moved, step⟩ := @next_choose setup state atChoose
    cases step with
    | chooseNone stats _ nothing => exact absurd nothing waiting
    | choose stats index entry => exact .later moved rfl rfl (permit_answers rfl free head)
  · -- Time passes until every deadline is over; then nothing is left to pop.
    obtain ⟨late, expires⟩ := pass_expires state.queue.entries bounded
    have passed : next setup state (.pass late) = some { state with clock := state.clock + late } :=
      rfl
    have nothing : { state with clock := state.clock + late }.onTime = [] := by
      refine List.filter_eq_nil_iff.mpr ?_
      intro entry member
      simp [expires entry member (state.clock + late) (by omega)]
    obtain ⟨after, moved, step⟩ :=
      @next_choose setup { state with clock := state.clock + late } atChoose
    refine .later passed rfl rfl ?_
    cases step with
    | chooseNone => exact .later moved rfl rfl (top_answers (by simp [connected]) head)
    | choose stats index entry _ found =>
        rw [nothing] at found
        cases found

theorem attends_answers (attends : Attends setup state)
    (head : state.channel = .read kind reply :: rest) : CanAnswer setup state kind reply := by
  unfold Attends at attends
  split at attends
  case h_1 atTop => exact top_answers atTop head
  case h_2 atSelect => exact select_answers atSelect head
  case h_3 atDrain => exact drain_answers atDrain head
  case h_4 atEnd =>
    have moved : next setup state .check = some { state with
        control := .choose
        closed := state.closed || state.senders == 0 } := by
      simp only [next, check, atEnd]
    exact .later moved rfl rfl (choose_answers rfl attends head)
  case h_6 atChoose => exact choose_answers atChoose attends head
  case h_7 entry now atPermit => exact permit_answers atPermit attends head
  all_goals cases attends

theorem attends_of_environment (attends : Attends setup after)
    (control : after.control = state.control)
    (running : after.running = state.running) (closed : after.closed = state.closed)
    (entries : after.queue.entries = state.queue.entries)
    (waiting : after.onTime ≠ [] → state.onTime ≠ [])
    (senders : state.senders = 0 → after.senders = 0) : Attends setup state := by
  have movesOn : ∀ before now, (now = false → before = false) →
      MovesOn setup after now → MovesOn setup state before := by
    intro before now order moves
    rcases moves with ⟨free, some⟩ | ⟨connected, bounded⟩
    · exact .inl ⟨running ▸ free, waiting some⟩
    · exact .inr ⟨order connected, entries ▸ bounded⟩
  unfold Attends at attends ⊢
  rw [control] at attends
  split at attends
  case h_4 atEnd =>
    refine movesOn _ _ ?_ attends
    simp only [Bool.or_eq_false_iff, beq_eq_false_iff_ne]
    rintro ⟨stillOpen, connected⟩
    exact ⟨closed ▸ stillOpen, mt senders connected⟩
  case h_6 atChoose => exact movesOn _ _ (by rw [closed]; exact id) attends
  case h_7 => exact running ▸ attends
  all_goals trivial

theorem onTime_of_later {elapsed : Nat}
    (waiting : { state with clock := state.clock + elapsed }.onTime ≠ []) : state.onTime ≠ [] := by
  obtain ⟨entry, member⟩ := List.exists_mem_of_ne_nil _ waiting
  obtain ⟨queued, onTime⟩ := List.mem_filter.mp member
  refine List.ne_nil_of_mem (List.mem_filter.mpr ⟨queued, ?_⟩)
  by_contra late
  have expired : entry.expired state.clock = true := by simpa using late
  simp [Queued.expired_later (Nat.le_add_right state.clock elapsed) expired] at onTime

theorem step_inattentive (blocked : ¬ Attends setup state) (quiet : event.completes = false)
    (step : Step setup state event after) :
    ¬ Attends setup after ∧ after.reads = state.reads := by
  cases step with
  | send command => exact ⟨blocked, rfl⟩
  | clone connected =>
      refine ⟨?_, rfl⟩
      intro attends
      refine blocked (attends_of_environment attends rfl rfl rfl rfl id ?_)
      omega
  | hangUp connected =>
      refine ⟨?_, rfl⟩
      intro attends
      refine blocked (attends_of_environment attends rfl rfl rfl rfl id ?_)
      omega
  | pass elapsed =>
      refine ⟨?_, rfl⟩
      intro attends
      exact blocked (attends_of_environment attends rfl rfl rfl rfl onTime_of_later id)
  | finish => cases quiet
  | finishFlow => cases quiet
  | check atEnd =>
      refine ⟨?_, rfl⟩
      intro attends
      simp only [Attends, atEnd] at blocked
      exact blocked attends
  | chooseNone stats atChoose nothing =>
      refine ⟨?_, rfl⟩
      have closed : state.closed = true := by
        by_contra stillOpen
        refine blocked ?_
        simp only [Attends, atChoose]
        refine .inr ⟨Bool.eq_false_of_not_eq_true stillOpen, ?_⟩
        intro entry member
        have late : entry.expired state.clock = true := by
          simpa using List.filter_eq_nil_iff.mp nothing entry member
        unfold Queued.expired at late
        split at late
        · rename_i deadline given
          rw [given]
          rfl
        · cases late
      simp [Attends, closed]
  | choose stats index entry atChoose found =>
      refine ⟨?_, rfl⟩
      intro free
      refine blocked ?_
      simp only [Attends, atChoose]
      refine .inl ⟨free, ?_⟩
      intro nothing
      rw [nothing] at found
      cases found
  | handOver entry now atPermit free =>
      refine absurd ?_ blocked
      simpa only [Attends, atPermit] using free
  | join ended atClosing => exact ⟨blocked, rfl⟩
  | joinLast atClosing => exact ⟨id, rfl⟩
  -- At the top, in the select and in the drain the loop attends.
  | _ => simp_all [Attends]

theorem run_inattentive {trace : List Event} (blocked : ¬ Attends setup state)
    (quiet : ∀ event ∈ trace, event.completes = false)
    (ran : run (next setup) state trace = some after) : after.reads = state.reads := by
  induction trace generalizing state with
  | nil =>
      cases ran
      rfl
  | cons event rest ih =>
      obtain ⟨middle, moved, further⟩ := Option.bind_eq_some_iff.mp ran
      obtain ⟨still, same⟩ := step_inattentive blocked (quiet event List.mem_cons_self)
        (next_step moved)
      rw [← same]
      exact ih still (fun other member => quiet other (List.mem_cons_of_mem _ member)) further

theorem not_canAnswer (blocked : ¬ Attends setup state) (kind : Read) (reply : Nat) :
    ¬ CanAnswer setup state kind reply := by
  rintro ⟨trace, after, quiet, ran, answered⟩
  rw [run_inattentive blocked quiet ran] at answered
  simp at answered

/-- A read at the head of the channel can be answered without a task or workflow ending
exactly when the loop attends. -/
theorem canAnswer_iff (setup : Setup) (state : State) (kind : Read) (reply : Nat)
    (rest : List Command) (head : state.channel = .read kind reply :: rest) :
    CanAnswer setup state kind reply ↔ Attends setup state := by
  constructor
  · intro answers
    by_contra blocked
    exact not_canAnswer blocked kind reply answers
  · intro attends
    exact attends_answers attends head

end

def asksDuringPermit : List Event :=
  [.send (.submit (sampleTask .normal) none 0), .enter, .receive, .drain, .check, .choose, .handOver,
    .send (.submit (sampleTask .normal) none 1), .enter, .receive, .drain, .check, .choose,
    .send (.read .stats 2)]

def asksDuringFlow : List Event :=
  [.send (.workflow ⟨[]⟩ none 0), .enter, .receive, .drain, .send (.read .stats 1)]

def waitsWithRead (state : State) (reply : Nat) : Bool :=
  match state.control, state.channel with
  | .permit _ _, [.read .stats other] => other = reply
  | _, _ => false

def flowsWithRead (state : State) (reply : Nat) : Bool :=
  match state.control, state.channel with
  | .flowing (_ :: _), [.read .stats other] => other = reply
  | _, _ => false

theorem waitsWithRead_spec {state : State} {reply : Nat} (waits : waitsWithRead state reply = true) :
    (∃ entry now, state.control = .permit entry now) ∧ state.channel = [.read .stats reply] := by
  unfold waitsWithRead at waits
  split at waits
  · rename_i entry now other atPermit buffered
    rw [buffered, of_decide_eq_true waits]
    exact ⟨⟨entry, now, atPermit⟩, rfl⟩
  · cases waits

theorem flowsWithRead_spec {state : State} {reply : Nat} (flows : flowsWithRead state reply = true) :
    (∃ flow pending, state.control = .flowing (flow :: pending)) ∧
      state.channel = [.read .stats reply] := by
  unfold flowsWithRead at flows
  split at flows
  · rename_i flow pending other atFlow buffered
    rw [buffered, of_decide_eq_true flows]
    exact ⟨⟨flow, pending, atFlow⟩, rfl⟩
  · cases flows

theorem read_waits_for_work :
    (∃ state, run (next (oneClient 1)) (start (oneClient 1)) asksDuringPermit = some state ∧
      state.channel = [.read .stats 2] ∧ ¬ CanAnswer (oneClient 1) state .stats 2) ∧
    ∃ state, run (next (oneClient 1)) (start (oneClient 1)) asksDuringFlow = some state ∧
      state.channel = [.read .stats 1] ∧ ¬ CanAnswer (oneClient 1) state .stats 1 := by
  constructor
  · have tested : (run (next (oneClient 1)) (start (oneClient 1)) asksDuringPermit).any
        (fun state => waitsWithRead state 2 && 1 ≤ state.running.length) = true := by
      decide
    obtain ⟨state, ran, held⟩ := run_tested tested
    obtain ⟨waits, full⟩ := Bool.and_eq_true_iff.mp held
    obtain ⟨⟨entry, now, atPermit⟩, buffered⟩ := waitsWithRead_spec waits
    refine ⟨state, ran, buffered, not_canAnswer ?_ .stats 2⟩
    simp only [Attends, atPermit, not_lt]
    exact of_decide_eq_true full
  · have tested : (run (next (oneClient 1)) (start (oneClient 1)) asksDuringFlow).any
        (fun state => flowsWithRead state 1) = true := by
      decide
    obtain ⟨state, ran, held⟩ := run_tested tested
    obtain ⟨⟨flow, pending, atFlow⟩, buffered⟩ := flowsWithRead_spec held
    refine ⟨state, ran, buffered, not_canAnswer ?_ .stats 1⟩
    simp only [Attends, atFlow, not_false_eq_true]

theorem read_answered_with_permit :
    ∃ state, run (next (oneClient 2)) (start (oneClient 2)) asksDuringPermit = some state ∧
      state.channel = [.read .stats 2] ∧ CanAnswer (oneClient 2) state .stats 2 := by
  have tested : (run (next (oneClient 2)) (start (oneClient 2)) asksDuringPermit).any
      (fun state => waitsWithRead state 2 && state.running.length < 2) = true := by
    decide
  obtain ⟨state, ran, held⟩ := run_tested tested
  obtain ⟨waits, free⟩ := Bool.and_eq_true_iff.mp held
  obtain ⟨⟨entry, now, atPermit⟩, buffered⟩ := waitsWithRead_spec waits
  refine ⟨state, ran, buffered, (canAnswer_iff (oneClient 2) state .stats 2 [] buffered).mpr ?_⟩
  simp only [Attends, atPermit]
  exact of_decide_eq_true free

end AetherMesh.Dispatcher
