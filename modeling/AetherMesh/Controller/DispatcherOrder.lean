import AetherMesh.Controller.DispatcherReplies

/-!
Which task is handed over. The loop ranks what it has received when it pops a task,
and hands the task over once it has a permit; in between time passes and commands
arrive that it does not look at.
-/

namespace AetherMesh.Dispatcher

open Runs

/-- Nothing that waits, in the queue or in the channel, is more urgent than the entry, and
its deadline has not passed. -/
structure RightTask (state : State) (entry : Queued Nat) : Prop where
  onTime : entry.expired state.clock = false
  queue : ∀ other ∈ state.queue.entries,
    other.effectivePriority floatLevels state.clock state.queue.aging ≤
      entry.effectivePriority floatLevels state.clock state.queue.aging
  channel : ∀ task timeout reply, Command.submit task timeout reply ∈ state.channel →
    task.priority ≤ entry.effectivePriority floatLevels state.clock state.queue.aging

def HandsOverRight (setup : Setup) (events : List Event) : Prop :=
  ∀ past rest state entry popped, events = past ++ .handOver :: rest →
    run (next setup) (start setup) past = some state → state.control = .permit entry popped →
      RightTask state entry

def HoldsRight (state : State) : Prop :=
  ∀ entry popped, state.control = .permit entry popped → RightTask state entry

def Command.declared : Command → Option Priority
  | .submit task _ _ => some task.priority
  | _ => none

def StaysBehind (entry other : Queued Nat) (now later aging : Nat) : Prop :=
  (other.effectivePriority floatLevels now aging).level + other.gained now later aging ≤
      (entry.effectivePriority floatLevels now aging).level + entry.gained now later aging ∨
    4 ≤ (entry.effectivePriority floatLevels now aging).level + entry.gained now later aging

/-- A popped task that waits for its permit is not reached by its deadline, nor overtaken. -/
def Passes (state : State) (elapsed : Nat) : Control → Prop
  | .permit entry _ =>
      (∀ deadline ∈ entry.deadline, state.clock + elapsed < deadline) ∧
        ∀ other ∈ state.queue.entries,
          StaysBehind entry other state.clock (state.clock + elapsed) state.queue.aging
  | _ => True

/-- What is sent while a popped task waits for its permit is not more urgent. -/
def Sends (state : State) (command : Command) : Control → Prop
  | .permit entry _ => ∀ priority ∈ command.declared,
      priority ≤ entry.effectivePriority floatLevels state.clock state.queue.aging
  | _ => True

/-- For each submission that the loop has not looked at when it chooses, an unexpired task is as
urgent. -/
def Chooses (state : State) : Prop :=
  state.onTime = [] ∨ ∀ command ∈ state.channel, ∀ priority ∈ command.declared,
    ∃ entry ∈ state.onTime,
      priority ≤ entry.effectivePriority floatLevels state.clock state.queue.aging

def Undisturbed (state : State) : Event → Prop
  | .pass elapsed => Passes state elapsed state.control
  | .send command => Sends state command state.control
  | .choose => Chooses state
  | _ => True

instance (entry other : Queued Nat) (now later aging : Nat) :
    Decidable (StaysBehind entry other now later aging) :=
  inferInstanceAs (Decidable (_ ∨ _))

instance decidablePasses (state : State) (elapsed : Nat) :
    ∀ control, Decidable (Passes state elapsed control)
  | .permit _ _ => inferInstanceAs (Decidable (_ ∧ ∀ other ∈ state.queue.entries, _))
  | .top | .select | .drain | .flowing _ | .choose | .closing | .returned => .isTrue trivial

instance decidableSends (state : State) (command : Command) :
    ∀ control, Decidable (Sends state command control)
  | .permit _ _ => inferInstanceAs (Decidable (∀ priority ∈ command.declared, _))
  | .top | .select | .drain | .flowing _ | .choose | .closing | .returned => .isTrue trivial

instance (state : State) : Decidable (Chooses state) :=
  inferInstanceAs (Decidable (_ ∨ ∀ command ∈ state.channel, ∀ priority ∈ command.declared, _))

instance decidableUndisturbed (state : State) : ∀ event, Decidable (Undisturbed state event)
  | .pass elapsed => decidablePasses state elapsed state.control
  | .send command => decidableSends state command state.control
  | .choose => inferInstanceAs (Decidable (Chooses state))
  | .clone | .hangUp | .finish _ _ | .finishFlow | .enter | .receive | .reap | .drain | .check
  | .handOver | .join => .isTrue trivial

theorem level_le_later {entry other : Queued Nat} {now later aging : Nat} (order : now ≤ later) :
    other.effectivePriority floatLevels later aging ≤
        entry.effectivePriority floatLevels later aging ↔
      StaysBehind entry other now later aging := by
  rw [Priority.le_iff, other.level_later order, entry.level_later order, StaysBehind]
  have bound := (other.effectivePriority floatLevels now aging).level_le_four
  omega

section

variable {setup : Setup} {state after : State} {event : Event} {entry : Queued Nat} {popped : Nat}

theorem RightTask.pass_iff (right : RightTask state entry) (elapsed : Nat) :
    RightTask { state with clock := state.clock + elapsed } entry ↔
      (∀ deadline ∈ entry.deadline, state.clock + elapsed < deadline) ∧
        ∀ other ∈ state.queue.entries,
          StaysBehind entry other state.clock (state.clock + elapsed) state.queue.aging := by
  have order : state.clock ≤ state.clock + elapsed := Nat.le_add_right _ _
  have expired : entry.expired (state.clock + elapsed) = false ↔
      ∀ deadline ∈ entry.deadline, state.clock + elapsed < deadline := by
    rw [← Bool.not_eq_true, Queued.expired_iff]
    simp
  constructor
  · intro later
    exact ⟨expired.mp later.onTime,
      fun other waiting => (level_le_later order).mp (later.queue other waiting)⟩
  · rintro ⟨onTime, behind⟩
    refine ⟨expired.mpr onTime, fun other waiting => (level_le_later order).mpr (behind other waiting),
      fun task timeout reply buffered => ?_⟩
    -- what waits in the channel gains nothing, and the entry loses nothing
    have before := Priority.le_iff.mp (right.channel task timeout reply buffered)
    change task.priority.level ≤
      (entry.effectivePriority floatLevels (state.clock + elapsed) state.queue.aging).level
    rw [entry.level_later order]
    have bound := task.priority.level_le_four
    omega

theorem RightTask.send_iff (right : RightTask state entry) (command : Command) (reply : Nat) :
    RightTask { state with channel := state.channel ++ [command], nextReply := reply } entry ↔
      ∀ priority ∈ command.declared,
        priority ≤ entry.effectivePriority floatLevels state.clock state.queue.aging := by
  constructor
  · intro later
    cases command with
    | submit task timeout reply =>
        intro priority declared
        cases declared
        exact later.channel task timeout reply (List.mem_append_right _ (List.mem_singleton_self _))
    | read kind reply => exact fun priority declared => by cases declared
    | workflow workflow run reply => exact fun priority declared => by cases declared
  · intro below
    refine ⟨right.onTime, right.queue, fun task timeout reply buffered => ?_⟩
    rcases List.mem_append.mp buffered with old | new
    · exact right.channel task timeout reply old
    · cases List.mem_singleton.mp new
      exact below task.priority rfl

theorem rightTask_choose_iff {index : Nat} {results : List (Nat × Except DispatchError TaskResult)}
    {stats : QueueStats} (found : state.onTime[index]? = some entry)
    (highest : ∀ other ∈ state.onTime,
      other.effectivePriority floatLevels state.clock state.queue.aging ≤
        entry.effectivePriority floatLevels state.clock state.queue.aging) :
    RightTask { state with
        control := .permit entry state.clock
        queue := { state.queue with entries := state.onTime.eraseIdx index }
        results, stats } entry ↔ Chooses state := by
  have waiting := List.mem_of_getElem? found
  constructor
  · intro right
    refine .inr fun command buffered priority declared => ⟨entry, waiting, ?_⟩
    cases command with
    | submit task timeout reply =>
        cases declared
        exact right.channel task timeout reply buffered
    | read kind reply => cases declared
    | workflow workflow run reply => cases declared
  · rintro (none | urgent)
    · rw [none] at waiting
      cases waiting
    · refine ⟨?_, fun other there => highest other (List.mem_of_mem_eraseIdx there), ?_⟩
      · simpa using (List.mem_filter.mp waiting).2
      · intro task timeout reply buffered
        obtain ⟨other, there, above⟩ := urgent _ buffered task.priority rfl
        exact Nat.le_trans above (highest other there)

theorem holdsRight_iff (holding : state.control = .permit entry popped) :
    HoldsRight state ↔ RightTask state entry := by
  constructor
  · exact fun all => all entry popped holding
  · intro right other since also
    rw [holding] at also
    cases also
    exact right

def Free (state : State) : Prop := ∀ entry popped, state.control ≠ .permit entry popped

theorem Free.holdsRight (free : Free state) : HoldsRight state :=
  fun entry popped holding => absurd holding (free entry popped)

theorem permit_or_free (state : State) :
    (∃ entry popped, state.control = .permit entry popped) ∨ Free state := by
  cases control : state.control with
  | permit entry popped => exact .inl ⟨entry, popped, rfl⟩
  | _ => exact .inr fun entry popped holding => by simp [control] at holding

theorem passes_of_free (free : Free state) (elapsed : Nat) : Passes state elapsed state.control := by
  cases control : state.control with
  | permit entry popped => exact absurd control (free entry popped)
  | _ => trivial

theorem sends_of_free (free : Free state) (command : Command) : Sends state command state.control := by
  cases control : state.control with
  | permit entry popped => exact absurd control (free entry popped)
  | _ => trivial

theorem HoldsRight.same (right : HoldsRight state) (control : after.control = state.control)
    (clock : after.clock = state.clock) (channel : after.channel = state.channel)
    (queue : after.queue = state.queue) : HoldsRight after := by
  intro entry popped holding
  have before := right entry popped (control ▸ holding)
  exact ⟨clock ▸ before.onTime, by rw [clock, queue]; exact before.queue,
    by rw [clock, queue, channel]; exact before.channel⟩

/-- A step keeps the right task in the loop's hands exactly when it is undisturbed. -/
theorem HoldsRight.step_iff (right : HoldsRight state) (step : Step setup state event after) :
    HoldsRight after ↔ Undisturbed state event := by
  cases step with
  | send command =>
      rcases permit_or_free state with ⟨entry, popped, holding⟩ | free
      · have moved := (right entry popped holding).send_iff command (state.nextReply + 1)
        have fine : Undisturbed state (.send command) ↔ Sends state command (.permit entry popped) := by
          rw [Undisturbed, holding]
        refine Iff.trans ?_ (moved.trans fine.symm)
        exact holdsRight_iff holding
      · have before : Free { state with
            channel := state.channel ++ [command]
            nextReply := state.nextReply + 1 } := free
        exact iff_of_true before.holdsRight (sends_of_free free command)
  | pass elapsed =>
      rcases permit_or_free state with ⟨entry, popped, holding⟩ | free
      · have moved := (right entry popped holding).pass_iff elapsed
        have fine : Undisturbed state (.pass elapsed) ↔ Passes state elapsed (.permit entry popped) := by
          rw [Undisturbed, holding]
        refine Iff.trans ?_ (moved.trans fine.symm)
        exact holdsRight_iff holding
      · have before : Free { state with clock := state.clock + elapsed } := free
        exact iff_of_true before.holdsRight (passes_of_free free elapsed)
  | choose stats index entry atChoose found highest =>
      rw [holdsRight_iff rfl]
      exact rightTask_choose_iff found highest
  | chooseNone stats atChoose nothing =>
      refine iff_of_true ?_ (.inl nothing)
      intro entry popped holding
      dsimp only at holding
      split at holding <;> cases holding
  | clone => exact iff_of_true (right.same rfl rfl rfl rfl) trivial
  | hangUp => exact iff_of_true (right.same rfl rfl rfl rfl) trivial
  | finish => exact iff_of_true (right.same rfl rfl rfl rfl) trivial
  | receive command rest =>
      have kept := (admitCommand_outside { state with control := .drain, channel := rest } command).2
      exact iff_of_true (fun entry popped holding => by rw [kept] at holding; cases holding) trivial
  | drain command rest atDrain =>
      have kept := (admitCommand_outside { state with channel := rest } command).2
      exact iff_of_true
        (fun entry popped holding => by rw [kept] at holding; cases atDrain.symm.trans holding) trivial
  | join ended atClosing =>
      exact iff_of_true (fun entry popped holding => by cases atClosing.symm.trans holding) trivial
  | _ => exact iff_of_true (fun entry popped holding => by cases holding) trivial

variable {events : List Event} {final : State}

/-- In a run whose steps are all undisturbed every task is handed over on time and with nothing
more urgent waiting; and only in such a run does the loop hold the right task throughout. -/
theorem hands_over_right (ran : run (next setup) (start setup) events = some final) :
    (Along (next setup) Undisturbed (start setup) events → HandsOverRight setup events) ∧
      (Always (next setup) HoldsRight (start setup) events ↔
        Along (next setup) Undisturbed (start setup) events) := by
  have same : Always (next setup) HoldsRight (start setup) events ↔
      Along (next setup) Undisturbed (start setup) events := by
    have initial : HoldsRight (start setup) := fun entry popped holding => by cases holding
    refine @always_iff_along State Event (next setup) Undisturbed HoldsRight (start setup) final events
      (fun _ => True) trivial initial ?_ ran
    intro state event after _ moved
    exact ⟨trivial, fun right => right.step_iff (next_step moved)⟩
  refine ⟨?_, same⟩
  intro met past rest state entry popped split reached holding
  exact same.mpr met past (.handOver :: rest) state split reached entry popped holding

end

def permitWait (meanwhile : Event) : List Event :=
  [.send (.submit (sampleTask .normal) none 0), .enter, .receive, .drain, .check, .choose, .handOver,
    .send (.submit (sampleTask .normal) (some 5) 1), .enter, .receive, .drain, .check, .choose,
    meanwhile, .finish 0 (.error (.noNodeAvailable ⟨0⟩))]

def critical : Event := .send (.submit (sampleTask .critical) none 2)

def holdsLate (state : State) : Bool :=
  match state.control with
  | .permit entry _ => entry.expired state.clock
  | _ => false

def holdsLessUrgent (state : State) : Bool :=
  match state.control, state.channel with
  | .permit entry _, [.submit task _ _] =>
      ¬ task.priority ≤ entry.effectivePriority floatLevels state.clock state.queue.aging
  | _, _ => false

theorem wrong_task_handed_over :
    ((run (next (oneClient 1)) (start (oneClient 1))
          (permitWait (.pass 10) ++ [.handOver])).isSome = true ∧
      ¬ HandsOverRight (oneClient 1) (permitWait (.pass 10) ++ [.handOver])) ∧
    (run (next (oneClient 1)) (start (oneClient 1))
        (permitWait critical ++ [.handOver])).isSome = true ∧
      ¬ HandsOverRight (oneClient 1) (permitWait critical ++ [.handOver]) := by
  refine ⟨⟨by decide, ?_⟩, by decide, ?_⟩
  · intro right
    have tested : (run (next (oneClient 1)) (start (oneClient 1)) (permitWait (.pass 10))).any
        holdsLate = true := by
      decide
    obtain ⟨state, ran, late⟩ := run_tested tested
    unfold holdsLate at late
    split at late
    · rename_i entry now holding
      have onTime := (right _ [] state entry now rfl ran holding).onTime
      rw [late] at onTime
      cases onTime
    · cases late
  · intro right
    have tested : (run (next (oneClient 1)) (start (oneClient 1)) (permitWait critical)).any
        holdsLessUrgent = true := by
      decide +kernel
    obtain ⟨state, ran, urgent⟩ := run_tested tested
    unfold holdsLessUrgent at urgent
    split at urgent
    · rename_i entry now task timeout reply holding buffered
      have below := (right _ [] state entry now rfl ran holding).channel task timeout reply
        (by simp [buffered])
      exact of_decide_eq_true urgent below
    · cases urgent

theorem punctual_handed_over :
    HandsOverRight (oneClient 1) (permitWait (.pass 3) ++ [.handOver]) := by
  have runs : (run (next (oneClient 1)) (start (oneClient 1))
      (permitWait (.pass 3) ++ [.handOver])).isSome = true := by
    decide
  obtain ⟨final, ran⟩ := Option.isSome_iff_exists.mp runs
  exact (hands_over_right ran).1 (by decide +kernel)

end AetherMesh.Dispatcher
