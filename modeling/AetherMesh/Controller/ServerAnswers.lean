import AetherMesh.Controller.Server

/-!
Whom a call to `dispatch` has its result from. Waiters are kept by task id alone, so a
result goes to the latest call for its task, whichever node that call was made to.
-/

namespace AetherMesh.Server

open Runs

variable {setup : Setup} {state after : State} {event : Event}

def Dispatching.waiting : Dispatching → Option Task
  | .assigning _ task | .awaiting _ task _ _ | .forgetting _ task _ => some task
  | _ => none

/-- A registered waiter belongs to a call for its task, and nothing was handed to it yet. -/
def Waited (pending : TaskId → Option Nat) (dispatches : Nat → Dispatching)
    (mailbox : Nat → Option Delivery) : Prop :=
  ∀ taskId call, pending taskId = some call →
    (dispatches call).waiting.map Task.id = some taskId ∧ mailbox call = none

def State.Waited (state : State) : Prop :=
  Server.Waited state.connections.pending state.dispatches state.mailbox

structure Answers (nodeId : NodeId) (task : Task) (since : Nat) (delivery : Delivery) : Prop where
  task : delivery.result.taskId = task.id
  node : delivery.result.nodeId = nodeId
  speaker : delivery.speaker = nodeId
  later : since < delivery.stamp

def Apt : Dispatching → Option Delivery → Prop
  | .assigning _ _, mail => mail = none
  | .awaiting nodeId task _ since, mail =>
      ∀ delivery, mail = some delivery → Answers nodeId task since delivery
  | .answered nodeId task _ since delivery, _ => Answers nodeId task since delivery
  | _, _ => True

def Answered (state : State) : Prop := ∀ call, Apt (state.dispatches call) (state.mailbox call)

/-- A result that is read finds no call that was made to another node, or whose assignment was not
yet queued when the result was sent. -/
def timely (state : State) : Event → Bool
  | .read link =>
      match (state.links link).stage, (state.links link).inbound with
      | .reading, (stamp, .taskCompleted result) :: _ =>
          if (state.links link).registeredId = some result.nodeId then
            match (state.connections.pending result.taskId).map state.dispatches with
            | some (.assigning _ _) => false
            | some (.awaiting nodeId _ _ since) => nodeId = result.nodeId ∧ since < stamp
            | _ => true
          else true
      | _, _ => true
  | _ => true

section

variable {pending fewer : TaskId → Option Nat} {dispatches calls : Nat → Dispatching}
  {mailbox mails : Nat → Option Delivery} {call : Nat}

theorem Waited.move (waited : Waited pending dispatches mailbox) (call : Nat)
    (less : ∀ taskId other, other ≠ call → fewer taskId = some other → pending taskId = some other)
    (sameCalls : ∀ other, other ≠ call → calls other = dispatches other)
    (sameMails : ∀ other, other ≠ call → mails other = mailbox other)
    (own : ∀ taskId, fewer taskId = some call →
      (calls call).waiting.map Task.id = some taskId ∧ mails call = none) :
    Waited fewer calls mails := by
  intro taskId other registered
  by_cases same : other = call
  · rw [same] at registered ⊢
    exact own taskId registered
  · rw [sameCalls other same, sameMails other same]
    exact waited taskId other (less taskId other same registered)

theorem Waited.goOn (waited : Waited pending dispatches mailbox) (call : Nat)
    {dispatching : Dispatching} (same : dispatching.waiting = (dispatches call).waiting) :
    Waited pending (Function.update dispatches call dispatching) mailbox := by
  refine waited.move call (fun _ _ _ => id) (fun _ different => Function.update_of_ne different ..)
    (fun _ _ => rfl) ?_
  intro taskId registered
  rw [Function.update_self, same]
  exact waited taskId call registered

theorem Waited.leave (waited : Waited pending dispatches mailbox) (call : Nat)
    {dispatching : Dispatching} (gone : ∀ taskId, pending taskId ≠ some call) :
    Waited pending (Function.update dispatches call dispatching) mailbox := by
  refine waited.move call (fun _ _ _ => id) (fun _ different => Function.update_of_ne different ..)
    (fun _ _ => rfl) ?_
  intro taskId registered
  exact absurd registered (gone taskId)

theorem Waited.forget (waited : Waited pending dispatches mailbox) (taskId : TaskId) :
    Waited (Function.update pending taskId none) dispatches mailbox := by
  intro other call registered
  by_cases same : other = taskId
  · rw [same, Function.update_self] at registered
    cases registered
  · rw [Function.update_of_ne same] at registered
    exact waited other call registered

theorem Waited.forgotten (waited : Waited pending dispatches mailbox) {task : Task}
    (here : (dispatches call).waiting = some task) (other : TaskId) :
    Function.update pending task.id none other ≠ some call := by
  intro registered
  by_cases same : other = task.id
  · rw [same, Function.update_self] at registered
    cases registered
  · rw [Function.update_of_ne same] at registered
    have named := (waited other call registered).1
    rw [here, Option.map_some, Option.some.injEq] at named
    exact same named.symm

end

theorem Calls.waited {call : Nat} {dispatching : Dispatching} (waited : state.Waited)
    (calls : Calls state call event dispatching) : (state.call call dispatching).Waited := by
  cases calls with
  | refuse nodeId task error here =>
      exact Waited.goOn waited call (by rw [here]; rfl)
  | receive nodeId task link since delivery here answered =>
      refine Waited.leave waited call fun taskId registered => ?_
      have empty := (waited taskId call registered).2
      rw [answered] at empty
      cases empty
  | closed nodeId task link since here empty gone =>
      refine Waited.leave waited call fun taskId registered => ?_
      have named := (waited taskId call registered).1
      rw [here] at named
      obtain rfl := Option.some.inj named
      exact gone registered
  | timeout nodeId task link since here =>
      exact Waited.goOn waited call (by rw [here]; rfl)

theorem Step.waited (waited : state.Waited) (step : Step setup state event after) :
    after.Waited := by
  cases step with
  | calls call event dispatching calls => exact calls.waited waited
  | complete link stamp result rest call reads registered waits =>
      have named := (waited result.taskId call waits).1
      obtain ⟨task, here, same⟩ := Option.map_eq_some_iff.mp named
      have fewer := Waited.forget waited result.taskId
      refine Waited.move fewer call (fun _ _ _ => id) (fun _ _ => rfl)
        (fun _ different => Function.update_of_ne different ..) ?_
      intro taskId still
      rw [← same] at still
      exact absurd still (Waited.forgotten waited here taskId)
  | dispatch call nodeId task idle =>
      refine Waited.move waited call ?_ (fun _ different => Function.update_of_ne different ..)
        (fun _ different => Function.update_of_ne different ..) ?_
      · intro taskId other different registered
        by_cases same : taskId = task.id
        · rw [same] at registered
          have found : Function.update state.connections.pending task.id (some call) task.id =
            some other := registered
          rw [Function.update_self, Option.some.injEq] at found
          exact absurd found.symm different
        · exact (Function.update_of_ne same ..).symm.trans registered
      · intro taskId registered
        refine ⟨?_, Function.update_self ..⟩
        by_cases same : taskId = task.id
        · rw [same]
          exact congrArg (fun dispatching => (Dispatching.waiting dispatching).map Task.id)
            (Function.update_self call _ state.dispatches)
        · have old := (Function.update_of_ne same ..).symm.trans registered
          have named := (waited taskId call old).1
          rw [idle] at named
          cases named
  | assign call nodeId task link here connected =>
      exact Waited.goOn waited call (by rw [here]; rfl)
  | forget call nodeId task error here =>
      refine Waited.leave (Waited.forget waited task.id) call fun taskId => ?_
      exact Waited.forgotten waited (by rw [here]; rfl) taskId
  | _ => exact waited

theorem Answered.move (answered : Answered state) {call : Nat} {dispatching : Dispatching}
    {mail : Option Delivery}
    (sameCalls : ∀ other, other ≠ call → after.dispatches other = state.dispatches other)
    (sameMails : ∀ other, other ≠ call → after.mailbox other = state.mailbox other)
    (called : after.dispatches call = dispatching) (mailed : after.mailbox call = mail)
    (fits : Apt dispatching mail) : Answered after := by
  intro other
  by_cases same : other = call
  · rw [same, called, mailed]
    exact fits
  · rw [sameCalls other same, sameMails other same]
    exact answered other

theorem Answered.call (answered : Answered state) {call : Nat} {dispatching : Dispatching}
    (fits : Apt dispatching (state.mailbox call)) : Answered (state.call call dispatching) :=
  answered.move (fun _ different => Function.update_of_ne different ..) (fun _ _ => rfl)
    (Function.update_self ..) rfl fits

theorem Calls.answered {call : Nat} {dispatching : Dispatching} (answered : Answered state)
    (calls : Calls state call event dispatching) : Answered (state.call call dispatching) := by
  refine answered.call ?_
  cases calls with
  | receive nodeId task link since delivery here handed =>
      have fits := answered call
      rw [here] at fits
      exact fits delivery handed
  | _ => trivial

theorem timely_apt {link stamp call : Nat} {result : TaskResult} {rest : List (Nat × Message)}
    (waited : state.Waited) (reads : Reads state link stamp (.taskCompleted result) rest)
    (registered : (state.links link).registeredId = some result.nodeId)
    (waits : state.connections.pending result.taskId = some call)
    (met : timely state (.read link) = true) :
    Apt (state.dispatches call) (some ⟨result, link, result.nodeId, stamp⟩) := by
  have named := (waited result.taskId call waits).1
  simp only [timely, reads.here, reads.first, registered, waits, Option.map_some, if_true] at met
  cases here : state.dispatches call with
  | assigning nodeId task =>
      rw [here] at met
      cases met
  | awaiting nodeId task other since =>
      rw [here] at met named
      obtain ⟨node, later⟩ := of_decide_eq_true met
      rintro delivery ⟨⟩
      exact ⟨(Option.some.inj named).symm, node.symm, node.symm, later⟩
  | answered nodeId task other since delivery =>
      rw [here] at named
      cases named
  | _ => trivial

theorem Step.answered (waited : state.Waited) (answered : Answered state)
    (step : Step setup state event after) (met : timely state event = true) : Answered after := by
  cases step with
  | calls call event dispatching calls => exact calls.answered answered
  | complete link stamp result rest call reads registered waits =>
      have fits := timely_apt waited reads registered waits met
      exact answered.move (fun _ _ => rfl) (fun _ different => Function.update_of_ne different ..)
        rfl (Function.update_self ..) fits
  | dispatch call nodeId task idle =>
      exact answered.move (fun _ different => Function.update_of_ne different ..)
        (fun _ different => Function.update_of_ne different ..) (Function.update_self ..)
        (Function.update_self ..) rfl
  | assign call nodeId task link here connected =>
      have empty := answered call
      rw [here] at empty
      refine answered.move (fun _ different => Function.update_of_ne different ..) (fun _ _ => rfl)
        (Function.update_self ..) empty ?_
      rintro delivery ⟨⟩
  | forget call nodeId task error here =>
      exact answered.move (fun _ different => Function.update_of_ne different ..) (fun _ _ => rfl)
        (Function.update_self ..) rfl trivial
  | _ => exact answered

theorem receive_complete {link stamp call : Nat} {result : TaskResult} {rest : List (Nat × Message)}
    (registered : (state.links link).registeredId = some result.nodeId)
    (waits : state.connections.pending result.taskId = some call) :
    receive setup (state.took link rest) link stamp (.taskCompleted result) =
      { state with
        connections := state.connections.forget result.taskId
        mailbox := Function.update state.mailbox call
          (some ⟨result, link, result.nodeId, stamp⟩) }.took link rest := by
  dsimp only [receive]
  rw [took_links, registered]
  dsimp only
  rw [if_pos rfl, State.complete]
  have kept : (state.took link rest).connections.pending result.taskId = some call := waits
  dsimp only
  rw [kept]
  rfl

theorem untimely_handed (late : timely state event = false)
    (moved : next setup state event = some after) : ¬ Answered after := by
  cases event with
  | read link =>
      dsimp only [timely] at late
      split at late
      · rename_i stamp result rest here first
        have reads : Reads state link stamp (.taskCompleted result) rest := ⟨here, first⟩
        split at late
        · rename_i registered
          cases waits : state.connections.pending result.taskId with
          | none =>
              rw [waits] at late
              cases late
          | some call =>
              rw [reads.next_eq, receive_complete registered waits] at moved
              obtain rfl := Option.some.inj moved
              rw [waits, Option.map_some] at late
              intro answered
              have fits : Apt (state.dispatches call) (Function.update state.mailbox call _ call) :=
                answered call
              rw [Function.update_self] at fits
              cases stands : state.dispatches call with
              | assigning nodeId task =>
                  rw [stands] at fits
                  cases fits
              | awaiting nodeId task other since =>
                  rw [stands] at fits late
                  obtain ⟨-, node, -, later⟩ := fits _ rfl
                  exact of_decide_eq_false late ⟨node.symm, later⟩
              | _ =>
                  rw [stands] at late
                  cases late
        · cases late
      · cases late
  | _ => cases late

theorem answers_step (waited : state.Waited) (moved : next setup state event = some after) :
    after.Waited ∧ (Answered state → (Answered after ↔ timely state event = true)) := by
  have step := next_step moved
  refine ⟨step.waited waited, fun answered => ⟨fun good => ?_, step.answered waited answered⟩⟩
  cases met : timely state event with
  | true => rfl
  | false => exact absurd good (untimely_handed met moved)

/-- Calls are answered by the nodes they were made to exactly as long as all results are timely. -/
theorem dispatches_answered {setup : Setup} {trace : List Event} {final : State}
    (ran : run (next setup) State.start trace = some final) :
    Always (next setup) Answered State.start trace ↔
      Along (next setup) (fun state event => timely state event = true) State.start trace := by
  refine @always_iff_along _ _ _ _ _ _ _ _ State.Waited ?_ ?_ ?_ ran
  · intro taskId call registered
    cases registered
  · intro call
    trivial
  · intro state event after waited moved
    exact answers_step waited moved

def answersInTime : List Event :=
  .accept 0 :: registers 0 ⟨0⟩ ++
    [.dispatch 0 ⟨0⟩ helloTask, .assign 0, .arrive 0 (.taskCompleted ⟨⟨0⟩, ⟨0⟩, .success [], 0, none⟩),
      .read 0, .receive 0]

def answersLate : List Event :=
  .accept 0 :: registers 0 ⟨0⟩ ++ .accept 1 :: registers 1 ⟨1⟩ ++
    [.dispatch 0 ⟨0⟩ helloTask, .assign 0, .resultTimeout 0, .forget 0, .dispatch 1 ⟨1⟩ helloTask,
      .assign 1, .arrive 0 (.taskCompleted ⟨⟨0⟩, ⟨0⟩, .success [], 0, none⟩), .read 0, .receive 1]

theorem timely_answer_answered : Always (next openMesh) Answered State.start answersInTime := by
  have runs : (run (next openMesh) State.start answersInTime).isSome = true := by decide
  obtain ⟨final, ran⟩ := Option.isSome_iff_exists.mp runs
  exact (dispatches_answered ran).mpr (by decide)

theorem answered_by_another_node :
    ∃ final link since delivery,
      run (next openMesh) State.start answersLate = some final ∧
        final.dispatches 1 = .answered ⟨1⟩ helloTask link since delivery ∧
        delivery.result.nodeId = ⟨0⟩ ∧
        ¬ Always (next openMesh) Answered State.start answersLate := by
  have tested : (run (next openMesh) State.start answersLate).any (fun final =>
      final.dispatches 1 = .answered ⟨1⟩ helloTask 1 3
        ⟨⟨⟨0⟩, ⟨0⟩, .success [], 0, none⟩, 0, ⟨0⟩, 4⟩) = true := by decide
  obtain ⟨final, ran, answered⟩ := run_tested tested
  refine ⟨final, 1, 3, _, ran, of_decide_eq_true answered, rfl, fun always => ?_⟩
  have fits := always_last always ran 1
  rw [of_decide_eq_true answered] at fits
  exact absurd fits.node (by decide)

end AetherMesh.Server
