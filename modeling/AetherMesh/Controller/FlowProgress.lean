import AetherMesh.Controller.FlowFailures
import AetherMesh.Library.Descent

/-!
The loop of a workflow comes to an end. Each round of it hands a step over, takes in the outcome of
one, or tells a dependent, and there are only so many counters that can still reach zero.
-/

namespace AetherMesh.Flow

open Runs Descent

variable {workflow : Workflow} {state after final : State} {event : Event} {trace : List Event}

def Control.left : Control → Nat
  | .looping => 1
  | .releasing _ _ todo => todo.length + 2
  | .returned _ | .panicked => 0

def unmet (waiting : List Nat) : Nat := waiting.countP fun count => 0 < count

def State.left (workflow : Workflow) (state : State) : Nat :=
  state.control.left + (workflow.len + 4) * unmet state.waiting +
    (workflow.len + 3) * state.ready.length + (workflow.len + 2) * state.running.length

def State.isOver (state : State) : Bool :=
  match state.control with
  | .returned _ | .panicked => true
  | _ => false

theorem decrement_unmet {waiting lowered : List Nat} {step : Nat}
    (moved : decrement waiting step = some lowered) : unmet lowered ≤ unmet waiting ∧
      (lowered[step]? = some 0 → unmet lowered + 1 = unmet waiting) := by
  unfold decrement at moved
  split at moved
  · rename_i count found
    obtain rfl := Option.some.inj moved
    obtain ⟨inside, value⟩ := List.getElem?_eq_some_iff.mp found
    have positive : 0 < unmet waiting :=
      List.countP_pos_iff.mpr ⟨waiting[step], List.getElem_mem inside, by simp [value]⟩
    have counted := List.countP_set (p := fun count => 0 < count) (a := count) inside
    rw [value] at counted
    simp only [Nat.zero_lt_succ, decide_true, if_true, decide_eq_true_eq] at counted
    unfold unmet at positive ⊢
    rw [counted]
    constructor
    · split <;> omega
    · intro zero
      rw [List.getElem?_set_self inside, Option.some.injEq] at zero
      rw [if_neg (by omega)]
      omega
  · cases moved

theorem abandonFurther_unmet {further : Nat} (moved : abandonFurther state further = some after) :
    unmet after.waiting ≤ unmet state.waiting := by
  unfold abandonFurther at moved
  obtain ⟨waiting, lowered, rfl⟩ := Option.map_eq_some_iff.mp moved
  have fewer := (decrement_unmet lowered).1
  split <;> exact fewer

theorem foldlM_abandonFurther_unmet {steps : List Nat}
    (moved : steps.foldlM abandonFurther state = some after) :
    unmet after.waiting ≤ unmet state.waiting := by
  induction steps generalizing state with
  | nil =>
      obtain rfl := Option.some.inj moved
      exact Nat.le_refl _
  | cons further rest ih =>
      rw [List.foldlM_cons] at moved
      obtain ⟨middle, first, later⟩ := Option.bind_eq_some_iff.mp moved
      exact (ih later).trans (abandonFurther_unmet first)

theorem releaseOne_unmet {step dependent : Nat} {succeeded : Bool}
    (moved : releaseOne workflow step succeeded state dependent = some after) :
    ∃ made, after.ready.length = state.ready.length + made ∧
      unmet after.waiting + made ≤ unmet state.waiting ∧ after.running = state.running := by
  have running : after.running = state.running := by rw [releaseOne_frame moved]
  unfold releaseOne at moved
  obtain ⟨waiting, lowered, moved⟩ := Option.bind_eq_some_iff.mp moved
  obtain ⟨fewer, less⟩ := decrement_unmet lowered
  split at moved
  · obtain rfl := Option.some.inj moved
    exact ⟨0, rfl, fewer, running⟩
  · rename_i zero
    split at moved
    · obtain rfl := Option.some.inj moved
      exact ⟨1, List.length_append, (less (not_not.mp zero)).le, running⟩
    · have further := foldlM_abandonFurther_unmet moved
      have ready : after.ready = state.ready := by rw [foldlM_abandonFurther_frame moved]
      exact ⟨0, by rw [ready, Nat.add_zero], further.trans fewer, running⟩

theorem next_left (moved : next workflow state event = some after) :
    after.left workflow + 1 ≤ state.left workflow := by
  cases event with
  | submit step task =>
      obtain ⟨looping, rest, ready, _, rfl⟩ := next_submit moved
      simp only [State.left, looping, ready, Control.left, List.length_cons, List.length_append,
        List.length_nil, Nat.mul_add]
      omega
  | join step outcome catalog =>
      obtain ⟨looping, idle, running, ⟨source, _, rfl⟩ | ⟨result, _, rfl⟩⟩ := next_join moved
      · simp only [State.left, looping, Control.left]
        omega
      · have short := Workflow.dependentsOf_length_le workflow step
        obtain ⟨entry, member, same⟩ := List.mem_map.mp running
        have erased : (state.running.eraseP fun entry => entry.1 = step).length + 1 =
            state.running.length := by
          have shrinks : (state.running.eraseP fun entry => entry.1 = step).length =
              state.running.length - 1 := List.length_eraseP_of_mem member (by simpa using same)
          have some := List.length_pos_of_mem member
          omega
        have more := congrArg ((workflow.len + 2) * ·) erased
        simp only [Nat.mul_add, Nat.mul_one] at more
        simp only [State.left, joined, looping, Control.left]
        omega
  | lost reason =>
      obtain ⟨looping, idle, rfl⟩ := next_lost moved
      simp only [State.left, looping, Control.left]
      omega
  | leave bytes =>
      obtain ⟨looping, idle, finished, rfl⟩ := next_leave moved
      simp only [State.left, looping, Control.left]
      omega
  | release =>
      obtain ⟨step, succeeded, releasing, rfl⟩ |
        ⟨step, succeeded, dependent, todo, releasing, ⟨_, rfl⟩ | ⟨released, told, rfl⟩⟩ :=
          next_release moved
      · simp only [State.left, releasing, Control.left, List.length_insertionSort, List.length_nil]
        omega
      · simp only [State.left, releasing, Control.left, List.length_cons]
        omega
      · obtain ⟨made, ready, fewer, running⟩ := releaseOne_unmet told
        have all := Nat.mul_le_mul_left (workflow.len + 4) fewer
        have split : (workflow.len + 4) * made = (workflow.len + 3) * made + made := Nat.succ_mul _ _
        simp only [Nat.mul_add] at all
        simp only [State.left, releasing, running, ready, Control.left, List.length_cons, Nat.mul_add]
        omega

theorem filter_range_getElem (waiting : List Nat) :
    ((List.range waiting.length).filter fun step => waiting[step]? = some 0).length + unmet waiting =
      waiting.length := by
  induction waiting using List.reverseRecOn with
  | nil => rfl
  | append_singleton front last ih =>
      have before : ((List.range front.length).filter fun step => (front ++ [last])[step]? = some 0) =
          (List.range front.length).filter fun step => front[step]? = some 0 := by
        apply List.filter_congr
        intro step member
        rw [List.getElem?_append_left (List.mem_range.mp member)]
      rw [List.length_append, List.length_singleton, List.range_succ, List.filter_append, before]
      unfold unmet at ih ⊢
      rw [List.countP_append, List.length_append]
      by_cases zero : last = 0
      · simp [zero]
        omega
      · have positive : 0 < last := by omega
        simp [zero, positive]
        omega

theorem start_left {digest : Bytes → DataId}
    {resume : Option (String × Except CheckpointError (List Record))} {catalog : DataCatalog}
    {before : Nat} (started : start digest workflow resume catalog before = .ok state) :
    state.left workflow ≤ 1 + (workflow.len + 4) * workflow.len := by
  obtain ⟨tally, looping⟩ := start_tally started
  obtain ⟨order, opened, seen, _, resuming, rfl⟩ := start_resuming started
  have size : opened.waiting.length = workflow.len := tally.size
  have idle : opened.running = [] := resuming.idle.1
  have counted := filter_range_getElem opened.waiting
  have ready : (openReady workflow opened).ready.length ≤
      ((List.range opened.waiting.length).filter fun step => opened.waiting[step]? = some 0).length := by
    rw [size, openReady, ← List.countP_eq_length_filter, ← List.countP_eq_length_filter]
    apply List.countP_mono_left
    intro step _ both
    exact decide_eq_true (of_decide_eq_true both).1
  have all := Nat.mul_le_mul_left (workflow.len + 4)
    ((Nat.add_le_add_right ready (unmet opened.waiting)).trans counted.le)
  rw [size, Nat.mul_add, Nat.succ_mul] at all
  have still : (openReady workflow opened).running = [] := idle
  simp only [State.left, looping, still, Control.left, List.length_nil]
  change 1 + (workflow.len + 4) * unmet opened.waiting + _ + _ ≤ _
  omega

def Event.joins : Event → Bool
  | .join _ _ _ => true
  | _ => false

/-- Every step that the loop can wait for may end in any way. -/
theorem Inside.goes_on (inside : Inside workflow state) (busy : state.isOver = false) :
    (∃ event, event.joins = false ∧ (next workflow state event).isSome = true) ∨
    (state.running ≠ [] ∧ ∀ entry ∈ state.running, ∀ outcome catalog,
      (next workflow state (.join entry.1 outcome catalog)).isSome = true) := by
  unfold State.isOver at busy
  cases control : state.control with
  | returned | panicked =>
      rw [control] at busy
      cases busy
  | releasing step succeeded todo =>
      refine .inl ⟨.release, rfl, ?_⟩
      cases todo with
      | nil => simp only [next, control, Option.isSome_some]
      | cons dependent todo =>
          simp only [next, control]
          cases releaseOne workflow step succeeded state dependent <;> rfl
  | looping =>
      cases ready : state.ready with
      | cons first rest =>
          have bound : first < workflow.steps.length :=
            inside.ready first (by rw [ready]; exact List.mem_cons_self)
          obtain ⟨task, given⟩ : ∃ task, taskFor workflow first state.outputs = some task := by
            rw [taskFor, List.getElem?_eq_getElem bound]
            exact ⟨_, rfl⟩
          refine .inl ⟨.submit first task, rfl, ?_⟩
          simp only [next, control, ready, given, and_self, if_true, Option.isSome_some]
      | nil =>
          cases running : state.running with
          | nil =>
              refine .inl ⟨.leave 0, rfl, ?_⟩
              simp only [next, control, ready, running, Option.isSome_some]
          | cons entry rest =>
              refine .inr ⟨List.cons_ne_nil _ _, ?_⟩
              intro other member outcome catalog
              have named : other.1 ∈ state.running.map Prod.fst :=
                List.mem_map_of_mem (running ▸ member)
              simp only [next, control, ready, if_pos named]
              cases outcome <;> rfl

theorem Inside.enabled (inside : Inside workflow state) (busy : ¬ state.isOver = true) :
    ∃ event after, true = true ∧ next workflow state event = some after := by
  rcases inside.goes_on (Bool.eq_false_iff.mpr busy) with ⟨event, -, moves⟩ | ⟨some, ends⟩
  · obtain ⟨after, moved⟩ := Option.isSome_iff_exists.mp moves
    exact ⟨event, after, rfl, moved⟩
  · obtain ⟨entry, rest, running⟩ := List.exists_cons_of_ne_nil some
    have moves := ends entry (by rw [running]; exact List.mem_cons_self)
      (.error (.noNodeAvailable entry.2.id)) .new
    obtain ⟨after, moved⟩ := Option.isSome_iff_exists.mp moves
    exact ⟨_, after, rfl, moved⟩

theorem never_panics {digest : Bytes → DataId} {catalog : DataCatalog} {before : Nat}
    (started : start digest workflow none catalog before = .ok state)
    (ran : run (next workflow) state trace = some final) : final.control ≠ .panicked := by
  obtain ⟨tally, looping⟩ := start_tally started
  obtain ⟨order, _, _, ordered, _, _⟩ := start_resuming started
  have irreflexive := Workflow.order_irrefl ordered
  have reached := @run_invariant State Event (next workflow)
    (fun reached => (∃ first second, Tally workflow reached first second) ∧ reached.resumed = [] ∧
      reached.control ≠ .panicked) state final trace
    ⟨⟨[], [], tally⟩, (start_none started).1, by simp [looping]⟩ ?_ ran
  · exact reached.2.2
  · rintro reached event after ⟨⟨first, second, tally⟩, nothing, -⟩ moved
    obtain ⟨tallied, sound⟩ := tally.step irreflexive (spares_of_fresh nothing) moved
    exact ⟨⟨_, _, tallied⟩, (next_resumed moved).trans nothing, sound⟩

/-- However the steps end and whatever the journal says, the loop of a workflow of `n` steps is over
after at most `1 + (n + 4) n` rounds. Until then it can go on by itself, or it waits for one of the
running steps, and goes on as soon as any of them ends in any way. Without a journal it never panics. -/
theorem run_inner_ends (digest : Bytes → DataId) (workflow : Workflow)
    (resume : Option (String × Except CheckpointError (List Record))) (catalog : DataCatalog)
    (before : Nat) (state : State) (started : start digest workflow resume catalog before = .ok state)
    (trace : List Event) (final : State) (ran : run (next workflow) state trace = some final) :
    trace.length + final.left workflow ≤ 1 + (workflow.len + 4) * workflow.len ∧
    (final.isOver = true ∨
      (∃ event, event.joins = false ∧ (next workflow final event).isSome = true) ∨
      (final.running ≠ [] ∧ ∀ entry ∈ final.running, ∀ outcome catalog,
        (next workflow final (.join entry.1 outcome catalog)).isSome = true)) ∧
    ∃ later ended, run (next workflow) final later = some ended ∧ ended.isOver = true ∧
      trace.length + later.length ≤ 1 + (workflow.len + 4) * workflow.len ∧
      (resume = none → ended.control ≠ .panicked) := by
  have inside : Inside workflow final :=
    run_invariant (start_inside started) (fun _ _ _ inside moved => inside.step moved) ran
  have spent := @effort_bounded State Event (next workflow) (fun _ => true) (State.left workflow)
    (fun _ => True) state final trace trivial (fun _ _ _ _ _ => trivial)
    (fun _ _ _ _ moved => next_left moved) ran
  have all : effort (fun _ => true) trace = trace.length := congrFun List.countP_true trace
  have bound := start_left started
  refine ⟨by omega, ?_, ?_⟩
  · cases done : final.isOver with
    | true => exact .inl rfl
    | false => exact .inr (inside.goes_on done)
  · obtain ⟨later, ended, -, short, reached, -, done⟩ := @settles State Event (next workflow)
      (fun _ => true) (State.left workflow) (Inside workflow) (fun state => state.isOver = true)
      final inside (fun _ _ _ inside _ moved => inside.step moved)
      (fun _ _ _ _ moved => next_left moved) (fun _ inside busy => inside.enabled busy)
    refine ⟨later, ended, reached, done, by omega, ?_⟩
    rintro rfl
    have whole : run (next workflow) state (trace ++ later) = some ended := by
      rw [run_append, ran]
      exact reached
    exact never_panics started whole

theorem failed_chain_ends :
    ∃ state final, start leadingBytes chainOfTwo none .new 0 = .ok state ∧
      run (next chainOfTwo) state [.submit 0 (echo 0)] = some final ∧
      ∃ later ended, run (next chainOfTwo) final later = some ended ∧ ended.isOver = true ∧
        1 + later.length ≤ 13 ∧ ended.control ≠ .panicked := by
  obtain ⟨-, -, later, ended, reached, done, short, sound⟩ :=
    run_inner_ends leadingBytes chainOfTwo none .new 0 _ rfl [.submit 0 (echo 0)] _ rfl
  exact ⟨_, _, rfl, rfl, later, ended, reached, done, short, sound rfl⟩

end AetherMesh.Flow
